import Kernelradar.Core.Event
import Kernelradar.Library.Bytes
import Kernelradar.Library.Path

/-!
`fim.bpf.c` and `cred.bpf.c`: the two programs on `sys_enter_openat`.

* `OpenAt`, `Task`: what the programs read of the call and of its task;
* `isSensitivePrefix`, `isCredCandidate`, `containsDotdot`: the tests on the
  32-byte path buffer;
* `Fim.containsDotdot`, `Cred.containsDotdot`: the two copies of the last test, read by
  read; `scanAt_eq`: they stay in the buffer and compute the same;
* `openatProbe`: the body the two programs share;
* `pathBuffer`, `submitted_eq`: what a probe has of a path, and what it submits;
* `data_packData`: the path survives its trip through the event;
* `containsDotdot_iff`: the scan finds a `..` component, outside five exempt
  directories.
-/

namespace Kernelradar

open Library

/-- The slash. -/
def slash : UInt8 := 47

/-- The dot. -/
def dot : UInt8 := 46

/-- The arguments of `openat` the programs read. No path: the pointer faults. -/
structure OpenAt where
  flags : UInt32
  path : Option (List UInt8)

/-- What the helpers say of the calling task. -/
structure Task where
  pidTgid : UInt64
  uidGid : UInt64
  ktimeNs : UInt64
  comm : Vector UInt8 16

namespace Bpf

/-- `WRITE_MASK`: `O_WRONLY | O_RDWR | O_CREAT | O_TRUNC | O_APPEND`. -/
def writeMask : UInt32 := 0x0001 ||| 0x0002 ||| 0x0040 ||| 0x0200 ||| 0x0400

/-- `bpf_probe_read_user_str` into `char path[32] = {}`: the buffer, unless
`len <= 0`. At most 31 bytes are copied; the count includes the final NUL, so
that it is positive when the read succeeds. -/
def readUserStr (path : Option (List UInt8)) : Option (List UInt8) :=
  path.map fun p => padTo 32 (p.take 31)

/-- `p[i] == s[0] && p[i + 1] == s[1] && …`. -/
def spells (p : List UInt8) (i : ℕ) (s : Text) : Bool := (asciiBytes s).isPrefixOf (p.drop i)

/-- `is_sensitive_prefix`. -/
def isSensitivePrefix (p : List UInt8) : Bool :=
  if !spells p 0 "/" then false
  else spells p 1 "etc/" || spells p 1 "root" || spells p 1 "home/"

/-- `is_cred_candidate`. -/
def isCredCandidate (p : List UInt8) : Bool :=
  if !spells p 0 "/" then false
  else (spells p 1 "etc/" && (spells p 5 "s" || spells p 5 "g"))
    || spells p 1 "root" || spells p 1 "home/"

/-- The directories `contains_dotdot` exempts. -/
def exemptDirs : List Text := ["sys/", "proc/", "var/", "tmp/", "run/"]

/-- The first test of `contains_dotdot`. -/
def isExempt (p : List UInt8) : Bool := spells p 0 "/" && exemptDirs.any (spells p 1)

/-- The unrolled loop of `contains_dotdot`, with `left` turns to go. -/
def dotdotFrom (p : List UInt8) (max : ℕ) : (left i : ℕ) → Bool
  | 0, _ => false
  | left + 1, i =>
      if max ≤ i + 3 then false
      else if p[i]? = some 0 then false
      else if spells p i "/.." && (spells p (i + 3) "/" || p[i + 3]? = some 0) then true
      else dotdotFrom p max left (i + 1)

/-- `contains_dotdot`. -/
def containsDotdot (p : List UInt8) (max : ℕ) : Bool :=
  if isExempt p then false else dotdotFrom p max 29 0

/-! ### `contains_dotdot`, read by read

The same function once more, with every access to the buffer in the order of the source;
`none` is an access outside the buffer. -/

/-- `p[i] == s[0] && p[i + 1] == s[1] && …`. -/
def spellsAt (p : List UInt8) (i : ℕ) : List UInt8 → Option Bool
  | [] => some true
  | b :: s => p[i]?.bind fun c => if c = b then spellsAt p (i + 1) s else some false

/-- The tests for the exempt directories, one after the other. -/
def exemptAt (p : List UInt8) : List Text → Option Bool
  | [] => some false
  | dir :: dirs =>
      (spellsAt p 1 (asciiBytes dir)).bind fun hit => if hit then some true else exemptAt p dirs

/-- The loop, with `left` turns to go. -/
def dotdotAt (p : List UInt8) (max : ℕ) : (left i : ℕ) → Option Bool
  | 0, _ => some false
  | left + 1, i =>
      if max ≤ i + 3 then some false
      else
        p[i]?.bind fun c =>
          if c = 0 then some false
          else
            (spellsAt p i (asciiBytes "/..")).bind fun dots =>
              if dots then
                p[i + 3]?.bind fun next =>
                  if next = slash || next = 0 then some true else dotdotAt p max left (i + 1)
              else dotdotAt p max left (i + 1)

/-- The body, with its directories and its number of turns. -/
def scanAt (dirs : List Text) (turns : ℕ) (p : List UInt8) (max : ℕ) : Option Bool :=
  (spellsAt p 0 (asciiBytes "/")).bind fun rooted =>
    if rooted then
      (exemptAt p dirs).bind fun exempt => if exempt then some false else dotdotAt p max turns 0
    else dotdotAt p max turns 0

/-- The `contains_dotdot` of `fim.bpf.c`. -/
def Fim.containsDotdot : List UInt8 → ℕ → Option Bool :=
  scanAt ["sys/", "proc/", "var/", "tmp/", "run/"] 29

/-- The `contains_dotdot` of `cred.bpf.c`. -/
def Cred.containsDotdot : List UInt8 → ℕ → Option Bool :=
  scanAt ["sys/", "proc/", "var/", "tmp/", "run/"] 29

/-- The 8 bytes of the buffer at `8 * k`, as a word. -/
def word (buf : List UInt8) (k : ℕ) : UInt64 := UInt64.ofNat (leNat ((buf.drop (8 * k)).take 8))

/-- `__builtin_memcpy(&e->data[0], path, 32)`. -/
def packData (buf : List UInt8) : Vector UInt64 4 :=
  #v[word buf 0, word buf 1, word buf 2, word buf 3]

/-- `kr_stats`. -/
abbrev Stats := Vector UInt64 18

/-- `kr_stat_inc`. -/
def krStatInc (stats : Stats) (slot : Fin 18) : Stats := stats.set slot (stats[slot] + 1)

/-- `KR_STAT_NETWORK_OBSERVED`. -/
def networkObserved : Fin 18 := 10

/-- `KR_STAT_NETWORK_DROPPED`. -/
def networkDropped : Fin 18 := 11

/-- What sets the two programs apart: the detector's number, the modes it
watches, its prefix test and its counters. -/
structure Program where
  detectorId : UInt8
  watches : UInt32 → Bool
  candidate : List UInt8 → Bool
  observed : Fin 18
  dropped : Fin 18

/-- The event of a path, as the two programs fill it in. -/
def eventOf (prog : Program) (task : Task) (path : List UInt8) : KrEvent where
  timestampNs := task.ktimeNs
  pid := (task.pidTgid >>> 32).toUInt32
  tid := task.pidTgid.toUInt32
  uid := task.uidGid.toUInt32
  gid := (task.uidGid >>> 32).toUInt32
  comm := task.comm
  detectorId := prog.detectorId
  severity := if containsDotdot path 32 then 3 else 1
  eventType := if containsDotdot path 32 then 2 else 1
  data := packData path

/-- The body of `kr_tp_openat` and `kr_tp_openat_read`: the counters afterwards,
and the event submitted. `room` says whether the ring buffer has room. -/
def openatProbe (prog : Program) (call : OpenAt) (task : Task) (room : Bool) (stats : Stats) :
    Stats × Option KrEvent :=
  if !prog.watches call.flags then (stats, none)
  else
    match readUserStr call.path with
    | none => (stats, none)
    | some path =>
        if !prog.candidate path && !containsDotdot path 32 then (stats, none)
        else
          let stats := krStatInc stats prog.observed
          if !room then (krStatInc stats prog.dropped, none)
          else (stats, some (eventOf prog task path))

/-- The program of `fim.bpf.c`: write modes. -/
def fim : Program where
  detectorId := 5
  watches flags := flags &&& writeMask ≠ 0
  candidate := isSensitivePrefix
  observed := 8
  dropped := 9

/-- The program of `cred.bpf.c`: read modes. -/
def cred : Program where
  detectorId := 8
  watches flags := flags &&& writeMask = 0
  candidate := isCredCandidate
  observed := 14
  dropped := 15

/-- `kr_tp_openat`. -/
def krTpOpenat : OpenAt → Task → Bool → Stats → Stats × Option KrEvent := openatProbe fim

/-- `kr_tp_openat_read`. -/
def krTpOpenatRead : OpenAt → Task → Bool → Stats → Stats × Option KrEvent := openatProbe cred

/-! ### What a probe has of a path -/

/-- The buffer of a probe: the first 31 bytes of the path. -/
def pathBuffer (path : List UInt8) : List UInt8 := padTo 32 (path.take 31)

lemma readUserStr_some (path : List UInt8) : readUserStr (some path) = some (pathBuffer path) := rfl

lemma pathBuffer_length (path : List UInt8) : (pathBuffer path).length = 32 :=
  padTo_length ((List.length_take_le _ _).trans (by decide))

lemma pathBuffer_of_short {path : List UInt8} (h : path.length ≤ 31) :
    pathBuffer path = padTo 32 path := by
  rw [pathBuffer, List.take_of_length_le h]

/-- What a probe submits for a path, where the ring buffer has room. -/
lemma submitted_eq {prog : Program} {flags : UInt32} (hwatch : prog.watches flags = true)
    (path : List UInt8) (task : Task) (stats : Stats) :
    (openatProbe prog ⟨flags, some path⟩ task true stats).2 =
      if prog.candidate (pathBuffer path) || containsDotdot (pathBuffer path) 32 then
        some (eventOf prog task (pathBuffer path))
      else none := by
  rw [openatProbe, hwatch, readUserStr_some]
  dsimp only
  cases prog.candidate (pathBuffer path) <;> cases containsDotdot (pathBuffer path) 32 <;> rfl

/-! ### The event carries the path -/

lemma leBytes_word {buf : List UInt8} (hlen : buf.length = 32) {k : ℕ} (hk : k < 4) :
    leBytes 8 (word buf k).toNat = (buf.drop (8 * k)).take 8 := by
  have hchunk : ((buf.drop (8 * k)).take 8).length = 8 := by
    rw [List.length_take, List.length_drop]
    omega
  have hlt := leNat_lt ((buf.drop (8 * k)).take 8)
  rw [hchunk] at hlt
  have hword : (word buf k).toNat = leNat ((buf.drop (8 * k)).take 8) := by
    rw [word, UInt64.toNat_ofNat']
    exact Nat.mod_eq_of_lt hlt
  have hback := leBytes_leNat ((buf.drop (8 * k)).take 8)
  rwa [hchunk, ← hword] at hback

/-- **The path survives**: the bytes of the event's data are the buffer. -/
theorem data_packData {buf : List UInt8} (hlen : buf.length = 32) :
    (packData buf).toList.flatMap (fun w => leBytes 8 w.toNat) = buf := by
  have hwords : (packData buf).toList = [word buf 0, word buf 1, word buf 2, word buf 3] := rfl
  have hnil : buf.drop 32 = [] := List.drop_eq_nil_of_le hlen.le
  have hchunk : ∀ k, (buf.drop k).take 8 ++ buf.drop (k + 8) = buf.drop k := by
    intro k
    rw [← List.drop_drop, List.take_append_drop]
  simp only [hwords, List.flatMap_cons, List.flatMap_nil, leBytes_word hlen (by omega : 0 < 4),
    leBytes_word hlen (by omega : 1 < 4), leBytes_word hlen (by omega : 2 < 4),
    leBytes_word hlen (by omega : 3 < 4)]
  rw [← hnil, hchunk 24, hchunk 16, hchunk 8, hchunk 0, List.drop_zero]

/-! ### The tests on the buffer -/

/-- A test for letters that are all inside the buffer. -/
lemma spellsAt_eq {p : List UInt8} {s : List UInt8} {i : ℕ} (h : i + s.length ≤ p.length) :
    spellsAt p i s = some (s.isPrefixOf (p.drop i)) := by
  induction s generalizing i with
  | nil => rfl
  | cons b s ih =>
      rw [List.length_cons] at h
      have hi : i < p.length := by omega
      have hdrop : p.drop i = p[i] :: p.drop (i + 1) := List.drop_eq_getElem_cons hi
      rw [spellsAt, List.getElem?_eq_getElem hi, Option.bind_some, hdrop, List.isPrefixOf_cons_cons,
        ih (by omega)]
      by_cases hb : p[i] = b
      · rw [if_pos hb, hb, beq_self_eq_true, Bool.true_and]
      · rw [if_neg hb, beq_false_of_ne (Ne.symm hb), Bool.false_and]

/-- The tests for the exempt directories read a buffer that is long enough for each. -/
lemma exemptAt_eq {p : List UInt8} {dirs : List Text}
    (h : ∀ dir ∈ dirs, 1 + dir.length ≤ p.length) :
    exemptAt p dirs = some (dirs.any (spells p 1)) := by
  induction dirs with
  | nil => rfl
  | cons dir dirs ih =>
      have hlen : (asciiBytes dir).length = dir.length := List.length_map _
      have hhead : spellsAt p 1 (asciiBytes dir) = some (spells p 1 dir) :=
        spellsAt_eq (hlen ▸ h dir List.mem_cons_self)
      rw [exemptAt, hhead, Option.bind_some, ih fun d hd => h d (List.mem_cons_of_mem dir hd),
        List.any_cons]
      cases spells p 1 dir <;> rfl

lemma spells_slash {p : List UInt8} {i : ℕ} (h : i < p.length) :
    spells p i "/" = decide (p[i] = slash) := by
  have hsep : asciiBytes "/" = [slash] := by decide
  rw [spells, hsep, List.drop_eq_getElem_cons h, List.isPrefixOf_cons_cons,
    List.isPrefixOf_nil_left, Bool.and_true, Bool.eq_iff_iff, beq_iff_eq, decide_eq_true_eq,
    eq_comm]

/-- The loop looks three bytes ahead, and stays in a buffer of at least `max` bytes. -/
lemma dotdotAt_eq {p : List UInt8} {max : ℕ} (h : max ≤ p.length) :
    ∀ left i, dotdotAt p max left i = some (dotdotFrom p max left i)
  | 0, _ => rfl
  | left + 1, i => by
      rw [dotdotAt, dotdotFrom]
      by_cases hend : max ≤ i + 3
      · rw [if_pos hend, if_pos hend]
      · have hi : i < p.length := by omega
        have hi' : i + 3 < p.length := by omega
        have hletters : (asciiBytes "/..").length = 3 := rfl
        have hdots : spellsAt p i (asciiBytes "/..") = some (spells p i "/..") :=
          spellsAt_eq (by omega)
        rw [if_neg hend, if_neg hend, hdots, spells_slash hi', List.getElem?_eq_getElem hi,
          List.getElem?_eq_getElem hi', Option.bind_some, Option.bind_some, Option.bind_some,
          dotdotAt_eq h left (i + 1)]
        simp only [Option.some.injEq]
        by_cases h0 : p[i] = 0
        · rw [if_pos h0, if_pos h0]
        · rw [if_neg h0, if_neg h0]
          cases spells p i "/.." with
          | false => rfl
          | true => cases decide (p[i + 3] = slash) || decide (p[i + 3] = 0) <;> rfl

/-- **The two copies** never read outside a buffer of 32 bytes, and compute the same. -/
theorem scanAt_eq {p : List UInt8} (h : p.length = 32) :
    Fim.containsDotdot p 32 = some (containsDotdot p 32) ∧
      Cred.containsDotdot p 32 = some (containsDotdot p 32) := by
  have hroot : spellsAt p 0 (asciiBytes "/") = some (spells p 0 "/") :=
    spellsAt_eq (by rw [h]; decide)
  have hexempt : exemptAt p exemptDirs = some (exemptDirs.any (spells p 1)) :=
    exemptAt_eq (by rw [h]; decide)
  have hboth : scanAt exemptDirs 29 p 32 = some (containsDotdot p 32) := by
    rw [scanAt, hroot, hexempt, dotdotAt_eq h.ge, Option.bind_some, Option.bind_some,
      containsDotdot, isExempt]
    cases spells p 0 "/" <;> cases exemptDirs.any (spells p 1) <;> rfl
  exact ⟨hboth, hboth⟩

/-- A test for letters reads the path, not the padding. -/
lemma spells_padTo (n i : ℕ) (p : List UInt8) {s : Text} (hs : (0 : UInt8) ∉ asciiBytes s) :
    spells (padTo n p) i s = spells p i s := by
  obtain ⟨m, hm⟩ := drop_padTo n i p
  rw [Bool.eq_iff_iff, spells, spells, List.isPrefixOf_iff_prefix, List.isPrefixOf_iff_prefix, hm,
    prefix_append_zeros hs]

/-- One turn of the loop tests for a `..` component behind a slash. -/
lemma turn_eq {p : List UInt8} {i : ℕ} (h0 : (0 : UInt8) ∉ p) {b : UInt8} {t : List UInt8}
    (hdrop : p.drop i = b :: t) (hi : i + 3 < 32) :
    (spells p i "/.." && (spells p (i + 3) "/" || (padTo 32 p)[i + 3]? = some 0))
      = (b = slash && Path.begins slash [dot, dot] t) := by
  have hrest : p.drop (i + 3) = t.drop 2 := by
    rw [← List.drop_drop, hdrop, List.drop_succ_cons]
  have hletters : asciiBytes "/.." = [slash, dot, dot] := by decide
  have hsep : asciiBytes "/" = [slash] := by decide
  rw [spells, spells, hdrop, hrest, hletters, hsep, Path.begins, Bool.eq_iff_iff]
  simp only [Bool.and_eq_true, Bool.or_eq_true, decide_eq_true_eq, List.isPrefixOf_iff_prefix,
    List.cons_append, List.nil_append]
  rcases t with _ | ⟨x, _ | ⟨y, rest⟩⟩
  · simp
  · simp
  · replace hrest : p.drop (i + 3) = rest := hrest
    cases rest with
    | nil =>
        have hend : p.length ≤ i + 3 := List.drop_eq_nil_iff.mp hrest
        rw [getElem?_padTo_of_ge hend hi]
        simp only [List.cons_prefix_cons, List.drop_succ_cons, List.drop_nil, List.prefix_nil,
          List.cons.injEq, reduceCtorEq, and_true, and_false, or_true, or_false]
        constructor
        · rintro ⟨rfl, rfl, rfl⟩
          exact ⟨rfl, rfl, rfl⟩
        · rintro ⟨rfl, rfl, rfl⟩
          exact ⟨rfl, rfl, rfl⟩
    | cons z rest =>
        have hz : p[i + 3]? = some z := by rw [← List.head?_drop, hrest, List.head?_cons]
        have hne : z ≠ 0 := fun h => h0 (h ▸ List.mem_of_getElem? hz)
        have hlt : i + 3 < p.length := by
          by_contra hge
          rw [List.drop_eq_nil_of_le (by omega)] at hrest
          cases hrest
        rw [getElem?_padTo_of_lt hlt, hz]
        simp only [List.cons_prefix_cons, List.drop_succ_cons, List.drop_zero, List.nil_prefix,
          and_true, Option.some.injEq, hne, or_false, List.cons.injEq, reduceCtorEq, and_false,
          false_or]
        constructor
        · rintro ⟨⟨rfl, hdots⟩, hslash⟩
          exact ⟨rfl, hdots.1, hdots.2, hslash⟩
        · rintro ⟨rfl, hx, hy, hslash⟩
          exact ⟨⟨rfl, hx, hy⟩, hslash⟩

/-- The loop scans the path for a `..` component. -/
lemma dotdotFrom_eq {p : List UInt8} (hlen : p.length ≤ 31) (h0 : (0 : UInt8) ∉ p) :
    ∀ left i, left + i = 29 →
      dotdotFrom (padTo 32 p) 32 left i = Path.occurs slash [dot, dot] (p.drop i)
  | 0, i, hi => by
      have hshort : Path.occurs slash [dot, dot] (p.drop i) = false := by
        rw [Bool.eq_false_iff]
        intro h
        have hlt := Path.length_lt_of_occurs h
        rw [List.length_drop, List.length_cons, List.length_singleton] at hlt
        omega
      rw [dotdotFrom, hshort]
  | left + 1, i, hi => by
      have hroom : ¬ 32 ≤ i + 3 := by omega
      rw [dotdotFrom, if_neg hroom]
      cases hdrop : p.drop i with
      | nil =>
          have hend : p.length ≤ i := List.drop_eq_nil_iff.mp hdrop
          rw [if_pos (getElem?_padTo_of_ge hend (by omega))]
          rfl
      | cons b t =>
          have hlt : i < p.length := by
            by_contra hge
            rw [List.drop_eq_nil_of_le (by omega)] at hdrop
            cases hdrop
          have hb : p[i]? = some b := by
            rw [← List.head?_drop, hdrop, List.head?_cons]
          have hne : (padTo 32 p)[i]? ≠ some 0 := by
            rw [getElem?_padTo_of_lt hlt, hb]
            intro h
            exact h0 (Option.some.inj h ▸ List.mem_of_getElem? hb)
          have hnext : p.drop (i + 1) = t := by
            rw [← List.drop_drop, hdrop, List.drop_one, List.tail_cons]
          rw [if_neg hne, spells_padTo 32 i p (by decide), spells_padTo 32 (i + 3) p (by decide),
            turn_eq h0 hdrop (by omega), dotdotFrom_eq hlen h0 left (i + 1) (by omega), hnext,
            Path.occurs]
          cases (b = slash && Path.begins slash [dot, dot] t : Bool) <;> rfl

/-- What `contains_dotdot` finds in a string that fits the buffer. -/
lemma containsDotdot_padTo {p : List UInt8} (hlen : p.length ≤ 31) (h0 : (0 : UInt8) ∉ p) :
    containsDotdot (padTo 32 p) 32 = true ↔
      isExempt p = false ∧ Path.occurs slash [dot, dot] p = true := by
  have hexempt : isExempt (padTo 32 p) = isExempt p := by
    simp (disch := decide) only [isExempt, exemptDirs, List.any_cons, List.any_nil, spells_padTo]
  rw [containsDotdot, hexempt, dotdotFrom_eq hlen h0 29 0 rfl, List.drop_zero]
  cases isExempt p <;> simp

/-- **The scan**: outside the exempt directories, `contains_dotdot` finds a `..`
component wherever there is one. -/
theorem containsDotdot_iff {p : List UInt8} (habs : p.head? = some slash) (hlen : p.length ≤ 31)
    (h0 : (0 : UInt8) ∉ p) :
    containsDotdot (padTo 32 p) 32 = true ↔
      isExempt p = false ∧ [dot, dot] ∈ Path.components slash p := by
  rw [containsDotdot_padTo hlen h0, Path.occurs_iff_mem (by decide) habs]

end Bpf

end Kernelradar
