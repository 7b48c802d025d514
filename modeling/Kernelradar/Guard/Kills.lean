import Kernelradar.Cli.Startup
import Kernelradar.Detectors.Selfprotect
import Kernelradar.Webhook.Addresses

/-!
Signals for the daemon while `load_selfprotect` runs and afterwards.

* `State`, `step`: the hook and what is still to be done to it, signals in between;
* `answer_iff`: who is denied at any moment of any run;
* `statusText`, `hostTgid_statusText`: `/proc/self/status` as the kernel writes it, and what
  `host_tgid` reads there;
* `selfprotect_iff`: when the daemon is protected.
-/

namespace Kernelradar

open Library Bpf

namespace Guard

/-- The element of the map while the hook is attached, and what `load_selfprotect` has still to
do. -/
structure State where
  hook : Option UInt32
  todo : List (Option UInt32)

/-- A signal `sig` from a task to the process `target`; `room` says whether the event would
fit. -/
structure Kill where
  task : Task
  target : UInt32
  sig : Int32
  stale : KrEvent
  room : Bool
  stats : Stats

/-- The loader goes on, or somebody sends a signal. -/
inductive Act where
  | load
  | kill (call : Kill)

/-- The process that sends a signal. -/
def Kill.sender (call : Kill) : UInt32 := (call.task.pidTgid >>> 32).toUInt32

/-- What the security hooks answer a signal. -/
def State.answer (s : State) (call : Kill) : ℤ :=
  match s.hook with
  | none => 0
  | some tgid => (krTaskKill tgid call.target call.sig call.task call.stale call.room call.stats).1

/-- One step; a signal is answered. -/
def step (s : State) : Act → State × Option ℤ
  | .load =>
      match s.todo with
      | [] => (s, none)
      | w :: ws => (⟨w, ws⟩, none)
  | .kill call => (s, some (s.answer call))

/-- The hook as a machine. -/
def machine : Machine State Act (Option ℤ) := ⟨step, fun _ _ => True⟩

/-- Nothing is attached, and `load_selfprotect` begins. -/
def start (l : Loader) (k : Kernel) (comm : List UInt8) (path : Text) (tgid : UInt32) : State :=
  ⟨none, Lsm.selfprotectWrites l k comm path tgid⟩

lemma killDenied_iff {tgid target : UInt32} {task : Task} :
    killDenied tgid target task = true ↔ tgid ≠ 0 ∧ target = tgid ∧
      (task.pidTgid >>> 32).toUInt32 ≠ 1 ∧ (task.pidTgid >>> 32).toUInt32 ≠ tgid := by
  rw [killDenied]
  split_ifs with h0 htarget h1 hself
  · exact iff_of_false id fun h => h.1 h0
  · exact iff_of_false id fun h => htarget h.2.1
  · exact iff_of_false id fun h => h.2.2.1 h1
  · exact iff_of_false id fun h => h.2.2.2 hself
  · exact iff_of_true rfl ⟨h0, not_not.mp htarget, h1, hself⟩

/-- The object has what `load_selfprotect` asks for, and the kernel takes it. -/
def Loads (l : Loader) (k : Kernel) (comm : List UInt8) (path : Text) : Prop :=
  ∃ bytes, (Lsm.loadLsm l k comm path "selfprotect" "kr_task_kill").2 = some bytes ∧
    l.hasMap bytes "kr_protected_tgid" = true ∧ l.hasMap bytes "kr_selfprotect_events" = true

section Runs

variable (l : Loader) (k : Kernel) (comm : List UInt8) (path : Text) (tgid : UInt32)

/-- The hook once nothing is left to do. -/
def State.final (s : State) : Option UInt32 := s.todo.getLast?.getD s.hook

/-- What the hook is and will be: never another process's, and the daemon's in the end exactly if
everything is there. -/
structure OnTheWay (s : State) : Prop where
  seen : ∀ w ∈ s.hook :: s.todo, w = none ∨ w = some 0 ∨ w = some tgid
  loaded : Loads l k comm path → s.final = some tgid
  failed : ¬Loads l k comm path → s.final = none

lemma onTheWay_start : OnTheWay l k comm path tgid (start l k comm path tgid) := by
  rw [start, Lsm.selfprotectWrites]
  cases hload : (Lsm.loadLsm l k comm path "selfprotect" "kr_task_kill").2 with
  | none =>
      refine ⟨by simp, fun ⟨bytes, hbytes, _⟩ => ?_, fun _ => rfl⟩
      rw [hload] at hbytes
      cases hbytes
  | some bytes =>
      have hloads : Loads l k comm path ↔ l.hasMap bytes "kr_protected_tgid" = true ∧
          l.hasMap bytes "kr_selfprotect_events" = true := by
        constructor
        · rintro ⟨bytes', hbytes', hmaps⟩
          obtain rfl := Option.some.inj (hload.symm.trans hbytes')
          exact hmaps
        · exact fun hmaps => ⟨bytes, hload, hmaps⟩
      dsimp only
      cases htgid : l.hasMap bytes "kr_protected_tgid" with
      | false =>
          refine ⟨by simp, fun h => ?_, fun _ => rfl⟩
          exact absurd (htgid.symm.trans (hloads.mp h).1) Bool.false_ne_true
      | true =>
          cases hevents : l.hasMap bytes "kr_selfprotect_events" with
          | false =>
              refine ⟨by simp, fun h => ?_, fun _ => rfl⟩
              exact absurd (hevents.symm.trans (hloads.mp h).2) Bool.false_ne_true
          | true => exact ⟨by simp, fun _ => rfl, fun h => absurd (hloads.mpr ⟨htgid, hevents⟩) h⟩

/-- One step keeps it so. -/
lemma onTheWay_step {s : State} (h : OnTheWay l k comm path tgid s) (a : Act) :
    OnTheWay l k comm path tgid (step s a).1 := by
  cases a with
  | kill call => exact h
  | load =>
      obtain ⟨hook, todo⟩ := s
      cases todo with
      | nil => exact h
      | cons w ws =>
          have hfinal : (⟨w, ws⟩ : State).final = (⟨hook, w :: ws⟩ : State).final := by
            rw [State.final, State.final, List.getLast?_cons]
            rfl
          refine ⟨fun v hv => h.seen v (List.mem_cons_of_mem hook hv), fun hl => ?_, fun hl => ?_⟩
          · exact hfinal.trans (h.loaded hl)
          · exact hfinal.trans (h.failed hl)

variable (acts : List Act)

lemma onTheWay_after :
    OnTheWay l k comm path tgid (machine.after (start l k comm path tgid) acts) :=
  machine.invariant (I := OnTheWay l k comm path tgid)
    (fun _ a h _ => onTheWay_step l k comm path tgid h a) (onTheWay_start l k comm path tgid)
    (machine.valid_of_ok (fun _ _ => trivial) acts _)

/-- **Who is denied**: at any moment, nobody but those who are neither `init` nor the daemon, and
send a signal to the daemon after its process id has been written. -/
lemma answer_iff (call : Kill) :
    let s := machine.after (start l k comm path tgid) acts
    s.answer call = -1 ↔ s.hook = some tgid ∧ tgid ≠ 0 ∧ call.target = tgid ∧ call.sender ≠ 1 ∧
      call.sender ≠ tgid := by
  intro s
  have hdenied (t : UInt32) (h : s.hook = some t) :
      s.answer call = -1 ↔ killDenied t call.target call.task = true := by
    rw [State.answer, h]
    dsimp only [krTaskKill]
    cases killDenied t call.target call.task <;> decide
  rcases (onTheWay_after l k comm path tgid acts).seen s.hook List.mem_cons_self with
    hnone | hzero | hsome
  · have hzero : s.answer call = 0 := by rw [State.answer, hnone]
    rw [hzero, hnone]
    exact iff_of_false (by decide) fun h => nomatch h.1
  · rw [hdenied 0 hzero, killDenied_iff]
    refine iff_of_false (fun h => h.1 rfl) fun h => h.2.1 ?_
    exact Option.some.inj (h.1.symm.trans hzero)
  · rw [hdenied tgid hsome, killDenied_iff, hsome]
    exact (and_iff_right rfl).symm

end Runs

/-! ### The process id -/

/-- The line with the process ids of the daemon, in the namespace of the mounted `/proc` first and
in its own last. -/
def nspidLine (pids : List UInt32) : Text :=
  "NSpid:" ++ pids.flatMap fun p => '\t' :: decimal p.toNat

/-- `/proc/self/status` with a line of process ids. -/
def statusText (before : List Text) (pids : List UInt32) (rest : Text) : Text :=
  before.flatMap (fun line => line ++ ['\n']) ++ (nspidLine pids ++ '\n' :: rest)

/-- Lines that come before: none of them is another such line. -/
def Other (line : Text) : Prop :=
  '\n' ∉ line ∧ line.getLast? ≠ some '\r' ∧ Text.stripPrefix line "NSpid:" = none

lemma digit_of_mem {n : ℕ} {c : Char} (hc : c ∈ Nat.toDigits 10 n) :
    48 ≤ c.toNat ∧ c.toNat ≤ 57 := by
  obtain ⟨ds, hmap, -, -, -⟩ := Net.toDigits_spec n
  obtain ⟨hds, hlt⟩ := Net.digitChars_of_map hmap
  rw [hds] at hc
  obtain ⟨d, hd, rfl⟩ := List.mem_map.mp hc
  have hd' := hlt d hd
  rw [Nat.toNat_digitChar_of_lt_ten hd']
  omega

lemma isWhite_of_digit {c : Char} (h : 48 ≤ c.toNat ∧ c.toNat ≤ 57) : Text.isWhite c = false := by
  rw [Text.isWhite]
  simp only [Bool.or_eq_false_iff, Bool.and_eq_false_iff, decide_eq_false_iff_not]
  omega

/-- The first process id of the line. -/
lemma nspidOf_nspidLine (p : UInt32) (pids : List UInt32) :
    nspidOf (nspidLine (p :: pids)) = some p := by
  have hwhite : ∀ c ∈ decimal p.toNat, Text.isWhite c = false := fun c hc =>
    isWhite_of_digit (digit_of_mem (decimal_eq _ ▸ hc))
  have htail : ∀ c ∈ (pids.flatMap fun p => '\t' :: decimal p.toNat).head?,
      Text.isWhite c = true := by
    cases pids with
    | nil => exact fun c hc => nomatch hc
    | cons q pids => exact fun c hc => Option.some.inj hc ▸ (by decide)
  have hne : decimal p.toNat ≠ [] := decimal_eq _ ▸ Nat.toDigits_ne_nil
  have hword : (Text.splitWhitespace ((p :: pids).flatMap fun p => '\t' :: decimal p.toNat)).head?
      = some (decimal p.toNat) := by
    rw [List.flatMap_cons, List.cons_append, Text.splitWhitespace_cons (by decide),
      Text.splitWhitespace_append hne hwhite htail]
    rfl
  have hstrip : Text.stripPrefix (nspidLine (p :: pids)) "NSpid:"
      = some ((p :: pids).flatMap fun p => '\t' :: decimal p.toNat) :=
    Text.stripPrefix_eq_some.mpr rfl
  rw [nspidOf, hstrip, Option.bind_some, hword, Option.bind_some, decimal_eq,
    Net.parseU32_toDigits p.toNat_lt, Option.map_some, UInt32.ofNat_toNat]

/-- A line of process ids is one line. -/
lemma free_nspidLine (pids : List UInt32) :
    '\n' ∉ nspidLine pids ∧ (nspidLine pids).getLast? ≠ some '\r' := by
  have hchar : ∀ c ∈ nspidLine pids, c ≠ '\n' ∧ c ≠ '\r' := by
    intro c hc
    rcases List.mem_append.mp hc with hlabel | hpids
    · exact (by decide : ∀ c ∈ "NSpid:".toList, c ≠ '\n' ∧ c ≠ '\r') c hlabel
    · obtain ⟨p, -, hp⟩ := List.mem_flatMap.mp hpids
      rcases List.mem_cons.mp hp with rfl | hdigit
      · decide
      · have hrange := digit_of_mem (decimal_eq _ ▸ hdigit)
        constructor
        · rintro rfl
          exact absurd hrange (by decide)
        · rintro rfl
          exact absurd hrange (by decide)
  exact ⟨fun h => (hchar _ h).1 rfl, fun h => (hchar _ (List.mem_of_getLast? h)).2 rfl⟩

lemma lines_statusText {before : List Text} (hother : ∀ line ∈ before, Other line)
    (pids : List UInt32) (rest : Text) : Text.lines (statusText before pids rest)
      = before ++ nspidLine pids :: Text.lines rest := by
  induction before with
  | nil =>
      obtain ⟨hfree, hlast⟩ := free_nspidLine pids
      exact Text.lines_append_cons hfree hlast rest
  | cons line before ih =>
      obtain ⟨hfree, hlast, -⟩ := hother line List.mem_cons_self
      have hrest := ih fun line' h => hother line' (List.mem_cons_of_mem line h)
      rw [statusText, List.flatMap_cons, List.append_assoc, List.append_assoc,
        List.singleton_append, Text.lines_append_cons hfree hlast, ← statusText, hrest,
        List.cons_append]

/-- **The process id** that is read is the first one of the line. -/
theorem hostTgid_statusText {before : List Text} (hother : ∀ line ∈ before, Other line)
    (p : UInt32) (pids : List UInt32) (rest : Text) (processId : UInt32) :
    hostTgid (some (statusText before (p :: pids) rest)) processId = p := by
  have hbefore : before.findSome? nspidOf = none := by
    rw [List.findSome?_eq_none_iff]
    intro line hline
    rw [nspidOf, (hother line hline).2.2, Option.bind_none]
  rw [hostTgid, lines_statusText hother, List.findSome?_append, hbefore, Option.none_or,
    List.findSome?_cons, nspidOf_nspidLine]
  rfl

/-- **When the daemon is protected.** At any moment of any run a signal for the daemon, which the
kernel knows as `g`, is denied exactly if `g` is the first of the process ids in `/proc`, the
process id has been written, and the sender is neither `init` nor the daemon; and it stays written
exactly if the object and the kernel have everything that is asked for. -/
theorem selfprotect_iff (l : Loader) (k : Kernel) (comm : List UInt8) (path : Text)
    {before : List Text} (hother : ∀ line ∈ before, Other line) (p : UInt32) (pids : List UInt32)
    (rest : Text) (processId : UInt32) {g : UInt32} (hg : g ≠ 0) (acts : List Act) (call : Kill)
    (hcall : call.target = g) :
    let tgid := hostTgid (some (statusText before (p :: pids) rest)) processId
    let s := machine.after (start l k comm path tgid) acts
    (s.answer call = -1 ↔
      p = g ∧ s.hook = some g ∧ call.sender ≠ 1 ∧ call.sender ≠ g) ∧
      (s.todo = [] → (s.hook = some p ↔ Loads l k comm path)) := by
  intro tgid s
  have htgid : tgid = p := hostTgid_statusText hother p pids rest processId
  have hway : OnTheWay l k comm path tgid s := onTheWay_after l k comm path tgid acts
  constructor
  · have hanswer : s.answer call = -1 ↔ s.hook = some tgid ∧ tgid ≠ 0 ∧ call.target = tgid ∧
        call.sender ≠ 1 ∧ call.sender ≠ tgid := answer_iff l k comm path tgid acts call
    rw [hanswer, htgid, hcall]
    constructor
    · rintro ⟨hhook, -, rfl, hinit, hself⟩
      exact ⟨rfl, hhook, hinit, hself⟩
    · rintro ⟨rfl, hhook, hinit, hself⟩
      exact ⟨hhook, hg, rfl, hinit, hself⟩
  · intro hdone
    have hfinal : s.final = s.hook := by rw [State.final, hdone]; rfl
    rw [← htgid, ← hfinal]
    refine ⟨fun h => ?_, hway.loaded⟩
    by_contra hfail
    rw [hway.failed hfail] at h
    cases h

/-- Two steps of a load that succeeds. -/
lemma after_loads {l : Loader} {k : Kernel} {comm : List UInt8} {path : Text}
    (h : Loads l k comm path) (tgid : UInt32) :
    machine.after (start l k comm path tgid) [.load, .load] = ⟨some tgid, []⟩ := by
  obtain ⟨bytes, hbytes, htgid, hevents⟩ := h
  have hwrites : Lsm.selfprotectWrites l k comm path tgid = [some 0, some tgid] := by
    rw [Lsm.selfprotectWrites, hbytes]
    dsimp only
    rw [htgid, hevents]
    rfl
  rw [start, hwrites]
  rfl

/-- `kill -9 4242` from process 99. -/
def kill9 : Kill where
  task := ⟨0x6300000063, 0, 0, Vector.replicate 16 0⟩
  target := 4242
  sig := 9
  stale := KrEvent.readUnaligned []
  room := false
  stats := Vector.replicate 18 0

/-- With the host's `/proc` the daemon is protected; with one of its container, where it is
process 7, it is not. -/
theorem selfprotect_iff_host :
    let run pids := machine.after (start Startup.intact ⟨none, []⟩ (Text.utf8 Startup.mainName)
      "/bpf/selfprotect.bpf.o" (hostTgid (some (statusText ["Name:\tkernelradar"] pids [])) 7))
      [.load, .load]
    (run [4242, 7]).answer kill9 = -1 ∧ (run [7]).answer kill9 ≠ -1 := by
  intro run
  have hother : ∀ line ∈ [("Name:\tkernelradar" : Text)], Other line := by
    intro line hline
    rw [List.mem_singleton.mp hline]
    exact ⟨by decide, by decide, by decide⟩
  have hloads : Loads Startup.intact ⟨none, []⟩ (Text.utf8 Startup.mainName)
      "/bpf/selfprotect.bpf.o" := by
    refine ⟨_, (Lsm.loadLsm_bytes rfl).mpr ⟨Startup.openObject_intact (by decide) _, rfl⟩, rfl, rfl⟩
  constructor
  · refine (selfprotect_iff Startup.intact ⟨none, []⟩ (Text.utf8 Startup.mainName)
      "/bpf/selfprotect.bpf.o" hother 4242 [7] [] 7 (g := 4242) (by decide) [.load, .load] kill9
      rfl).1.mpr ⟨rfl, ?_, by decide, by decide⟩
    rw [after_loads hloads, hostTgid_statusText hother]
  · refine fun h => absurd ((selfprotect_iff Startup.intact ⟨none, []⟩
      (Text.utf8 Startup.mainName) "/bpf/selfprotect.bpf.o" hother 7 [] [] 7 (g := 4242) (by decide)
      [.load, .load] kill9 rfl).1.mp h).1 (by decide)

end Guard

end Kernelradar
