import Kernelradar.Bpf.OpenAt
import Kernelradar.Detectors.OpenPath

/-!
From the spelling of a path to an alert.

* `ShortPath`: an absolute path that fits the probe's buffer;
* `Raises`: the probe submits an event and the detector raises an alert for it;
* `raises_iff`: which paths raise an alert, for both pairs of probe and detector;
* `openat_raises_iff`: the two pairs, and the spellings without empty and `.`
  components;
* `double_slash_missed`: a spelling that goes unseen.
-/

namespace Kernelradar

open Library

/-- An absolute path of at most 31 bytes, as a C string. -/
structure ShortPath where
  bytes : List UInt8
  absolute : bytes.head? = some slash
  short : bytes.length ≤ 31
  noNul : (0 : UInt8) ∉ bytes

namespace ShortPath

variable (p : ShortPath)

/-- The path as userspace reads it. -/
def text : Text := fromUtf8Lossy p.bytes

/-- Its lexical normal form. -/
def norm : Text := fromUtf8Lossy (Path.normal slash dot p.bytes)

/-- One of the components is `..`. -/
def HasDotdot : Prop := [dot, dot] ∈ Path.components slash p.bytes

/-- No component is empty or `.`. -/
def Plain : Prop := ∀ c ∈ Path.components slash p.bytes, c ≠ [] ∧ c ≠ [dot]

instance : Decidable p.HasDotdot := inferInstanceAs (Decidable (_ ∈ _))

instance : Decidable p.Plain := inferInstanceAs (Decidable (∀ c ∈ _, _))

/-- A plain path that does not climb is in normal form. -/
lemma norm_eq_text (hplain : p.Plain) (hdotdot : ¬ p.HasDotdot) : p.norm = p.text := by
  have hnames : ∀ c ∈ Path.components slash p.bytes, Path.IsName dot c := by
    intro c hc
    refine ⟨(hplain c hc).1, (hplain c hc).2, ?_⟩
    rintro rfl
    exact hdotdot hc
  rw [norm, Path.normal_eq_self slash dot p.absolute hnames, text]

end ShortPath

/-- The allowlist does not let the task pass. -/
def Unlisted (re : RegexCrate) (sc : Scene) (held : Held) (task : Task) : Prop :=
  let comm := fromUtf8Lossy (task.comm.toList.takeWhile (· ≠ 0))
  (held.allowlist.snapshot re).isAllowed re comm (readExePathVerified sc.proc comm) = false

instance (re : RegexCrate) (sc : Scene) (held : Held) (task : Task) :
    Decidable (Unlisted re sc held task) := inferInstanceAs (Decidable (_ = _))

/-- The probe submits an event, and the detector raises an alert for it. -/
def Raises (submitted : Option KrEvent) (handle : KrEvent → Reads Held (Option Alert))
    (held : Held) : Prop :=
  ∃ ev, submitted = some ev ∧ ((handle ev).run held).isSome = true

section

variable {re : RegexCrate} {sc : Scene} {held : Held} {task : Task} {stats : Bpf.Stats}
  {flags : UInt32} {p : ShortPath} {prog : Bpf.Program}
  {detector traversalTitle openTitle : Text} {table : Text → Option Rule}

/-- The path an event carries is the text before the first zero of the buffer. -/
lemma pathOf_eventOf {buf : List UInt8} (hlen : buf.length = 32) :
    pathOf (Bpf.eventOf prog task buf) = fromUtf8Lossy (buf.takeWhile (· ≠ 0)) := by
  rw [pathOf, Bpf.eventOf, Bpf.data_packData hlen]

/-- For a path that fits the buffer it is the path of the call. -/
lemma pathOf_eventOf_short : pathOf (Bpf.eventOf prog task (padTo 32 p.bytes)) = p.text := by
  have hlen : (padTo 32 p.bytes).length = 32 := padTo_length (p.short.trans (by decide))
  rw [pathOf_eventOf hlen, takeWhile_ne_padTo p.noNul, ShortPath.text]

/-- When the detector raises an alert for the event of a path. -/
lemma isSome_handle_eventOf (hunlisted : Unlisted re sc held task) :
    ((openPathHandle detector traversalTitle openTitle table re sc
        (Bpf.eventOf prog task (padTo 32 p.bytes))).run held).isSome
      = (Bpf.containsDotdot (padTo 32 p.bytes) 32 || (table p.text).isSome) := by
  let ev := Bpf.eventOf prog task (padTo 32 p.bytes)
  have hdenied : (held.allowlist.snapshot re).isAllowed re (commStr ev)
      (readExePathVerified sc.proc (commStr ev)) = false := hunlisted
  rw [isSome_openPathHandle hdenied, pathOf_eventOf_short]
  show (decide ((if Bpf.containsDotdot (padTo 32 p.bytes) 32 then 2 else 1 : UInt16) = 2) || _) = _
  cases Bpf.containsDotdot (padTo 32 p.bytes) 32 <;> rfl

/-- **Which paths raise an alert**: those with a `..` component outside the exempt
directories, and those that are spelled the way the table spells them. -/
theorem raises_iff (hwatch : prog.watches flags = true)
    (hcandidate : (table p.text).isSome → prog.candidate (padTo 32 p.bytes) = true)
    (hunlisted : Unlisted re sc held task) :
    Raises (Bpf.openatProbe prog ⟨flags, some p.bytes⟩ task true stats).2
        (openPathHandle detector traversalTitle openTitle table re sc) held ↔
      (Bpf.isExempt p.bytes = false ∧ p.HasDotdot) ∨ (table p.text).isSome := by
  rw [ShortPath.HasDotdot, ← Bpf.containsDotdot_iff p.absolute p.short p.noNul, Raises,
    Bpf.submitted_eq hwatch, Bpf.pathBuffer_of_short p.short, ← Bool.or_eq_true,
    ← isSome_handle_eventOf hunlisted]
  constructor
  · rintro ⟨ev, hev, hraised⟩
    split_ifs at hev
    obtain rfl := Option.some.inj hev
    exact hraised
  · intro hraised
    have hsubmitted : (prog.candidate (padTo 32 p.bytes)
        || Bpf.containsDotdot (padTo 32 p.bytes) 32) = true := by
      rw [isSome_handle_eventOf hunlisted, Bool.or_eq_true] at hraised
      rw [Bool.or_eq_true]
      exact hraised.symm.imp_left hcandidate
    exact ⟨_, if_pos hsubmitted, hraised⟩

/-- A buffer that begins with one of the directories passes the prefix test of `fim.bpf.c`. -/
lemma isSensitivePrefix_of_dir {buf : List UInt8} {dir : Text}
    (hdir : dir ∈ (["/etc/", "/root", "/home/"] : List Text)) (h : asciiBytes dir <+: buf) :
    Bpf.isSensitivePrefix buf = true := by
  obtain ⟨rest, rfl⟩ := h
  simp only [List.mem_cons, List.not_mem_nil, or_false] at hdir
  rcases hdir with rfl | rfl | rfl <;> rfl

/-- The same for the prefix test of `cred.bpf.c`. -/
lemma isCredCandidate_of_dir {buf : List UInt8} {dir : Text}
    (hdir : dir ∈ (["/etc/s", "/etc/g", "/root", "/home/"] : List Text))
    (h : asciiBytes dir <+: buf) : Bpf.isCredCandidate buf = true := by
  obtain ⟨rest, rfl⟩ := h
  simp only [List.mem_cons, List.not_mem_nil, or_false] at hdir
  rcases hdir with rfl | rfl | rfl | rfl <;> rfl

/-- A beginning of the decoded bytes is a beginning of the bytes. -/
lemma asciiBytes_prefix_of_text {bs : List UInt8} {dir : Text} (hdir : IsAscii dir)
    (h : dir <+: fromUtf8Lossy bs) : asciiBytes dir <+: bs := by
  obtain ⟨rest, hrest⟩ := h
  obtain ⟨t, ht, -⟩ := ascii_append_of_lossy hdir hrest.symm
  exact ⟨t, ht.symm⟩

/-- **No rule of `fim.rs` is filtered away**: where a beginning of the buffer has one, the
buffer passes the prefix test. -/
lemma isSensitivePrefix_of_matchPath {bs buf : List UInt8} (hbs : bs <+: buf)
    (h : (FimDetector.matchPath (fromUtf8Lossy bs)).isSome) :
    Bpf.isSensitivePrefix buf = true := by
  obtain ⟨dir, hdir, hprefix⟩ := FimDetector.dir_prefix_of_matchPath h
  have hascii : ∀ d ∈ (["/etc/", "/root", "/home/"] : List Text), IsAscii d := by decide
  exact isSensitivePrefix_of_dir hdir
    ((asciiBytes_prefix_of_text (hascii dir hdir) hprefix).trans hbs)

/-- The same for `cred.rs`. -/
lemma isCredCandidate_of_matchCred {bs buf : List UInt8} (hbs : bs <+: buf)
    (h : (CredDetector.matchCred (fromUtf8Lossy bs)).isSome) :
    Bpf.isCredCandidate buf = true := by
  obtain ⟨dir, hdir, hprefix⟩ := CredDetector.dir_prefix_of_matchCred h
  have hascii : ∀ d ∈ (["/etc/s", "/etc/g", "/root", "/home/"] : List Text), IsAscii d := by decide
  exact isCredCandidate_of_dir hdir
    ((asciiBytes_prefix_of_text (hascii dir hdir) hprefix).trans hbs)

/-- A plain path to a file with a rule either climbs or is spelled as in the table. -/
lemma spelled_of_plain (hnorm : (table p.norm).isSome) (hplain : p.Plain) :
    p.HasDotdot ∨ (table p.text).isSome := by
  by_cases hdotdot : p.HasDotdot
  · exact Or.inl hdotdot
  · exact Or.inr (p.norm_eq_text hplain hdotdot ▸ hnorm)

end

/-- **Opens that raise an alert.** For an absolute path of at most 31 bytes that is
not in an exempt directory, and a process that is not allowlisted, an open in the
watched mode raises an alert exactly if the path has a `..` component or is
spelled as the table spells it; so it does for every file with a rule whose path
has no empty and no `.` component. -/
theorem openat_raises_iff (re : RegexCrate) (sc : Scene) (held : Held) (task : Task)
    (stats : Bpf.Stats) (flags : UInt32) (p : ShortPath)
    (hunlisted : Unlisted re sc held task) (hexempt : Bpf.isExempt p.bytes = false) :
    (flags &&& Bpf.writeMask ≠ 0 →
      let raised := Raises (Bpf.krTpOpenat ⟨flags, some p.bytes⟩ task true stats).2
        (FimDetector.handle re sc) held
      (raised ↔ p.HasDotdot ∨ (FimDetector.matchPath p.text).isSome) ∧
        ((FimDetector.matchPath p.norm).isSome → p.Plain → raised)) ∧
    (flags &&& Bpf.writeMask = 0 →
      let raised := Raises (Bpf.krTpOpenatRead ⟨flags, some p.bytes⟩ task true stats).2
        (CredDetector.handle re sc) held
      (raised ↔ p.HasDotdot ∨ (CredDetector.matchCred p.text).isSome) ∧
        ((CredDetector.matchCred p.norm).isSome → p.Plain → raised)) := by
  constructor
  · intro hwrite raised
    have hraised : raised ↔ p.HasDotdot ∨ (FimDetector.matchPath p.text).isSome := by
      refine (raises_iff (decide_eq_true hwrite)
        (isSensitivePrefix_of_matchPath (prefix_padTo 32 p.bytes)) hunlisted).trans ?_
      rw [hexempt, eq_self, true_and]
    exact ⟨hraised, fun hnorm hplain => hraised.mpr (spelled_of_plain hnorm hplain)⟩
  · intro hread raised
    have hraised : raised ↔ p.HasDotdot ∨ (CredDetector.matchCred p.text).isSome := by
      refine (raises_iff (decide_eq_true hread)
        (isCredCandidate_of_matchCred (prefix_padTo 32 p.bytes)) hunlisted).trans ?_
      rw [hexempt, eq_self, true_and]
    exact ⟨hraised, fun hnorm hplain => hraised.mpr (spelled_of_plain hnorm hplain)⟩

/-- `cat`, with nothing known of its executable. -/
def catTask : Task where
  pidTgid := 0x6400000064
  uidGid := 0
  ktimeNs := 1
  comm := #v[99, 97, 116, 0, 0, 0, 0, 0, 0, 0, 0, 0, 0, 0, 0, 0]

def catScene : Scene where
  proc := ⟨none, none⟩
  stamp := ⟨1, "c", 0⟩

/-- No pattern is ever asked for. -/
def noRegex : RegexCrate := ⟨fun _ => true, fun _ => true, fun _ _ => false⟩

/-- Empty lists. -/
def emptyHeld : Held := ⟨SharedAllowlist.new noRegex [], SharedCidrList.new []⟩

/-- A path out of letters. -/
def spelled (s : Text) (h : (asciiBytes s).head? = some slash ∧ (asciiBytes s).length ≤ 31 ∧
    (0 : UInt8) ∉ asciiBytes s) : ShortPath := ⟨asciiBytes s, h.1, h.2.1, h.2.2⟩

theorem openat_raises_cron :
    let p := spelled "/etc/cron.d/../shadow" (by decide)
    Raises (Bpf.krTpOpenat ⟨1, some p.bytes⟩ catTask true (Vector.replicate 18 0)).2
        (FimDetector.handle noRegex catScene) emptyHeld ∧
      Raises (Bpf.krTpOpenatRead ⟨0, some p.bytes⟩ catTask true (Vector.replicate 18 0)).2
        (CredDetector.handle noRegex catScene) emptyHeld := by
  intro p
  have hunlisted : Unlisted noRegex catScene emptyHeld catTask := by decide
  have hplain : p.Plain := by decide
  have hexempt : Bpf.isExempt p.bytes = false := by decide
  have h := fun flags => openat_raises_iff noRegex catScene emptyHeld catTask
    (Vector.replicate 18 0) flags p hunlisted hexempt
  exact ⟨((h 1).1 (by decide)).2 (by decide) hplain, ((h 0).2 (by decide)).2 (by decide) hplain⟩

/-- A second slash hides a file: `//etc/shadow` names `/etc/shadow`, and neither
probe submits an event. -/
theorem double_slash_missed :
    let p := spelled "//etc/shadow" (by decide)
    Unlisted noRegex catScene emptyHeld catTask ∧
    (FimDetector.matchPath p.norm).isSome ∧ (CredDetector.matchCred p.norm).isSome ∧
    (Bpf.krTpOpenat ⟨1, some p.bytes⟩ catTask true (Vector.replicate 18 0)).2 = none ∧
    (Bpf.krTpOpenatRead ⟨0, some p.bytes⟩ catTask true (Vector.replicate 18 0)).2 = none := by
  intro p
  refine ⟨?_, ?_, ?_, ?_, ?_⟩ <;> decide

end Kernelradar
