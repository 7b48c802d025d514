import Kernelradar.Cli.Daemon
import Kernelradar.Detectors.Util

/-!
The entries of an allowlist, one by one.

* `RegexCrate.Lawful`: a set matches where one of its patterns does;
* `Allows`: what a single entry allows;
* `isAllowed_iff_parts`: the compiled list by its two parts; `isAllowed_iff`: where the
  set compiles, it allows what one of its entries allows; `size_limit_denies`: patterns
  that compile one by one do not always compile as a set;
* `isAllowed_insert`: what one more entry changes, also one that the set does not
  compile with; `bad_entry_denies`: a bad pattern takes the other patterns away;
* `empty_comm_iff`: when an empty `comm` is allowed.
-/

namespace Kernelradar

open Library

/-- `RegexSet::is_match`: a set that compiles matches where one of its patterns does, as
`one` tells of a pattern on its own. -/
def RegexCrate.Lawful (re : RegexCrate) (one : Text → Text → Bool) : Prop :=
  ∀ ps, re.setCompiles ps = true → ∀ s, re.isMatch ps s = ps.any fun p => one p s

/-- An entry with a pattern is one between two slashes. -/
lemma regexEntry_eq_some {e p : Text} : regexEntry e = some p ↔ e = '/' :: (p ++ ['/']) := by
  cases e with
  | nil => exact ⟨nofun, nofun⟩
  | cons c s =>
      by_cases hc : c = '/'
      · subst hc
        rw [regexEntry, Text.stripSuffix, List.cons.injEq]
        constructor
        · intro h
          split_ifs at h with hs
          obtain ⟨t, rfl⟩ := List.isSuffixOf_iff_suffix.mp hs
          rw [List.length_append, List.length_singleton, Nat.add_sub_cancel,
            List.take_left] at h
          exact ⟨rfl, by rw [Option.some.inj h]⟩
        · rintro ⟨-, rfl⟩
          rw [if_pos (List.isSuffixOf_iff_suffix.mpr (List.suffix_append p ['/'])),
            List.length_append, List.length_singleton, Nat.add_sub_cancel, List.take_left]
      · constructor
        · intro h
          rw [regexEntry] at h
          · cases h
          · rintro t ⟨rfl, -⟩
            exact hc rfl
        · intro h
          exact absurd (List.cons.inj h).1 hc

lemma regexEntry_eq_none {e : Text} : regexEntry e = none ↔ ∀ p, e ≠ '/' :: (p ++ ['/']) := by
  rw [Option.eq_none_iff_forall_ne_some]
  exact forall_congr' fun p => not_congr regexEntry_eq_some

namespace CompiledAllowlist

variable {re : RegexCrate} {one : Text → Text → Bool} {entries : List Text} {comm : Text}
  {exe : Option Text}

/-- What an entry allows: one between two slashes what its pattern matches, any other
what it is. -/
def Allows (one : Text → Text → Bool) (comm : Text) (exe : Option Text) (e : Text) : Prop :=
  (∃ p, e = '/' :: (p ++ ['/']) ∧ ∃ s ∈ subjects comm exe, one p s = true) ∨
    ((∀ p, e ≠ '/' :: (p ++ ['/'])) ∧ e ∈ subjects comm exe)

/-- The entries without a pattern that name one of the subjects. -/
def Named (entries : List Text) (comm : Text) (exe : Option Text) : Prop :=
  ∃ e ∈ entries, regexEntry e = none ∧ e ∈ subjects comm exe

/-- The entries with a pattern that matches one of the subjects. -/
def Matched (one : Text → Text → Bool) (entries : List Text) (comm : Text)
    (exe : Option Text) : Prop :=
  ∃ e ∈ entries, ∃ p, regexEntry e = some p ∧ ∃ s ∈ subjects comm exe, one p s = true

lemma exists_allows_iff : (∃ e ∈ entries, Allows one comm exe e) ↔
    Named entries comm exe ∨ Matched one entries comm exe := by
  constructor
  · rintro ⟨e, he, ⟨p, hp, hs⟩ | ⟨hplain, hs⟩⟩
    · exact Or.inr ⟨e, he, p, regexEntry_eq_some.mpr hp, hs⟩
    · exact Or.inl ⟨e, he, regexEntry_eq_none.mpr hplain, hs⟩
  · rintro (⟨e, he, hplain, hs⟩ | ⟨e, he, p, hp, hs⟩)
    · exact ⟨e, he, Or.inr ⟨regexEntry_eq_none.mp hplain, hs⟩⟩
    · exact ⟨e, he, Or.inl ⟨p, regexEntry_eq_some.mp hp, hs⟩⟩

lemma exact_iff : ((subjects comm exe).any fun s => (build re entries).exact.contains s) = true ↔
    Named entries comm exe := by
  rw [List.any_eq_true]
  constructor
  · rintro ⟨s, hs, hcontains⟩
    obtain ⟨he, hplain⟩ := List.mem_filter.mp (List.contains_iff_mem.mp hcontains)
    exact ⟨s, he, Option.isNone_iff_eq_none.mp hplain, hs⟩
  · rintro ⟨e, he, hplain, hs⟩
    refine ⟨e, hs, List.contains_iff_mem.mpr (List.mem_filter.mpr ⟨he, ?_⟩)⟩
    rw [hplain, Option.isNone_none]

lemma regex_iff (hre : re.Lawful one)
    (hcompiles : re.setCompiles (entries.filterMap regexEntry) = true) :
    (!(build re entries).regex.isEmpty
        && (subjects comm exe).any fun s => re.isMatch (build re entries).regex s) = true ↔
      Matched one entries comm exe := by
  have hregex : (build re entries).regex = entries.filterMap regexEntry := if_pos hcompiles
  rw [hregex, Bool.and_eq_true, List.any_eq_true]
  constructor
  · rintro ⟨-, s, hs, hmatch⟩
    rw [hre _ hcompiles, List.any_eq_true] at hmatch
    obtain ⟨p, hp, hone⟩ := hmatch
    obtain ⟨e, he, hep⟩ := List.mem_filterMap.mp hp
    exact ⟨e, he, p, hep, s, hs, hone⟩
  · rintro ⟨e, he, p, hep, s, hs, hone⟩
    have hp : p ∈ entries.filterMap regexEntry := List.mem_filterMap.mpr ⟨e, he, hep⟩
    refine ⟨?_, s, hs, ?_⟩
    · rw [Bool.not_eq_true', List.isEmpty_eq_false_iff_exists_mem]
      exact ⟨p, hp⟩
    · rw [hre _ hcompiles, List.any_eq_true]
      exact ⟨p, hp, hone⟩

/-- **The two parts** of a compiled list: the entries that name a subject, and, where
the set compiles, those whose pattern matches one. -/
lemma isAllowed_iff_parts (hre : re.Lawful one) :
    (build re entries).isAllowed re comm exe = true ↔ Named entries comm exe ∨
      re.setCompiles (entries.filterMap regexEntry) = true ∧ Matched one entries comm exe := by
  rw [isAllowed, Bool.or_eq_true, exact_iff]
  by_cases hcompiles : re.setCompiles (entries.filterMap regexEntry) = true
  · rw [regex_iff hre hcompiles]
    exact or_congr_right (and_iff_right hcompiles).symm
  · have hregex : (build re entries).regex = [] := if_neg hcompiles
    rw [hregex]
    exact or_congr_right (iff_of_false (by simp) fun h => hcompiles h.1)

/-- **The compiled list is the plain one**: where the patterns compile, it allows what
one of its entries allows. -/
theorem isAllowed_iff (re : RegexCrate) (one : Text → Text → Bool) (hre : re.Lawful one)
    (entries : List Text) (hcompiles : re.setCompiles (entries.filterMap regexEntry) = true)
    (comm : Text) (exe : Option Text) :
    (build re entries).isAllowed re comm exe = true ↔ ∃ e ∈ entries, Allows one comm exe e := by
  rw [isAllowed_iff_parts hre, exists_allows_iff]
  exact or_congr_right (and_iff_right hcompiles)

/-- A pattern that matches what begins with `k`. -/
theorem isAllowed_iff_kworker :
    let one : Text → Text → Bool := fun p s => p = "^k".toList && s.head? = some 'k'
    let entries : List Text := ["sshd", "/^k/"]
    (∃ e ∈ entries, Allows one "kworker/0:1" none e) ∧
      ¬∃ e ∈ entries, Allows one "sudo" (some "/usr/bin/sudo") e := by
  intro one entries
  let re : RegexCrate := ⟨fun _ => true, fun _ => true, fun ps s => ps.any fun p => one p s⟩
  have hiff := isAllowed_iff re one (fun _ _ _ => rfl) entries rfl
  exact ⟨(hiff "kworker/0:1" none).mp (by decide),
    fun h => absurd ((hiff "sudo" (some "/usr/bin/sudo")).mpr h) (by decide)⟩

/-- Forty patterns of which each compiles, and which match what begins with `k`: forty
times `\w` take more than half a megabyte, and a set is built up to 10 MiB only. -/
theorem size_limit_denies :
    ¬ ∀ (re : RegexCrate) (one : Text → Text → Bool), re.Lawful one →
      ∀ entries : List Text,
        (∀ e ∈ entries, ∀ p, regexEntry e = some p → re.compiles p = true) →
        ∀ (comm : Text) (exe : Option Text),
          ((build re entries).isAllowed re comm exe = true ↔
            ∃ e ∈ entries, Allows one comm exe e) := by
  intro h
  let pattern : Text := "^k\\w\x7b0,40\x7d"
  let one : Text → Text → Bool := fun p s => p = pattern && s.head? = some 'k'
  let re : RegexCrate := ⟨fun _ => true, fun ps => ps.length * 500000 ≤ 10 * 2 ^ 20,
    fun ps s => ps.any fun p => one p s⟩
  let entries : List Text := List.replicate 40 ('/' :: (pattern ++ ['/']))
  have hiff := h re one (fun _ _ _ => rfl) entries (fun _ _ _ _ => rfl) "kworker/0:1" none
  have hone : ∃ e ∈ entries, Allows one "kworker/0:1" none e :=
    ⟨_, List.mem_replicate.mpr ⟨by decide, rfl⟩, Or.inl ⟨pattern, rfl, "kworker/0:1",
      List.mem_singleton_self _, by decide⟩⟩
  exact absurd (hiff.mpr hone) (by decide)

/-! ### One more entry -/

/-- The patterns compile without the entry, and with it they do not. -/
def Spoils (re : RegexCrate) (l₁ : List Text) (e : Text) (l₂ : List Text) : Prop :=
  re.setCompiles ((l₁ ++ l₂).filterMap regexEntry) = true ∧
    re.setCompiles ((l₁ ++ e :: l₂).filterMap regexEntry) = false

variable {l₁ l₂ : List Text} {e : Text}

/-- Only an entry with a pattern can do that. -/
lemma Spoils.isSome (h : Spoils re l₁ e l₂) : (regexEntry e).isSome = true := by
  cases he : regexEntry e with
  | some p => rfl
  | none =>
      have hsame : (l₁ ++ e :: l₂).filterMap regexEntry = (l₁ ++ l₂).filterMap regexEntry := by
        rw [List.filterMap_append, List.filterMap_cons_none he, ← List.filterMap_append]
      have hfails := h.2
      rw [hsame, h.1] at hfails
      cases hfails

lemma Named.insert (h : Named (l₁ ++ l₂) comm exe) : Named (l₁ ++ e :: l₂) comm exe := by
  obtain ⟨a, ha, hplain, hs⟩ := h
  exact ⟨a, (List.Sublist.append_left (List.sublist_cons_self e l₂) l₁).mem ha, hplain, hs⟩

lemma Matched.insert (h : Matched one (l₁ ++ l₂) comm exe) :
    Matched one (l₁ ++ e :: l₂) comm exe := by
  obtain ⟨a, ha, hmatch⟩ := h
  exact ⟨a, (List.Sublist.append_left (List.sublist_cons_self e l₂) l₁).mem ha, hmatch⟩

/-- An entry with a pattern names nothing. -/
lemma named_insert_iff (he : (regexEntry e).isSome = true) :
    Named (l₁ ++ e :: l₂) comm exe ↔ Named (l₁ ++ l₂) comm exe := by
  refine ⟨fun ⟨a, ha, hplain, hs⟩ => ⟨a, ?_, hplain, hs⟩, Named.insert⟩
  have hne : a ≠ e := by
    rintro rfl
    rw [hplain] at he
    cases he
  rcases List.mem_append.mp ha with h₁ | h₂
  · exact List.mem_append_left _ h₁
  · exact List.mem_append_right _ ((List.mem_cons.mp h₂).resolve_left hne)

/-- **One more entry**: what is allowed without it is allowed with it, unless the patterns
compile without it and no longer with it; then exactly the entries without a pattern
count, as they do in a list whose patterns did not compile before. -/
theorem isAllowed_insert (re : RegexCrate) (one : Text → Text → Bool) (hre : re.Lawful one)
    (l₁ : List Text) (e : Text) (l₂ : List Text) (comm : Text) (exe : Option Text) :
    (¬Spoils re l₁ e l₂ → (build re (l₁ ++ l₂)).isAllowed re comm exe = true →
      (build re (l₁ ++ e :: l₂)).isAllowed re comm exe = true) ∧
    (Spoils re l₁ e l₂ → ((build re (l₁ ++ e :: l₂)).isAllowed re comm exe = true ↔
      ∃ a ∈ l₁ ++ l₂, (∀ p, a ≠ '/' :: (p ++ ['/'])) ∧ a ∈ subjects comm exe)) ∧
    (re.setCompiles ((l₁ ++ l₂).filterMap regexEntry) = false →
      re.setCompiles ((l₁ ++ e :: l₂).filterMap regexEntry) = false →
      ((build re (l₁ ++ e :: l₂)).isAllowed re comm exe = true ↔
        ∃ a ∈ l₁ ++ e :: l₂, (∀ p, a ≠ '/' :: (p ++ ['/'])) ∧ a ∈ subjects comm exe)) := by
  rw [isAllowed_iff_parts hre, isAllowed_iff_parts hre]
  refine ⟨?_, fun hspoils => ?_, fun _ hfails => ?_⟩
  · rintro hkeeps (hnamed | ⟨hcompiles, hmatched⟩)
    · exact Or.inl hnamed.insert
    · refine Or.inr ⟨?_, hmatched.insert⟩
      by_contra hfails
      exact hkeeps ⟨hcompiles, Bool.eq_false_iff.mpr hfails⟩
  · rw [hspoils.2, named_insert_iff hspoils.isSome]
    simp only [Named, regexEntry_eq_none, Bool.false_eq_true, false_and, or_false]
  · rw [hfails]
    simp only [Named, regexEntry_eq_none, Bool.false_eq_true, false_and, or_false]

/-- A pattern that does not compile, next to one that matches what begins with `k` and to
a plain entry: the plain entry goes on to allow, and the pattern does not. -/
theorem isAllowed_insert_bad :
    let one : Text → Text → Bool := fun p s => p = "^k".toList && s.head? = some 'k'
    let re : RegexCrate := ⟨fun p => p ≠ "[(".toList, fun ps => "[(".toList ∉ ps,
      fun ps s => ps.any fun p => one p s⟩
    Spoils re [] "/[(/" ["/^k/", "sudo"] ∧
      (build re ["/[(/", "/^k/", "sudo"]).isAllowed re "sudo" none = true ∧
      (build re ["/[(/", "/^k/", "sudo"]).isAllowed re "kworker/0:1" none = false := by
  intro one re
  have hspoils : Spoils re [] "/[(/" ["/^k/", "sudo"] := ⟨by decide, by decide⟩
  have hiff (comm : Text) :=
    (isAllowed_insert re one (fun _ _ _ => rfl) [] "/[(/" ["/^k/", "sudo"] comm none).2.1 hspoils
  refine ⟨hspoils, (hiff "sudo").mpr ⟨"sudo", by decide, ?_, List.mem_singleton_self _⟩, ?_⟩
  · exact fun p hp => absurd (congrArg List.head? hp) (by decide : some 's' ≠ some '/')
  · rw [Bool.eq_false_iff]
    intro hallowed
    obtain ⟨a, ha, -, hs⟩ := (hiff "kworker/0:1").mp hallowed
    rw [List.mem_singleton.mp hs] at ha
    exact absurd ha (by decide)

/-- A bad pattern takes a good one away. -/
theorem bad_entry_denies :
    ¬ ∀ (re : RegexCrate) (one : Text → Text → Bool), re.Lawful one →
      ∀ (l₁ : List Text) (e : Text) (l₂ : List Text) (comm : Text) (exe : Option Text),
        (build re (l₁ ++ l₂)).isAllowed re comm exe = true →
          (build re (l₁ ++ e :: l₂)).isAllowed re comm exe = true := by
  intro h
  let one : Text → Text → Bool := fun p s => p = "^k".toList && s.head? = some 'k'
  let re : RegexCrate := ⟨fun p => p ≠ "[(".toList, fun ps => "[(".toList ∉ ps,
    fun ps s => ps.any fun p => one p s⟩
  have hrun := h re one (fun _ _ _ => rfl) [] "/[(/" ["/^k/"] "kworker/0:1" none (by decide)
  exact absurd hrun (by decide)

/-! ### The empty `comm` -/

section Empty

/-- `comm_str` of a buffer that starts with NUL. -/
lemma commStr_of_nul {ev : KrEvent} (h : ev.comm[0] = 0) : commStr ev = [] := by
  have hne : ev.comm.toList ≠ [] := by simp
  have hlist : ev.comm.toList = ev.comm[0] :: ev.comm.toList.tail := by
    rw [← List.cons_head_tail hne]
    simp [List.head_eq_getElem]
  rw [commStr, hlist, h]
  rfl

variable {F : Type} [F64 F]

/-- The list a configuration has for a detector. -/
def listOf (cfg : Config F) (detector : Text) : List Text :=
  ((cfg.detectors.get detector).map DetectorConfig.allowlist).getD []

lemma allowlistFor_eq (cfg : Config F) (detector : Text) (fallback : List Text) :
    cfg.allowlistFor detector fallback
      = if listOf cfg detector ≠ [] then listOf cfg detector else fallback := by
  rw [Config.allowlistFor, listOf]
  cases cfg.detectors.get detector with
  | none => rfl
  | some d => rfl

/-- No entry is empty: none of the list that the configuration has for the detector, or,
where it has none, no piece of `--allow` between commas is blank. -/
def NoStray (cfg : Config F) (allow detector : Text) : Prop :=
  if listOf cfg detector ≠ [] then [] ∉ listOf cfg detector
  else ∀ piece ∈ Text.splitOn ',' allow, ∃ c ∈ piece, Text.isWhite c = false

lemma noStray_iff {cfg : Config F} {allow detector : Text} :
    NoStray cfg allow detector ↔ [] ∉ cfg.allowlistFor detector (Daemon.parseAllow allow) := by
  rw [NoStray, allowlistFor_eq]
  split_ifs with hown
  · rfl
  · rw [Daemon.parseAllow, List.mem_map, not_exists]
    refine forall_congr' fun piece => ?_
    rw [not_and, Text.trim_eq_nil]
    simp only [not_forall, Bool.not_eq_true, exists_prop]

/-- With nothing but an empty `comm` the empty entry names it. -/
lemma named_empty_iff {entries : List Text} : Named entries [] none ↔ [] ∈ entries := by
  constructor
  · rintro ⟨e, he, -, hs⟩
    obtain rfl := List.mem_singleton.mp hs
    exact he
  · exact fun h => ⟨[], h, rfl, List.mem_singleton_self _⟩

/-- **The empty `comm`.** An event whose `comm` starts with NUL and whose executable is
not known is allowed only by a pattern that matches the empty text, exactly if no entry
is empty or there is such a pattern. -/
theorem empty_comm_iff (re : RegexCrate) (one : Text → Text → Bool) (hre : re.Lawful one)
    (cfg : Config F) (allow detector : Text) (ev : KrEvent) (proc : Proc)
    (hcomm : ev.comm[0] = 0) (hexe : readExePathVerified proc (commStr ev) = none) :
    let entries := cfg.allowlistFor detector (Daemon.parseAllow allow)
    let matched := ∃ e ∈ entries, ∃ p, e = '/' :: (p ++ ['/']) ∧ one p [] = true
    ((((SharedAllowlist.new re entries).snapshot re).isAllowed re (commStr ev)
        (readExePathVerified proc (commStr ev)) = true → matched) ↔
      NoStray cfg allow detector ∨ matched) := by
  intro entries matched
  have hmatched : Matched one entries [] none ↔ matched := by
    have hsubjects : ∀ p : Text, (∃ s ∈ subjects [] none, one p s = true) ↔ one p [] = true :=
      fun p => ⟨fun ⟨s, hs, h⟩ => List.mem_singleton.mp hs ▸ h,
        fun h => ⟨[], List.mem_singleton_self _, h⟩⟩
    simp only [Matched, regexEntry_eq_some, hsubjects, matched]
  rw [hexe, commStr_of_nul hcomm, SharedAllowlist.snapshot_new, isAllowed_iff_parts hre,
    named_empty_iff, hmatched, noStray_iff]
  constructor
  · intro h
    by_cases hstray : [] ∈ entries
    · exact Or.inr (h (Or.inl hstray))
    · exact Or.inl hstray
  · rintro (hnone | hm) (hstray | ⟨-, hm'⟩)
    · exact absurd hstray hnone
    · exact hm'
    · exact hm
    · exact hm

/-- An event without `comm`, from a process that is gone, is not allowed under
`--allow sshd,sudo`. -/
theorem empty_comm_iff_two :
    let re : RegexCrate := ⟨fun _ => true, fun _ => true, fun _ _ => false⟩
    let ev : KrEvent := ⟨0, 1, 1, 0, 0, Vector.replicate 16 0, 1, 1, 1, Vector.replicate 4 0⟩
    let entries := ({} : Config ℚ).allowlistFor "fim" (Daemon.parseAllow "sshd,sudo")
    NoStray ({} : Config ℚ) "sshd,sudo" "fim" ∧
      ((SharedAllowlist.new re entries).snapshot re).isAllowed re (commStr ev)
        (readExePathVerified ⟨none, none⟩ (commStr ev)) = false := by
  intro re ev entries
  have hstray : NoStray ({} : Config ℚ) "sshd,sudo" "fim" := noStray_iff.mpr (by decide)
  refine ⟨hstray, Bool.eq_false_iff.mpr fun hallowed => ?_⟩
  obtain ⟨e, -, p, -, hp⟩ := (empty_comm_iff re (fun _ _ => false)
    (fun _ _ _ => (List.any_eq_false.mpr (by simp)).symm) {} "sshd,sudo" "fim" ev ⟨none, none⟩
    rfl rfl).mpr (Or.inl hstray) hallowed
  cases hp

/-- A comma at the end of `--allow` lets every process without a `comm` through. -/
theorem stray_comma_allows :
    ¬ ∀ (re : RegexCrate) (one : Text → Text → Bool), re.Lawful one →
      ∀ (cfg : Config ℚ) (allow detector : Text) (ev : KrEvent) (proc : Proc),
        ev.comm[0] = 0 → readExePathVerified proc (commStr ev) = none →
        ((SharedAllowlist.new re (cfg.allowlistFor detector
          (Daemon.parseAllow allow))).snapshot re).isAllowed re (commStr ev)
            (readExePathVerified proc (commStr ev)) = true →
        ∃ e ∈ cfg.allowlistFor detector (Daemon.parseAllow allow),
          ∃ p, e = '/' :: (p ++ ['/']) ∧ one p [] = true := by
  intro h
  let re : RegexCrate := ⟨fun _ => true, fun _ => true, fun _ _ => false⟩
  let ev : KrEvent := ⟨0, 1, 1, 0, 0, Vector.replicate 16 0, 1, 1, 1, Vector.replicate 4 0⟩
  obtain ⟨e, -, p, -, hp⟩ := h re (fun _ _ => false)
    (fun _ _ _ => (List.any_eq_false.mpr (by simp)).symm) {} "sshd," "fim" ev ⟨none, none⟩ rfl rfl
    (by decide)
  cases hp

end Empty

end CompiledAllowlist

end Kernelradar
