import Mathlib.Data.List.Find
import Kernelradar.Paths.Spelling

/-!
What the rule tables see of a path of any length.

The probe reads 31 bytes of the path. The tables of full paths are not affected, all
their patterns are shorter; the branch for `/home` is, because a user name comes
before the pattern.

* `Rule.Hits`: the test of a rule on bytes; `hits_take`: the same behind a cut;
* `InHome`, `afterUser_lossy`: the branch for `/home`, on bytes;
* `decision`: the two tables as one function with parameters;
* `Drifts`, `decision_cut_iff`: where the cut changes the decision;
* `arrived_decides_iff`: the result for both detectors;
* `long_user_drifts`: a key that is lost and a file that is reported for nothing.
-/

namespace Kernelradar

open Library

/-- What a probe reads of a path. -/
def window : ℕ := 31

namespace Rule

/-- The test of a rule, on the bytes of a path. -/
def Hits (r : Rule) (bs : List UInt8) : Prop :=
  match r.kind with
  | .exact => bs = asciiBytes r.pattern
  | .prefixed => asciiBytes r.pattern <+: bs

/-- The rule decides otherwise behind a cut: a hit is lost with the end of the pattern,
or a longer name becomes the pattern. The pattern starts at `used`. -/
def Drifts (r : Rule) (used : ℕ) (bs : List UInt8) : Prop :=
  (r.Hits bs ∧ window < used + r.pattern.length) ∨
    (r.kind = .exact ∧ asciiBytes r.pattern <+: bs ∧ bs ≠ asciiBytes r.pattern ∧
      used + r.pattern.length = window)

instance (r : Rule) (bs : List UInt8) : Decidable (r.Hits bs) :=
  match r with
  | ⟨pattern, .exact, _⟩ => inferInstanceAs (Decidable (bs = asciiBytes pattern))
  | ⟨pattern, .prefixed, _⟩ => inferInstanceAs (Decidable (asciiBytes pattern <+: bs))

instance (r : Rule) (used : ℕ) (bs : List UInt8) : Decidable (r.Drifts used bs) :=
  inferInstanceAs (Decidable (_ ∨ _))

/-- The test on the decoded path is the test on its bytes. -/
lemma matches_lossy {r : Rule} (hr : IsAscii r.pattern) (bs : List UInt8) :
    r.matches (fromUtf8Lossy bs) = true ↔ r.Hits bs := by
  have hwhole := lossy_ascii_append [] hr
  rw [fromUtf8Lossy_nil, List.append_nil, List.append_nil] at hwhole
  rw [Rule.matches, Hits]
  cases r.kind with
  | exact =>
      rw [decide_eq_true_iff]
      constructor
      · intro h
        have hnil : fromUtf8Lossy bs = r.pattern ++ [] := h.trans (List.append_nil _).symm
        obtain ⟨t, rfl, ht⟩ := ascii_append_of_lossy hr hnil
        cases t with
        | nil => rw [List.append_nil]
        | cons b t =>
            rw [fromUtf8Lossy_cons] at ht
            cases ht
      · rintro rfl
        exact hwhole
  | prefixed =>
      rw [List.isPrefixOf_iff_prefix]
      constructor
      · rintro ⟨rest, h⟩
        obtain ⟨t, rfl, -⟩ := ascii_append_of_lossy hr h.symm
        exact List.prefix_append _ _
      · rintro ⟨t, rfl⟩
        rw [lossy_ascii_append t hr]
        exact List.prefix_append _ _

lemma Hits.begins {r : Rule} {bs : List UInt8} (h : r.Hits bs) : asciiBytes r.pattern <+: bs := by
  rw [Hits] at h
  cases hkind : r.kind with
  | exact =>
      rw [hkind] at h
      rw [h]
  | prefixed =>
      rw [hkind] at h
      exact h

/-- A hit behind a cut that leaves `n` bytes. -/
lemma hits_take (r : Rule) (n : ℕ) (bs : List UInt8) : r.Hits (bs.take n) ↔
    (r.Hits bs ∧ r.pattern.length ≤ n) ∨
      (r.kind = .exact ∧ asciiBytes r.pattern <+: bs ∧ bs ≠ asciiBytes r.pattern ∧
        r.pattern.length = n) := by
  have hlen : (asciiBytes r.pattern).length = r.pattern.length := List.length_map _
  rw [Hits, Hits]
  cases r.kind with
  | prefixed =>
      simp only [reduceCtorEq, false_and, or_false]
      rw [List.prefix_take_iff, hlen]
  | exact =>
      simp only [true_and]
      constructor
      · intro h
        have hbegins : asciiBytes r.pattern <+: bs := h ▸ List.take_prefix n bs
        have hle := congrArg List.length h
        rw [List.length_take, hlen] at hle
        by_cases heq : bs = asciiBytes r.pattern
        · rw [heq, hlen] at hle
          exact Or.inl ⟨heq, by omega⟩
        · refine Or.inr ⟨hbegins, heq, ?_⟩
          by_contra hne
          have hall : bs.take n = bs := List.take_of_length_le (by omega)
          exact heq (hall ▸ h)
      · rintro (⟨rfl, hle⟩ | ⟨hbegins, -, rfl⟩)
        · exact List.take_of_length_le (hlen ▸ hle)
        · rw [← hlen]
          exact (List.prefix_iff_eq_take.mp hbegins).symm

/-- The drift of a rule, where the cut leaves `n` bytes from the pattern on. -/
lemma drifts_iff {r : Rule} {used n : ℕ} (hn : used + n = window) (bs : List UInt8) :
    r.Drifts used bs ↔ ¬(r.Hits (bs.take n) ↔ r.Hits bs) := by
  have hlost : window < used + r.pattern.length ↔ ¬r.pattern.length ≤ n := by omega
  have hgained : used + r.pattern.length = window ↔ r.pattern.length = n := by omega
  rw [Drifts, hits_take, hlost, hgained]
  by_cases hhit : r.Hits bs
  · have hwhole : ¬(r.kind = .exact ∧ asciiBytes r.pattern <+: bs ∧ bs ≠ asciiBytes r.pattern ∧
        r.pattern.length = n) := by
      rintro ⟨hkind, -, hne, -⟩
      rw [Hits, hkind] at hhit
      exact hne hhit
    simp only [hhit, hwhole, true_and, or_false, iff_true]
  · simp only [hhit, false_and, false_or, iff_false, not_not]

end Rule

/-- The front of a path in a home directory. -/
def homeDir : List UInt8 := asciiBytes "/home/"

/-- The path of `rest` in the home directory of `user`. -/
structure InHome (bs user rest : List UInt8) : Prop where
  path : bs = homeDir ++ (user ++ slash :: rest)
  user : slash ∉ user

/-- A path is in one home directory at most. -/
lemma InHome.unique {bs u r u' r' : List UInt8} (h : InHome bs u r) (h' : InHome bs u' r') :
    u = u' ∧ r = r' := by
  have hcut : ∀ {v t : List UInt8}, slash ∉ v → (v ++ slash :: t).takeWhile (· ≠ slash) = v := by
    intro v t hv
    have hall : ∀ b ∈ v, decide (b ≠ slash) = true := by
      intro b hb
      rw [decide_eq_true_iff]
      rintro rfl
      exact hv hb
    rw [List.takeWhile_append_of_pos hall, List.takeWhile_cons_of_neg (by simp), List.append_nil]
  have heq : u ++ slash :: r = u' ++ slash :: r' :=
    List.append_cancel_left (h.path.symm.trans h'.path)
  have hu : u = u' := by rw [← hcut h.user, heq, hcut h'.user]
  subst hu
  exact ⟨rfl, (List.cons.inj (List.append_cancel_left heq)).2⟩

/-- What the branch for `/home` looks at, on bytes. -/
lemma afterUser_lossy (bs : List UInt8) (x : Text) : afterUser (fromUtf8Lossy bs) = some x ↔
    ∃ u r, InHome bs u r ∧ fromUtf8Lossy r = x := by
  have hsplit : ∀ {u r : List UInt8}, slash ∉ u →
      Text.splitOnce '/' (fromUtf8Lossy (u ++ slash :: r))
        = some (fromUtf8Lossy u, fromUtf8Lossy r) := by
    intro u r hu
    rw [Text.splitOnce_eq_some, fromUtf8Lossy_append (by decide), fromUtf8Lossy_ascii (by decide)]
    exact ⟨rfl, notMem_lossy (by decide) hu⟩
  have hhome : IsAscii ("/home/" : Text) := by decide
  rw [afterUser, Option.bind_eq_some_iff]
  constructor
  · rintro ⟨rest, hstrip, hrest⟩
    obtain ⟨t, rfl, rfl⟩ := ascii_append_of_lossy hhome (Text.stripPrefix_eq_some.mp hstrip)
    obtain ⟨⟨a, y⟩, hy, rfl⟩ := Option.map_eq_some_iff.mp hrest
    have hmem : slash ∈ t := by
      by_contra hnone
      have hno : '/' ∉ fromUtf8Lossy t := notMem_lossy (by decide) hnone
      rw [(Text.splitOnce_eq_some.mp hy).1] at hno
      exact hno (by simp)
    obtain ⟨u, r, rfl, hu⟩ := List.eq_append_cons_of_mem hmem
    rw [hsplit hu] at hy
    exact ⟨u, r, ⟨rfl, hu⟩, congrArg Prod.snd (Option.some.inj hy)⟩
  · rintro ⟨u, r, ⟨rfl, hu⟩, rfl⟩
    refine ⟨fromUtf8Lossy (u ++ slash :: r), ?_, ?_⟩
    · rw [Text.stripPrefix_eq_some, homeDir, lossy_ascii_append _ hhome]
    · rw [hsplit hu]
      rfl

/-- A cut inside the rest of a path in a home directory. -/
lemma InHome.take {bs u r : List UInt8} (h : InHome bs u r) {n : ℕ}
    (hn : homeDir.length + u.length + 1 + n = window) : InHome (bs.take window) u (r.take n) := by
  refine ⟨?_, h.user⟩
  have hassoc : bs = (homeDir ++ (u ++ [slash])) ++ r := by simp [h.path]
  have hlen : (homeDir ++ (u ++ [slash])).length + n = window := by
    rw [List.length_append, List.length_append, List.length_singleton]
    omega
  rw [hassoc, ← hlen, List.take_length_add_append]
  simp

/-- A cut path in a home directory was one before. -/
lemma InHome.of_take {bs u r : List UInt8} {n : ℕ} (h : InHome (bs.take n) u r) :
    InHome bs u (r ++ bs.drop n) := by
  refine ⟨?_, h.user⟩
  have hpath := congrArg (· ++ bs.drop n) h.path
  simpa using hpath

/-- The two tables as one: the rules behind `/home/<user>/`, what is answered for one of
them, and the table of full paths. -/
def decision (home : List Rule) (answer : Rule → Rule) (table : List Rule) (path : Text) :
    Option Rule :=
  (((afterUser path).bind (findRule home)).map answer).or (findRule table path)

/-- No rule of the table is hit. -/
lemma findRule_eq_none {rules : List Rule} (hascii : ∀ r ∈ rules, IsAscii r.pattern)
    (bs : List UInt8) : findRule rules (fromUtf8Lossy bs) = none ↔ ∀ r ∈ rules, ¬r.Hits bs := by
  rw [findRule, List.find?_eq_none]
  exact forall₂_congr fun r hr => not_congr (Rule.matches_lossy (hascii r hr) bs)

/-- The rule that is found is hit. -/
lemma hits_of_findRule {rules : List Rule} (hascii : ∀ r ∈ rules, IsAscii r.pattern)
    {bs : List UInt8} {r : Rule} (h : findRule rules (fromUtf8Lossy bs) = some r) :
    r ∈ rules ∧ r.Hits bs := by
  have hmem : r ∈ rules := List.mem_of_find?_eq_some h
  have hmatch : r.matches (fromUtf8Lossy bs) = true :=
    List.find?_some (p := (Rule.matches · (fromUtf8Lossy bs))) h
  exact ⟨hmem, (Rule.matches_lossy (hascii r hmem) bs).mp hmatch⟩

/-- Where the same rules are hit, the same rule is found. -/
lemma findRule_congr {rules : List Rule} (hascii : ∀ r ∈ rules, IsAscii r.pattern)
    {bs bs' : List UInt8} (h : ∀ r ∈ rules, (r.Hits bs ↔ r.Hits bs')) :
    findRule rules (fromUtf8Lossy bs) = findRule rules (fromUtf8Lossy bs') := by
  refine List.find?_congr fun r hr => ?_
  rw [Bool.eq_iff_iff, Rule.matches_lossy (hascii r hr), Rule.matches_lossy (hascii r hr)]
  exact h r hr

section

variable {home table : List Rule} {answer : Rule → Rule}

/-- Some rule of the branch for `/home` decides otherwise behind the cut. -/
def Drifts (home : List Rule) (bs : List UInt8) : Prop :=
  ∃ u r, InHome bs u r ∧ ∃ s ∈ home, s.Drifts (homeDir.length + u.length + 1) r

/-- Of the patterns behind `/home/<user>/` at most one begins a text. -/
def Apart (home : List Rule) : Prop :=
  ∀ r ∈ home, ∀ s ∈ home, asciiBytes r.pattern <+: asciiBytes s.pattern → r = s

instance (home : List Rule) : Decidable (Apart home) := inferInstanceAs (Decidable (∀ r ∈ home, _))

/-- Patterns of full paths: shorter than the window, and not in `/home`. -/
def Short (table : List Rule) : Prop := ∀ r ∈ table, IsAscii r.pattern ∧
  r.pattern.length < window ∧ ¬asciiBytes r.pattern <+: homeDir ∧ ¬homeDir <+: asciiBytes r.pattern

instance (table : List Rule) : Decidable (Short table) :=
  inferInstanceAs (Decidable (∀ r ∈ table, _))

lemma Apart.eq (hapart : Apart home) {r s : Rule} (hr : r ∈ home) (hs : s ∈ home)
    {bs : List UInt8} (hrb : asciiBytes r.pattern <+: bs) (hsb : asciiBytes s.pattern <+: bs) :
    r = s := by
  rcases List.prefix_or_prefix_of_prefix hrb hsb with h | h
  · exact hapart r hr s hs h
  · exact (hapart s hs r hr h).symm

/-- The table of full paths does not see the cut. -/
lemma findRule_take (hshort : Short table) (bs : List UInt8) :
    findRule table (fromUtf8Lossy (bs.take window)) = findRule table (fromUtf8Lossy bs) := by
  refine findRule_congr (fun r hr => (hshort r hr).1) fun r hr => ?_
  have hlt := (hshort r hr).2.1
  rw [Rule.hits_take]
  constructor
  · rintro (⟨h, -⟩ | ⟨-, -, -, hlen⟩)
    · exact h
    · omega
  · exact fun h => Or.inl ⟨h, hlt.le⟩

/-- It has no rule for a path in a home directory. -/
lemma findRule_home (hshort : Short table) {bs : List UInt8} (h : homeDir <+: bs) :
    findRule table (fromUtf8Lossy bs) = none := by
  rw [findRule_eq_none fun r hr => (hshort r hr).1]
  intro r hr hhit
  rcases List.prefix_or_prefix_of_prefix hhit.begins h with hp | hp
  · exact (hshort r hr).2.2.1 hp
  · exact (hshort r hr).2.2.2 hp

/-- Behind `/home/<user>/`, a cut changes the answer exactly if it changes a test. -/
lemma answer_take_iff (hascii : ∀ r ∈ home, IsAscii r.pattern) (hapart : Apart home)
    (n : ℕ) (bs : List UInt8) :
    (findRule home (fromUtf8Lossy (bs.take n))).map answer
        = (findRule home (fromUtf8Lossy bs)).map answer ↔
      ∀ s ∈ home, (s.Hits (bs.take n) ↔ s.Hits bs) := by
  constructor
  · intro h s hs
    have hsome := congrArg Option.isSome h
    rw [Option.isSome_map, Option.isSome_map] at hsome
    constructor
    · intro hhit
      cases hfound : findRule home (fromUtf8Lossy bs) with
      | none =>
          rw [hfound, Option.isSome_none, Option.isSome_eq_false_iff, Option.isNone_iff_eq_none,
            findRule_eq_none hascii] at hsome
          exact absurd hhit (hsome s hs)
      | some t =>
          obtain ⟨ht, hbs⟩ := hits_of_findRule hascii hfound
          rw [hapart.eq hs ht (hhit.begins.trans (List.take_prefix n bs)) hbs.begins]
          exact hbs
    · intro hhit
      cases hfound : findRule home (fromUtf8Lossy (bs.take n)) with
      | none =>
          rw [hfound, Option.isSome_none, eq_comm, Option.isSome_eq_false_iff,
            Option.isNone_iff_eq_none, findRule_eq_none hascii] at hsome
          exact absurd hhit (hsome s hs)
      | some t =>
          obtain ⟨ht, hbs⟩ := hits_of_findRule hascii hfound
          rw [hapart.eq hs ht hhit.begins (hbs.begins.trans (List.take_prefix n bs))]
          exact hbs
  · intro h
    rw [findRule_congr hascii h]

/-- What the branch for `/home` makes of a path in a home directory. -/
lemma decision_of_inHome (hshort : Short table) {bs u r : List UInt8} (h : InHome bs u r) :
    decision home answer table (fromUtf8Lossy bs)
      = (findRule home (fromUtf8Lossy r)).map answer := by
  have hafter : afterUser (fromUtf8Lossy bs) = some (fromUtf8Lossy r) :=
    (afterUser_lossy bs _).mpr ⟨u, r, h, rfl⟩
  rw [decision, hafter, findRule_home hshort ⟨_, h.path.symm⟩, Option.or_none]
  rfl

/-- What it makes of another path. -/
lemma decision_of_not_inHome {bs : List UInt8} (h : ∀ u r, ¬InHome bs u r) :
    decision home answer table (fromUtf8Lossy bs) = findRule table (fromUtf8Lossy bs) := by
  have hafter : afterUser (fromUtf8Lossy bs) = none := by
    rw [Option.eq_none_iff_forall_ne_some]
    intro x hx
    obtain ⟨u, r, hin, -⟩ := (afterUser_lossy bs x).mp hx
    exact h u r hin
  rw [decision, hafter]
  rfl

/-- The drift of a path in a home directory. -/
lemma drifts_iff_of_inHome {bs u r : List UInt8} (h : InHome bs u r) :
    Drifts home bs ↔ ∃ s ∈ home, s.Drifts (homeDir.length + u.length + 1) r := by
  constructor
  · rintro ⟨u', r', h', hdrift⟩
    obtain ⟨rfl, rfl⟩ := h.unique h'
    exact hdrift
  · exact fun hdrift => ⟨u, r, h, hdrift⟩

/-- **Where the cut changes a decision.** -/
theorem decision_cut_iff (hascii : ∀ r ∈ home, IsAscii r.pattern) (hapart : Apart home)
    (hshort : Short table) (bs : List UInt8) :
    decision home answer table (fromUtf8Lossy (bs.take window))
        = decision home answer table (fromUtf8Lossy bs) ↔ ¬Drifts home bs := by
  by_cases hhome : ∃ u r, InHome bs u r
  · obtain ⟨u, r, h⟩ := hhome
    rw [decision_of_inHome hshort h, drifts_iff_of_inHome h]
    by_cases hroom : homeDir.length + u.length + 1 ≤ window
    · obtain ⟨n, hn⟩ := Nat.exists_eq_add_of_le hroom
      rw [decision_of_inHome hshort (h.take hn.symm), answer_take_iff hascii hapart]
      simp only [Rule.drifts_iff hn.symm, not_exists, not_and, not_not]
    · -- the cut ends inside the user's name
      have hlost : ∀ u' r', ¬InHome (bs.take window) u' r' := by
        intro u' r' h'
        obtain ⟨rfl, -⟩ := h.unique h'.of_take
        have hlen := congrArg List.length h'.path
        rw [List.length_take, List.length_append, List.length_append, List.length_cons] at hlen
        omega
      have hfront : homeDir <+: bs.take window :=
        List.prefix_take_iff.mpr ⟨⟨_, h.path.symm⟩, by decide⟩
      rw [decision_of_not_inHome hlost, findRule_home hshort hfront, eq_comm,
        Option.map_eq_none_iff, findRule_eq_none hascii]
      simp only [not_exists, not_and]
      refine forall₂_congr fun s hs => not_congr ⟨fun hhit => Or.inl ⟨hhit, by omega⟩, ?_⟩
      rintro (⟨hhit, -⟩ | ⟨-, -, -, hlen⟩)
      · exact hhit
      · omega
  · have hcut : ∀ u r, ¬InHome (bs.take window) u r :=
      fun u r h => hhome ⟨u, _, h.of_take⟩
    have hcalm : ¬Drifts home bs := fun ⟨u, r, h, _⟩ => hhome ⟨u, r, h⟩
    rw [decision_of_not_inHome hcut, decision_of_not_inHome fun u r h => hhome ⟨u, r, h⟩,
      findRule_take hshort]
    exact iff_of_true rfl hcalm

end

namespace FimDetector

/-- The tests of the branch for `/home`, as rules. -/
def homeRules : List Rule :=
  [⟨".ssh/", .prefixed, 3⟩, ⟨".bashrc", .exact, 3⟩, ⟨".profile", .exact, 3⟩]

lemma matchPath_eq_decision (path : Text) :
    matchPath path = decision homeRules (fun _ => homeSsh) sensitiveRules path := by
  have hgeneral : ∀ a b c x : Text, (a.isPrefixOf x || decide (x = b) || decide (x = c))
      = (findRule [⟨a, .prefixed, 3⟩, ⟨b, .exact, 3⟩, ⟨c, .exact, 3⟩] x).isSome := by
    intro a b c x
    simp only [findRule, List.find?_cons, List.find?_nil, Rule.matches]
    cases a.isPrefixOf x <;> cases decide (x = b) <;> cases decide (x = c) <;> rfl
  have hhit : ∀ x, homeHit x = (findRule homeRules x).isSome := hgeneral _ _ _
  rw [matchPath, decision]
  cases afterUser path with
  | none => rfl
  | some x =>
      rw [Option.any_some, hhit, Option.bind_some]
      cases findRule homeRules x <;> rfl

end FimDetector

namespace CredDetector

/-- The tests of the branch for `/home`, as rules. -/
def homeRules : List Rule := [⟨".ssh/id_", .prefixed, 3⟩, ⟨".aws/credentials", .prefixed, 3⟩]

/-- What is answered for them. -/
def homeAnswer (r : Rule) : Rule := if r.pattern = ".ssh/id_" then homeKey else homeAws

lemma matchCred_eq_decision (path : Text) :
    matchCred path = decision homeRules homeAnswer credRules path := by
  rw [matchCred, decision]
  cases afterUser path with
  | none => rfl
  | some x =>
      simp only [Option.any_some, Option.bind_some, findRule, homeRules, List.find?_cons,
        List.find?_nil, Rule.matches]
      by_cases hkey : (".ssh/id_" : Text).isPrefixOf x = true
      · simp only [hkey, if_true]
        rfl
      · by_cases haws : (".aws/credentials" : Text).isPrefixOf x = true
        · simp only [hkey, haws, if_true]
          rfl
        · simp only [hkey, haws]
          rfl

end CredDetector

/-- The text a detector reads in the event of a path: what the probe reads, packed and
unpacked. -/
def arrived (prog : Bpf.Program) (task : Task) (bs : List UInt8) : Option Text :=
  (Bpf.readUserStr (some bs)).map fun buf => pathOf (Bpf.eventOf prog task buf)

lemma arrived_eq (prog : Bpf.Program) (task : Task) {bs : List UInt8} (h0 : (0 : UInt8) ∉ bs) :
    arrived prog task bs = some (fromUtf8Lossy (bs.take window)) := by
  have hcut : (0 : UInt8) ∉ bs.take window := fun h => h0 (List.mem_of_mem_take h)
  have hread : pathOf (Bpf.eventOf prog task (Bpf.pathBuffer bs))
      = fromUtf8Lossy (bs.take window) := by
    rw [pathOf_eventOf (Bpf.pathBuffer_length bs)]
    exact congrArg fromUtf8Lossy (takeWhile_ne_padTo hcut)
  rw [arrived, Bpf.readUserStr_some]
  exact congrArg some hread

/-- **The window.** What a table decides on the text that arrives is what it decides on
the path itself, except for the drift of its rules behind `/home/<user>/`. -/
theorem arrived_decides_iff (prog : Bpf.Program) (task : Task) (bs : List UInt8)
    (h0 : (0 : UInt8) ∉ bs) :
    ((arrived prog task bs).map FimDetector.matchPath
        = some (FimDetector.matchPath (fromUtf8Lossy bs)) ↔ ¬Drifts FimDetector.homeRules bs) ∧
    ((arrived prog task bs).map CredDetector.matchCred
        = some (CredDetector.matchCred (fromUtf8Lossy bs)) ↔
      ¬Drifts CredDetector.homeRules bs) := by
  rw [arrived_eq prog task h0]
  simp only [Option.map_some, Option.some.injEq, FimDetector.matchPath_eq_decision,
    CredDetector.matchCred_eq_decision]
  exact ⟨decision_cut_iff (by decide) (by decide) (by decide) bs,
    decision_cut_iff (by decide) (by decide) (by decide) bs⟩

/-- A path of 39 bytes whose key is still recognised. -/
theorem arrived_decides_key :
    let bs := asciiBytes "/home/al/.ssh/id_rsa_of_the_other_host"
    (arrived Bpf.cred ⟨1, 1, 5, Vector.replicate 16 0⟩ bs).map CredDetector.matchCred
      = some (CredDetector.matchCred (fromUtf8Lossy bs)) := by
  intro bs
  refine (arrived_decides_iff _ _ bs (by decide)).2.mpr ?_
  have hin : InHome bs (asciiBytes "al") (asciiBytes ".ssh/id_rsa_of_the_other_host") :=
    ⟨by decide, by decide⟩
  rw [drifts_iff_of_inHome hin]
  decide

/-- A long user name hides a key, and makes a file look like another. -/
theorem long_user_drifts :
    let key := asciiBytes "/home/aaaaaaaaaaaaaaaaaaaa/.ssh/id_rsa"
    let rc := asciiBytes "/home/aaaaaaaaaaaaaaaaa/.bashrc.swp"
    let task : Task := ⟨1, 1, 5, Vector.replicate 16 0⟩
    ((0 : UInt8) ∉ key ∧ (arrived Bpf.cred task key).map CredDetector.matchCred = some none ∧
      CredDetector.matchCred (fromUtf8Lossy key) = some CredDetector.homeKey) ∧
    ((0 : UInt8) ∉ rc ∧
      (arrived Bpf.fim task rc).map FimDetector.matchPath = some (some FimDetector.homeSsh) ∧
      FimDetector.matchPath (fromUtf8Lossy rc) = none) := by
  decide

end Kernelradar
