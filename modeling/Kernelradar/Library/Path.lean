import Mathlib.Data.List.Basic

/-!
Absolute paths over any alphabet with a separator and a dot.

* `components`, `normal`: the components of a path and its lexical normal form,
  in which empty and `.` components are dropped and `..` pops the one before;
* `normal_eq_self`: a path of names only is its own normal form;
* `occurs`: the scan for a component, without splitting; `occurs_iff_mem`: it finds
  what splitting finds;
* `Within`, `CutShort`, `occurs_take_iff`: what it finds in the first letters of a path.
-/

namespace Library

namespace Path

variable {α : Type} [DecidableEq α] (sep dot : α)

/-- The components of an absolute path, the empty ones included. -/
def components (p : List α) : List (List α) := p.tail.splitOn sep

/-- A component meets the stack of components before it. -/
def push (stack : List (List α)) (c : List α) : List (List α) :=
  if c = [] ∨ c = [dot] then stack
  else if c = [dot, dot] then stack.tail
  else c :: stack

/-- The lexical normal form. -/
def normal (p : List α) : List α :=
  sep :: [sep].intercalate ((components sep p).foldl (push dot) []).reverse

/-- A component that stands for itself. -/
def IsName (c : List α) : Prop := c ≠ [] ∧ c ≠ [dot] ∧ c ≠ [dot, dot]

lemma push_name {c : List α} (h : IsName dot c) (stack : List (List α)) :
    push dot stack c = c :: stack := by
  rw [push, if_neg (not_or.mpr ⟨h.1, h.2.1⟩), if_neg h.2.2]

/-- Names pile up. -/
lemma foldl_push_names : ∀ (cs : List (List α)) (stack : List (List α)),
    (∀ c ∈ cs, IsName dot c) → cs.foldl (push dot) stack = cs.reverse ++ stack := by
  intro cs
  induction cs with
  | nil => exact fun _ _ => rfl
  | cons c cs ih =>
      intro stack h
      rw [List.foldl_cons, push_name dot (h c List.mem_cons_self),
        ih _ fun d hd => h d (List.mem_cons_of_mem c hd)]
      simp

/-- **A path of names only is in normal form.** -/
theorem normal_eq_self {p : List α} (habs : p.head? = some sep)
    (h : ∀ c ∈ components sep p, IsName dot c) : normal sep dot p = p := by
  rw [normal, foldl_push_names dot _ _ h, List.append_nil, List.reverse_reverse, components,
    List.intercalate_splitOn]
  cases p with
  | nil => cases habs
  | cons b t => rw [List.tail_cons, Option.some.inj habs]

/-! ### Scanning for a component -/

/-- A text begins with the component `w`. -/
def begins (w t : List α) : Bool := t = w || (w ++ [sep]).isPrefixOf t

/-- The component `w` stands after one of the separators. -/
def occurs (w : List α) : List α → Bool
  | [] => false
  | b :: t => (b = sep && begins sep w t) || occurs w t

variable {sep} {w : List α}

/-- A component that occurs has room. -/
lemma length_lt_of_occurs {t : List α} (h : occurs sep w t = true) : w.length < t.length := by
  induction t with
  | nil => cases h
  | cons b t ih =>
      simp only [occurs, begins, Bool.or_eq_true, Bool.and_eq_true, decide_eq_true_eq,
        List.isPrefixOf_iff_prefix] at h
      rw [List.length_cons]
      rcases h with ⟨-, rfl | hprefix⟩ | hlater
      · omega
      · have hle := hprefix.length_le
        rw [List.length_append, List.length_singleton] at hle
        omega
      · have hlt := ih hlater
        omega

/-- The first component of a text. -/
lemma begins_iff (hw : sep ∉ w) (t : List α) :
    begins sep w t = true ↔ (t.splitOn sep).head? = some w := by
  rw [begins, Bool.or_eq_true, decide_eq_true_eq, List.isPrefixOf_iff_prefix]
  constructor
  · rintro (rfl | ⟨rest, rfl⟩)
    · rw [List.splitOn_eq_singleton hw, List.head?_cons]
    · rw [List.append_assoc, List.singleton_append, List.splitOn_append_cons_self_of_not_mem hw,
        List.head?_cons]
  · intro h
    have hjoin : [sep].intercalate (t.splitOn sep) = t := List.intercalate_splitOn sep
    cases hsplit : t.splitOn sep with
    | nil => exact absurd hsplit (List.splitOn_ne_nil sep t)
    | cons c cs =>
        rw [hsplit, List.head?_cons, Option.some.injEq] at h
        subst h
        rw [hsplit] at hjoin
        cases cs with
        | nil => exact Or.inl (by simpa using hjoin.symm)
        | cons d ds => exact Or.inr ⟨[sep].intercalate (d :: ds), by simpa using hjoin⟩

/-- The scan finds the components behind a separator. -/
lemma occurs_iff_mem_tail (hw : sep ∉ w) (t : List α) :
    occurs sep w t = true ↔ w ∈ (t.splitOn sep).tail := by
  induction t with
  | nil => simp [occurs, List.splitOn_nil]
  | cons b t ih =>
      rw [occurs, Bool.or_eq_true, Bool.and_eq_true, decide_eq_true_eq, begins_iff hw, ih,
        List.splitOn_cons_eq_if_modifyHead]
      cases hsplit : t.splitOn sep with
      | nil => exact absurd hsplit (List.splitOn_ne_nil sep t)
      | cons c cs =>
          by_cases hb : b = sep
          · simp [hb, eq_comm]
          · simp [hb]

/-- **Scanning is splitting.** -/
theorem occurs_iff_mem (hw : sep ∉ w) {p : List α} (habs : p.head? = some sep) :
    occurs sep w p = true ↔ w ∈ components sep p := by
  cases p with
  | nil => cases habs
  | cons b t =>
      rw [occurs_iff_mem_tail hw, List.splitOn_cons_eq_if_modifyHead, Option.some.inj habs]
      simp [components]

/-! ### Behind a cut -/

omit [DecidableEq α] in
/-- Joining two lists of components. -/
lemma intercalate_append {front back : List (List α)} (hfront : front ≠ []) (hback : back ≠ []) :
    [sep].intercalate (front ++ back)
      = [sep].intercalate front ++ sep :: [sep].intercalate back := by
  induction front with
  | nil => exact absurd rfl hfront
  | cons c front ih =>
      rw [List.cons_append, List.intercalate_cons_of_ne_nil (by simp [hback])]
      by_cases hnil : front = []
      · rw [hnil, List.nil_append, List.intercalate_singleton, List.append_assoc,
          List.singleton_append]
      · rw [ih hnil, List.intercalate_cons_of_ne_nil hnil, List.append_assoc, List.append_assoc,
          List.append_assoc]

/-- A component that occurs, with what is around it. -/
lemma occurs_iff_exists {p : List α} :
    occurs sep w p = true ↔ ∃ u t, p = u ++ sep :: t ∧ begins sep w t = true := by
  constructor
  · induction p with
    | nil => exact fun h => by cases h
    | cons b t ih =>
        intro h
        rw [occurs, Bool.or_eq_true, Bool.and_eq_true, decide_eq_true_eq] at h
        rcases h with ⟨rfl, h⟩ | h
        · exact ⟨[], t, rfl, h⟩
        · obtain ⟨u, t', rfl, h'⟩ := ih h
          exact ⟨b :: u, t', rfl, h'⟩
  · rintro ⟨u, t, rfl, h⟩
    induction u with
    | nil => rw [List.nil_append, occurs, h, decide_eq_true rfl, Bool.and_true, Bool.true_or]
    | cons b u ih => rw [List.cons_append, occurs, ih, Bool.or_true]

variable (sep w) in
/-- The component `w` stands behind a separator and ends within the first `n` letters. -/
def Within (n : ℕ) (p : List α) : Prop :=
  ∃ front back, p.splitOn sep = front ++ w :: back ∧ front ≠ [] ∧
    ([sep].intercalate front).length + 1 + w.length ≤ n

variable (sep w) in
/-- The first `n` letters end in a separator and `w`, and the name goes on behind them. -/
def CutShort (n : ℕ) (p : List α) : Prop :=
  ∃ u c r, p = u ++ sep :: (w ++ c :: r) ∧ c ≠ sep ∧ u.length + 1 + w.length = n

/-- A component within the first letters, with what is around it. -/
lemma within_iff (hw : sep ∉ w) {n : ℕ} {p : List α} : Within sep w n p ↔
    ∃ u t, p = u ++ sep :: t ∧ begins sep w t = true ∧ u.length + 1 + w.length ≤ n := by
  constructor
  · rintro ⟨front, back, hsplit, hfront, hlen⟩
    refine ⟨[sep].intercalate front, [sep].intercalate (w :: back), ?_, ?_, hlen⟩
    · rw [← intercalate_append hfront (List.cons_ne_nil w back), ← hsplit,
        List.intercalate_splitOn]
    · rw [begins, Bool.or_eq_true, decide_eq_true_eq, List.isPrefixOf_iff_prefix]
      cases back with
      | nil => exact Or.inl List.intercalate_singleton
      | cons c back =>
          refine Or.inr ⟨[sep].intercalate (c :: back), ?_⟩
          rw [List.intercalate_cons_of_ne_nil (List.cons_ne_nil c back), List.append_assoc]
  · rintro ⟨u, t, rfl, hbegins, hlen⟩
    obtain ⟨back, hback⟩ := List.head?_eq_some_iff.mp ((begins_iff hw t).mp hbegins)
    refine ⟨u.splitOn sep, back, ?_, List.splitOn_ne_nil sep u, ?_⟩
    · rw [List.splitOn_append_cons_self, hback]
    · rwa [List.intercalate_splitOn]

/-- A name behind a cut that leaves room for it. -/
lemma begins_take_iff {m : ℕ} (hm : w.length ≤ m) (t : List α) : begins sep w (t.take m) = true ↔
    begins sep w t = true ∨ ∃ c r, t = w ++ c :: r ∧ c ≠ sep ∧ w.length = m := by
  simp only [begins, Bool.or_eq_true, decide_eq_true_eq, List.isPrefixOf_iff_prefix]
  constructor
  · rintro (hname | hlead)
    · have hwhole : t = w ++ t.drop m := by rw [← hname, List.take_append_drop]
      cases hdrop : t.drop m with
      | nil =>
          rw [hdrop, List.append_nil] at hwhole
          exact Or.inl (Or.inl hwhole)
      | cons c r =>
          rw [hdrop] at hwhole
          by_cases hc : c = sep
          · refine Or.inl (Or.inr ⟨r, ?_⟩)
            rw [hwhole, hc, List.append_assoc, List.singleton_append]
          · have hlen := congrArg List.length hname
            have hlong := congrArg List.length hdrop
            rw [List.length_take] at hlen
            rw [List.length_drop, List.length_cons] at hlong
            exact Or.inr ⟨c, r, hwhole, hc, by omega⟩
    · exact Or.inl (Or.inr (hlead.trans (List.take_prefix m t)))
  · rintro ((rfl | ⟨r, rfl⟩) | ⟨c, r, rfl, -, rfl⟩)
    · exact Or.inl (List.take_of_length_le hm)
    · by_cases heq : w.length = m
      · rw [List.append_assoc, ← heq, List.take_left']
        · exact Or.inl rfl
        · rfl
      · refine Or.inr (List.prefix_take_iff.mpr ⟨List.prefix_append _ _, ?_⟩)
        rw [List.length_append, List.length_singleton]
        omega
    · exact Or.inl (List.take_left' rfl)

/-- A name at the front of a text fits into it. -/
lemma length_le_of_begins {t : List α} (h : begins sep w t = true) : w.length ≤ t.length := by
  rw [begins, Bool.or_eq_true, decide_eq_true_eq, List.isPrefixOf_iff_prefix] at h
  rcases h with rfl | hlead
  · exact Nat.le_refl _
  · exact ((List.prefix_append w [sep]).trans hlead).length_le

omit [DecidableEq α] in
/-- A separator in front of a cut, with what is around it. -/
lemma take_eq_iff {n : ℕ} {p u t : List α} : p.take n = u ++ sep :: t ↔
    ∃ m r, n = u.length + 1 + m ∧ p = u ++ sep :: r ∧ r.take m = t := by
  constructor
  · intro htake
    have hlen := congrArg List.length htake
    rw [List.length_take, List.length_append, List.length_cons] at hlen
    have hroom : u.length + 1 ≤ n := by omega
    obtain ⟨m, rfl⟩ := Nat.exists_eq_add_of_le hroom
    refine ⟨m, t ++ p.drop (u.length + 1 + m), rfl, ?_, ?_⟩
    · calc p = p.take (u.length + 1 + m) ++ p.drop (u.length + 1 + m) :=
            (List.take_append_drop _ p).symm
        _ = u ++ sep :: (t ++ p.drop (u.length + 1 + m)) := by
            rw [htake, List.append_assoc, List.cons_append]
    · by_cases hlong : u.length + 1 + m ≤ p.length
      · exact List.take_left' (by omega)
      · rw [List.drop_eq_nil_of_le (by omega), List.append_nil]
        exact List.take_of_length_le (by omega)
  · rintro ⟨m, r, rfl, rfl, rfl⟩
    rw [Nat.add_assoc, List.take_length_add_append, Nat.add_comm 1 m, List.take_succ_cons]

/-- **Scanning the first letters** finds the components among them, and a longer name as well
if the cut makes it look like `w`. -/
theorem occurs_take_iff (hw : sep ∉ w) (n : ℕ) (p : List α) :
    occurs sep w (p.take n) = true ↔ Within sep w n p ∨ CutShort sep w n p := by
  rw [within_iff hw, occurs_iff_exists]
  constructor
  · rintro ⟨u, t, htake, hbegins⟩
    obtain ⟨m, r, rfl, rfl, rfl⟩ := take_eq_iff.mp htake
    have hm : w.length ≤ m :=
      Nat.le_trans (length_le_of_begins hbegins) (List.length_take_le m r)
    rcases (begins_take_iff hm r).mp hbegins with hname | ⟨c, s, rfl, hc, rfl⟩
    · exact Or.inl ⟨u, r, rfl, hname, by omega⟩
    · exact Or.inr ⟨u, c, s, rfl, hc, rfl⟩
  · rintro (⟨u, t, rfl, hname, hle⟩ | ⟨u, c, r, rfl, hc, rfl⟩)
    · obtain ⟨k, rfl⟩ := Nat.exists_eq_add_of_le hle
      refine ⟨u, t.take (w.length + k), take_eq_iff.mpr ⟨_, t, Nat.add_assoc _ _ _, rfl, rfl⟩, ?_⟩
      exact (begins_take_iff (Nat.le_add_right _ k) t).mpr (Or.inl hname)
    · refine ⟨u, (w ++ c :: r).take w.length, take_eq_iff.mpr ⟨_, _, rfl, rfl, rfl⟩, ?_⟩
      exact (begins_take_iff (Nat.le_refl _) _).mpr (Or.inr ⟨c, r, rfl, hc, rfl⟩)

end Path

end Library
