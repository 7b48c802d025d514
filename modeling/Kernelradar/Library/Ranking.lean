import Mathlib.Data.List.Sort

/-!
The first elements of a stable sort.

* `ahead`: how many elements of a list come before one of them when the list is
  sorted by a key and ties keep their order;
* `idxOf_insertionSort`: that is its place in the sorted list;
* `mem_take_insertionSort`: it is one of the first `n` exactly if fewer than `n`
  are ahead of it;
* `le_of_mem_take_of_mem_drop`: what is taken has a key no larger than what is left.
-/

namespace Library

universe u v

variable {α : Type u} {β : Type v} [LinearOrder β]

/-- The elements that a stable sort by `f` puts before `x`: those with a smaller
key, and of those with the same key the ones listed before. -/
def ahead [DecidableEq α] (f : α → β) (x : α) : List α → ℕ
  | [] => 0
  | y :: l =>
      if y = x then l.countP fun z => f z < f x
      else (if f y ≤ f x then 1 else 0) + ahead f x l

section Stable

variable [DecidableEq α] {f : α → β} {x : α}

/-- Where an element is inserted. -/
lemma idxOf_orderedInsert_self : ∀ {l : List α}, l.Pairwise (f · ≤ f ·) → x ∉ l →
    (l.orderedInsert (f · ≤ f ·) x).idxOf x = l.countP fun z => f z < f x := by
  intro l
  induction l with
  | nil => exact fun _ _ => List.idxOf_cons_self
  | cons y l ih =>
      intro hsorted hx
      obtain ⟨hy, hl⟩ := List.pairwise_cons.mp hsorted
      obtain ⟨hne, hxl⟩ := List.ne_and_not_mem_of_not_mem_cons hx
      by_cases hle : f x ≤ f y
      · have hnone : (y :: l).countP (fun z => f z < f x) = 0 := by
          refine List.countP_eq_zero.mpr fun z hz => ?_
          rcases List.mem_cons.mp hz with rfl | hz'
          · simpa using hle
          · simpa using hle.trans (hy z hz')
        rw [List.orderedInsert_cons_of_le (f · ≤ f ·) l hle, hnone, List.idxOf_cons_self]
      · have hone : (y :: l).countP (fun z => f z < f x) = l.countP (fun z => f z < f x) + 1 :=
          List.countP_cons_of_pos (by simpa using not_le.mp hle)
        rw [List.orderedInsert_of_not_le (f · ≤ f ·) l hle, List.idxOf_cons_ne _ (Ne.symm hne),
          ih hl hxl, hone]

/-- An insertion moves the elements with a larger key, and the one with the same
key that are there. -/
lemma idxOf_orderedInsert_of_ne {a : α} (ha : a ≠ x) : ∀ {l : List α},
    l.Pairwise (f · ≤ f ·) → x ∈ l →
    (l.orderedInsert (f · ≤ f ·) a).idxOf x = (if f a ≤ f x then 1 else 0) + l.idxOf x := by
  intro l
  induction l with
  | nil => exact fun _ hx => absurd hx List.not_mem_nil
  | cons y l ih =>
      intro hsorted hx
      obtain ⟨hy, hl⟩ := List.pairwise_cons.mp hsorted
      by_cases hle : f a ≤ f y
      · have hax : f a ≤ f x := by
          rcases List.mem_cons.mp hx with rfl | hxl
          · exact hle
          · exact hle.trans (hy x hxl)
        rw [List.orderedInsert_cons_of_le (f · ≤ f ·) l hle, List.idxOf_cons_ne _ ha, if_pos hax,
          Nat.succ_eq_one_add]
      · rw [List.orderedInsert_of_not_le (f · ≤ f ·) l hle]
        by_cases hyx : y = x
        · subst hyx
          rw [List.idxOf_cons_self, List.idxOf_cons_self, if_neg hle]
        · have hxl : x ∈ l := (List.mem_cons.mp hx).resolve_left (Ne.symm hyx)
          rw [List.idxOf_cons_ne _ hyx, List.idxOf_cons_ne _ hyx, ih hl hxl]
          omega

/-- **The place of an element** in a stably sorted list is the number of elements
ahead of it. -/
theorem idxOf_insertionSort : ∀ {l : List α}, l.Nodup → x ∈ l →
    (l.insertionSort (f · ≤ f ·)).idxOf x = ahead f x l := by
  intro l
  induction l with
  | nil => exact fun _ hx => absurd hx List.not_mem_nil
  | cons y l ih =>
      intro hnodup hx
      obtain ⟨hy, hl⟩ := List.nodup_cons.mp hnodup
      have hsorted := l.pairwise_insertionSort (f · ≤ f ·)
      rw [List.insertionSort_cons, ahead]
      by_cases hyx : y = x
      · subst hyx
        have hout : y ∉ l.insertionSort (f · ≤ f ·) := fun h => hy ((List.mem_insertionSort _).mp h)
        rw [idxOf_orderedInsert_self hsorted hout, if_pos rfl]
        exact (l.perm_insertionSort _).countP_eq _
      · have hxl : x ∈ l := (List.mem_cons.mp hx).resolve_left (Ne.symm hyx)
        rw [idxOf_orderedInsert_of_ne hyx hsorted ((List.mem_insertionSort _).mpr hxl), ih hl hxl,
          if_neg hyx]

/-- An element is one of the first `n` exactly if fewer than `n` are ahead of it. -/
lemma mem_take_insertionSort {l : List α} (hnodup : l.Nodup) (hx : x ∈ l) {n : ℕ} :
    x ∈ (l.insertionSort (f · ≤ f ·)).take n ↔ ahead f x l < n := by
  rw [List.mem_take_iff_idxOf_lt ((List.mem_insertionSort _).mpr hx),
    idxOf_insertionSort hnodup hx]

end Stable

/-- What is taken from a sorted list has a key no larger than what is left. -/
lemma le_of_mem_take_of_mem_drop {f : α → β} {l : List α} (h : l.Pairwise (f · ≤ f ·)) {n : ℕ}
    {x y : α} (hx : x ∈ l.take n) (hy : y ∈ l.drop n) : f x ≤ f y := by
  rw [← List.take_append_drop n l, List.pairwise_append] at h
  exact h.2.2 x hx y hy

end Library
