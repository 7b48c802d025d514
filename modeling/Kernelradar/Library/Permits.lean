import Mathlib.Data.List.Perm.Basic

/-!
A semaphore, and the jobs that hold its permits.

* `Permits`: the permits that are free and the jobs under way, together always as many as there
  are permits;
* `tryAcquire`, `release`: a job gets a permit, or there is none; a job ends;
* `tryAcquire_eq_none_iff`: a job is refused exactly while all permits are held.
-/

namespace Library

universe u

/-- `cap` permits: how many are free, and who holds the others. -/
structure Permits (cap : ℕ) (α : Type u) where
  free : ℕ
  held : List α
  balance : free + held.length = cap

namespace Permits

variable {cap : ℕ} {α : Type u}

/-- No permit is held. -/
def full (cap : ℕ) (α : Type u) : Permits cap α := ⟨cap, [], rfl⟩

lemma balance_acquire {s : Permits cap α} (h : 0 < s.free) (a : α) :
    s.free - 1 + (s.held ++ [a]).length = cap := by
  have hbalance := s.balance
  rw [List.length_append, List.length_singleton]
  omega

lemma balance_release {s : Permits cap α} {i : ℕ} (h : i < s.held.length) :
    s.free + 1 + (s.held.eraseIdx i).length = cap := by
  have hbalance := s.balance
  rw [List.length_eraseIdx_of_lt h]
  omega

/-- A job takes a permit, if there is one. -/
def tryAcquire (s : Permits cap α) (a : α) : Option (Permits cap α) :=
  if h : 0 < s.free then some ⟨s.free - 1, s.held ++ [a], balance_acquire h a⟩ else none

/-- The job at a place, and the permits after it has ended. -/
def release (s : Permits cap α) (i : ℕ) : Option (α × Permits cap α) :=
  if h : i < s.held.length then
    some (s.held.get ⟨i, h⟩, ⟨s.free + 1, s.held.eraseIdx i, balance_release h⟩)
  else none

variable {s s' : Permits cap α} {a : α}

lemma length_held_le (s : Permits cap α) : s.held.length ≤ cap := by
  have hbalance := s.balance
  omega

/-- A job is refused exactly while all permits are held. -/
lemma tryAcquire_eq_none_iff : s.tryAcquire a = none ↔ s.held.length = cap := by
  have hbalance := s.balance
  rw [tryAcquire]
  split_ifs with hfree
  · exact iff_of_false not_false (by omega)
  · exact iff_of_true rfl (by omega)

lemma isSome_tryAcquire (s : Permits cap α) (a : α) :
    (s.tryAcquire a).isSome = decide (0 < s.free) := by
  rw [tryAcquire]
  split_ifs with hfree
  · exact (decide_eq_true hfree).symm
  · exact (decide_eq_false hfree).symm

lemma held_tryAcquire (h : s.tryAcquire a = some s') : s'.held = s.held ++ [a] := by
  rw [tryAcquire] at h
  split_ifs at h
  rw [← Option.some.inj h]

/-- A job that ends was there, and the others stay. -/
lemma perm_release {i : ℕ} (h : s.release i = some (a, s')) : s.held.Perm (a :: s'.held) := by
  rw [release] at h
  split_ifs at h with hi
  obtain ⟨rfl, rfl⟩ := Prod.mk.inj (Option.some.inj h)
  exact (List.getElem_cons_eraseIdx_perm hi).symm

end Permits

end Library
