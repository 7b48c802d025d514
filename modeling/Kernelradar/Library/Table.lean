import Mathlib.Algebra.BigOperators.Group.Finset.Basic
import Mathlib.Algebra.GroupWithZero.Nat
import Mathlib.Data.Finset.Card
import Mathlib.Logic.Function.Basic

/-!
Finite maps with an unspecified iteration order.

A `Table` is a partial function with a finite domain; what an iterator over a
hash table may yield is any `Enumerates` listing of that domain, each key once.

* the operations `insert`, `erase`, `retain`, `mapValues` and what `get`, `dom`
  and `len` are after each of them;
* `entries`: the pairs an iterator yields when the keys come out in a given
  order;
* `total`: a weight summed over the entries, with `total_insert`,
  `total_erase` and `total_mapValues` for accounting arguments.
-/

namespace Library

universe u v

/-- A finite map: a partial function together with its finite domain. -/
structure Table (K : Type u) (V : Type v) where
  get : K → Option V
  dom : Finset K
  mem_dom : ∀ k, k ∈ dom ↔ (get k).isSome

namespace Table

variable {K : Type u} {V : Type v}

/-- Two tables with the same lookups are the same table. -/
@[ext]
lemma ext {s t : Table K V} (h : ∀ k, s.get k = t.get k) : s = t := by
  have hdom : s.dom = t.dom := by
    ext k
    rw [s.mem_dom, t.mem_dom, h]
  cases s
  cases t
  obtain rfl := funext h
  simp_all

lemma get_eq_none {t : Table K V} {k : K} : t.get k = none ↔ k ∉ t.dom := by
  rw [t.mem_dom]
  cases t.get k <;> simp

lemma mem_dom_of_get {t : Table K V} {k : K} {v : V} (h : t.get k = some v) : k ∈ t.dom := by
  rw [t.mem_dom, h]
  rfl

lemma exists_get_of_mem {t : Table K V} {k : K} (h : k ∈ t.dom) : ∃ v, t.get k = some v :=
  Option.isSome_iff_exists.mp ((t.mem_dom k).mp h)

/-- The number of entries. -/
def len (t : Table K V) : ℕ := t.dom.card

/-- The empty table. -/
def empty : Table K V where
  get _ := none
  dom := ∅
  mem_dom := by simp

@[simp] lemma get_empty (k : K) : (empty : Table K V).get k = none := rfl

@[simp] lemma dom_empty : (empty : Table K V).dom = ∅ := rfl

@[simp] lemma len_empty : (empty : Table K V).len = 0 := rfl

section Update

variable [DecidableEq K]

/-- Whether the key has an entry. -/
def contains (t : Table K V) (k : K) : Bool := k ∈ t.dom

@[simp] lemma contains_iff {t : Table K V} {k : K} : t.contains k = true ↔ k ∈ t.dom := by
  simp [contains]

/-- Store a value under a key, replacing an older one. -/
def insert (t : Table K V) (k : K) (v : V) : Table K V where
  get := Function.update t.get k (some v)
  dom := Insert.insert k t.dom
  mem_dom j := by
    by_cases h : j = k
    · subst h; simp
    · simp [h, t.mem_dom]

@[simp] lemma get_insert_self (t : Table K V) (k : K) (v : V) : (t.insert k v).get k = some v := by
  simp [insert]

lemma get_insert_of_ne (t : Table K V) {j k : K} (v : V) (h : j ≠ k) :
    (t.insert k v).get j = t.get j := by
  simp [insert, h]

@[simp] lemma dom_insert (t : Table K V) (k : K) (v : V) :
    (t.insert k v).dom = Insert.insert k t.dom := rfl

lemma len_insert_of_mem {t : Table K V} {k : K} (v : V) (h : k ∈ t.dom) :
    (t.insert k v).len = t.len := by
  simp [len, Finset.insert_eq_of_mem h]

lemma len_insert_of_notMem {t : Table K V} {k : K} (v : V) (h : k ∉ t.dom) :
    (t.insert k v).len = t.len + 1 := by
  simp [len, Finset.card_insert_of_notMem h]

/-- Drop the entry of a key. -/
def erase (t : Table K V) (k : K) : Table K V where
  get := Function.update t.get k none
  dom := t.dom.erase k
  mem_dom j := by
    by_cases h : j = k
    · subst h; simp
    · simp [h, t.mem_dom]

@[simp] lemma get_erase_self (t : Table K V) (k : K) : (t.erase k).get k = none := by
  simp [erase]

lemma get_erase_of_ne (t : Table K V) {j k : K} (h : j ≠ k) : (t.erase k).get j = t.get j := by
  simp [erase, h]

/-- What is left after an erasure was there before. -/
lemma get_of_get_erase {t : Table K V} {j k : K} {v : V} (h : (t.erase k).get j = some v) :
    t.get j = some v := by
  by_cases hj : j = k
  · rw [hj, get_erase_self] at h
    cases h
  · rwa [get_erase_of_ne t hj] at h

@[simp] lemma dom_erase (t : Table K V) (k : K) : (t.erase k).dom = t.dom.erase k := rfl

lemma len_erase_of_mem {t : Table K V} {k : K} (h : k ∈ t.dom) :
    (t.erase k).len + 1 = t.len := by
  simp only [len, dom_erase]
  exact Finset.card_erase_add_one h

/-- Drop the entries of every key on a list. -/
def eraseAll (t : Table K V) (ks : List K) : Table K V := ks.foldl erase t

lemma get_eraseAll (ks : List K) : ∀ (t : Table K V) (k : K),
    (t.eraseAll ks).get k = if k ∈ ks then none else t.get k := by
  induction ks with
  | nil => intro t k; simp [eraseAll]
  | cons j ks ih =>
      intro t k
      have hstep : t.eraseAll (j :: ks) = (t.erase j).eraseAll ks := rfl
      rw [hstep, ih]
      by_cases hk : k ∈ ks
      · simp [hk]
      · by_cases hj : k = j
        · subst hj; simp
        · simp [hk, hj, get_erase_of_ne]

lemma mem_dom_eraseAll {ks : List K} {t : Table K V} {k : K} :
    k ∈ (t.eraseAll ks).dom ↔ k ∈ t.dom ∧ k ∉ ks := by
  rw [mem_dom, get_eraseAll, t.mem_dom]
  by_cases hk : k ∈ ks <;> simp [hk]

/-- What is still there after erasing a list of keys is as before. -/
lemma get_eraseAll_of_mem {ks : List K} {t : Table K V} {k : K}
    (h : k ∈ (t.eraseAll ks).dom) : (t.eraseAll ks).get k = t.get k := by
  rw [get_eraseAll, if_neg (mem_dom_eraseAll.mp h).2]

/-- Erasing a list of keys that are there takes off as many entries. -/
lemma len_eraseAll (ks : List K) : ∀ {t : Table K V}, ks.Nodup → (∀ k ∈ ks, k ∈ t.dom) →
    (t.eraseAll ks).len + ks.length = t.len := by
  induction ks with
  | nil => exact fun _ _ => rfl
  | cons k ks ih =>
      intro t hnodup hmem
      obtain ⟨hk, hks⟩ := List.nodup_cons.mp hnodup
      have hrest := ih (t := t.erase k) hks fun j hj => by
        have hne : j ≠ k := fun h => hk (h ▸ hj)
        exact Finset.mem_erase.mpr ⟨hne, hmem j (List.mem_cons_of_mem k hj)⟩
      have hone := len_erase_of_mem (hmem k List.mem_cons_self)
      have hstep : t.eraseAll (k :: ks) = (t.erase k).eraseAll ks := rfl
      rw [hstep, List.length_cons]
      omega

end Update

/-- Keep the entries that pass a test. -/
def retain (t : Table K V) (p : K → V → Bool) : Table K V where
  get k := (t.get k).filter (p k)
  dom := t.dom.filter fun k => (t.get k).any (p k)
  mem_dom k := by
    rw [Finset.mem_filter, t.mem_dom]
    cases h : t.get k with
    | none => simp
    | some v => by_cases hp : p k v <;> simp [hp]

@[simp] lemma get_retain (t : Table K V) (p : K → V → Bool) (k : K) :
    (t.retain p).get k = (t.get k).filter (p k) := rfl

lemma mem_dom_retain {t : Table K V} {p : K → V → Bool} {k : K} :
    k ∈ (t.retain p).dom ↔ ∃ v, t.get k = some v ∧ p k v = true := by
  rw [mem_dom, get_retain]
  cases t.get k with
  | none => simp
  | some v => by_cases hp : p k v <;> simp [hp]

/-- What a test keeps is as before. -/
lemma get_retain_of_mem {t : Table K V} {p : K → V → Bool} {k : K}
    (h : k ∈ (t.retain p).dom) : (t.retain p).get k = t.get k := by
  obtain ⟨v, hv, hp⟩ := mem_dom_retain.mp h
  rw [get_retain, hv]
  exact if_pos hp

lemma dom_retain_subset (t : Table K V) (p : K → V → Bool) : (t.retain p).dom ⊆ t.dom :=
  Finset.filter_subset _ _

lemma len_retain_le (t : Table K V) (p : K → V → Bool) : (t.retain p).len ≤ t.len :=
  Finset.card_le_card (t.dom_retain_subset p)

/-- Apply a function to every stored value. -/
def mapValues (t : Table K V) (f : V → V) : Table K V where
  get k := (t.get k).map f
  dom := t.dom
  mem_dom k := by rw [t.mem_dom]; simp

@[simp] lemma get_mapValues (t : Table K V) (f : V → V) (k : K) :
    (t.mapValues f).get k = (t.get k).map f := rfl

@[simp] lemma dom_mapValues (t : Table K V) (f : V → V) : (t.mapValues f).dom = t.dom := rfl

/-! ### Iteration -/

/-- A listing of the keys, each once: an order an iterator may follow. -/
structure Enumerates (t : Table K V) (ks : List K) : Prop where
  nodup : ks.Nodup
  mem_iff : ∀ k, k ∈ ks ↔ k ∈ t.dom

namespace Enumerates

variable {t : Table K V} {ks : List K}

lemma iff_toFinset [DecidableEq K] :
    t.Enumerates ks ↔ ks.Nodup ∧ ks.toFinset = t.dom := by
  constructor
  · intro h
    exact ⟨h.nodup, by ext k; rw [List.mem_toFinset, h.mem_iff]⟩
  · rintro ⟨hnodup, hdom⟩
    exact ⟨hnodup, fun k => by rw [← hdom, List.mem_toFinset]⟩

lemma length_eq (h : t.Enumerates ks) : ks.length = t.len := by
  classical
  rw [len, ← (iff_toFinset.mp h).2, List.toFinset_card_of_nodup h.nodup]

instance [DecidableEq K] (t : Table K V) (ks : List K) : Decidable (t.Enumerates ks) :=
  decidable_of_iff _ iff_toFinset.symm

end Enumerates

/-- Every table has an enumeration. -/
lemma exists_enumerates (t : Table K V) : ∃ ks, t.Enumerates ks :=
  ⟨t.dom.toList, t.dom.nodup_toList, fun k => by simp⟩

/-- The entries an iterator yields when the keys come out in the order `ks`. -/
def entries (t : Table K V) (ks : List K) : List (K × V) :=
  ks.filterMap fun k => (t.get k).map fun v => (k, v)

lemma mem_entries {t : Table K V} {ks : List K} {k : K} {v : V} :
    (k, v) ∈ t.entries ks ↔ k ∈ ks ∧ t.get k = some v := by
  simp only [entries, List.mem_filterMap, Option.map_eq_some_iff, Prod.mk.injEq]
  constructor
  · rintro ⟨j, hj, w, hw, rfl, rfl⟩
    exact ⟨hj, hw⟩
  · rintro ⟨hk, hv⟩
    exact ⟨k, hk, v, hv, rfl, rfl⟩

/-- The keys come out in their order; those without an entry do not. -/
lemma keys_entries_sublist (t : Table K V) (ks : List K) :
    ((t.entries ks).map Prod.fst).Sublist ks := by
  induction ks with
  | nil => exact List.Sublist.refl _
  | cons k ks ih =>
      cases hk : t.get k with
      | none =>
          rw [entries, List.filterMap_cons_none (by rw [hk, Option.map_none])]
          exact ih.cons k
      | some v =>
          rw [entries, List.filterMap_cons_some (by rw [hk, Option.map_some])]
          exact ih.cons_cons k

/-! ### Weights -/

/-- The weight of a lookup: nothing where there is no entry. -/
def weight (w : V → ℕ) (o : Option V) : ℕ := o.elim 0 w

@[simp] lemma weight_none (w : V → ℕ) : weight w none = 0 := rfl

@[simp] lemma weight_some (w : V → ℕ) (v : V) : weight w (some v) = w v := rfl

/-- A weight summed over the entries. -/
def total (t : Table K V) (w : V → ℕ) : ℕ := ∑ k ∈ t.dom, weight w (t.get k)

@[simp] lemma total_empty (w : V → ℕ) : (empty : Table K V).total w = 0 := rfl

/-- The sum may be taken over any finite set that covers the domain. -/
lemma total_eq_sum {t : Table K V} {w : V → ℕ} {S : Finset K} (h : t.dom ⊆ S) :
    t.total w = ∑ k ∈ S, weight w (t.get k) := by
  refine Finset.sum_subset h fun k _ hk => ?_
  rw [get_eq_none.mpr hk, weight_none]

/-- Storing a value moves the total by the difference of the two weights. -/
lemma total_insert [DecidableEq K] (t : Table K V) (k : K) (v : V) (w : V → ℕ) :
    (t.insert k v).total w + weight w (t.get k) = t.total w + w v := by
  have hsub : t.dom ⊆ Insert.insert k t.dom := Finset.subset_insert k t.dom
  have hmem : k ∈ Insert.insert k t.dom := Finset.mem_insert_self k t.dom
  have hrest : ∑ j ∈ (Insert.insert k t.dom).erase k, weight w ((t.insert k v).get j)
      = ∑ j ∈ (Insert.insert k t.dom).erase k, weight w (t.get j) :=
    Finset.sum_congr rfl fun j hj => by
      rw [get_insert_of_ne t v (Finset.ne_of_mem_erase hj)]
  have hnew := Finset.add_sum_erase _ (fun j => weight w ((t.insert k v).get j)) hmem
  have hold := Finset.add_sum_erase _ (fun j => weight w (t.get j)) hmem
  simp only [get_insert_self, weight_some] at hnew
  rw [total_eq_sum (t := t.insert k v) (S := Insert.insert k t.dom) (by simp),
    total_eq_sum hsub]
  omega

/-- Dropping an entry takes its weight off the total. -/
lemma total_erase [DecidableEq K] (t : Table K V) (k : K) (w : V → ℕ) :
    (t.erase k).total w + weight w (t.get k) = t.total w := by
  by_cases hk : k ∈ t.dom
  · have hrest : (t.erase k).total w = ∑ j ∈ t.dom.erase k, weight w (t.get j) :=
      Finset.sum_congr rfl fun j hj => by
        rw [get_erase_of_ne t (Finset.ne_of_mem_erase hj)]
    rw [hrest, add_comm]
    exact Finset.add_sum_erase _ (fun j => weight w (t.get j)) hk
  · have hsame : t.erase k = t := by
      ext1 j
      by_cases hj : j = k
      · subst hj; rw [get_erase_self, get_eq_none.mpr hk]
      · rw [get_erase_of_ne t hj]
    rw [hsame, get_eq_none.mpr hk, weight_none, Nat.add_zero]

/-- A map over the values that empties every weight empties the total. -/
lemma total_mapValues_zero (t : Table K V) {f : V → V} {w : V → ℕ} (h : ∀ v, w (f v) = 0) :
    (t.mapValues f).total w = 0 := by
  refine Finset.sum_eq_zero fun k _ => ?_
  rw [get_mapValues]
  cases t.get k with
  | none => rfl
  | some v => exact h v

/-- Listing the entries and adding their weights up gives the total, whatever
the order. -/
lemma sum_entries {t : Table K V} {ks : List K} (h : t.Enumerates ks) (w : V → ℕ) :
    ((t.entries ks).map fun e => w e.2).sum = t.total w := by
  classical
  have hlist : ∀ l : List K,
      ((t.entries l).map fun e => w e.2).sum = (l.map fun k => weight w (t.get k)).sum := by
    intro l
    induction l with
    | nil => rfl
    | cons k l ih =>
        cases hk : t.get k with
        | none => simpa [entries, hk] using ih
        | some v => simpa [entries, hk] using ih
  rw [hlist, total, ← (Enumerates.iff_toFinset.mp h).2, List.sum_toFinset _ h.nodup]

end Table

end Library
