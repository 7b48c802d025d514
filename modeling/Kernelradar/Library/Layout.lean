import Mathlib.Data.List.Basic
import Mathlib.Tactic.Linarith

/-!
Records in memory: where a C compiler puts the members of a struct, and what is read back
after some of them have been written.

* `store`, `fetch`: bytes written to and read from a place; `fetch_store`,
  `fetch_store_of_clear`: the read sees the write, or nothing of it;
* `stores`: several writes one after the other; `fetch_stores_of_mem`,
  `fetch_stores_of_clear`: the same for writes to places apart from each other, in any order;
* `Member`, `placesFrom`, `structSize`: the layout of a struct; `places_apart`: its members lie one
  behind the other.
-/

namespace Library

/-! ### Reads and writes -/

/-- Memory after some bytes have been written at a place. -/
def store (mem : List UInt8) (off : ℕ) (bs : List UInt8) : List UInt8 :=
  mem.take off ++ (bs ++ mem.drop (off + bs.length))

/-- The `n` bytes at a place. -/
def fetch (mem : List UInt8) (off n : ℕ) : List UInt8 := (mem.drop off).take n

/-- Two ranges, each a place and a length, have no byte in common. -/
def Clear (i n j m : ℕ) : Prop := i + n ≤ j ∨ j + m ≤ i

section

variable {mem bs : List UInt8} {off i n : ℕ}

lemma length_store (h : off + bs.length ≤ mem.length) :
    (store mem off bs).length = mem.length := by
  simp only [store, List.length_append, List.length_take, List.length_drop]
  omega

lemma length_fetch (h : off + n ≤ mem.length) : (fetch mem off n).length = n := by
  simp only [fetch, List.length_take, List.length_drop]
  omega

lemma getElem?_fetch (mem : List UInt8) (off n i : ℕ) :
    (fetch mem off n)[i]? = if i < n then mem[off + i]? else none := by
  rw [fetch, List.getElem?_take]
  split_ifs with hi
  · rw [List.getElem?_drop]
  · rfl

/-- A byte after a write: of what was written, or of what was there. -/
lemma getElem?_store (h : off + bs.length ≤ mem.length) (i : ℕ) :
    (store mem off bs)[i]? =
      if off ≤ i ∧ i < off + bs.length then bs[i - off]? else mem[i]? := by
  have htake : (mem.take off).length = off := by
    rw [List.length_take]
    omega
  rw [store, List.getElem?_append, htake]
  by_cases hlow : i < off
  · rw [if_pos hlow, if_neg (by omega), List.getElem?_take, if_pos hlow]
  · rw [if_neg hlow, List.getElem?_append]
    by_cases hin : i - off < bs.length
    · rw [if_pos hin, if_pos (by omega)]
    · have hplace : off + bs.length + (i - off - bs.length) = i := by omega
      rw [if_neg hin, if_neg (by omega), List.getElem?_drop, hplace]

/-- **Read after write** at the same place. -/
lemma fetch_store (h : off + bs.length ≤ mem.length) :
    fetch (store mem off bs) off bs.length = bs := by
  refine List.ext_getElem? fun i => ?_
  rw [getElem?_fetch, getElem?_store h]
  by_cases hi : i < bs.length
  · rw [if_pos hi, if_pos (by omega), Nat.add_sub_cancel_left]
  · rw [if_neg hi, List.getElem?_eq_none (Nat.not_lt.mp hi)]

/-- **Read after write** elsewhere. -/
lemma fetch_store_of_clear (h : off + bs.length ≤ mem.length) (hclear : Clear i n off bs.length) :
    fetch (store mem off bs) i n = fetch mem i n := by
  refine List.ext_getElem? fun k => ?_
  rw [getElem?_fetch, getElem?_fetch, getElem?_store h]
  split_ifs with hk hin
  · rcases hclear with hbefore | hbehind <;> omega
  · rfl
  · rfl

end

/-! ### Several writes -/

/-- Memory after some writes, one after the other. -/
def stores : List UInt8 → List (ℕ × List UInt8) → List UInt8
  | mem, [] => mem
  | mem, w :: ws => stores (store mem w.1 w.2) ws

/-- All writes are inside memory. -/
def Inside (mem : List UInt8) (ws : List (ℕ × List UInt8)) : Prop :=
  ∀ w ∈ ws, w.1 + w.2.length ≤ mem.length

/-- No two writes have a byte in common. -/
def Apart (ws : List (ℕ × List UInt8)) : Prop :=
  ws.Pairwise fun v w => Clear v.1 v.2.length w.1 w.2.length

section

variable {mem : List UInt8} {ws : List (ℕ × List UInt8)}

lemma Inside.tail {w : ℕ × List UInt8} (h : Inside mem (w :: ws)) :
    Inside (store mem w.1 w.2) ws := by
  intro v hv
  rw [length_store (h w List.mem_cons_self)]
  exact h v (List.mem_cons_of_mem w hv)

lemma length_stores (h : Inside mem ws) : (stores mem ws).length = mem.length := by
  induction ws generalizing mem with
  | nil => rfl
  | cons w ws ih => rw [stores, ih h.tail, length_store (h w List.mem_cons_self)]

/-- A range that no write touches is as it was. -/
lemma fetch_stores_of_clear {i n : ℕ} (h : Inside mem ws)
    (hclear : ∀ w ∈ ws, Clear i n w.1 w.2.length) : fetch (stores mem ws) i n = fetch mem i n := by
  induction ws generalizing mem with
  | nil => rfl
  | cons w ws ih =>
      rw [stores, ih h.tail fun v hv => hclear v (List.mem_cons_of_mem w hv)]
      exact fetch_store_of_clear (h w List.mem_cons_self) (hclear w List.mem_cons_self)

/-- **Every write is there** when all are done, whatever their order. -/
lemma fetch_stores_of_mem {w : ℕ × List UInt8} (h : Inside mem ws) (hapart : Apart ws)
    (hw : w ∈ ws) : fetch (stores mem ws) w.1 w.2.length = w.2 := by
  induction ws generalizing mem with
  | nil => cases hw
  | cons v ws ih =>
      obtain ⟨hhead, htail⟩ := List.pairwise_cons.mp hapart
      rcases List.mem_cons.mp hw with rfl | hrest
      · rw [stores, fetch_stores_of_clear h.tail hhead]
        exact fetch_store (h w List.mem_cons_self)
      · rw [stores]
        exact ih h.tail htail hrest

end

/-! ### Structs -/

/-- A member of a struct: its size and its alignment. -/
structure Member where
  size : ℕ
  align : ℕ

/-- The first multiple of `a` from `n` on. -/
def roundUp (n a : ℕ) : ℕ := (n + a - 1) / a * a

lemma le_roundUp (n : ℕ) {a : ℕ} (ha : 0 < a) : n ≤ roundUp n a := by
  have hdiv := Nat.lt_div_mul_add (a := n + a - 1) ha
  rw [roundUp]
  omega

/-- The members of a struct with their places: each one at the first multiple of its alignment
behind the one before. -/
def placesFrom : ℕ → List Member → List (ℕ × Member)
  | _, [] => []
  | n, m :: ms => (roundUp n m.align, m) :: placesFrom (roundUp n m.align + m.size) ms

/-- The end of the last member. -/
def endFrom : ℕ → List Member → ℕ
  | n, [] => n
  | n, m :: ms => endFrom (roundUp n m.align + m.size) ms

/-- The alignment of a struct: the largest of its members'. -/
def structAlign (ms : List Member) : ℕ := (ms.map Member.align).foldr max 1

/-- The size of a struct, with the padding at its end. -/
def structSize (ms : List Member) : ℕ := roundUp (endFrom 0 ms) (structAlign ms)

lemma le_of_mem_placesFrom {ms : List Member} (hpos : ∀ m ∈ ms, 0 < m.align) {n : ℕ}
    {p : ℕ × Member} (hp : p ∈ placesFrom n ms) : n ≤ p.1 := by
  induction ms generalizing n with
  | nil => cases hp
  | cons m ms ih =>
      have hle := le_roundUp n (hpos m List.mem_cons_self)
      rcases List.mem_cons.mp hp with rfl | hrest
      · exact hle
      · have htail := ih (fun m' hm' => hpos m' (List.mem_cons_of_mem m hm')) hrest
        omega

/-- **The members lie one behind the other.** -/
theorem places_apart {ms : List Member} (hpos : ∀ m ∈ ms, 0 < m.align) (n : ℕ) :
    (placesFrom n ms).Pairwise fun p q => p.1 + p.2.size ≤ q.1 := by
  induction ms generalizing n with
  | nil => exact List.Pairwise.nil
  | cons m ms ih =>
      have hpos' : ∀ m' ∈ ms, 0 < m'.align := fun m' hm' => hpos m' (List.mem_cons_of_mem m hm')
      exact List.pairwise_cons.mpr ⟨fun q hq => le_of_mem_placesFrom hpos' hq, ih hpos' _⟩

end Library
