import Mathlib.Data.List.Basic
import Mathlib.Data.Nat.Bitwise
import Mathlib.Tactic.Ring

/-!
Bytes in memory: little-endian words and zero-padded buffers.

* `leNat`, `leBytes`: a byte list read as a little-endian number and written
  back; `leBytes_leNat` and `leNat_leBytes` are the round trips;
* `padTo`: a byte string copied into a zeroed buffer; `takeWhile_ne_padTo`: the
  text before the first zero byte is the string again, `padTo_eq_padTo`: which
  strings share a buffer;
* `and_mask`: what a mask leaves of a number;
* `beNat`, `beBytes`: the same the other way round, most significant byte first;
* `chunksExact`: a byte list in pieces of one length.
-/

namespace Library

/-- A byte list read as a little-endian number. -/
def leNat : List UInt8 → ℕ
  | [] => 0
  | b :: bs => b.toNat + 256 * leNat bs

/-- The `n` low bytes of a number, least significant first. -/
def leBytes : ℕ → ℕ → List UInt8
  | 0, _ => []
  | n + 1, v => UInt8.ofNat v :: leBytes n (v / 256)

lemma leNat_lt (bs : List UInt8) : leNat bs < 256 ^ bs.length := by
  induction bs with
  | nil => simp [leNat]
  | cons b bs ih =>
      have hb : b.toNat < 256 := b.toNat_lt
      rw [leNat, List.length_cons, pow_succ]
      omega

@[simp] lemma leBytes_length (n v : ℕ) : (leBytes n v).length = n := by
  induction n generalizing v with
  | zero => rfl
  | succ n ih => rw [leBytes, List.length_cons, ih]

/-- Writing a byte list as a number and reading it back loses nothing. -/
lemma leBytes_leNat (bs : List UInt8) : leBytes bs.length (leNat bs) = bs := by
  induction bs with
  | nil => rfl
  | cons b bs ih =>
      have hb : b.toNat < 256 := b.toNat_lt
      have hlow : UInt8.ofNat (b.toNat + 256 * leNat bs) = b := by
        apply UInt8.toNat_inj.mp
        rw [UInt8.toNat_ofNat']
        omega
      have hhigh : (b.toNat + 256 * leNat bs) / 256 = leNat bs := by omega
      rw [List.length_cons, leNat, leBytes, hlow, hhigh, ih]

/-- Reading a written number back leaves its low bytes. -/
lemma leNat_leBytes (n v : ℕ) : leNat (leBytes n v) = v % 256 ^ n := by
  induction n generalizing v with
  | zero => rw [leBytes, leNat, pow_zero, Nat.mod_one]
  | succ n ih =>
      have hlow : (UInt8.ofNat v).toNat = v % 256 := UInt8.toNat_ofNat'
      rw [leBytes, leNat, ih, hlow, Nat.pow_succ', Nat.mod_mul]

/-- A byte string at the start of a zeroed buffer of `n` bytes. -/
def padTo (n : ℕ) (bs : List UInt8) : List UInt8 := bs ++ List.replicate (n - bs.length) 0

lemma padTo_length {n : ℕ} {bs : List UInt8} (h : bs.length ≤ n) : (padTo n bs).length = n := by
  rw [padTo, List.length_append, List.length_replicate]
  omega

/-- The padding comes after the string. -/
lemma prefix_padTo (n : ℕ) (bs : List UInt8) : bs <+: padTo n bs := List.prefix_append bs _

/-- Reading inside the string gives the string. -/
lemma getElem?_padTo_of_lt {n i : ℕ} {bs : List UInt8} (h : i < bs.length) :
    (padTo n bs)[i]? = bs[i]? := by
  rw [padTo, List.getElem?_append_left h]

/-- Reading the padding gives zero. -/
lemma getElem?_padTo_of_ge {n i : ℕ} {bs : List UInt8} (h : bs.length ≤ i) (hi : i < n) :
    (padTo n bs)[i]? = some 0 := by
  rw [padTo, List.getElem?_append_right h, List.getElem?_replicate_of_lt (by omega)]

/-- Zeros make no difference to a beginning without a zero. -/
lemma prefix_append_zeros {n : ℕ} : ∀ {s bs : List UInt8}, (0 : UInt8) ∉ s →
    (s <+: bs ++ List.replicate n 0 ↔ s <+: bs)
  | [], bs, _ => by simp
  | a :: s, [], h => by
      cases n with
      | zero => simp
      | succ n =>
          have ha : a ≠ 0 := fun h0 => h (h0 ▸ List.mem_cons_self)
          simp [List.replicate_succ, ha]
  | a :: s, b :: bs, h => by
      rw [List.cons_append, List.cons_prefix_cons, List.cons_prefix_cons,
        prefix_append_zeros fun hs => h (List.mem_cons_of_mem a hs)]

/-- Behind any place the buffer is the rest of the string and zeros. -/
lemma drop_padTo (n i : ℕ) (bs : List UInt8) :
    ∃ m, (padTo n bs).drop i = bs.drop i ++ List.replicate m 0 :=
  ⟨n - bs.length - (i - bs.length), by rw [padTo, List.drop_append, List.drop_replicate]⟩

/-- The text before the first zero byte of the buffer is the string. -/
lemma takeWhile_ne_padTo {n : ℕ} {bs : List UInt8} (h : (0 : UInt8) ∉ bs) :
    (padTo n bs).takeWhile (· ≠ 0) = bs := by
  have hall : ∀ b ∈ bs, decide (b ≠ 0) = true := by
    intro b hb
    simpa using fun h0 : b = 0 => h (h0 ▸ hb)
  rw [padTo, List.takeWhile_append_of_pos hall]
  cases n - bs.length with
  | zero => simp
  | succ m => simp [List.replicate_succ]

/-- Zeros at the end of a string that fits are part of the padding. -/
lemma padTo_append_zeros {n m : ℕ} {bs : List UInt8} (h : bs.length + m ≤ n) :
    padTo n (bs ++ List.replicate m 0) = padTo n bs := by
  have hsplit : m + (n - (bs.length + m)) = n - bs.length := by omega
  rw [padTo, padTo, List.length_append, List.length_replicate, List.append_assoc,
    List.replicate_append_replicate, hsplit]

/-- What is left of equal buffers behind the longer string is zeros. -/
lemma eq_append_zeros {a b c : List UInt8} {m : ℕ} (hb : b = a ++ c)
    (hpad : List.replicate m 0 = c ++ List.replicate (m - c.length) 0) :
    b = a ++ List.replicate c.length 0 := by
  have hzeros : c <+: List.replicate m 0 := ⟨_, hpad.symm⟩
  rw [hb, ← (List.prefix_replicate_iff.mp hzeros).2]

/-- **Strings that share a buffer**: one of them is the other and zeros. -/
lemma padTo_eq_padTo {n : ℕ} {a b : List UInt8} (ha : a.length ≤ n) (hb : b.length ≤ n) :
    padTo n a = padTo n b ↔
      ∃ m, a = b ++ List.replicate m 0 ∨ b = a ++ List.replicate m 0 := by
  constructor
  · intro h
    rw [padTo, padTo] at h
    rcases List.append_eq_append_iff.mp h with ⟨c, hbc, hpad⟩ | ⟨c, hac, hpad⟩
    · have hlen : n - b.length = n - a.length - c.length := by
        rw [hbc, List.length_append, Nat.sub_add_eq]
      rw [hlen] at hpad
      exact ⟨c.length, Or.inr (eq_append_zeros hbc hpad)⟩
    · have hlen : n - a.length = n - b.length - c.length := by
        rw [hac, List.length_append, Nat.sub_add_eq]
      rw [hlen] at hpad
      exact ⟨c.length, Or.inl (eq_append_zeros hac hpad)⟩
  · rintro ⟨m, rfl | rfl⟩
    · rw [List.length_append, List.length_replicate] at ha
      exact padTo_append_zeros ha
    · rw [List.length_append, List.length_replicate] at hb
      exact (padTo_append_zeros hb).symm

/-- A string without a zero byte has none at its end. -/
lemma eq_of_append_zeros {a b : List UInt8} {m : ℕ} (h : a = b ++ List.replicate m 0)
    (h0 : (0 : UInt8) ∉ a) : a = b := by
  cases m with
  | zero => rw [h, List.replicate_zero, List.append_nil]
  | succ m =>
      refine absurd ?_ h0
      rw [h]
      exact List.mem_append_right _ List.mem_cons_self

/-- A byte list read as a big-endian number. -/
def beNat : List UInt8 → ℕ
  | [] => 0
  | b :: bs => b.toNat * 256 ^ bs.length + beNat bs

/-- The `n` low bytes of a number, most significant first. -/
def beBytes : ℕ → ℕ → List UInt8
  | 0, _ => []
  | n + 1, v => UInt8.ofNat (v / 256 ^ n) :: beBytes n v

@[simp] lemma beBytes_length (n v : ℕ) : (beBytes n v).length = n := by
  induction n with
  | zero => rfl
  | succ n ih => rw [beBytes, List.length_cons, ih]

/-- The first `n` bytes. -/
def firstChunk {n : ℕ} {bs : List UInt8} (h : n ≤ bs.length) : Vector UInt8 n :=
  ⟨(bs.take n).toArray, by rw [List.size_toArray, List.length_take, Nat.min_eq_left h]⟩

/-- The pieces of `n` bytes of a byte list; what is left over at the end is dropped. -/
def chunksExact (n : ℕ) [NeZero n] (bs : List UInt8) : List (Vector UInt8 n) :=
  if h : n ≤ bs.length then
    firstChunk h :: chunksExact n (bs.drop n)
  else []
termination_by bs.length
decreasing_by
  have hn := NeZero.pos n
  rw [List.length_drop]
  omega

section Chunks

variable {n : ℕ} [NeZero n]

lemma chunksExact_of_le {bs : List UInt8} (h : n ≤ bs.length) :
    chunksExact n bs = firstChunk h :: chunksExact n (bs.drop n) := by
  rw [chunksExact, dif_pos h]

@[simp] lemma chunksExact_length (bs : List UInt8) : (chunksExact n bs).length = bs.length / n := by
  fun_induction chunksExact n bs with
  | case1 bs h ih =>
      rw [List.length_cons, ih, List.length_drop, Nat.div_eq_sub_div (NeZero.pos n) h]
  | case2 bs h => rw [List.length_nil, Nat.div_eq_of_lt (Nat.lt_of_not_le h)]

lemma le_of_lt_chunksExact {bs : List UInt8} {i : ℕ} (hi : i < (chunksExact n bs).length) :
    n ≤ bs.length := by
  by_contra hlt
  rw [chunksExact_length, Nat.div_eq_of_lt (Nat.lt_of_not_le hlt)] at hi
  exact Nat.not_lt_zero i hi

/-- Piece number `i`. -/
lemma chunksExact_get (bs : List UInt8) (i : ℕ) (hi : i < (chunksExact n bs).length) :
    (chunksExact n bs)[i].toList = (bs.drop (n * i)).take n := by
  induction i generalizing bs with
  | zero =>
      simp only [chunksExact_of_le (le_of_lt_chunksExact hi)]
      rfl
  | succ i ih =>
      have hle := le_of_lt_chunksExact hi
      simp only [chunksExact_of_le hle, List.length_cons, Nat.add_lt_add_iff_right] at hi
      simp only [chunksExact_of_le hle, List.getElem_cons_succ]
      rw [ih _ hi, List.drop_drop, Nat.mul_succ, Nat.add_comm]

end Chunks

/-- A mask of `n` bits at place `k` cuts these bits out. -/
lemma and_mask (a k n : ℕ) : a &&& (2 ^ n - 1) * 2 ^ k = a / 2 ^ k % 2 ^ n * 2 ^ k := by
  apply Nat.eq_of_testBit_eq
  intro i
  rw [Nat.testBit_and, Nat.testBit_mul_two_pow, Nat.testBit_mul_two_pow,
    ← Nat.and_two_pow_sub_one_eq_mod, Nat.testBit_and, Nat.testBit_div_two_pow]
  by_cases h : k ≤ i
  · rw [Nat.sub_add_cancel h]
    cases a.testBit i <;> simp [h]
  · simp [h]

end Library
