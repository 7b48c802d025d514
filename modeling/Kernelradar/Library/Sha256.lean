import Mathlib.Analysis.SpecialFunctions.Pow.Real
import Mathlib.Data.Nat.Prime.Nth
import Mathlib.NumberTheory.PrimeCounting
import Mathlib.Tactic.Ring
import Kernelradar.Library.Bytes

/-!
The secure hash standard's SHA-256, on bit strings.

* `toBits`, `ofBits`, `bitsOf`: numbers and bytes as bits, most significant first;
* `hexOf`: a bit string in hexadecimal digits;
* `ch` .. `σ₁`, `round`, `schedule`: the functions, a round, the message schedule;
* `K`, `initial`: the constants, from the roots of the first primes;
* `pad`, `hashValue`, `digest`: padding, the blocks one after the other, the digest;
* `fracBits_root`, `padding_eq`: what is needed to recognise a constant and a padding.
-/

namespace Library

/-- The `n` low bits of a number, most significant first. -/
def toBits : ℕ → ℕ → List Bool
  | 0, _ => []
  | n + 1, v => v.testBit n :: toBits n v

/-- A bit string read as a number, most significant bit first. -/
def ofBits : List Bool → ℕ
  | [] => 0
  | b :: bs => b.toNat * 2 ^ bs.length + ofBits bs

/-- The bits of a byte string. -/
def bitsOf (bs : List UInt8) : List Bool := bs.flatMap fun b => toBits 8 b.toNat

/-- Four bits a digit. -/
def hexOf : List Bool → List Char
  | a :: b :: c :: d :: bs => Nat.digitChar (ofBits [a, b, c, d]) :: hexOf bs
  | _ => []

@[simp] lemma toBits_length (n v : ℕ) : (toBits n v).length = n := by
  induction n with
  | zero => rfl
  | succ n ih => rw [toBits, List.length_cons, ih]

lemma ofBits_append (as bs : List Bool) :
    ofBits (as ++ bs) = ofBits as * 2 ^ bs.length + ofBits bs := by
  induction as with
  | nil => rw [List.nil_append, ofBits, Nat.zero_mul, Nat.zero_add]
  | cons a as ih =>
      rw [List.cons_append, ofBits, ofBits, ih, List.length_append, pow_add]
      ring

/-- The low bits of a number, read again. -/
lemma ofBits_toBits (n v : ℕ) : ofBits (toBits n v) = v % 2 ^ n := by
  induction n with
  | zero => rw [toBits, ofBits, pow_zero, Nat.mod_one]
  | succ n ih =>
      rw [toBits, ofBits, ih, toBits_length, Nat.mod_pow_succ, Nat.toNat_testBit, Nat.add_comm,
        Nat.mul_comm]

/-- The bits of a number are the bits of its high and its low part. -/
lemma toBits_add (m n v : ℕ) : toBits (m + n) v = toBits m (v / 2 ^ n) ++ toBits n v := by
  induction m with
  | zero => rw [Nat.zero_add, toBits, List.nil_append]
  | succ m ih =>
      rw [Nat.add_right_comm, toBits, toBits, ih, List.cons_append, Nat.testBit_div_two_pow]

/-- Higher bits do not count. -/
lemma toBits_mod {m n : ℕ} (h : m ≤ n) (v : ℕ) : toBits m (v % 2 ^ n) = toBits m v := by
  induction m with
  | zero => rfl
  | succ m ih =>
      rw [toBits, toBits, ih (Nat.le_of_succ_le h), Nat.testBit_mod_two_pow,
        decide_eq_true (Nat.lt_of_succ_le h), Bool.true_and]

/-- The first digit of a bit string. -/
lemma hexOf_toBits (v : ℕ) (bs : List Bool) :
    hexOf (toBits 4 v ++ bs) = Nat.digitChar (v % 16) :: hexOf bs :=
  congrArg (fun d => Nat.digitChar d :: hexOf bs) (ofBits_toBits 4 v)

@[simp] lemma bitsOf_nil : bitsOf [] = [] := rfl

@[simp] lemma bitsOf_cons (b : UInt8) (bs : List UInt8) :
    bitsOf (b :: bs) = toBits 8 b.toNat ++ bitsOf bs := rfl

@[simp] lemma bitsOf_append (as bs : List UInt8) : bitsOf (as ++ bs) = bitsOf as ++ bitsOf bs :=
  List.flatMap_append

@[simp] lemma bitsOf_length (bs : List UInt8) : (bitsOf bs).length = 8 * bs.length := by
  induction bs with
  | nil => rfl
  | cons b bs ih =>
      rw [bitsOf_cons, List.length_append, toBits_length, ih, List.length_cons]
      ring

/-- Bytes from a place on. -/
lemma drop_bitsOf (n : ℕ) (bs : List UInt8) : (bitsOf bs).drop (8 * n) = bitsOf (bs.drop n) := by
  induction n generalizing bs with
  | zero => rfl
  | succ n ih =>
      cases bs with
      | nil => rw [bitsOf_nil, List.drop_nil, List.drop_nil, bitsOf_nil]
      | cons b bs =>
          rw [bitsOf_cons, List.drop_append, toBits_length, List.drop_eq_nil_of_le
            (by rw [toBits_length]; omega), List.nil_append, List.drop_succ_cons, ← ih]
          congr 1

/-- Bytes up to a place. -/
lemma take_bitsOf (n : ℕ) (bs : List UInt8) : (bitsOf bs).take (8 * n) = bitsOf (bs.take n) := by
  induction n generalizing bs with
  | zero => rfl
  | succ n ih =>
      cases bs with
      | nil => rw [bitsOf_nil, List.take_nil, List.take_nil, bitsOf_nil]
      | cons b bs =>
          have hrest : 8 * (n + 1) - 8 = 8 * n := by omega
          rw [bitsOf_cons, List.take_append, toBits_length, List.take_of_length_le
            (by rw [toBits_length]; omega), List.take_succ_cons, bitsOf_cons, hrest, ih]

lemma bitsOf_zeros (n : ℕ) : bitsOf (List.replicate n 0) = List.replicate (8 * n) false := by
  induction n with
  | zero => rfl
  | succ n ih =>
      rw [List.replicate_succ, bitsOf_cons, ih, Nat.mul_succ, Nat.add_comm, List.replicate_add]
      rfl

/-- A byte string and its bits are the same number. -/
lemma ofBits_bitsOf (bs : List UInt8) : ofBits (bitsOf bs) = beNat bs := by
  have hpow (n : ℕ) : 2 ^ (8 * n) = 256 ^ n := pow_mul 2 8 n
  induction bs with
  | nil => rfl
  | cons b bs ih =>
      rw [bitsOf_cons, ofBits_append, ofBits_toBits, ih, beNat, bitsOf_length, hpow,
        Nat.mod_eq_of_lt b.toNat_lt]

/-- The bits of a number written in bytes. -/
lemma bitsOf_beBytes (n v : ℕ) : bitsOf (beBytes n v) = toBits (8 * n) v := by
  have hpow (n : ℕ) : 2 ^ (8 * n) = 256 ^ n := pow_mul 2 8 n
  induction n with
  | zero => rfl
  | succ n ih =>
      rw [beBytes, bitsOf_cons, ih, UInt8.toNat_ofNat', toBits_mod le_rfl, Nat.mul_succ,
        Nat.add_comm, toBits_add, hpow]

namespace Sha256

/-- A message: the standard is for less than `2 ^ 64` bits. -/
structure Message where
  bits : List Bool
  short : bits.length < 2 ^ 64

/-- A byte string as a message. -/
def Message.ofBytes (bs : List UInt8) (h : bs.length < 2 ^ 61) : Message where
  bits := bitsOf bs
  short := by
    rw [bitsOf_length]
    omega

/-- A word of the standard. -/
abbrev Word := BitVec 32

/-- Rotation to the right. -/
def rotr (n : ℕ) (x : Word) : Word := x >>> n ||| x <<< (32 - n)

def ch (x y z : Word) : Word := x &&& y ^^^ ~~~x &&& z

def maj (x y z : Word) : Word := x &&& y ^^^ x &&& z ^^^ y &&& z

def bigSigma0 (x : Word) : Word := rotr 2 x ^^^ rotr 13 x ^^^ rotr 22 x

def bigSigma1 (x : Word) : Word := rotr 6 x ^^^ rotr 11 x ^^^ rotr 25 x

def sigma0 (x : Word) : Word := rotr 7 x ^^^ rotr 18 x ^^^ x >>> 3

def sigma1 (x : Word) : Word := rotr 17 x ^^^ rotr 19 x ^^^ x >>> 10

/-- The first thirty-two bits of the fractional part. -/
noncomputable def fracBits (x : ℝ) : Word := BitVec.ofNat 32 ⌊Int.fract x * 2 ^ 32⌋₊

/-- The constants: cube roots of the first sixty-four primes. -/
noncomputable def K (t : ℕ) : Word := fracBits ((Nat.nth Nat.Prime t : ℝ) ^ (1 / 3 : ℝ))

/-- The working variables, and the words of a hash value. -/
structure Vars where
  a : Word
  b : Word
  c : Word
  d : Word
  e : Word
  f : Word
  g : Word
  h : Word

/-- The initial hash value: square roots of the first eight primes. -/
noncomputable def initial : Vars :=
  let root (j : ℕ) : Word := fracBits ((Nat.nth Nat.Prime j : ℝ) ^ (1 / 2 : ℝ))
  ⟨root 0, root 1, root 2, root 3, root 4, root 5, root 6, root 7⟩

/-- One of the sixty-four rounds. -/
def round (k w : Word) (v : Vars) : Vars :=
  let t₁ := v.h + bigSigma1 v.e + ch v.e v.f v.g + k + w
  let t₂ := bigSigma0 v.a + maj v.a v.b v.c
  ⟨t₁ + t₂, v.a, v.b, v.c, v.d + t₁, v.e, v.f, v.g⟩

/-- The message schedule of a block. -/
def schedule (m : ℕ → Word) (t : ℕ) : Word :=
  if t < 16 then m t
  else sigma1 (schedule m (t - 2)) + schedule m (t - 7) + sigma0 (schedule m (t - 15)) +
    schedule m (t - 16)

/-- The first rounds. -/
noncomputable def rounds (w : ℕ → Word) (v : Vars) : ℕ → Vars
  | 0 => v
  | t + 1 => round (K t) (w t) (rounds w v t)

/-- Adding hash values, word by word. -/
def Vars.add (v u : Vars) : Vars :=
  ⟨v.a + u.a, v.b + u.b, v.c + u.c, v.d + u.d, v.e + u.e, v.f + u.f, v.g + u.g, v.h + u.h⟩

/-- The words of a hash value one after the other. -/
def Vars.bits (v : Vars) : List Bool :=
  [v.a, v.b, v.c, v.d, v.e, v.f, v.g, v.h].flatMap fun x => toBits 32 x.toNat

lemma exists_padding (l : ℕ) : ∃ k, (l + 1 + k) % 512 = 448 :=
  ⟨(960 - (l + 1) % 512) % 512, by omega⟩

/-- How many zeros the padding has: the smallest solution of `l + 1 + k ≡ 448`. -/
def padding (l : ℕ) : ℕ := Nat.find (exists_padding l)

/-- The padded message. -/
def pad (m : Message) : List Bool :=
  m.bits ++ true :: List.replicate (padding m.bits.length) false ++ toBits 64 m.bits.length

/-- Word `j` of block `i`. -/
def blockWord (padded : List Bool) (i j : ℕ) : Word :=
  BitVec.ofNat 32 (ofBits ((padded.drop (512 * i + 32 * j)).take 32))

/-- The hash value after the first blocks. -/
noncomputable def hashValue (padded : List Bool) : ℕ → Vars
  | 0 => initial
  | i + 1 => (rounds (schedule (blockWord padded i)) (hashValue padded i) 64).add
      (hashValue padded i)

/-- The digest of a message. -/
noncomputable def digest (m : Message) : List Bool :=
  (hashValue (pad m) ((pad m).length / 512)).bits

lemma Vars.add_comm (v u : Vars) : v.add u = u.add v := by
  simp only [add, BitVec.add_comm]

/-- The smallest solution is the only one below 512. -/
lemma padding_eq {l k : ℕ} (hk : k < 512) (h : (l + 1 + k) % 512 = 448) : padding l = k := by
  have hspec := Nat.find_spec (exists_padding l)
  have hmin : padding l ≤ k := Nat.find_min' (exists_padding l) h
  rw [← padding] at hspec
  omega

/-- A root to thirty-two places behind the point. -/
lemma fracBits_root {p k n : ℕ} (hk : k ≠ 0) (hlow : n ^ k ≤ p * (2 ^ 32) ^ k)
    (hhigh : p * (2 ^ 32) ^ k < (n + 1) ^ k) :
    fracBits ((p : ℝ) ^ (1 / (k : ℝ))) = BitVec.ofNat 32 n := by
  set x : ℝ := (p : ℝ) ^ (1 / (k : ℝ)) with hx
  have hx0 : 0 ≤ x := Real.rpow_nonneg (Nat.cast_nonneg p) _
  have hpow : (x * 2 ^ 32) ^ k = ((p * (2 ^ 32) ^ k : ℕ) : ℝ) := by
    rw [mul_pow, hx, one_div, Real.rpow_inv_natCast_pow (Nat.cast_nonneg p) hk, Nat.cast_mul,
      Nat.cast_pow, Nat.cast_pow, Nat.cast_ofNat]
  have hle : (n : ℝ) ≤ x * 2 ^ 32 := by
    refine le_of_pow_le_pow_left₀ hk (by positivity) ?_
    rw [hpow]
    exact_mod_cast hlow
  have hlt : x * 2 ^ 32 < (n : ℝ) + 1 := by
    refine lt_of_pow_lt_pow_left₀ k (by positivity) ?_
    rw [hpow]
    exact_mod_cast hhigh
  -- the whole part of the root is a multiple of 2 ^ 32 in the scaled number
  have hwhole : Int.fract x * 2 ^ 32 = x * 2 ^ 32 - ((⌊x⌋ * 2 ^ 32 : ℤ) : ℝ) := by
    rw [Int.fract]
    push_cast
    ring
  have hfloor : ⌊Int.fract x * 2 ^ 32⌋ = (n : ℤ) - ⌊x⌋ * 2 ^ 32 := by
    have hn : ⌊x * 2 ^ 32⌋ = (n : ℤ) :=
      Int.floor_eq_iff.mpr ⟨by exact_mod_cast hle, by exact_mod_cast hlt⟩
    rw [hwhole, Int.floor_sub_intCast, hn]
  have hwn : 0 ≤ ⌊x⌋ := Int.floor_nonneg.mpr hx0
  have hfn : 0 ≤ ⌊Int.fract x * 2 ^ 32⌋ :=
    Int.floor_nonneg.mpr (mul_nonneg (Int.fract_nonneg x) (by positivity))
  rw [fracBits]
  apply BitVec.eq_of_toNat_eq
  rw [BitVec.toNat_ofNat, BitVec.toNat_ofNat, ← Int.floor_toNat, hfloor]
  omega

end Sha256

end Library
