import Mathlib.Algebra.Field.Rat
import Mathlib.Algebra.Order.Ring.Rat
import Kernelradar.Core.Event

/-!
`f64`, as far as the program uses it.

Rounding is left open: `F64` lists the operations and literals, and what is
proved with it holds for every choice of them. The instance on `ℚ` computes
without rounding, as `f64` does where all results are representable; its square
root is exact on squares.
-/

namespace Kernelradar

open Library

/-- The operations of `f64` the program uses. -/
class F64 (F : Type) extends Zero F, One F, Add F, Sub F, Mul F, Div F where
  /-- The nearest value: what a literal denotes. -/
  ofRat : ℚ → F
  sqrt : F → F
  /-- `f64::max`. -/
  max : F → F → F
  /-- `a < b`, false where one is NaN. -/
  lt : F → F → Bool
  /-- `a <= b`, false where one is NaN. -/
  le : F → F → Bool
  isFinite : F → Bool
  /-- The format `{}`. -/
  display : F → Text
  /-- The format `{:.1}`. -/
  display1 : F → Text
  /-- `serde_json::Value::from`. -/
  toJson : F → Json

namespace F64

/-- `n as f64`. -/
def ofU64 {F : Type} [F64 F] (n : ℕ) : F := ofRat n

/-- Square root of a rational, exact on squares and rounded down elsewhere. -/
def ratSqrt (q : ℚ) : ℚ := (Nat.sqrt q.num.toNat : ℚ) / Nat.sqrt q.den

instance : F64 ℚ where
  ofRat q := q
  sqrt := ratSqrt
  max a b := if a ≤ b then b else a
  lt a b := decide (a < b)
  le a b := decide (a ≤ b)
  isFinite _ := true
  display q := toString q
  display1 q := toString q
  toJson q := .num (toString q)

@[simp] lemma ofRat_rat (q : ℚ) : (ofRat q : ℚ) = q := rfl

@[simp] lemma ofU64_rat (n : ℕ) : (ofU64 n : ℚ) = n := rfl

@[simp] lemma le_rat (a b : ℚ) : le a b = decide (a ≤ b) := rfl

@[simp] lemma lt_rat (a b : ℚ) : lt a b = decide (a < b) := rfl

@[simp] lemma max_rat (a b : ℚ) : max a b = if a ≤ b then b else a := rfl

@[simp] lemma sqrt_rat (a : ℚ) : sqrt a = ratSqrt a := rfl

@[simp] lemma isFinite_rat (a : ℚ) : isFinite a = true := rfl

end F64

end Kernelradar
