import Mathlib.Analysis.SpecialFunctions.Pow.Real

/-!
Exponentially weighted moving averages.

* `smooth`: one observation; `iterate_smooth`: what `n` observations of one value
  make of an average;
* `averageFrom`: any observations; `averageFrom_mem`: their average lies between them,
  `averageFrom_mul_self_le`: and its square below the average of the squares;
* `spread_const`: the mean square less the square of the mean, after `n` observations
  of a constant from zero;
* `score_const_lt`: how far below a threshold the standard score of the constant
  itself stays once the weight left on the start is small.
-/

namespace Library

namespace Ewma

section Ring

variable {R : Type*} [CommRing R]

/-- Take `x` into the average `m` with weight `a`. -/
def smooth (a x m : R) : R := a * x + (1 - a) * m

/-- Repeated observations of one value leave the weight `(1 - a) ^ n` on the start. -/
lemma iterate_smooth (a x m : R) (n : ℕ) :
    (smooth a x)^[n] m = x * (1 - (1 - a) ^ n) + (1 - a) ^ n * m := by
  induction n with
  | zero => simp
  | succ n ih =>
      calc (smooth a x)^[n + 1] m
          = a * x + (1 - a) * (x * (1 - (1 - a) ^ n) + (1 - a) ^ n * m) := by
            rw [Function.iterate_succ_apply', ih, smooth]
        _ = x * (1 - (1 - a) ^ (n + 1)) + (1 - a) ^ (n + 1) * m := by ring

lemma iterate_smooth_zero (a x : R) (n : ℕ) :
    (smooth a x)^[n] 0 = x * (1 - (1 - a) ^ n) := by
  rw [iterate_smooth, mul_zero, add_zero]

/-- The average of the squares of a constant, less the square of its average. -/
lemma spread_const (a x : R) (n : ℕ) :
    (smooth a (x * x))^[n] 0 - (smooth a x)^[n] 0 * (smooth a x)^[n] 0
      = (1 - (1 - a) ^ n) * (1 - a) ^ n * (x * x) := by
  rw [iterate_smooth_zero, iterate_smooth_zero]
  ring

/-- The average after a list of observations, from `m`. -/
def averageFrom (a m : R) (xs : List R) : R := xs.foldl (fun m x => smooth a x m) m

lemma averageFrom_concat (a m x : R) (xs : List R) :
    averageFrom a m (xs ++ [x]) = smooth a x (averageFrom a m xs) := by
  rw [averageFrom, List.foldl_append]
  rfl

/-- Repeated observations of one value. -/
lemma averageFrom_replicate (a m x : R) (n : ℕ) :
    averageFrom a m (List.replicate n x) = (smooth a x)^[n] m := by
  induction n with
  | zero => rfl
  | succ n ih =>
      rw [List.replicate_succ', averageFrom_concat, ih, Function.iterate_succ_apply']

end Ring

section Order

variable {R : Type*} [CommRing R] [LinearOrder R] [IsStrictOrderedRing R] {a : R}

/-- An average lies above everything that is taken into it. -/
lemma le_smooth (hpos : 0 ≤ a) (hle : a ≤ 1) {l x m : R} (hx : l ≤ x) (hm : l ≤ m) :
    l ≤ smooth a x m := by
  calc l = a * l + (1 - a) * l := by ring
    _ ≤ smooth a x m := add_le_add (mul_le_mul_of_nonneg_left hx hpos)
        (mul_le_mul_of_nonneg_left hm (sub_nonneg.mpr hle))

/-- And below it. -/
lemma smooth_le (hpos : 0 ≤ a) (hle : a ≤ 1) {u x m : R} (hx : x ≤ u) (hm : m ≤ u) :
    smooth a x m ≤ u := by
  calc smooth a x m ≤ a * u + (1 - a) * u := add_le_add (mul_le_mul_of_nonneg_left hx hpos)
        (mul_le_mul_of_nonneg_left hm (sub_nonneg.mpr hle))
    _ = u := by ring

/-- The square of an average is at most the average of the squares: the difference is a
multiple of the squared distance. -/
lemma smooth_mul_self_le (hpos : 0 ≤ a) (hle : a ≤ 1) {x m s : R} (h : m * m ≤ s) :
    smooth a x m * smooth a x m ≤ smooth a (x * x) s := by
  have hgap : 0 ≤ a * (1 - a) * ((x - m) * (x - m)) :=
    mul_nonneg (mul_nonneg hpos (sub_nonneg.mpr hle)) (mul_self_nonneg _)
  calc smooth a x m * smooth a x m
      = smooth a (x * x) (m * m) - a * (1 - a) * ((x - m) * (x - m)) := by
        rw [smooth, smooth]
        ring
    _ ≤ smooth a (x * x) (m * m) := sub_le_self _ hgap
    _ ≤ smooth a (x * x) s :=
        add_le_add_right (mul_le_mul_of_nonneg_left h (sub_nonneg.mpr hle)) _

/-- **Averages lie between bounds** of the start and of all observations. -/
lemma averageFrom_mem (hpos : 0 ≤ a) (hle : a ≤ 1) {l u m : R} (hm : l ≤ m ∧ m ≤ u)
    {xs : List R} (hxs : ∀ x ∈ xs, l ≤ x ∧ x ≤ u) :
    l ≤ averageFrom a m xs ∧ averageFrom a m xs ≤ u := by
  induction xs generalizing m with
  | nil => exact hm
  | cons x xs ih =>
      obtain ⟨hlow, hhigh⟩ := hxs x List.mem_cons_self
      exact ih ⟨le_smooth hpos hle hlow hm.1, smooth_le hpos hle hhigh hm.2⟩
        fun y hy => hxs y (List.mem_cons_of_mem x hy)

/-- **The variance is not negative**: the square of the average of any observations is at most
the average of their squares. -/
lemma averageFrom_mul_self_le (hpos : 0 ≤ a) (hle : a ≤ 1) {m s : R} (h : m * m ≤ s)
    (xs : List R) :
    averageFrom a m xs * averageFrom a m xs ≤ averageFrom a s (xs.map fun x => x * x) := by
  induction xs generalizing m s with
  | nil => exact h
  | cons x xs ih => exact ih (smooth_mul_self_le hpos hle h)

end Order

/-- The weight left on the start is a fraction. -/
lemma rest_mem {a : ℝ} (hpos : 0 < a) (hle : a ≤ 1) {n : ℕ} (hn : n ≠ 0) :
    0 ≤ (1 - a) ^ n ∧ (1 - a) ^ n < 1 :=
  ⟨pow_nonneg (sub_nonneg.mpr hle) n,
    pow_lt_one₀ (sub_nonneg.mpr hle) (sub_lt_self 1 hpos) hn⟩

/-- A fraction `q` is below `t` times the deviation `√((1 - q) q)`, as soon as
`q (1 + t²) < t²`. -/
lemma lt_mul_sqrt {q t : ℝ} (hq : 0 < q) (hq' : q < 1) (ht : 0 < t)
    (h : q * (1 + t ^ 2) < t ^ 2) : q < t * √((1 - q) * q) := by
  have hsmall : q < t ^ 2 * (1 - q) := by linarith
  have hsq : q ^ 2 < (t * √((1 - q) * q)) ^ 2 := by
    calc q ^ 2 = q * q := sq q
      _ < t ^ 2 * (1 - q) * q := mul_lt_mul_of_pos_right hsmall hq
      _ = t ^ 2 * ((1 - q) * q) := mul_assoc _ _ _
      _ = (t * √((1 - q) * q)) ^ 2 := by
        rw [mul_pow, Real.sq_sqrt (mul_nonneg (sub_pos.mpr hq').le hq.le)]
  exact lt_of_pow_lt_pow_left₀ 2 (mul_nonneg ht.le (Real.sqrt_nonneg _)) hsq

/-- **The score of steady observations**: after `n` observations of `x` from zero, no
value up to `x` scores `t` or more, once the weight left on the start is below
`t² / (1 + t²)`. The deviation may be taken to be at least some `floor`. -/
theorem score_const_lt {a t x y floor : ℝ} {n : ℕ} (hpos : 0 < a) (hle : a ≤ 1) (hn : n ≠ 0)
    (ht : 0 < t) (hx : 0 ≤ x) (hy : y ≤ x) (hfloor : 0 < floor)
    (h : (1 - a) ^ n * (1 + t ^ 2) < t ^ 2) :
    (y - (smooth a x)^[n] 0) /
      max √((smooth a (x * x))^[n] 0 - (smooth a x)^[n] 0 * (smooth a x)^[n] 0) floor < t := by
  obtain ⟨hq, hq'⟩ := rest_mem hpos hle hn
  rw [spread_const, iterate_smooth_zero]
  generalize (1 - a) ^ n = q at h hq hq'
  have hdev : 0 < max √((1 - q) * q * (x * x)) floor := lt_max_of_lt_right hfloor
  rw [div_lt_iff₀ hdev]
  have hgap : y - x * (1 - q) ≤ x * q := by linarith
  refine hgap.trans_lt ?_
  -- nothing left on the start, or nothing observed: the floor decides
  rcases (mul_nonneg hx hq).eq_or_lt with hzero | hxq
  · rw [← hzero]
    exact mul_pos ht hdev
  · have hq0 : 0 < q := hq.lt_of_ne fun heq => by simp [← heq] at hxq
    have hx0 : 0 < x := hx.lt_of_ne fun heq => by simp [← heq] at hxq
    calc x * q < x * (t * √((1 - q) * q)) :=
          mul_lt_mul_of_pos_left (lt_mul_sqrt hq0 hq' ht h) hx0
      _ = t * (√((1 - q) * q) * x) := by ring
      _ = t * √((1 - q) * q * (x * x)) := by
        rw [Real.sqrt_mul (mul_nonneg (sub_pos.mpr hq').le hq), Real.sqrt_mul_self hx]
      _ ≤ t * max √((1 - q) * q * (x * x)) floor :=
        mul_le_mul_of_nonneg_left (le_max_left _ _) ht.le

end Ewma

end Library
