import Kernelradar.Baseline.Steady

/-!
The averages of a bucket, in exact arithmetic.

* `largest`: the largest count observed;
* `mean_mem`, `mean_sq_le_sumsq`: the average lies between zero and it, and its square below
  the average square;
* `WellFormed`, `bucket_wellformed`: what follows for variance, deviation and score.
-/

namespace Kernelradar

open Library

namespace Baseline

open scoped F64.Exact

section

variable {alpha : ℝ} (counts : List ℕ)

/-- The largest of the counts; zero if there are none. -/
def largest (counts : List ℕ) : ℕ := counts.foldr max 0

lemma le_largest {c : ℕ} (h : c ∈ counts) : c ≤ largest counts := List.le_max_of_le h le_rfl

/-- The mean is a mean. -/
lemma mean_mem (hpos : 0 ≤ alpha) (hle : alpha ≤ 1) :
    0 ≤ (replay alpha counts).mean ∧ (replay alpha counts).mean ≤ largest counts := by
  rw [HourBucket.mean, (replay_averages alpha counts).1]
  refine Ewma.averageFrom_mem hpos hle ⟨le_rfl, Nat.cast_nonneg _⟩ fun x hx => ?_
  obtain ⟨c, hc, rfl⟩ := List.mem_map.mp hx
  exact ⟨Nat.cast_nonneg c, Nat.cast_le.mpr (le_largest counts hc)⟩

/-- The square of the mean is at most the mean square. -/
lemma mean_sq_le_sumsq (hpos : 0 ≤ alpha) (hle : alpha ≤ 1) :
    (replay alpha counts).mean ^ 2 ≤ (replay alpha counts).sumsq := by
  obtain ⟨hsum, hsumsq⟩ := replay_averages alpha counts
  rw [HourBucket.mean, hsum, hsumsq, sq]
  exact Ewma.averageFrom_mul_self_le hpos hle (mul_zero (0 : ℝ)).le _

end

/-- A variance that is not negative is not clamped. -/
lemma var_eq {b : HourBucket ℝ} (h : b.mean ^ 2 ≤ b.sumsq) :
    b.var = b.sumsq - b.sum * b.sum := by
  have hif : b.var = if decide (b.sumsq - b.sum * b.sum < 0) = true then (0 : ℝ)
      else b.sumsq - b.sum * b.sum := rfl
  rw [HourBucket.mean, sq] at h
  rw [hif, if_neg]
  rw [decide_eq_true_eq, not_lt]
  exact sub_nonneg.mpr h

/-- The floor of the deviation. -/
lemma half_le_stddev (b : HourBucket ℝ) : 1 / 2 ≤ b.stddev := by
  have hfloor : ((1 / 2 : ℚ) : ℝ) = 1 / 2 := by norm_num
  rw [stddev_real, hfloor]
  exact le_max_right _ _

/-- A larger count has no smaller score. -/
lemma zScore_mono (b : HourBucket ℝ) {x y : ℝ} (h : x ≤ y) : b.zScore x ≤ b.zScore y := by
  have hdev : 0 < b.stddev := one_half_pos.trans_le (half_le_stddev b)
  exact div_le_div_of_nonneg_right (sub_le_sub_right h b.mean) hdev.le

/-- A bucket in order: its mean lies between zero and the largest count, the clamp of its
variance changes nothing, its score is defined and does not fall as the count grows. -/
structure WellFormed (b : HourBucket ℝ) (most : ℕ) : Prop where
  mean_nonneg : 0 ≤ b.mean
  mean_le : b.mean ≤ most
  mean_sq_le : b.mean ^ 2 ≤ b.sumsq
  unclamped : b.var = b.sumsq - b.sum * b.sum
  half_le_stddev : 1 / 2 ≤ b.stddev
  stddev_ne_zero : b.stddev ≠ 0
  zScore_le : ∀ x y : ℝ, x ≤ y → b.zScore x ≤ b.zScore y

/-- **Buckets**: whatever counts a fresh bucket has observed, it is in order. -/
theorem bucket_wellformed {alpha : ℝ} (hpos : 0 < alpha) (hle : alpha ≤ 1) (counts : List ℕ) :
    WellFormed (replay alpha counts) (largest counts) := by
  obtain ⟨hnonneg, hmost⟩ := mean_mem counts hpos.le hle
  have hsq := mean_sq_le_sumsq counts hpos.le hle
  have hdev := half_le_stddev (replay alpha counts)
  exact ⟨hnonneg, hmost, hsq, var_eq hsq, hdev, (one_half_pos.trans_le hdev).ne',
    fun _ _ h => zScore_mono _ h⟩

/-- Three counts at the default weight. -/
theorem bucket_wellformed_three : WellFormed (replay (1 / 10 : ℝ) [4, 0, 7]) 7 :=
  bucket_wellformed (by norm_num) (by norm_num) [4, 0, 7]

end Baseline

end Kernelradar
