import Kernelradar.Core.Event
import Kernelradar.Library.Table

/-!
`metrics.rs`: the alert counters. The counters are `u64` and wrap around.

* `recordAlert`, `recordSuppressed`, `recordBurst`, `recordAnomaly`: the updates,
  each one critical section;
* `takeBuckets`: the section in which `emit_summary` empties the hourly buckets;
* `Counts`: a counter shows a number up to its wrap-arounds.
-/

namespace Kernelradar

open Library

/-- `Counters`. -/
structure Counters where
  bucketEmitted : Table (Text × Severity) ℕ
  totalEmitted : Table (Text × Severity) ℕ
  bucketSuppressed : Table (Text × Severity) ℕ
  totalBursts : Table Text ℕ
  totalAnomalies : Table Text ℕ

namespace Counters

/-- `Counters::default`. -/
def empty : Counters := ⟨Table.empty, Table.empty, Table.empty, Table.empty, Table.empty⟩

/-- `*map.entry(k).or_insert(0) += 1`. -/
def bump {K : Type} [DecidableEq K] (t : Table K ℕ) (k : K) : Table K ℕ :=
  t.insert k (((t.get k).getD 0 + 1) % 2 ^ 64)

variable (c : Counters) (detector : Text) (severity : Severity)

/-- `record_alert`. -/
def recordAlert : Counters :=
  { c with
    bucketEmitted := bump c.bucketEmitted (detector, severity)
    totalEmitted := bump c.totalEmitted (detector, severity) }

/-- `record_suppressed`. -/
def recordSuppressed : Counters :=
  { c with bucketSuppressed := bump c.bucketSuppressed (detector, severity) }

/-- `record_burst`. -/
def recordBurst : Counters := { c with totalBursts := bump c.totalBursts detector }

/-- `record_anomaly`. -/
def recordAnomaly : Counters := { c with totalAnomalies := bump c.totalAnomalies detector }

/-- The critical section of `emit_summary`: both buckets are taken out. -/
def takeBuckets : Counters × Table (Text × Severity) ℕ × Table (Text × Severity) ℕ :=
  ({ c with bucketEmitted := Table.empty, bucketSuppressed := Table.empty },
    c.bucketEmitted, c.bucketSuppressed)

/-- `cumulative_totals`. -/
def cumulativeTotals : Table (Text × Severity) ℕ := c.totalEmitted

/-- What a map of counters shows for a key. -/
def count {K : Type} [DecidableEq K] (t : Table K ℕ) (k : K) : ℕ := (t.get k).getD 0

lemma count_bump {K : Type} [DecidableEq K] (t : Table K ℕ) (j k : K) :
    count (bump t j) k = if j = k then (count t k + 1) % 2 ^ 64 else count t k := by
  by_cases h : j = k
  · subst h
    rw [if_pos rfl, count, bump, Table.get_insert_self]
    rfl
  · rw [if_neg h, count, bump, Table.get_insert_of_ne _ _ (Ne.symm h)]
    rfl

/-- A counter shows `n`, up to the times it has wrapped around. -/
def Counts (shown n : ℕ) : Prop := ∃ wraps, shown + 2 ^ 64 * wraps = n

lemma Counts.eq_of_lt {shown n : ℕ} (h : Counts shown n) (hn : n < 2 ^ 64) : shown = n := by
  obtain ⟨wraps, hwraps⟩ := h
  omega

/-- One more on a counter, next to what was taken out of it before. -/
lemma Counts.bump {taken shown n : ℕ} (h : Counts (taken + shown) n) :
    Counts (taken + (shown + 1) % 2 ^ 64) (n + 1) := by
  obtain ⟨wraps, hwraps⟩ := h
  exact ⟨wraps + (shown + 1) / 2 ^ 64, by omega⟩

/-- A counter that is bumped for one key, next to the number it counts. -/
lemma Counts.count_bump {K : Type} [DecidableEq K] {t : Table K ℕ} {j k : K} {taken n : ℕ}
    (h : Counts (taken + count t k) n) :
    Counts (taken + count (Counters.bump t j) k) (n + (decide (j = k)).toNat) := by
  rw [Counters.count_bump]
  split_ifs with hkey
  · rw [decide_eq_true hkey]
    exact h.bump
  · rw [decide_eq_false hkey]
    exact h

lemma Counts.count_bump_zero {K : Type} [DecidableEq K] {t : Table K ℕ} {j k : K} {n : ℕ}
    (h : Counts (count t k) n) :
    Counts (count (Counters.bump t j) k) (n + (decide (j = k)).toNat) := by
  rw [← Nat.zero_add (count _ k)] at h ⊢
  exact h.count_bump

/-- A count that is due is made. -/
lemma Counts.count_due {K : Type} [DecidableEq K] {t : Table K ℕ} {k : K} {n : ℕ}
    (h : Counts (count t k + 1) n) : Counts (count (Counters.bump t k) k) n := by
  rw [Counters.count_bump, if_pos rfl]
  obtain ⟨wraps, hwraps⟩ := h
  exact ⟨wraps + (count t k + 1) / 2 ^ 64, by omega⟩

lemma Counts.add {shown n : ℕ} (h : Counts shown n) (k : ℕ) : Counts (shown + k) (n + k) := by
  obtain ⟨wraps, hwraps⟩ := h
  exact ⟨wraps, by omega⟩

lemma count_bump_of_ne {K : Type} [DecidableEq K] (t : Table K ℕ) {j k : K} (h : j ≠ k) :
    count (bump t j) k = count t k := by
  rw [count_bump, if_neg h]

lemma count_bump_lt {K : Type} [DecidableEq K] {t : Table K ℕ} {k : K} (h : count t k < 2 ^ 64)
    (j : K) : count (bump t j) k < 2 ^ 64 := by
  rw [count_bump]
  split_ifs
  · exact Nat.mod_lt _ (Nat.two_pow_pos 64)
  · exact h

end Counters

end Kernelradar
