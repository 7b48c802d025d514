import Mathlib.Data.Int.Order.Basic
import Mathlib.Tactic.Linarith

/-!
Quotas that are reset lazily.

A `Quota` counts what was spent since its window was opened; the window is
closed, and the next one opened, only when an event comes at least `len` after
its start. `Respects` says that every spending of a trace found room under the
cap.

* `spent_add_used_le`: over any trace up to time `t₁`, what is spent is at most
  the cap for every `len` that fits between the start and `t₁`, and once more;
* `spent_le_of_running`: the same for a quota already running when the span
  begins, which costs one more window;
* `spentIn_le`: in a span of length `len` wherever it begins, at most the cap is
  spent if no window is opened in it after something was spent in it.
-/

namespace Library

/-- A quota: when the current window was opened, and what it has given out. -/
structure Quota where
  start : ℤ
  used : ℕ

namespace Quota

variable (len cap : ℕ)

/-- Open the next window if the current one is over. -/
def roll (now : ℤ) (q : Quota) : Quota := if len ≤ (now - q.start).toNat then ⟨now, 0⟩ else q

/-- One event of a trace: its time, and whether it spent. -/
def next (q : Quota) (e : ℤ × Bool) : Quota :=
  { roll len e.1 q with used := (roll len e.1 q).used + e.2.toNat }

/-- Every spending of the trace found room under the cap. -/
def Respects : Quota → List (ℤ × Bool) → Prop
  | _, [] => True
  | q, e :: es => (e.2 = true → (roll len e.1 q).used < cap) ∧ Respects (next len q e) es

/-- The number of spendings. -/
def spent (es : List (ℤ × Bool)) : ℕ := es.countP Prod.snd

@[simp] lemma spent_nil : spent [] = 0 := rfl

@[simp] lemma spent_cons (e : ℤ × Bool) (es : List (ℤ × Bool)) :
    spent (e :: es) = spent es + e.2.toNat := by
  rw [spent, List.countP_cons, spent]
  cases e.2 <;> rfl

variable {len cap}

/-- An event that finds the window over opens the next one. -/
lemma next_of_le {q : Quota} {e : ℤ × Bool} (h : len ≤ (e.1 - q.start).toNat) :
    next len q e = ⟨e.1, e.2.toNat⟩ := by simp [next, roll, h]

/-- Any other event stays in the window. -/
lemma next_of_not_le {q : Quota} {e : ℤ × Bool} (h : ¬len ≤ (e.1 - q.start).toNat) :
    next len q e = ⟨q.start, q.used + e.2.toNat⟩ := by simp [next, roll, h]

/-- A spending that found room leaves the quota within its cap. -/
lemma used_next_le {q : Quota} {e : ℤ × Bool} (hq : q.used ≤ cap)
    (he : e.2 = true → (roll len e.1 q).used < cap) : (next len q e).used ≤ cap := by
  have hroll : (roll len e.1 q).used ≤ cap := by
    rw [roll]
    split_ifs
    · exact Nat.zero_le cap
    · exact hq
  cases h : e.2 with
  | false => simpa [next, h] using hroll
  | true => simpa [next, h] using Nat.succ_le_of_lt (he h)

/-- A window closed at `now` leaves one `len` less to the end of the span. -/
lemma div_succ_le {t₁ now start : ℤ} (hlen : 0 < len) (hnow : now ≤ t₁)
    (hroll : len ≤ (now - start).toNat) :
    (t₁ - now).toNat / len + 1 ≤ (t₁ - start).toNat / len := by
  have hsum : (t₁ - now).toNat + len ≤ (t₁ - start).toNat := by omega
  calc (t₁ - now).toNat / len + 1 = ((t₁ - now).toNat + len) / len :=
        (Nat.add_div_right _ hlen).symm
    _ ≤ (t₁ - start).toNat / len := Nat.div_le_div_right hsum

/-- **The quota bound.** Counting what the open window has already given out,
a trace up to `t₁` spends at most the cap for each window that can have been
opened since the start. -/
theorem spent_add_used_le (hlen : 0 < len) {t₁ : ℤ} : ∀ {es : List (ℤ × Bool)} {q : Quota},
    q.used ≤ cap → Respects len cap q es → (∀ e ∈ es, e.1 ≤ t₁) →
    spent es + q.used ≤ cap * ((t₁ - q.start).toNat / len + 1) := by
  intro es
  induction es with
  | nil =>
      intro q hq _ _
      rw [spent_nil, Nat.zero_add]
      exact hq.trans (Nat.le_mul_of_pos_right cap (Nat.succ_pos _))
  | cons e es ih =>
      intro q hq hes ht
      have hnext := used_next_le hq hes.1
      have hrest := ih hnext hes.2 fun x hx => ht x (List.mem_cons_of_mem e hx)
      rw [spent_cons]
      by_cases hroll : len ≤ (e.1 - q.start).toNat
      · -- the open window is closed: the rest pays for itself, the cap for it
        have hdiv := div_succ_le hlen (ht e (by simp)) hroll
        rw [next_of_le hroll] at hrest
        simp only at hrest
        have hmono : cap * ((t₁ - e.1).toNat / len + 1 + 1)
            ≤ cap * ((t₁ - q.start).toNat / len + 1) :=
          Nat.mul_le_mul_left cap (Nat.add_le_add_right hdiv 1)
        have hsplit : cap * ((t₁ - e.1).toNat / len + 1 + 1)
            = cap * ((t₁ - e.1).toNat / len + 1) + cap := Nat.mul_succ _ _
        omega
      · rw [next_of_not_le hroll] at hrest
        simp only at hrest
        omega

/-- The bound for a quota that is already running when the span `[t₀, t₁]`
begins. -/
theorem spent_le_of_running (hlen : 0 < len) {t₀ t₁ : ℤ} :
    ∀ {es : List (ℤ × Bool)} {q : Quota}, q.used ≤ cap → Respects len cap q es →
    (∀ e ∈ es, t₀ ≤ e.1 ∧ e.1 ≤ t₁) →
    spent es + q.used ≤ cap * ((t₁ - t₀).toNat / len + 2) := by
  intro es
  induction es with
  | nil =>
      intro q hq _ _
      rw [spent_nil, Nat.zero_add]
      exact hq.trans (Nat.le_mul_of_pos_right cap (Nat.succ_pos _))
  | cons e es ih =>
      intro q hq hes ht
      have hnext := used_next_le hq hes.1
      have hrest := fun x hx => ht x (List.mem_cons_of_mem e hx)
      obtain ⟨h0, h1⟩ := ht e (by simp)
      rw [spent_cons]
      by_cases hroll : len ≤ (e.1 - q.start).toNat
      · -- from here on the window was opened inside the span
        have hspan := spent_add_used_le hlen hnext hes.2 fun x hx => (hrest x hx).2
        rw [next_of_le hroll] at hspan
        simp only at hspan
        have hdiv : (t₁ - e.1).toNat / len ≤ (t₁ - t₀).toNat / len :=
          Nat.div_le_div_right (by omega)
        have hmono : cap * ((t₁ - e.1).toNat / len + 1) ≤ cap * ((t₁ - t₀).toNat / len + 1) :=
          Nat.mul_le_mul_left cap (Nat.add_le_add_right hdiv 1)
        have hsplit : cap * ((t₁ - t₀).toNat / len + 2)
            = cap * ((t₁ - t₀).toNat / len + 1) + cap := Nat.mul_succ _ _
        omega
      · have hlater := ih hnext hes.2 hrest
        rw [next_of_not_le hroll] at hlater
        simp only at hlater
        omega

/-! ### A span wherever it begins -/

/-- An event as an observer sees it: when, whether it opened a window, and
whether it spent. -/
structure Tick where
  now : ℤ
  opens : Bool
  spends : Bool

variable (len) in
/-- The ticks of a trace. -/
def ticks : Quota → List (ℤ × Bool) → List Tick
  | _, [] => []
  | q, e :: es => ⟨e.1, len ≤ (e.1 - q.start).toNat, e.2⟩ :: ticks (next len q e) es

variable (len) in
/-- The number of spendings in `[t, t + len)`. -/
def spentIn (t : ℤ) (ts : List Tick) : ℕ :=
  ts.countP fun k => k.spends && decide (t ≤ k.now ∧ k.now < t + len)

variable (len) in
/-- No window is opened in `[t, t + len)` after something was spent in it. -/
def Unbroken (t : ℤ) (ts : List Tick) : Prop :=
  ts.Pairwise fun a b => a.spends = true → t ≤ a.now → b.opens = true → t + len ≤ b.now

lemma mem_ticks_now {es : List (ℤ × Bool)} : ∀ {q : Quota} {k : Tick}, k ∈ ticks len q es →
    k.now ∈ es.map Prod.fst := by
  induction es with
  | nil => exact fun h => absurd h (by simp [ticks])
  | cons e es ih =>
      intro q k h
      rw [List.map_cons]
      rcases List.mem_cons.mp h with rfl | h'
      · exact List.mem_cons_self
      · exact List.mem_cons_of_mem _ (ih h')

/-- Nothing is spent in a span that is over. -/
lemma spentIn_eq_zero {t : ℤ} {ts : List Tick} (h : ∀ k ∈ ts, t + len ≤ k.now) :
    spentIn len t ts = 0 := by
  rw [spentIn, List.countP_eq_zero]
  intro k hk
  have hout : ¬(t ≤ k.now ∧ k.now < t + len) := fun hin => not_lt.mpr (h k hk) hin.2
  simp [hout]

/-- The span bound with `n` spendings of the span behind: they are in the open
window, and the next window opens only after the span. -/
lemma add_spentIn_le {t : ℤ} : ∀ {es : List (ℤ × Bool)} {q : Quota} {n : ℕ}, n ≤ q.used →
    q.used ≤ cap → Respects len cap q es → (es.map Prod.fst).Pairwise (· ≤ ·) →
    Unbroken len t (ticks len q es) →
    (0 < n → ∀ k ∈ ticks len q es, t ≤ k.now ∧ (k.opens = true → t + len ≤ k.now)) →
    n + spentIn len t (ticks len q es) ≤ cap := by
  intro es
  induction es with
  | nil =>
      intro q n hn hq _ _ _ _
      exact hn.trans hq
  | cons e es ih =>
      intro q n hn hq hes htimes hun hbehind
      have hnext := used_next_le hq hes.1
      rw [List.map_cons, List.pairwise_cons] at htimes
      obtain ⟨hlater, hrest⟩ := List.pairwise_cons.mp hun
      have hlate : ∀ k ∈ ticks len (next len q e) es, e.1 ≤ k.now :=
        fun k hk => htimes.1 _ (mem_ticks_now hk)
      -- `s` is what the event itself adds to the count
      obtain ⟨s, hs⟩ : ∃ s, s = (e.2 && decide (t ≤ e.1 ∧ e.1 < t + len)).toNat := ⟨_, rfl⟩
      have hcount : spentIn len t (ticks len q (e :: es))
          = spentIn len t (ticks len (next len q e) es) + s := by
        rw [ticks, spentIn, List.countP_cons, ← spentIn, hs]
        cases e.2 && decide (t ≤ e.1 ∧ e.1 < t + len) <;> rfl
      have hle : s ≤ e.2.toNat := by
        rw [hs]
        cases e.2 with
        | false => exact le_rfl
        | true => exact Bool.toNat_le _
      have hafter : 0 < s → ∀ k ∈ ticks len (next len q e) es,
          t ≤ k.now ∧ (k.opens = true → t + len ≤ k.now) := by
        intro hpos k hk
        have hin : (e.2 && decide (t ≤ e.1 ∧ e.1 < t + len)) = true := by
          by_contra hnot
          rw [hs, Bool.eq_false_iff.mpr hnot] at hpos
          exact absurd hpos (lt_irrefl 0)
        rw [Bool.and_eq_true, decide_eq_true_eq] at hin
        exact ⟨hin.2.1.trans (hlate k hk), hlater k hk hin.1 hin.2.1⟩
      rw [hcount]
      by_cases hopens : len ≤ (e.1 - q.start).toNat
      · have hopen : (next len q e).used = e.2.toNat := congrArg used (next_of_le hopens)
        rcases Nat.eq_zero_or_pos n with rfl | hpos
        · have hih := ih (hopen ▸ hle) hnext hes.2 htimes.2 hrest hafter
          omega
        · -- the span is over: what it spent is behind
          have hover : t + len ≤ e.1 :=
            (hbehind hpos _ List.mem_cons_self).2 (decide_eq_true hopens)
          have hnone := spentIn_eq_zero fun k hk => hover.trans (hlate k hk)
          have hout : ¬(t ≤ e.1 ∧ e.1 < t + len) := by omega
          have hzero : s = 0 := by rw [hs, decide_eq_false hout, Bool.and_false, Bool.toNat_false]
          omega
      · have hsame : (next len q e).used = q.used + e.2.toNat :=
          congrArg used (next_of_not_le hopens)
        have hih := ih (n := n + s) (by omega) hnext hes.2 htimes.2 hrest (by
          intro hpos k hk
          rcases Nat.eq_zero_or_pos n with rfl | hn
          · exact hafter (by omega) k hk
          · exact hbehind hn k (List.mem_cons_of_mem _ hk))
        omega

/-- **The span bound**: in `[t, t + len)` at most the cap is spent, if no window
is opened there after a spending. -/
theorem spentIn_le {t : ℤ} {es : List (ℤ × Bool)} {q : Quota} (hq : q.used ≤ cap)
    (hes : Respects len cap q es) (htimes : (es.map Prod.fst).Pairwise (· ≤ ·))
    (hun : Unbroken len t (ticks len q es)) : spentIn len t (ticks len q es) ≤ cap := by
  have h := add_spentIn_le (Nat.zero_le q.used) hq hes htimes hun fun h => absurd h (lt_irrefl 0)
  rwa [Nat.zero_add] at h

end Quota

end Library
