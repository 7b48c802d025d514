import Kernelradar.Dedup.Answers

/-!
The sliding window against an interval wherever it begins.

The window of an entry is reset as a whole, so that an interval of its length
can see the emissions of two windows.

* `answers_tick`: the answers of an entry are the ticks of its window's quota;
* `letThrough_le`: the cap holds in `[t, t + window)` if no window is opened there
  after an emission;
* `reset_doubles`: it does not hold otherwise.
-/

namespace Kernelradar

open Library

namespace RateLimiter

/-- The answer as an event of the sliding window. -/
def Answer.tick (a : Answer) : Quota.Tick := ⟨a.now, a.reopens, a.within⟩

/-- How many answers in `[t, t + window)` came from the branch under the limit. -/
def letThrough (cfg : RateLimitConfig) (t : Instant) (as : List Answer) : ℕ :=
  as.countP fun a => a.within && decide (t ≤ a.now ∧ a.now < t + cfg.window)

/-- No check in `[t, t + window)` opens a window after one that was let through
there. -/
def OneWindow (cfg : RateLimitConfig) (t : Instant) (as : List Answer) : Prop :=
  as.Pairwise fun a b => a.within = true → t ≤ a.now → b.reopens = true → t + cfg.window ≤ b.now

instance (cfg : RateLimitConfig) (t : Instant) (as : List Answer) :
    Decidable (OneWindow cfg t as) := inferInstanceAs (Decidable (List.Pairwise _ _))

/-- The answers of an entry are the ticks of its sliding window. -/
lemma answers_tick (cfg : RateLimitConfig) : ∀ (ps : List Probe) (st : KeyState),
    ((answering cfg).outs (some st) ps).map Answer.tick
      = Quota.ticks cfg.window st.windowQuota (events cfg (KeyState.admits cfg) st ps) := by
  intro ps
  induction ps with
  | nil => exact fun _ => rfl
  | cons p ps ih =>
      intro st
      have hrest := ih (st.check cfg p.now p.severity).1
      rw [KeyState.windowQuota_check] at hrest
      rw [Machine.outs_cons, List.map_cons, events, Quota.ticks, ← hrest]
      rfl

/-- The bound for an entry that is in use already. -/
lemma letThrough_le_of_running {cfg : RateLimitConfig} {st : KeyState} {ps : List Probe}
    {t : Instant} (hst : st.windowCount ≤ cfg.windowMax)
    (htimes : ps.Pairwise fun p q => p.now ≤ q.now)
    (hone : OneWindow cfg t ((answering cfg).outs (some st) ps)) :
    letThrough cfg t ((answering cfg).outs (some st) ps) ≤ cfg.windowMax := by
  have hticks := answers_tick cfg ps st
  have hsorted : ((events cfg (KeyState.admits cfg) st ps).map Prod.fst).Pairwise (· ≤ ·) := by
    rw [events_now, List.pairwise_map]
    exact htimes
  have hunbroken : Quota.Unbroken cfg.window t
      (Quota.ticks cfg.window st.windowQuota (events cfg (KeyState.admits cfg) st ps)) := by
    rw [← hticks, Quota.Unbroken, List.pairwise_map]
    exact hone
  have hbound := Quota.spentIn_le hst (respects_window ps st) hsorted hunbroken
  rw [← hticks, Quota.spentIn, List.countP_map] at hbound
  exact hbound

/-- **The cap of an interval**: from the first check of a kept key on, at most
`window_max` checks in `[t, t + window)` are let through under the limit, if no
check opens a window there after one that was let through. -/
theorem letThrough_le (rl : RateLimiter) (cs : List Call) (k : Key) (t : Instant)
    (hkeep : machine.Along (Keeps k) rl cs) (hfirst : rl.state.get k = none)
    (htimes : (probes k cs).Pairwise fun p q => p.now ≤ q.now)
    (hone : OneWindow rl.config t (answers k rl cs)) :
    letThrough rl.config t (answers k rl cs) ≤ rl.config.windowMax := by
  rw [answers_eq_of_first hfirst hkeep] at hone ⊢
  cases hps : probes k cs with
  | nil => exact Nat.zero_le _
  | cons p ps =>
      rw [hps] at htimes hone
      have hnew : (KeyState.new p.severity p.born).windowCount ≤ rl.config.windowMax :=
        Nat.zero_le _
      exact letThrough_le_of_running hnew htimes hone

/-- Two checks at the start of a window and one more a window later. -/
theorem letThrough_le_three :
    let cfg := { RateLimitConfig.default with windowMax := 1, window := 2 }
    let a : Key := ⟨"fim", "a", 1⟩
    let cs := [Call.check ⟨0, 0, []⟩ a .alert, .check ⟨1, 1, [a]⟩ a .alert,
      .check ⟨2, 2, [a]⟩ a .alert]
    letThrough cfg 0 (answers a (new cfg) cs) ≤ 1 := by
  intro cfg a cs
  exact letThrough_le (new cfg) cs a 0 (by decide) rfl (by decide) (by decide)

/-- With a cap of two, three checks are let through within two seconds: the
window opened at time zero takes the one at 59 s, its successor those at 60 s
and 61 s. -/
theorem reset_doubles :
    ¬ ∀ (cfg : RateLimitConfig) (cs : List Call) (k : Key) (t : Instant),
      machine.Valid (new cfg) cs → machine.Along (Keeps k) (new cfg) cs →
      ((probes k cs).Pairwise fun p q => p.now ≤ q.now) →
      letThrough cfg t (answers k (new cfg) cs) ≤ cfg.windowMax := by
  intro h
  let a : Key := ⟨"fim", "a", 1⟩
  have hrun := h { RateLimitConfig.default with windowMax := 2 }
    [.check ⟨0, 0, []⟩ a .alert, .check ⟨59000000000, 59000000000, [a]⟩ a .alert,
      .check ⟨60000000000, 60000000000, [a]⟩ a .alert,
      .check ⟨61000000000, 61000000000, [a]⟩ a .alert] a 59000000000
    (by decide) (by decide) (by decide)
  exact absurd hrun (by decide)

end RateLimiter

end Kernelradar
