import Kernelradar.Dedup.Eviction

/-!
The account of suppressed alerts.

The map holds a count of suppressed alerts for each key, draining pays the
counts out, and every `Suppress` should be in exactly one of the two places.

* `check_ledger`, `call_ledger`: what one call does to the account, with the two
  leaks (an evicted entry takes its count along, a counter wraps around) and the
  one false entry (a burst forced out over the limit is counted although it is
  emitted);
* `suppressed_account_iff`: the account is right in every state of a run exactly when leaks
  and false entries cancel at every step.
-/

namespace Kernelradar

open Library

namespace KeyState

/-- A burst that is emitted although the limit is reached. -/
def forced (cfg : RateLimitConfig) (now : Instant) (severity : Severity) (st : KeyState) : Bool :=
  !within cfg now (rolled cfg now severity st) &&
    burstTriggered cfg (rolled cfg now severity st)

/-- A refusal that takes the suppression counter past `u64::MAX`. -/
def wraps (cfg : RateLimitConfig) (now : Instant) (severity : Severity) (st : KeyState) : Bool :=
  !within cfg now (rolled cfg now severity st) && decide (st.suppressed + 1 = 2 ^ 64)

@[simp] lemma rolled_suppressed (cfg : RateLimitConfig) (now : Instant) (severity : Severity)
    (st : KeyState) : (rolled cfg now severity st).suppressed = st.suppressed := by
  rw [rolled, rollWindow, rollBurst]
  dsimp only
  split_ifs <;> rfl

/-- A counter below `2 ^ 64` gains one, or starts again at zero. -/
lemma wrappingSucc_add {n : ℕ} (hn : n < 2 ^ 64) :
    wrappingSucc n + 2 ^ 64 * (decide (n + 1 = 2 ^ 64)).toNat = n + 1 := by
  rw [wrappingSucc]
  by_cases h : n + 1 = 2 ^ 64
  · simp [h]
  · have hlt : n + 1 < 2 ^ 64 := by omega
    rw [Nat.mod_eq_of_lt hlt, decide_eq_false h]
    rfl

lemma wrappingSucc_lt (n : ℕ) : wrappingSucc n < 2 ^ 64 := Nat.mod_lt _ (Nat.two_pow_pos 64)

lemma check_suppressed_lt {cfg : RateLimitConfig} {now : Instant} {severity : Severity}
    {st : KeyState} (hst : st.suppressed < 2 ^ 64) :
    (check cfg now severity st).1.suppressed < 2 ^ 64 := by
  rcases check_cases cfg now severity st with ⟨-, h⟩ | ⟨-, -, h⟩ | ⟨-, -, h⟩
  · rw [h]
    simpa [letPass] using hst
  · rw [h]
    exact wrappingSucc_lt _
  · rw [h]
    exact wrappingSucc_lt _

/-- What one check does to the count of its own entry. -/
lemma check_ledger (cfg : RateLimitConfig) (now : Instant) (severity : Severity) {st : KeyState}
    (hst : st.suppressed < 2 ^ 64) :
    (check cfg now severity st).1.suppressed + 2 ^ 64 * (wraps cfg now severity st).toNat
      = st.suppressed + (decide ((check cfg now severity st).2 = .suppress)).toNat
        + (forced cfg now severity st).toNat := by
  have hsucc := wrappingSucc_add hst
  rcases check_cases cfg now severity st with ⟨hw, h⟩ | ⟨hw, hb, h⟩ | ⟨hw, hb, h⟩
  · have hdec : (check cfg now severity st).2 ≠ .suppress := by
      rw [h]
      dsimp only
      split_ifs <;> simp
    rw [decide_eq_false hdec, h]
    simp [wraps, forced, hw, letPass]
  · rw [h]
    simp only [wraps, forced, hw, hb, refuse, rolled_suppressed, Bool.not_false, Bool.true_and]
    simpa using hsucc
  · rw [h]
    simp only [wraps, forced, hw, hb, refuse, rolled_suppressed, Bool.not_false, Bool.true_and]
    simpa using hsucc

end KeyState

namespace RateLimiter

/-- The suppressed counts in the map. -/
def held (rl : RateLimiter) : ℕ := rl.state.total KeyState.suppressed

/-- What a drain reports. -/
def drained : Call × Reply → ℕ
  | (_, .drained out) => (out.map fun e => e.2.1).sum
  | (_, .decision _) => 0

/-- One for a check that was answered `Suppress`. -/
def suppressions : Call × Reply → ℕ
  | (_, .drained _) => 0
  | (_, .decision d) => (decide (d = .suppress)).toNat

/-- The count the entry a call evicts still had. -/
def dropped (rl : RateLimiter) : Call → ℕ
  | .check m key _ =>
      Table.weight KeyState.suppressed ((rl.evictee m.order key).bind rl.state.get)
  | .drain _ => 0

/-- The call takes a counter past `u64::MAX`. -/
def wraps (rl : RateLimiter) : Call → Bool
  | .check m key severity => (rl.entryOf m key severity).wraps rl.config m.now severity
  | .drain _ => false

/-- The call forces a burst out over the limit. -/
def forced (rl : RateLimiter) : Call → Bool
  | .check m key severity => (rl.entryOf m key severity).forced rl.config m.now severity
  | .drain _ => false

/-- Every counter is a `u64`. -/
def Bounded (rl : RateLimiter) : Prop :=
  ∀ k st, rl.state.get k = some st → st.suppressed < 2 ^ 64

/-- The step loses as much as it counts too much. -/
def Balanced (rl : RateLimiter) (c : Call) : Prop :=
  rl.dropped c + 2 ^ 64 * (rl.wraps c).toNat = (rl.forced c).toNat

instance (rl : RateLimiter) (c : Call) : Decidable (rl.Balanced c) :=
  inferInstanceAs (Decidable (_ = _))

/-- Eviction takes the dropped count off the total. -/
lemma total_evict (rl : RateLimiter) (order : List Key) (key : Key) :
    (rl.evict order key).total KeyState.suppressed
      + Table.weight KeyState.suppressed ((rl.evictee order key).bind rl.state.get)
      = rl.held := by
  rw [evict]
  cases rl.evictee order key with
  | none => rfl
  | some v => exact Table.total_erase rl.state v _

lemma entryOf_bounded {rl : RateLimiter} (h : rl.Bounded) (m : Moment) (key : Key)
    (severity : Severity) : (rl.entryOf m key severity).suppressed < 2 ^ 64 := by
  rw [entryOf]
  cases hget : (rl.evict m.order key).get key with
  | none => exact Nat.two_pow_pos 64
  | some st =>
      exact h key st (get_of_get_evict hget)

/-- The entry a check finds weighs what the map had for the key: a fresh one
nothing. -/
lemma entryOf_suppressed (rl : RateLimiter) (m : Moment) (key : Key) (severity : Severity) :
    (rl.entryOf m key severity).suppressed
      = Table.weight KeyState.suppressed ((rl.evict m.order key).get key) := by
  rw [entryOf]
  cases (rl.evict m.order key).get key <;> rfl

/-- What a drain pays out is what the map held. -/
lemma drained_eq_held {rl : RateLimiter} {order : List Key} (h : rl.state.Enumerates order) :
    drained (.drain order, (rl.call (.drain order)).2) = rl.held := by
  have hfilter : ∀ l : List (Key × KeyState),
      (((l.filter fun e => 0 < e.2.suppressed).map fun e =>
        (e.1, e.2.suppressed, e.2.severitySeen)).map fun e => e.2.1).sum
      = (l.map fun e => e.2.suppressed).sum := by
    intro l
    induction l with
    | nil => rfl
    | cons e l ih =>
        by_cases he : 0 < e.2.suppressed
        · rw [List.filter_cons_of_pos (by simpa using he)]
          simp only [List.map_cons, List.sum_cons, ih]
        · rw [List.filter_cons_of_neg (by simpa using he), ih, List.map_cons, List.sum_cons]
          omega
  exact (hfilter _).trans (Table.sum_entries h KeyState.suppressed)

/-- **The ledger**: what one call does to the account. -/
theorem call_ledger {rl : RateLimiter} (h : rl.Bounded) {c : Call} (hok : rl.Admissible c) :
    (rl.call c).1.held + drained (c, (rl.call c).2)
        + (rl.dropped c + 2 ^ 64 * (rl.wraps c).toNat)
      = rl.held + suppressions (c, (rl.call c).2) + (rl.forced c).toNat := by
  cases c with
  | drain order =>
      have hpaid := drained_eq_held hok
      have hempty : (rl.call (.drain order)).1.held = 0 :=
        Table.total_mapValues_zero rl.state fun _ => rfl
      rw [hpaid, hempty]
      simp [dropped, wraps, forced, suppressions, call]
  | check m key severity =>
      have hentry := KeyState.check_ledger rl.config m.now severity
        (entryOf_bounded h m key severity)
      have hevict := total_evict rl m.order key
      have hweight := entryOf_suppressed rl m key severity
      have hinsert := Table.total_insert (rl.evict m.order key) key
        (((rl.entryOf m key severity).check rl.config m.now severity).1) KeyState.suppressed
      have hheld : (rl.call (.check m key severity)).1.held = ((rl.evict m.order key).insert key
          ((rl.entryOf m key severity).check rl.config m.now severity).1).total
            KeyState.suppressed := rfl
      have hsupp : suppressions (.check m key severity, (rl.call (.check m key severity)).2)
          = (decide (((rl.entryOf m key severity).check rl.config m.now severity).2
              = .suppress)).toNat := rfl
      rw [hheld, hsupp]
      simp only [drained, dropped, wraps, forced, call]
      omega

lemma bounded_call {rl : RateLimiter} (h : rl.Bounded) (c : Call) : (rl.call c).1.Bounded :=
  entries_call (fun _ _ => Nat.two_pow_pos 64)
    (fun _ _ _ hst => KeyState.check_suppressed_lt hst) (fun _ _ => Nat.two_pow_pos 64) h c

/-- **The account of suppressed alerts**: drained and held counts add up to the
number of `Suppress` answers in every state of a run exactly when, at every
step, the count an eviction drops and the wrap-around of a counter outweigh the
burst forced out over the limit. -/
theorem suppressed_account_iff (cfg : RateLimitConfig) (cs : List Call)
    (hvalid : machine.Valid (new cfg) cs) :
    (∀ n, (machine.after (new cfg) (cs.take n)).held
        + Machine.tally drained (machine.trace (new cfg) (cs.take n))
      = Machine.tally suppressions (machine.trace (new cfg) (cs.take n))) ↔
    machine.Along Balanced (new cfg) cs := by
  have hfresh : (new cfg).Bounded := fun _ _ h => absurd h (by simp [new])
  have hiff := machine.balance_iff held drained suppressions
    (fun rl c => rl.dropped c + 2 ^ 64 * (rl.wraps c).toNat) (fun rl c => (rl.forced c).toNat)
    (fun _ c h _ => bounded_call h c) (fun _ _ h hok => call_ledger h hok) hfresh hvalid
  have hzero : (new cfg).held = 0 := Table.total_empty _
  simp only [hzero, Nat.zero_add] at hiff
  exact hiff

/-- A valid run of two checks and a drain, all of whose steps are balanced. -/
theorem suppressed_account_two :
    let cfg := { RateLimitConfig.default with windowMax := 1 }
    let a : Key := ⟨"fim", "a", 1⟩
    let cs := [Call.check ⟨0, 0, []⟩ a .alert, .check ⟨1, 1, [a]⟩ a .alert, .drain [a]]
    ∀ n, (machine.after (new cfg) (cs.take n)).held
        + Machine.tally drained (machine.trace (new cfg) (cs.take n))
      = Machine.tally suppressions (machine.trace (new cfg) (cs.take n)) := by
  intro cfg a cs
  exact (suppressed_account_iff cfg cs (by decide)).mpr (by decide)

/-- A burst over the limit: it is emitted, and drained as suppressed. -/
theorem forced_burst_drained :
    ¬ ∀ (cfg : RateLimitConfig) (cs : List Call), machine.Valid (new cfg) cs →
      (machine.after (new cfg) cs).held + Machine.tally drained (machine.trace (new cfg) cs)
        = Machine.tally suppressions (machine.trace (new cfg) cs) := by
  intro h
  let a : Key := ⟨"fim", "a", 1⟩
  have hrun := h { RateLimitConfig.default with windowMax := 1, burstThreshold := 2 }
    [.check ⟨0, 0, []⟩ a .alert, .check ⟨0, 0, [a]⟩ a .alert, .drain [a]] (by decide)
  exact absurd hrun (by decide)

end RateLimiter

end Kernelradar
