import Kernelradar.Library.Quota
import Kernelradar.Dedup.Solo

/-!
How many alerts one key can get through.

The sliding window and the burst window of an entry are two quotas: `within`
spends from the first, under the cap `window_max`, and hitting the threshold
spends from the second, at most once a window.

* `respects_window`, `respects_burst`: no run of an entry overdraws them;
* `emits_le`: every emission is paid for by one of the two;
* `emissions_le`: the bound for a key from its first check on.
-/

namespace Kernelradar

open Library

namespace KeyState

variable (cfg : RateLimitConfig)

/-- The sliding window as a quota. -/
def windowQuota (st : KeyState) : Quota := ⟨st.windowStart, st.windowCount⟩

/-- The burst window as a quota: spent once the threshold has been counted. -/
def burstQuota (st : KeyState) : Quota :=
  ⟨st.burstStart, if 0 < cfg.burstThreshold ∧ cfg.burstThreshold ≤ st.burstCount then 1 else 0⟩

/-- The check finds room in the sliding window. -/
def admits (now : Instant) (severity : Severity) (st : KeyState) : Bool :=
  within cfg now (rolled cfg now severity st)

/-- The check hits the burst threshold. -/
def triggers (now : Instant) (severity : Severity) (st : KeyState) : Bool :=
  burstTriggered cfg (rolled cfg now severity st)

variable {cfg} {now : Instant} {severity : Severity} {st : KeyState}

variable (cfg now severity st) in
/-- What is emitted was admitted or hit the threshold. -/
lemma emits_toNat_le :
    (check cfg now severity st).2.emits.toNat
      ≤ (admits cfg now severity st).toNat + (triggers cfg now severity st).toNat := by
  rw [admits, triggers]
  rcases check_cases cfg now severity st with ⟨hw, h⟩ | ⟨hw, hb, h⟩ | ⟨hw, hb, h⟩
  · rw [hw]
    exact (Bool.toNat_le _).trans (Nat.le_add_right _ _)
  · rw [h, hw, hb]
    rfl
  · rw [h, hw, hb]
    rfl

variable (cfg now severity st) in
/-- Bringing an entry up to date rolls its sliding window. -/
lemma windowQuota_rolled :
    (rolled cfg now severity st).windowQuota = Quota.roll cfg.window now st.windowQuota := by
  unfold rolled rollWindow rollBurst windowQuota Quota.roll Instant.durationSince
  dsimp only
  split_ifs <;> rfl

/-- A check is one event of the sliding window. -/
lemma windowQuota_check :
    (check cfg now severity st).1.windowQuota
      = Quota.next cfg.window st.windowQuota (now, admits cfg now severity st) := by
  rw [Quota.next, ← windowQuota_rolled cfg now severity st]
  rw [admits]
  rcases check_cases cfg now severity st with ⟨hw, h⟩ | ⟨hw, hb, h⟩ | ⟨hw, hb, h⟩ <;>
    rw [h, hw] <;> rfl

lemma window_room (h : admits cfg now severity st = true) :
    (Quota.roll cfg.window now st.windowQuota).used < cfg.windowMax := by
  rw [← windowQuota_rolled cfg now severity st]
  exact (of_decide_eq_true h).1

variable (cfg now severity st) in
/-- The burst fields of an entry brought up to date. -/
lemma rolled_burst :
    (rolled cfg now severity st).burstStart
        = (if cfg.burstWindow ≤ now.durationSince st.burstStart then now else st.burstStart) ∧
      (rolled cfg now severity st).burstCount
        = min ((if cfg.burstWindow ≤ now.durationSince st.burstStart then 0 else st.burstCount) + 1)
            u32Max := by
  rw [rolled, rollWindow, rollBurst]
  dsimp only
  split_ifs <;> exact ⟨rfl, rfl⟩

variable (cfg now severity st) in
/-- The burst fields after a check. -/
lemma check_burst :
    (check cfg now severity st).1.burstStart
        = (if cfg.burstWindow ≤ now.durationSince st.burstStart then now else st.burstStart) ∧
      (check cfg now severity st).1.burstCount
        = min ((if cfg.burstWindow ≤ now.durationSince st.burstStart then 0 else st.burstCount) + 1)
            u32Max := by
  have hrolled := rolled_burst cfg now severity st
  rcases check_cases cfg now severity st with ⟨-, h⟩ | ⟨-, -, h⟩ | ⟨-, -, h⟩ <;>
    rw [h] <;> exact hrolled

/-- Counting one more event passes the threshold exactly when it hits it, unless
threshold and count are both where the counter saturates. -/
lemma hit_succ {threshold count : ℕ} (hsat : threshold < u32Max ∨ count < u32Max)
    (hmax : threshold ≤ u32Max) :
    (if 0 < threshold ∧ threshold ≤ min (count + 1) u32Max then 1 else 0)
      = (if 0 < threshold ∧ threshold ≤ count then 1 else 0)
        + (decide (min (count + 1) u32Max = threshold)).toNat := by
  by_cases h : min (count + 1) u32Max = threshold
  · have hnot : ¬(0 < threshold ∧ threshold ≤ count) := by omega
    have hhit : 0 < threshold ∧ threshold ≤ min (count + 1) u32Max := by omega
    rw [if_pos hhit, if_neg hnot, decide_eq_true h]
    rfl
  · have hiff : (0 < threshold ∧ threshold ≤ min (count + 1) u32Max)
        ↔ (0 < threshold ∧ threshold ≤ count) := by omega
    simp only [hiff, h, decide_false, Bool.toNat_false, Nat.add_zero]

variable (cfg now st) in
/-- The counter of the running burst window is saturated at the threshold. -/
def saturated : Bool :=
  u32Max ≤ cfg.burstThreshold ∧ u32Max ≤ st.burstCount ∧
    now.durationSince st.burstStart < cfg.burstWindow

lemma not_saturated (h : cfg.burstThreshold < u32Max) : saturated cfg now st = false := by
  simp only [saturated, decide_eq_false_iff_not]
  omega

/-- Below saturation a check is one event of the burst window. -/
lemma burstQuota_check (hmax : cfg.burstThreshold ≤ u32Max) (hsat : saturated cfg now st = false) :
    (check cfg now severity st).1.burstQuota cfg
      = Quota.next cfg.burstWindow (st.burstQuota cfg) (now, triggers cfg now severity st) := by
  have hsame : (check cfg now severity st).1.burstQuota cfg
      = (rolled cfg now severity st).burstQuota cfg := by
    rcases check_cases cfg now severity st with ⟨-, h⟩ | ⟨-, -, h⟩ | ⟨-, -, h⟩ <;>
      rw [h] <;> rfl
  have hbelow : cfg.burstThreshold < u32Max ∨
      (if cfg.burstWindow ≤ now.durationSince st.burstStart then 0 else st.burstCount)
        < u32Max := by
    by_cases hroll : cfg.burstWindow ≤ now.durationSince st.burstStart
    · rw [if_pos hroll]
      exact Or.inr (by decide)
    · rw [if_neg hroll]
      by_contra hboth
      obtain ⟨hthreshold, hcount⟩ := not_or.mp hboth
      exact of_decide_eq_false hsat ⟨not_lt.mp hthreshold, not_lt.mp hcount, not_le.mp hroll⟩
  obtain ⟨hstart, hcount⟩ := rolled_burst cfg now severity st
  rw [hsame]
  unfold triggers burstTriggered burstQuota Quota.next Quota.roll
  rw [hstart, hcount, hit_succ hbelow hmax]
  rw [Instant.durationSince]
  have hzero : ¬(0 < cfg.burstThreshold ∧ cfg.burstThreshold ≤ 0) := by omega
  split_ifs <;> rfl

lemma burst_used_le : (st.burstQuota cfg).used ≤ 1 := by
  rw [burstQuota]
  dsimp only
  split_ifs <;> omega

lemma burst_room (hmax : cfg.burstThreshold ≤ u32Max) (hsat : saturated cfg now st = false)
    (h : triggers cfg now severity st = true) :
    (Quota.roll cfg.burstWindow now (st.burstQuota cfg)).used < 1 := by
  have hle : ((check cfg now severity st).1.burstQuota cfg).used ≤ 1 := burst_used_le
  rw [burstQuota_check hmax hsat, Quota.next, h] at hle
  exact hle

end KeyState

namespace RateLimiter

open KeyState

variable {cfg : RateLimitConfig}

/-- The checks of an entry as quota events: when, and whether `spends`. -/
def events (cfg : RateLimitConfig) (spends : Instant → Severity → KeyState → Bool) :
    KeyState → List Probe → List (ℤ × Bool)
  | _, [] => []
  | st, p :: ps =>
      (p.now, spends p.now p.severity st) ::
        events cfg spends (st.check cfg p.now p.severity).1 ps

/-- The events come when the checks do. -/
lemma events_now (spends : Instant → Severity → KeyState → Bool) : ∀ (ps : List Probe)
    (st : KeyState), (events cfg spends st ps).map Prod.fst = ps.map Probe.now := by
  intro ps
  induction ps with
  | nil => exact fun _ => rfl
  | cons p ps ih =>
      intro st
      rw [events, List.map_cons, List.map_cons, ih]

/-- Every event has the time of one of the checks. -/
lemma events_time {P : Instant → Prop} (spends : Instant → Severity → KeyState → Bool) :
    ∀ {ps : List Probe} (st : KeyState), (∀ p ∈ ps, P p.now) →
      ∀ e ∈ events cfg spends st ps, P e.1 := by
  intro ps st h e he
  have hmem : e.1 ∈ ps.map Probe.now := events_now spends ps st ▸ List.mem_map_of_mem he
  obtain ⟨p, hp, hnow⟩ := List.mem_map.mp hmem
  exact hnow ▸ h p hp

/-- No run overdraws the sliding window. -/
lemma respects_window : ∀ (ps : List Probe) (st : KeyState),
    Quota.Respects cfg.window cfg.windowMax st.windowQuota (events cfg (admits cfg) st ps) := by
  intro ps
  induction ps with
  | nil => exact fun _ => trivial
  | cons p ps ih =>
      intro st
      refine ⟨window_room, ?_⟩
      rw [← windowQuota_check]
      exact ih _

/-- The counter of the entry a probe meets is below saturation. -/
def Unsaturated (cfg : RateLimitConfig) (o : Option KeyState) (p : Probe) : Prop :=
  saturated cfg p.now (o.getD (KeyState.new p.severity p.born)) = false

/-- Below saturation no run overdraws the burst window. -/
lemma respects_burst (hmax : cfg.burstThreshold ≤ u32Max) : ∀ (ps : List Probe) (st : KeyState),
    (solo cfg).Along (Unsaturated cfg) (some st) ps →
    Quota.Respects cfg.burstWindow 1 (st.burstQuota cfg) (events cfg (triggers cfg) st ps) := by
  intro ps
  induction ps with
  | nil => exact fun _ _ => trivial
  | cons p ps ih =>
      intro st h
      have hone : saturated cfg p.now st = false := h.1
      refine ⟨burst_room hmax hone, ?_⟩
      rw [← burstQuota_check hmax hone]
      exact ih _ h.2

lemma unsaturated_of_lt (h : cfg.burstThreshold < u32Max) :
    ∀ (ps : List Probe) (o : Option KeyState), (solo cfg).Along (Unsaturated cfg) o ps
  | [], _ => trivial
  | _ :: ps, _ => ⟨not_saturated h, unsaturated_of_lt h ps _⟩

variable (cfg) in
/-- The emissions of a run, first check first. -/
lemma emits_cons (o : Option KeyState) (p : Probe) (ps : List Probe) :
    ((solo cfg).outs o (p :: ps)).countP Decision.emits
      = (soloStep cfg o p).2.emits.toNat
        + ((solo cfg).outs (soloStep cfg o p).1 ps).countP Decision.emits := by
  show ((soloStep cfg o p).2 :: (solo cfg).outs (soloStep cfg o p).1 ps).countP _ = _
  rw [List.countP_cons, Nat.add_comm]
  cases (soloStep cfg o p).2.emits <;> rfl

variable (cfg) in
/-- Every emission of an entry is paid for by one of its two windows. -/
lemma emits_le : ∀ (ps : List Probe) (st : KeyState),
    ((solo cfg).outs (some st) ps).countP Decision.emits
      ≤ Quota.spent (events cfg (admits cfg) st ps)
        + Quota.spent (events cfg (triggers cfg) st ps) := by
  intro ps
  induction ps with
  | nil => exact fun _ => Nat.zero_le _
  | cons p ps ih =>
      intro st
      have hrest := ih (st.check cfg p.now p.severity).1
      have hone := emits_toNat_le cfg p.now p.severity st
      have hcount := emits_cons cfg (some st) p ps
      simp only [soloStep, Option.getD_some] at hcount
      simp only [events, Quota.spent_cons]
      omega

/-- An absent entry is checked as the fresh one the first check makes. -/
lemma outs_getD (o : Option KeyState) (p : Probe) (ps : List Probe) :
    (solo cfg).outs o (p :: ps)
      = (solo cfg).outs (some (o.getD (KeyState.new p.severity p.born))) (p :: ps) := rfl

/-- The emission bound for an entry that may be in use already when the span
`[t₀, t₁]` begins. -/
lemma emissions_le_of_running {o : Option KeyState} {ps : List Probe} {t₀ t₁ : Instant}
    (hwindow : 0 < cfg.window) (hburst : 0 < cfg.burstWindow) (hmax : cfg.burstThreshold ≤ u32Max)
    (hcap : ∀ st, o = some st → st.windowCount ≤ cfg.windowMax)
    (hsat : (solo cfg).Along (Unsaturated cfg) o ps)
    (htimes : ∀ p ∈ ps, t₀ ≤ p.now ∧ p.now ≤ t₁) :
    ((solo cfg).outs o ps).countP Decision.emits
      ≤ cfg.windowMax * ((t₁ - t₀).toNat / cfg.window + 2)
        + ((t₁ - t₀).toNat / cfg.burstWindow + 2) := by
  cases ps with
  | nil => exact Nat.zero_le _
  | cons p ps =>
      rw [outs_getD]
      have hused : (o.getD (KeyState.new p.severity p.born)).windowQuota.used ≤ cfg.windowMax := by
        cases o with
        | none => exact Nat.zero_le _
        | some st => exact hcap st rfl
      generalize hst : o.getD (KeyState.new p.severity p.born) = st at hused ⊢
      have halong : (solo cfg).Along (Unsaturated cfg) (some st) (p :: ps) := by
        rw [← hst]
        exact hsat
      have hspan : ∀ spends, ∀ e ∈ events cfg spends st (p :: ps), t₀ ≤ e.1 ∧ e.1 ≤ t₁ :=
        fun spends => events_time (P := fun t => t₀ ≤ t ∧ t ≤ t₁) spends st htimes
      have hin := Quota.spent_le_of_running hwindow hused (respects_window (p :: ps) st) (hspan _)
      have hover := Quota.spent_le_of_running hburst burst_used_le
        (respects_burst hmax (p :: ps) st halong) (hspan _)
      have hsum := emits_le cfg (p :: ps) st
      omega

/-- No entry has admitted more than its window allows. -/
lemma windowCount_le (cfg : RateLimitConfig) (cs : List Call) :
    ∀ k st, (machine.after (new cfg) cs).state.get k = some st →
      st.windowCount ≤ cfg.windowMax := by
  have hcheck : ∀ now severity (st : KeyState), st.windowCount ≤ cfg.windowMax →
      (st.check cfg now severity).1.windowCount ≤ cfg.windowMax := by
    intro now severity st hst
    have hnext := Quota.used_next_le (q := st.windowQuota)
      (e := (now, admits cfg now severity st)) hst window_room
    rw [← windowQuota_check] at hnext
    exact hnext
  exact entries_after (P := fun st => st.windowCount ≤ cfg.windowMax) (fun _ _ => Nat.zero_le _)
    hcheck (fun _ hst => hst) cs rfl (fun _ _ h => absurd h (by simp [new]))

/-- **The emission bound.** From its first check on, up to `t₁`, a key that is
not thrown out gets at most `window_max` alerts through for each sliding window
that fits into the time, and one for each burst window. -/
theorem emissions_le (rl : RateLimiter) (cs : List Call) (k : Key) (t₀ t₁ : Instant)
    (hwindow : 0 < rl.config.window) (hburst : 0 < rl.config.burstWindow)
    (hsat : rl.config.burstThreshold < 2 ^ 32 - 1)
    (hvalid : machine.Valid rl cs) (hkeep : machine.Along (Keeps k) rl cs)
    (hfirst : rl.state.get k = none)
    (htimes : ∀ p ∈ probes k cs, t₀ ≤ p.now ∧ p.now ≤ t₁) :
    (decisions k (machine.trace rl cs)).countP Decision.emits
      ≤ rl.config.windowMax * ((t₁ - t₀).toNat / rl.config.window + 1)
        + (t₁ - t₀).toNat / rl.config.burstWindow + 1 := by
  have hagrees : Agrees k rl none := by rw [Agrees, hfirst]
  rw [(decisions_eq_solo hagrees hkeep).1]
  have hnow := probes_now_le (k := k) hvalid
  cases hps : probes k cs with
  | nil => exact Nat.zero_le _
  | cons p ps =>
      rw [hps] at hnow htimes
      have hborn : t₀ ≤ p.born := (htimes p (by simp)).1.trans (hnow p (by simp))
      have hspan : (t₁ - p.born).toNat ≤ (t₁ - t₀).toNat :=
        Int.toNat_le_toNat (Int.sub_le_sub_left hborn t₁)
      have hlast : ∀ spends, ∀ e ∈ events rl.config spends (KeyState.new p.severity p.born)
          (p :: ps), e.1 ≤ t₁ :=
        fun spends => events_time (P := (· ≤ t₁)) spends _ fun q hq => (htimes q hq).2
      have hin := Quota.spent_add_used_le hwindow (Nat.zero_le _)
        (respects_window (p :: ps) (KeyState.new p.severity p.born)) (hlast _)
      have hover := Quota.spent_add_used_le hburst burst_used_le
        (respects_burst hsat.le (p :: ps) (KeyState.new p.severity p.born)
          (unsaturated_of_lt hsat _ _)) (hlast _)
      have hsum := emits_le rl.config (p :: ps) (KeyState.new p.severity p.born)
      have hwin : (t₁ - p.born).toNat / rl.config.window ≤ (t₁ - t₀).toNat / rl.config.window :=
        Nat.div_le_div_right hspan
      have hbur : (t₁ - p.born).toNat / rl.config.burstWindow
          ≤ (t₁ - t₀).toNat / rl.config.burstWindow := Nat.div_le_div_right hspan
      have hmul := Nat.mul_le_mul_left rl.config.windowMax (Nat.add_le_add_right hwin 1)
      change _ + _ ≤ _ * ((t₁ - p.born).toNat / rl.config.window + 1) at hin
      change _ + _ ≤ 1 * ((t₁ - p.born).toNat / rl.config.burstWindow + 1) at hover
      rw [outs_getD, Option.getD_none]
      omega

/-- Four checks of one key within two nanoseconds, under a window of two. -/
theorem emissions_le_four :
    let cfg := { RateLimitConfig.default with windowMax := 1, window := 2, burstThreshold := 3 }
    let a : Key := ⟨"fim", "a", 1⟩
    let cs := [Call.check ⟨0, 0, []⟩ a .alert, .check ⟨1, 1, [a]⟩ a .alert,
      .check ⟨1, 1, [a]⟩ a .alert, .check ⟨2, 2, [a]⟩ a .alert]
    (decisions a (machine.trace (new cfg) cs)).countP Decision.emits ≤ 3 := by
  intro cfg a cs
  have hbound := emissions_le (new cfg) cs a 0 2 (by decide) (by decide) (by decide) (by decide)
    (by decide) rfl (by decide)
  exact hbound.trans (by decide)

end RateLimiter

end Kernelradar
