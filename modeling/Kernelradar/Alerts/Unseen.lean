import Kernelradar.Alerts.Bound

/-!
The first alert of a key.

* `answer_new`: what an entry answers to the check that makes it;
* `unseen_emitted_iff`: under a validated configuration a key that is not in the
  map gets its first alert out exactly if the window has a cap above zero, or the
  first event is a burst;
* `unseen_suppressed`: a validated configuration that suppresses it.
-/

namespace Kernelradar

open Library

namespace KeyState

variable {cfg : RateLimitConfig} {now born : Instant} {severity : Severity}

/-- A new entry in its first check: no window is over, one event is counted. -/
lemma rolled_new (hborn : now ≤ born) (hwindow : 0 < cfg.window) (hburst : 0 < cfg.burstWindow) :
    (rolled cfg now severity (new severity born)).windowCount = 0 ∧
      (rolled cfg now severity (new severity born)).backoffSteps = 0 ∧
      (rolled cfg now severity (new severity born)).burstCount = 1 := by
  have hzero : now.durationSince born = 0 := Int.toNat_eq_zero.mpr (Int.sub_nonpos_of_le hborn)
  have hburst' : ¬cfg.burstWindow ≤ now.durationSince born := by
    rw [hzero]
    exact Nat.not_le.mpr hburst
  have hwindow' : ¬cfg.window ≤ now.durationSince born := by
    rw [hzero]
    exact Nat.not_le.mpr hwindow
  rw [rolled, rollBurst, new]
  dsimp only
  rw [if_neg hburst', rollWindow, if_neg hwindow']
  exact ⟨rfl, rfl, rfl⟩

/-- What a new entry answers. -/
lemma emits_new_iff (hborn : now ≤ born) (hwindow : 0 < cfg.window)
    (hburst : 0 < cfg.burstWindow) :
    (check cfg now severity (new severity born)).2.emits = true ↔
      0 < cfg.windowMax ∨ cfg.burstThreshold = 1 := by
  obtain ⟨hcount, hsteps, hone⟩ := rolled_new hborn hwindow hburst
  have hwithin : within cfg now (rolled cfg now severity (new severity born))
      = decide (0 < cfg.windowMax) := by
    rw [within, requiredGap, if_pos hsteps, hcount]
    simp
  have htriggered : burstTriggered cfg (rolled cfg now severity (new severity born))
      = decide (1 = cfg.burstThreshold) := by
    rw [burstTriggered, hone]
  rcases check_cases cfg now severity (new severity born) with ⟨hw, h⟩ | ⟨hw, hb, h⟩ | ⟨hw, hb, h⟩
  · have hemits : (check cfg now severity (new severity born)).2.emits = true := by
      rw [h]
      dsimp only
      split_ifs <;> rfl
    rw [hwithin, decide_eq_true_eq] at hw
    exact iff_of_true hemits (Or.inl hw)
  · rw [htriggered, decide_eq_true_eq] at hb
    rw [h]
    exact iff_of_true rfl (Or.inr hb.symm)
  · rw [hwithin, decide_eq_false_iff_not] at hw
    rw [htriggered, decide_eq_false_iff_not] at hb
    rw [h]
    exact iff_of_false Bool.false_ne_true (not_or.mpr ⟨hw, fun h' => hb h'.symm⟩)

end KeyState

namespace RateLimiter

open Bootstrap

variable {F : Type} [F64 F]

/-- The check of a key without an entry is the check of a new entry. -/
lemma check_unseen {rl : RateLimiter} {key : Key} (hnew : rl.state.get key = none) (m : Moment)
    (severity : Severity) : (rl.check m key severity).2
      = ((KeyState.new severity m.born).check rl.config m.now severity).2 := by
  rw [(check_eq_soloStep rl m key severity).2, hnew]
  rfl

/-- **An unseen kind of alert**: under a validated configuration, in every state
the limiter can reach, the first check of a key that is not in the map is answered
`Allow` or `Burst` exactly if `window_max` is not zero or `burst_threshold` is one. -/
theorem unseen_emitted_iff (re : RegexCrate) (cfg : Config F) (hvalid : cfg.validate re = [])
    (cs : List Call) (m : Moment) (key : Key) (severity : Severity)
    (hrun : machine.Valid (new (rateLimitConfig cfg.ratelimit)) (cs ++ [.check m key severity]))
    (hnew : (machine.after (new (rateLimitConfig cfg.ratelimit)) cs).state.get key = none) :
    ((machine.after (new (rateLimitConfig cfg.ratelimit)) cs).check m key severity).2.emits = true ↔
      cfg.ratelimit.windowMax ≠ 0 ∨ cfg.ratelimit.burstThreshold = 1 := by
  obtain ⟨hwindow, hburst⟩ := Pipeline.windows_pos hvalid
  have hborn : m.now ≤ m.born := ((machine.along_append _ _ _ _).mp hrun).2.1.2
  rw [check_unseen hnew, after_config]
  refine (KeyState.emits_new_iff hborn hwindow hburst).trans (or_congr ?_ ?_)
  · show 0 < cfg.ratelimit.windowMax.toNat ↔ _
    rw [Nat.pos_iff_ne_zero, ne_eq, ne_eq, ← UInt32.toNat_inj]
    rfl
  · show cfg.ratelimit.burstThreshold.toNat = 1 ↔ _
    rw [← UInt32.toNat_inj]
    rfl

/-- The first alert of a second key, under the defaults. -/
theorem unseen_emitted_default :
    let cfg : Config ℚ := {}
    let a : Key := ⟨"fim", "a", 1⟩
    let b : Key := ⟨"fim", "b", 1⟩
    let cs := [Call.check ⟨0, 0, []⟩ a .alert]
    ((machine.after (new (rateLimitConfig cfg.ratelimit)) cs).check ⟨1, 2, [a]⟩ b .alert).2.emits
      = true := by
  intro cfg a b cs
  exact (unseen_emitted_iff ⟨fun _ => true, fun _ => true, fun _ _ => false⟩ cfg
    (Config.validate_default _) cs ⟨1, 2, [a]⟩ b .alert (by decide) (by decide)).mpr
    (Or.inl (by decide))

/-- Without room in the window: the configuration is accepted, and the very first
alert is suppressed. -/
theorem unseen_suppressed :
    ¬ ∀ (re : RegexCrate) (cfg : Config ℚ), cfg.validate re = [] →
      ∀ (cs : List Call) (m : Moment) (key : Key) (severity : Severity),
      machine.Valid (new (rateLimitConfig cfg.ratelimit)) (cs ++ [.check m key severity]) →
      (machine.after (new (rateLimitConfig cfg.ratelimit)) cs).state.get key = none →
      ((machine.after (new (rateLimitConfig cfg.ratelimit)) cs).check m key severity).2
        ≠ .suppress := by
  intro h
  let re : RegexCrate := ⟨fun _ => true, fun _ => true, fun _ _ => false⟩
  let cfg : Config ℚ := { ratelimit := { windowMax := 0 } }
  have halpha : (10 : ℚ)⁻¹ ≤ 1 := by norm_num
  have hvalid : cfg.validate re = [] := by
    rw [Config.validate, Config.checks]
    simp [Config.issueIf, Config.webhookIssues, BTreeMap.empty, halpha, cfg]
  exact h re cfg hvalid [] ⟨0, 0, []⟩ ⟨"fim", "cat", 1⟩ .critical (by decide) rfl (by decide)

end RateLimiter

end Kernelradar
