import Kernelradar.Baseline.Eviction
import Kernelradar.Cli.Bootstrap

/-!
Where the date arithmetic of the baseline panics.

* `InSpan`, `LearningDated`, `EvictionDated`: what `chrono` can represent, in terms of
  the settings and the clock;
* `panicked_iff`: which calls panic;
* `Use`, `serving`: a process that records, asks, resets and restarts, in any order;
* `never_panics_iff`: it never panics exactly if at each step the dates it needs are
  in range;
* `accepted_config_panics`: a validated configuration that panics at the first event.
-/

namespace Kernelradar

open Library

namespace DateTime

/-- The seconds a `chrono::Duration` can hold. -/
def InSpan (s : ℤ) : Prop := -9223372036854775 ≤ s ∧ s ≤ 9223372036854775

instance (s : ℤ) : Decidable (InSpan s) := inferInstanceAs (Decidable (_ ∧ _))

lemma seconds_eq_none {s : ℤ} : seconds s = none ↔ ¬InSpan s := by
  rw [seconds]
  split_ifs with h
  · exact iff_of_false nofun fun hnot => hnot h
  · exact iff_of_true rfl h

lemma seconds_of_inSpan {s : ℤ} (h : InSpan s) : seconds s = some (s * nanos) := if_pos h

lemma add_eq_none {t d : ℤ} : add t d = none ↔ inRange (t + d) = false := by
  rw [add]
  cases inRange (t + d) with
  | false => exact iff_of_true rfl rfl
  | true => exact iff_of_false nofun nofun

lemma sub_eq_none {t d : ℤ} : sub t d = none ↔ inRange (t - d) = false := by
  rw [sub]
  cases inRange (t - d) with
  | false => exact iff_of_true rfl rfl
  | true => exact iff_of_false nofun nofun

/-- A duration that is built and then used for a date. -/
lemma bind_seconds_eq_none {s : ℤ} {f : ℤ → Option DateTime} :
    (seconds s).bind f = none ↔ ¬(InSpan s ∧ f (s * nanos) ≠ none) := by
  by_cases h : InSpan s
  · rw [seconds_of_inSpan h, Option.bind_some, not_and, not_not]
    exact ⟨fun hf _ => hf, fun hf => hf h⟩
  · rw [seconds_eq_none.mpr h]
    exact iff_of_true rfl fun hs => h hs.1

end DateTime

namespace Baseline

variable {F : Type}

/-- `learning_secs`, as the code casts it, is a duration, and takes the start to a date. -/
def LearningDated (b : Baseline F) : Prop :=
  DateTime.InSpan (asI64 b.config.learningSecs) ∧
    DateTime.inRange (b.started + asI64 b.config.learningSecs * DateTime.nanos) = true

/-- `evict_age_hours` is a duration, and takes the instant of the call back to a date. -/
def EvictionDated (b : Baseline F) (now : DateTime) : Prop :=
  DateTime.InSpan (b.config.evictAgeHours * 3600) ∧
    DateTime.inRange (now - b.config.evictAgeHours * 3600 * DateTime.nanos) = true

instance (b : Baseline F) : Decidable b.LearningDated := inferInstanceAs (Decidable (_ ∧ _))

instance (b : Baseline F) (now : DateTime) : Decidable (b.EvictionDated now) :=
  inferInstanceAs (Decidable (_ ∧ _))

lemma learningUntil_eq_none {b : Baseline F} : b.learningUntil = none ↔ ¬b.LearningDated := by
  rw [learningUntil, DateTime.bind_seconds_eq_none, LearningDated, ne_eq, DateTime.add_eq_none,
    Bool.not_eq_false]

lemma cutoffAt_eq_none {b : Baseline F} {now : DateTime} :
    b.cutoffAt now = none ↔ ¬b.EvictionDated now := by
  rw [cutoffAt, DateTime.hours, DateTime.bind_seconds_eq_none, EvictionDated, ne_eq,
    DateTime.sub_eq_none, Bool.not_eq_false]

variable [F64 F]

/-- Scoring panics where the end of the learning phase is no date. -/
lemma score_eq_panicked {b : Baseline F} {now : DateTime} {bucket : HourBucket F} {count : ℕ} :
    b.score now bucket count = .panicked ↔ ¬b.LearningDated := by
  rw [← learningUntil_eq_none, score]
  cases b.learningUntil with
  | none => exact iff_of_true rfl rfl
  | some learning =>
      refine iff_of_false ?_ nofun
      dsimp only
      split_ifs <;> nofun

/-- **Which calls panic**: all of them without an end of the learning phase, and those
at the cap without a cutoff. -/
lemma panicked_iff {b : Baseline F} {c : Call} : (b.recordAndScore c).2 = .panicked ↔
    ¬(b.LearningDated ∧ (b.config.pairsMax ≤ b.pairs.len → b.EvictionDated c.now)) := by
  cases hev : b.evict c.now c.order with
  | none =>
      obtain ⟨hcap, hcutoff⟩ := evict_eq_none.mp hev
      have hpanic : (b.recordAndScore c).2 = .panicked := by rw [recordAndScore_of_panic hev]
      exact iff_of_true hpanic fun h => cutoffAt_eq_none.mp hcutoff (h.2 hcap)
  | some b' =>
      have hsame : b'.LearningDated ↔ b.LearningDated := by
        rw [← not_iff_not, ← learningUntil_eq_none, ← learningUntil_eq_none,
          learningUntil_evict hev]
      have hdated : b.config.pairsMax ≤ b.pairs.len → b.EvictionDated c.now := by
        intro hcap
        by_contra hnot
        have hnone : b.evict c.now c.order = none :=
          evict_eq_none.mpr ⟨hcap, cutoffAt_eq_none.mpr hnot⟩
        rw [hev] at hnone
        cases hnone
      rw [recordAndScore_of_evict hev, scoreOf, score_eq_panicked, and_iff_left hdated]
      exact not_congr hsame

omit [F64 F] in
/-- `in_learning` panics without an end of the learning phase. -/
lemma inLearning_eq_none {b : Baseline F} {now : DateTime} :
    b.inLearning now = none ↔ ¬b.LearningDated := by
  rw [inLearning, Option.map_eq_none_iff, learningUntil_eq_none]

/-! ### Runs -/

/-- What a process does with its baseline. -/
inductive Use (F : Type) where
  /-- `record_and_score`. -/
  | record (c : Call)
  /-- `in_learning`. -/
  | ask (now : DateTime)
  /-- `reset_global`. -/
  | reset (now : DateTime)
  /-- The process saves its baseline and starts again, under a configuration of its
  own. -/
  | restart (config : BaselineConfig F) (now : DateTime)

/-- What it is answered. -/
inductive Reply (F : Type) where
  | scored (o : Outcome F)
  | learning (o : Option Bool)
  | done

/-- The answer is a panic. -/
def Reply.Panics : Reply F → Prop
  | .scored o => o = .panicked
  | .learning o => o = none
  | .done => False

/-- One use. A panic poisons the lock, and the next use goes on with the state it left. -/
def use (b : Baseline F) : Use F → Baseline F × Reply F
  | .record c => ((b.recordAndScore c).1, .scored (b.recordAndScore c).2)
  | .ask now => (b, .learning (b.inLearning now))
  | .reset now => (b.reset now, .done)
  | .restart config now => (loadOrDefault config now b.save, .done)

/-- The uses as a machine. -/
def serving : Machine (Baseline F) (Use F) (Reply F) where
  step := use
  ok b u := match u with
    | .record c => b.Admissible c
    | _ => True

@[simp] lemma serving_step (b : Baseline F) (u : Use F) : serving.step b u = b.use u := rfl

/-- The dates a use needs are in range. -/
def Dated (b : Baseline F) : Use F → Prop
  | .record c =>
      b.LearningDated ∧ (b.config.pairsMax ≤ b.pairs.len → b.EvictionDated c.now)
  | .ask _ => b.LearningDated
  | .reset _ => True
  | .restart _ _ => True

lemma panics_use_iff (b : Baseline F) (u : Use F) : (b.use u).2.Panics ↔ ¬b.Dated u := by
  cases u with
  | record c => exact panicked_iff
  | ask now => exact inLearning_eq_none
  | reset now => exact iff_of_false id (not_not_intro trivial)
  | restart config now => exact iff_of_false id (not_not_intro trivial)

/-- **No panic**: whatever a process does with a baseline, from any state, none of it
panics exactly if at each step the dates it needs are in range. -/
theorem never_panics_iff (us : List (Use F)) : ∀ b : Baseline F,
    (∀ r ∈ serving.outs b us, ¬r.Panics) ↔ serving.Along Dated b us := by
  induction us with
  | nil => exact fun b => iff_of_true (fun _ hr => absurd hr List.not_mem_nil) trivial
  | cons u us ih =>
      intro b
      rw [Machine.outs_cons, List.forall_mem_cons, Machine.along_cons, ih, serving_step,
        panics_use_iff, not_not]

/-- A validated `learning_secs` just below `2 ^ 63`: the first event panics. -/
theorem accepted_config_panics :
    ¬ ∀ (re : RegexCrate) (cfg : Config ℚ), cfg.validate re = [] →
      ∀ (started : DateTime) (us : List (Use ℚ)),
        serving.Valid (new (Bootstrap.baselineConfig cfg.baseline) started) us →
        ∀ r ∈ serving.outs (new (Bootstrap.baselineConfig cfg.baseline) started) us,
          ¬r.Panics := by
  intro h
  let re : RegexCrate := ⟨fun _ => true, fun _ => true, fun _ _ => false⟩
  let cfg : Config ℚ := { baseline := { learningSecs := 2 ^ 63 - 1 } }
  have halpha : (10 : ℚ)⁻¹ ≤ 1 := by norm_num
  have hvalid : cfg.validate re = [] := by
    rw [Config.validate, Config.checks]
    simp [Config.issueIf, Config.webhookIssues, BTreeMap.empty, halpha, cfg]
  let b := new (Bootstrap.baselineConfig cfg.baseline) 0
  let c : Call := ⟨10, [], "fim", "cat"⟩
  have hpanic : (b.use (.record c)).2.Panics :=
    (panics_use_iff b _).mpr fun hdated => absurd hdated.1 (by decide)
  have hroom : b.Admissible c := admissible_of_room (by decide) c
  exact h re cfg hvalid 0 [.record c] ⟨hroom, trivial⟩ _ List.mem_cons_self hpanic

end Baseline

end Kernelradar
