import Kernelradar.Library.Ewma
import Kernelradar.Baseline.Restart

/-!
Steady traffic, in exact arithmetic.

* the operations of `f64` on `ℝ`, without rounding;
* `replay_averages`: what the observations build; `replay_const`: `n` of one count;
* `zScore_const_lt`: once it settles, no running count up to that one reaches the
  threshold;
* `Few`, `scored_view`: the running count of a minute, and what an event is scored
  against;
* `steady_traffic_silent`: a further minute with no more events raises nothing.
-/

namespace Kernelradar

open Library

namespace F64.Exact

/-- Real arithmetic. What would be printed is the integer part; nothing here prints. -/
noncomputable scoped instance real : F64 ℝ where
  ofRat q := q
  sqrt := Real.sqrt
  max a b := Max.max a b
  lt a b := decide (a < b)
  le a b := decide (a ≤ b)
  isFinite _ := true
  display x := toString ⌊x⌋
  display1 x := toString ⌊x⌋
  toJson x := .num (toString ⌊x⌋)

end F64.Exact

namespace Baseline

open scoped F64.Exact

/-! ### The bucket -/

/-- What a bucket holds: the average of the counts and the average of their squares. -/
lemma replay_averages (alpha : ℝ) (log : List ℕ) :
    (replay alpha log).sum = Ewma.averageFrom alpha 0 (log.map fun n : ℕ => (n : ℝ)) ∧
      (replay alpha log).sumsq
        = Ewma.averageFrom alpha 0 ((log.map fun n : ℕ => (n : ℝ)).map fun x => x * x) := by
  induction log using List.reverseRecOn with
  | nil => exact ⟨rfl, rfl⟩
  | append_singleton log c ih =>
      have hcast : (F64.ofU64 c : ℝ) = c := Rat.cast_natCast c
      have hnext : replay alpha (log ++ [c]) = (replay alpha log).observe c alpha := by
        rw [replay, List.foldl_append]
        rfl
      rw [hnext, List.map_append, List.map_append, List.map_singleton, List.map_singleton,
        Ewma.averageFrom_concat, Ewma.averageFrom_concat, ← ih.1, ← ih.2]
      refine ⟨?_, ?_⟩
      · show alpha * F64.ofU64 c + (1 - alpha) * _ = alpha * c + (1 - alpha) * _
        rw [hcast]
      · show alpha * F64.ofU64 c * F64.ofU64 c + (1 - alpha) * _
          = alpha * (c * c) + (1 - alpha) * _
        rw [hcast, mul_assoc]

/-- The averages of a bucket that has observed one count only. -/
lemma replay_const (alpha : ℝ) (c n : ℕ) :
    (replay alpha (List.replicate n c)).sum = (Ewma.smooth alpha (c : ℝ))^[n] 0 ∧
      (replay alpha (List.replicate n c)).sumsq
        = (Ewma.smooth alpha ((c : ℝ) * c))^[n] 0 := by
  obtain ⟨hsum, hsumsq⟩ := replay_averages alpha (List.replicate n c)
  rw [hsum, hsumsq, List.map_replicate, List.map_replicate, Ewma.averageFrom_replicate,
    Ewma.averageFrom_replicate]
  exact ⟨rfl, rfl⟩

/-- After `n` observations the weight left on the empty bucket is below
`τ² / (1 + τ²)`. -/
def Settles (config : BaselineConfig ℝ) (n : ℕ) : Prop :=
  (1 - config.alpha) ^ n * (1 + config.scoreThreshold ^ 2) < config.scoreThreshold ^ 2

/-- A negative variance and none have the same square root. -/
lemma stddev_real (b : HourBucket ℝ) :
    b.stddev = max √(b.sumsq - b.sum * b.sum) (((1 / 2 : ℚ) : ℝ)) := by
  have hvar : √b.var = √(b.sumsq - b.sum * b.sum) := by
    have hif : b.var = if decide (b.sumsq - b.sum * b.sum < 0) = true then (0 : ℝ)
        else b.sumsq - b.sum * b.sum := rfl
    rw [hif]
    split_ifs with hneg
    · rw [Real.sqrt_zero, Real.sqrt_eq_zero_of_nonpos (of_decide_eq_true hneg).le]
    · rfl
  exact congrArg (fun x => max x (((1 / 2 : ℚ) : ℝ))) hvar

/-- No running count up to the one observed reaches the threshold. -/
lemma zScore_const_lt {config : BaselineConfig ℝ} (hpos : 0 < config.alpha)
    (hle : config.alpha ≤ 1) (ht : 0 < config.scoreThreshold) {n : ℕ} (hn : 1 ≤ n)
    (h : Settles config n) {c y : ℕ} (hy : y ≤ c) :
    (replay config.alpha (List.replicate n c)).zScore (F64.ofU64 y) < config.scoreThreshold := by
  obtain ⟨hsum, hsumsq⟩ := replay_const config.alpha c n
  have hcast : (F64.ofU64 y : ℝ) = y := Rat.cast_natCast y
  have hfloor : (0 : ℝ) < ((1 / 2 : ℚ) : ℝ) := by norm_num
  have hscore := Ewma.score_const_lt hpos hle (Nat.one_le_iff_ne_zero.mp hn) ht
    (Nat.cast_nonneg c) (Nat.cast_le.mpr hy) hfloor h
  rw [HourBucket.zScore, HourBucket.mean, stddev_real, hsum, hsumsq, hcast]
  exact hscore

/-- The defaults settle after 24 observations. -/
lemma settles_default {n : ℕ} (hn : 24 ≤ n) : Settles .default n := by
  have halpha : (BaselineConfig.default : BaselineConfig ℝ).alpha = 1 / 10 := by
    show (((1 / 10 : ℚ)) : ℝ) = 1 / 10
    norm_num
  have hthreshold : (BaselineConfig.default : BaselineConfig ℝ).scoreThreshold = 3 := by
    show ((3 : ℚ) : ℝ) = 3
    norm_num
  have hpow : (9 / 10 : ℝ) ^ n ≤ (9 / 10) ^ 24 :=
    pow_le_pow_of_le_one (by norm_num) (by norm_num) hn
  rw [Settles, halpha, hthreshold]
  calc (1 - 1 / 10 : ℝ) ^ n * (1 + 3 ^ 2) = (9 / 10) ^ n * 10 := by norm_num
    _ ≤ (9 / 10) ^ 24 * 10 := mul_le_mul_of_nonneg_right hpow (by norm_num)
    _ < 3 ^ 2 := by norm_num

/-! ### A minute -/

section Minute

variable {F : Type} [F64 F]

/-- The events of a pair. -/
def eventsOf (k : Text) (cs : List Call) : List Call :=
  cs.filter fun call => key call.detector call.comm = k

/-- An event of the pair is scored against a bucket that has received `n`
observations of `c` since it was empty, and no others. -/
def Steady (k : Text) (n c : ℕ) (s : Logged F) (call : Call) : Prop :=
  key call.detector call.comm = k → s.base.evict call.now call.order ≠ none →
    (loggedStep s call).1.log k call.now.hour = List.replicate n c

/-- An event of the pair raises nothing, where the dates are in range. -/
def Silent (k : Text) (s : Logged F) (call : Call) : Prop :=
  key call.detector call.comm = k →
    (s.base.recordAndScore call).2 = .score none ∨ (s.base.recordAndScore call).2 = .panicked ∧
      (s.base.evict call.now call.order = none ∨ s.base.learningUntil = none)

/-- In the minute `m` the pair has counted at most `j` events. -/
def Few (m : ℤ) (j : ℕ) (v : View) : Prop := ∀ e, v.minute = some e → e.1 = m → e.2 ≤ j

/-- Eviction takes the count away or leaves it. -/
lemma Few.kept {m : ℤ} {j : ℕ} {v : View} (h : Few m j v) (kept : Bool) :
    Few m j (if kept then v else View.gone) := by
  cases kept with
  | false => exact nofun
  | true => exact h

/-- An event in the minute counts one more. -/
lemma Few.hit {m : ℤ} {j : ℕ} {v : View} (h : Few m j v) {now : DateTime}
    (hnow : curMin now = m) : Few m (j + 1) (v.hit now) := by
  have hsat : ∀ a, satAdd a 1 ≤ a + 1 := fun a => min_le_left _ _
  intro e he _
  obtain rfl := Option.some.inj he
  rw [hnow, rollOver]
  dsimp only
  split_ifs with hentry
  · calc satAdd 0 1 ≤ 0 + 1 := hsat 0
      _ ≤ j + 1 := Nat.succ_le_succ (Nat.zero_le j)
  · have hold : (v.minute.getD (m, 0)).2 ≤ j := by
      cases hv : v.minute with
      | none => exact Nat.zero_le j
      | some e =>
          rw [hv] at hentry
          exact h e hv (not_not.mp hentry)
    calc satAdd (v.minute.getD (m, 0)).2 1 ≤ (v.minute.getD (m, 0)).2 + 1 := hsat _
      _ ≤ j + 1 := Nat.succ_le_succ hold

/-- What an event is scored against: the replay of the log of its bucket, with the
running count of its minute. -/
lemma scored_view {s : Logged F} (hs : Replays s) {c : Call} {b : Baseline F}
    (hev : s.base.evict c.now c.order = some b) :
    ∃ e, ((loggedStep s c).1.view (key c.detector c.comm)).minute = some e ∧
      (s.base.recordAndScore c).2 = (s.base.recordAndScore c).1.score c.now
        (replay s.base.config.alpha ((loggedStep s c).1.log (key c.detector c.comm) c.now.hour))
        e.2 := by
  have hnext := (replays_step hs c) (key c.detector c.comm)
  have hbase : (loggedStep s c).1.base = (s.base.recordAndScore c).1 := loggedStep_base s c
  rw [Logged.view, ← recordAndScore_config s.base c]
  rw [hbase] at hnext ⊢
  rw [recordAndScore_of_evict hev] at hnext ⊢
  obtain ⟨p, hp⟩ : ∃ p, (b.record c.now (key c.detector c.comm)).pairs.get
      (key c.detector c.comm) = some p := ⟨_, pairs_record_self _ _ _⟩
  obtain ⟨e, he⟩ : ∃ e, (b.record c.now (key c.detector c.comm)).curMinute.get
      (key c.detector c.comm) = some e := ⟨_, curMinute_record_self _ _ _⟩
  refine ⟨e, he, ?_⟩
  rw [scoreOf, hp, he, Option.getD_some, Option.getD_some]
  exact congrArg (fun bucket => score _ c.now bucket e.2) (hnext.2 p hp c.now.hour)

/-- A count below the threshold raises nothing. -/
lemma score_of_below {b : Baseline F} (now : DateTime) {bucket : HourBucket F} {count : ℕ}
    (h : F64.le b.config.scoreThreshold (bucket.zScore (F64.ofU64 count)) = false) :
    b.score now bucket count = .score none ∨
      b.score now bucket count = .panicked ∧ b.learningUntil = none := by
  rw [score]
  cases b.learningUntil with
  | none => exact Or.inr ⟨rfl, rfl⟩
  | some learning =>
      left
      dsimp only
      rw [h, if_neg Bool.false_ne_true]
      split_ifs <;> rfl

/-- The count of the pair after a call in the minute, and the minute it is of. -/
lemma few_call {k : Text} {m : ℤ} {j : ℕ} {s : Logged F} (hcovered : s.base.Covered)
    (h : Few m j (s.view k)) {call : Call}
    (hminute : key call.detector call.comm = k → curMin call.now = m) :
    Few m (j + (eventsOf k [call]).length) ((loggedStep s call).1.view k) := by
  have hle : j ≤ j + (eventsOf k [call]).length := Nat.le_add_right _ _
  cases hev : s.base.evict call.now call.order with
  | none =>
      rw [loggedStep_of_panic hev]
      exact fun e he hm => (h e he hm).trans hle
  | some b =>
      rw [view_step hcovered hev, View.step]
      by_cases hk : k = key call.detector call.comm
      · subst hk
        have hone : (eventsOf (key call.detector call.comm) [call]).length = 1 := by
          simp [eventsOf]
        rw [hone, decide_eq_true rfl]
        exact (h.kept _).hit (hminute rfl)
      · rw [decide_eq_false hk]
        exact fun e he hm => (h.kept _ e he hm).trans hle

/-- The minute an event is counted in is the one it happens in. -/
lemma minute_hit {v : View} {now : DateTime} {e : ℤ × ℕ} (h : (v.hit now).minute = some e) :
    e.1 = curMin now := by
  obtain rfl := Option.some.inj h
  rw [rollOver]
  dsimp only
  split_ifs with hentry
  · rfl
  · exact not_not.mp hentry

/-- One event of the minute. -/
lemma silent_step {k : Text} {m : ℤ} {n c : ℕ} {s : Logged F} (hcovered : s.base.Covered)
    (hs : Replays s) (hbelow : ∀ y ≤ c, F64.le s.base.config.scoreThreshold
      ((replay s.base.config.alpha (List.replicate n c)).zScore (F64.ofU64 y)) = false)
    {call : Call} (hminute : key call.detector call.comm = k → curMin call.now = m)
    (hsteady : Steady k n c s call)
    (hfew : Few m c ((loggedStep s call).1.view k)) : Silent k s call := by
  rintro rfl
  cases hev : s.base.evict call.now call.order with
  | none =>
      have hpanic : (s.base.recordAndScore call).2 = .panicked := by
        rw [recordAndScore_of_panic hev]
      exact Or.inr ⟨hpanic, Or.inl rfl⟩
  | some b =>
      obtain ⟨e, he, hout⟩ := scored_view hs hev
      have hscored : s.base.evict call.now call.order ≠ none := by
        rw [hev]
        exact Option.some_ne_none b
      have hlog := hsteady rfl hscored
      have hin : e.1 = m := by
        rw [view_step hcovered hev, decide_eq_true rfl] at he
        exact (minute_hit he).trans (hminute rfl)
      have hconfig : (s.base.recordAndScore call).1.config = s.base.config :=
        recordAndScore_config s.base call
      have hlearning : (s.base.recordAndScore call).1.learningUntil = s.base.learningUntil := by
        rw [recordAndScore_of_evict hev]
        show b.learningUntil = s.base.learningUntil
        exact learningUntil_evict hev
      have hscore := hbelow e.2 (hfew e he hin)
      rw [← hconfig] at hscore
      rw [hout, hlog, ← hconfig]
      rcases score_of_below call.now hscore with hnone | ⟨hpanic, hdates⟩
      · exact Or.inl hnone
      · exact Or.inr ⟨hpanic, Or.inr (hlearning.symm.trans hdates)⟩

/-- The events of a minute, one after the other. -/
lemma silent_run {k : Text} {m : ℤ} {n c : ℕ} {config : BaselineConfig F}
    (hbelow : ∀ y ≤ c, F64.le config.scoreThreshold
      ((replay config.alpha (List.replicate n c)).zScore (F64.ofU64 y)) = false) :
    ∀ {minute : List Call} {s : Logged F} {j : ℕ}, s.base.config = config → s.base.Covered →
      Replays s → Few m j (s.view k) → (∀ call ∈ eventsOf k minute, curMin call.now = m) →
      j + (eventsOf k minute).length ≤ c → logged.Along (Steady k n c) s minute →
      logged.Along (Silent k) s minute := by
  intro minute
  induction minute with
  | nil => exact fun _ _ _ _ _ _ _ => trivial
  | cons call minute ih =>
      intro s j hconfig hcovered hs hfew hminute hlen hsteady
      have hsplit : eventsOf k (call :: minute) = eventsOf k [call] ++ eventsOf k minute :=
        List.filter_append [call] minute
      rw [hsplit, List.length_append, ← Nat.add_assoc] at hlen
      have hcall : key call.detector call.comm = k → curMin call.now = m := by
        intro hk
        refine hminute call ?_
        rw [hsplit]
        exact List.mem_append_left _ (List.mem_filter.mpr ⟨List.mem_cons_self, decide_eq_true hk⟩)
      have hnext := few_call hcovered hfew hcall
      have hcount : Few m c ((loggedStep s call).1.view k) := by
        intro e he hm
        calc e.2 ≤ j + (eventsOf k [call]).length := hnext e he hm
          _ ≤ j + (eventsOf k [call]).length + (eventsOf k minute).length := Nat.le_add_right _ _
          _ ≤ c := hlen
      have hbelow' := hbelow
      rw [← hconfig] at hbelow'
      have hbase : (loggedStep s call).1.base = (s.base.recordAndScore call).1 :=
        loggedStep_base s call
      refine ⟨silent_step hcovered hs hbelow' hcall hsteady.1 hcount, ih ?_ ?_
        (replays_step hs call) hnext (fun call' h' => hminute call' ?_) hlen hsteady.2⟩
      · rw [logged_step, hbase, recordAndScore_config, hconfig]
      · rw [logged_step, hbase]
        exact covered_step hcovered call
      · rw [hsplit]
        exact List.mem_append_right _ h'

/-- The baselines a process can hold under one configuration, with what their buckets
have received since they were empty. -/
inductive Recorded (config : BaselineConfig F) : Logged F → Prop where
  | start (now : DateTime) : Recorded config (fresh config now)
  | call {s : Logged F} (c : Call) (hs : Recorded config s) : Recorded config (loggedStep s c).1
  | load {s : Logged F} (now : DateTime) (hs : Recorded config s) :
      Recorded config (restart config now s)
  | reset {s : Logged F} (now : DateTime) (hs : Recorded config s) :
      Recorded config ⟨s.base.reset now, fun _ _ => []⟩

lemma Recorded.config_eq {config : BaselineConfig F} {s : Logged F} (h : Recorded config s) :
    s.base.config = config := by
  induction h with
  | start now => rfl
  | load now hs ih => rfl
  | reset now hs ih => exact ih
  | call c hs ih => rw [loggedStep_base, recordAndScore_config, ih]

lemma Recorded.covered {config : BaselineConfig F} {s : Logged F} (h : Recorded config s) :
    s.base.Covered := by
  induction h with
  | start now => exact covered_new config now
  | load now hs ih => exact covered_loadOrDefault config now _
  | reset now hs ih => exact covered_reset _ now
  | call c hs ih =>
      rw [loggedStep_base]
      exact covered_step ih c

lemma Recorded.replays {config : BaselineConfig F} {s : Logged F} (h : Recorded config s) :
    Replays s := by
  induction h with
  | start now => exact replays_fresh config now
  | load now hs ih => exact replays_restart ih hs.config_eq
  | reset now hs ih => exact fun _ => ⟨fun _ => rfl, fun _ hp => by cases hp⟩
  | call c hs ih => exact replays_step ih c

end Minute

/-- **No false alarm on steady traffic.** In real arithmetic, for `0 < alpha ≤ 1`, a
threshold `τ > 0` and `(1 - alpha) ^ n (1 + τ²) < τ²`, as the defaults have it from
`n = 24` on: no count up to `c` scores `τ` against a bucket that has received `n`
observations of `c` since it was empty; so in a further minute of a pair, with at most
`c` events scored against such a bucket, none of them raises anything. -/
theorem steady_traffic_silent :
    (∀ n, 24 ≤ n → Settles .default n) ∧
    ∀ (config : BaselineConfig ℝ) (n c : ℕ), 0 < config.alpha → config.alpha ≤ 1 →
      0 < config.scoreThreshold → 1 ≤ n → Settles config n →
      (∀ y ≤ c, (replay config.alpha (List.replicate n c)).zScore (F64.ofU64 y)
        < config.scoreThreshold) ∧
      ∀ (s : Logged ℝ) (minute : List Call) (k : Text) (m : ℤ), Recorded config s →
        (∀ e ∈ s.base.curMinute.get k, e.1 ≠ m) →
        (∀ call ∈ eventsOf k minute, curMin call.now = m) →
        (eventsOf k minute).length ≤ c → logged.Along (Steady k n c) s minute →
        logged.Along (Silent k) s minute := by
  refine ⟨fun n hn => settles_default hn, fun config n c hpos hle ht hn hsettles => ?_⟩
  have hbelow : ∀ y ≤ c, (replay config.alpha (List.replicate n c)).zScore (F64.ofU64 y)
      < config.scoreThreshold := fun y hy => zScore_const_lt hpos hle ht hn hsettles hy
  refine ⟨hbelow, fun s minute k m hs hfurther hminute hlen hsteady => ?_⟩
  have hnone : Few m 0 (s.view k) := fun e he hm => absurd hm (hfurther e he)
  refine silent_run (fun y hy => decide_eq_false (not_le.mpr (hbelow y hy))) hs.config_eq
    hs.covered hs.replays hnone hminute ?_ hsteady
  rw [Nat.zero_add]
  exact hlen

/-- One event a minute, after a learning phase of one second: the fifth minute is scored
against four observations, and raises nothing. -/
theorem steady_traffic_silent_fifth :
    let config := { (BaselineConfig.default : BaselineConfig ℝ) with
      alpha := 1 / 2, learningSecs := 1, minSamplesForScoring := 4 }
    let seen (seconds : ℤ) : Call := ⟨seconds * DateTime.nanos, [], "fim", "cat"⟩
    let s := logged.after (fresh config 0) [seen 10, seen 70, seen 130, seen 190]
    logged.Along (Silent (key "fim" "cat")) s [seen 250] := by
  intro config seen s
  have hthreshold : config.scoreThreshold = 3 := by
    show ((3 : ℚ) : ℝ) = 3
    norm_num
  have halpha : config.alpha = 1 / 2 := rfl
  have hsettles : Settles config 4 := by
    rw [Settles, hthreshold, halpha]
    norm_num
  have hrun := (steady_traffic_silent.2 config 4 1 (by rw [halpha]; norm_num)
    (by rw [halpha]; norm_num) (by rw [hthreshold]; norm_num) (by decide) hsettles).2 s [seen 250]
    (key "fim" "cat") 4 (.call _ (.call _ (.call _ (.call _ (.start 0)))))
  exact hrun (by decide) (by decide) (by decide) ⟨fun _ _ => by decide, trivial⟩

end Baseline

end Kernelradar
