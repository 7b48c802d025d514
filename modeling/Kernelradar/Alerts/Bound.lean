import Kernelradar.Cli.Bootstrap
import Kernelradar.Detectors.Util
import Kernelradar.Dedup.Rate

/-!
How many records `print_alert` emits for one key.

* `printAlert_cases`, `records_length_le`: what one call can hand to `emit`;
* `Restrained`: the call is not refused and anomalous at once, and the burst
  counter of its entry is below saturation;
* `run_projects`: the limiter's part of a run on one key is a run of its entry;
* `records_le`: the bound for restrained runs.
-/

namespace Kernelradar

open Library

namespace Baseline

variable {F : Type} [F64 F]

/-- The event finds its pair past the warm-up, with enough samples in the bucket
of the hour, and its count reaches the threshold. -/
def anomalous (b : Baseline F) (c : Call) : Bool :=
  match b.evict c.now c.order with
  | none => false
  | some b =>
      let b := b.record c.now (key c.detector c.comm)
      let stats := (b.pairs.get (key c.detector c.comm)).getD PairStats.empty
      let minute := (b.curMinute.get (key c.detector c.comm)).getD (curMin c.now, 0)
      b.learningUntil.any fun learning =>
        learning ≤ c.now && b.config.minSamplesForScoring ≤ (stats.buckets c.now.hour).samples
          && F64.le b.config.scoreThreshold
            ((stats.buckets c.now.hour).zScore (F64.ofU64 minute.2))

/-- The score is reported exactly for the anomalous events. -/
lemma anomalous_of_score {b : Baseline F} {c : Call} {z : F}
    (h : (b.recordAndScore c).2 = .score (some z)) : b.anomalous c = true := by
  rw [recordAndScore] at h
  rw [anomalous]
  cases hev : b.evict c.now c.order with
  | none => rw [hev] at h; cases h
  | some b' =>
      rw [hev] at h
      dsimp only [scoreOf, score] at h ⊢
      cases hl : (b'.record c.now (key c.detector c.comm)).learningUntil with
      | none => rw [hl] at h; cases h
      | some learning =>
          rw [hl] at h
          dsimp only at h
          split_ifs at h with hwarm hfew hle
          · cases h
          · cases h
          · rw [Option.any_some, hle, Bool.and_true]
            simp only [Bool.and_eq_true, decide_eq_true_eq]
            exact ⟨not_lt.mp hwarm, not_lt.mp hfew⟩
          · cases h

end Baseline

namespace Pipeline

variable {F : Type} [F64 F]

/-- The map entry a call works on. -/
def entryOf (p : Pipeline F) (c : Call) : KeyState :=
  p.limiter.entryOf c.checked (keyOf c.alert) c.alert.severity

/-- The limiter's entry is over its limit and does not hit the threshold. -/
def refused (p : Pipeline F) (c : Call) : Bool :=
  !KeyState.admits p.limiter.config c.checked.now c.alert.severity (p.entryOf c)
    && !KeyState.triggers p.limiter.config c.checked.now c.alert.severity (p.entryOf c)

/-- The event is not refused and anomalous at once, and the burst counter of its
entry is below saturation. -/
def Restrained (p : Pipeline F) (c : Call) : Prop :=
  (p.refused c = false ∨ p.baseline.anomalous (scoring c) = false) ∧
    KeyState.saturated p.limiter.config c.checked.now (p.entryOf c) = false

instance (p : Pipeline F) (c : Call) : Decidable (p.Restrained c) :=
  inferInstanceAs (Decidable (_ ∧ _))

/-- Everything a call can do: panic in the baseline before the limiter is asked,
or emit what score and decision ask for. -/
lemma printAlert_cases (p : Pipeline F) (c : Call) :
    ((p.baseline.recordAndScore (scoring c)).2 = .panicked ∧
      p.printAlert c = ({ p with baseline := (p.baseline.recordAndScore (scoring c)).1 }, [])) ∨
    ∃ z, (p.baseline.recordAndScore (scoring c)).2 = .score z ∧
      (p.printAlert c).1.limiter
        = (p.limiter.check c.checked (keyOf c.alert) c.alert.severity).1 ∧
      (p.printAlert c).2
        = records c z (p.limiter.check c.checked (keyOf c.alert) c.alert.severity).2 := by
  rw [printAlert]
  dsimp only
  cases (p.baseline.recordAndScore (scoring c)).2 with
  | panicked => exact Or.inl ⟨rfl, rfl⟩
  | score z => exact Or.inr ⟨z, rfl, rfl, rfl⟩

/-- A decision emits at most three records, and none at all if it suppresses an
event that is not anomalous. -/
lemma records_length_le {c : Call} {z : Option F} {d : Decision}
    (h : d = .suppress → z = none) : (records c z d).length ≤ 3 * d.emits.toNat := by
  have hmarker : (anomalies c z).length ≤ 1 := by cases z <;> simp [anomalies]
  cases d with
  | suppress => simp [records, anomalies, h rfl]
  | allow => simp only [records, List.length_cons, Decision.emits, Bool.toNat_true]; omega
  | burst => simp only [records, List.length_cons, Decision.emits, Bool.toNat_true]; omega

omit [F64 F] in
/-- The limiter suppresses only what it refuses. -/
lemma refused_of_suppress {p : Pipeline F} {c : Call}
    (h : (p.limiter.check c.checked (keyOf c.alert) c.alert.severity).2 = .suppress) :
    p.refused c = true := by
  change ((p.entryOf c).check p.limiter.config c.checked.now c.alert.severity).2 = _ at h
  rw [refused, KeyState.admits, KeyState.triggers]
  rcases KeyState.check_cases p.limiter.config c.checked.now c.alert.severity (p.entryOf c) with
    ⟨hw, hc⟩ | ⟨hw, hb, hc⟩ | ⟨hw, hb, hc⟩
  · rw [hc] at h
    dsimp only at h
    split_ifs at h
  · rw [hc] at h
    cases h
  · rw [hw, hb]
    rfl

/-- The limiter's view of a call: nothing where the baseline panics. -/
def probeOf (p : Pipeline F) (c : Call) : List RateLimiter.Probe :=
  match (p.baseline.recordAndScore (scoring c)).2 with
  | .panicked => []
  | .score _ => [⟨c.checked.now, c.checked.born, c.alert.severity⟩]

/-- The limiter's view of a run. -/
def probes : Pipeline F → List Call → List RateLimiter.Probe
  | _, [] => []
  | p, c :: cs => p.probeOf c ++ probes (p.printAlert c).1 cs

/-- Every probe has the time of one of the calls. -/
lemma probes_time {P : Instant → Prop} : ∀ {cs : List Call} {p : Pipeline F},
    (∀ c ∈ cs, P c.checked.now) → ∀ q ∈ probes p cs, P q.now := by
  intro cs
  induction cs with
  | nil =>
      intro p _ q hq
      exact absurd hq (by simp [probes])
  | cons c cs ih =>
      intro p h q hq
      rcases List.mem_append.mp hq with hone | hrest
      · have hqc : q = ⟨c.checked.now, c.checked.born, c.alert.severity⟩ := by
          rw [probeOf] at hone
          split at hone
          · cases hone
          · exact List.mem_singleton.mp hone
        rw [hqc]
        exact h c (by simp)
      · exact ih (fun d hd => h d (List.mem_cons_of_mem c hd)) q hrest

/-- **One key**: the limiter's part of a run on one key is a run of its entry,
and a restrained run emits at most three records for each emission of it. -/
theorem run_projects {k : Key} : ∀ {cs : List Call} {p : Pipeline F},
    (∀ c ∈ cs, keyOf c.alert = k) → machine.Along Restrained p cs →
    (RateLimiter.solo p.limiter.config).Along (RateLimiter.Unsaturated p.limiter.config)
        (p.limiter.state.get k) (probes p cs) ∧
      (machine.outs p cs).flatten.length
        ≤ 3 * ((RateLimiter.solo p.limiter.config).outs (p.limiter.state.get k)
            (probes p cs)).countP Decision.emits := by
  intro cs
  induction cs with
  | nil => exact fun _ _ => ⟨trivial, Nat.zero_le _⟩
  | cons c cs ihcs =>
      intro p hkey hrun
      have hck : keyOf c.alert = k := hkey c (by simp)
      have ih := ihcs (p := (p.printAlert c).1)
        (fun d hd => hkey d (List.mem_cons_of_mem c hd)) hrun.2
      obtain ⟨hside, hsat⟩ := hrun.1
      have houts : (machine.outs p (c :: cs)).flatten.length
          = (p.printAlert c).2.length + (machine.outs (p.printAlert c).1 cs).flatten.length := by
        rw [Machine.outs, Machine.trace_cons, List.map_cons, List.flatten_cons, List.length_append]
        rfl
      rw [houts]
      rcases p.printAlert_cases c with ⟨hpanic, hp⟩ | ⟨z, hscore, hlimiter, hrecords⟩
      · have hprobe : p.probeOf c = [] := by rw [probeOf, hpanic]
        rw [hp] at ih ⊢
        simp only [probes, hprobe, List.nil_append, hp, List.length_nil, Nat.zero_add]
        exact ih
      · have hprobe : p.probeOf c = [⟨c.checked.now, c.checked.born, c.alert.severity⟩] := by
          rw [probeOf, hscore]
        obtain ⟨hget, hdec⟩ :=
          p.limiter.check_eq_soloStep c.checked (keyOf c.alert) c.alert.severity
        have hquiet : (p.limiter.check c.checked (keyOf c.alert) c.alert.severity).2 = .suppress →
            z = none := by
          intro hsup
          cases z with
          | none => rfl
          | some z =>
              rcases hside with hadm | hcalm
              · rw [refused_of_suppress hsup] at hadm
                cases hadm
              · rw [Baseline.anomalous_of_score hscore] at hcalm
                cases hcalm
        have hlen := records_length_le (c := c) hquiet
        have hconfig : (p.printAlert c).1.limiter.config = p.limiter.config := by
          rw [hlimiter, RateLimiter.check_config]
        rw [hconfig, hlimiter] at ih
        rw [hck] at hget hdec ih
        rw [hget] at ih
        simp only [probes, hprobe, List.singleton_append]
        refine ⟨⟨?_, ih.1⟩, ?_⟩
        · rw [RateLimiter.Unsaturated, ← p.limiter.get_evict_self c.checked.order k, ← hck]
          exact hsat
        · rw [hrecords, hck]
          rw [hck] at hlen
          rw [RateLimiter.emits_cons, ← hdec]
          have hrest := ih.2
          omega

open Bootstrap

/-- The bound: three records for each emission the two windows have room for. -/
def recordsBound (rl : RateLimitTomlConfig) (T : Duration) : ℕ :=
  3 * (rl.windowMax.toNat * (T / Duration.fromSecs rl.windowSecs + 2)
    + (T / Duration.fromSecs rl.burstWindowSecs + 2))

/-- A validated configuration has windows of positive length. -/
lemma windows_pos {re : RegexCrate} {cfg : Config F} (h : cfg.validate re = []) :
    0 < (rateLimitConfig cfg.ratelimit).window ∧
      0 < (rateLimitConfig cfg.ratelimit).burstWindow := by
  have hwindow : cfg.ratelimit.windowSecs ≠ 0 := of_decide_eq_false <|
    Config.issueIf_eq_nil.mp (Config.check_of_valid h (by simp [Config.checks]) :
      Config.issueIf (cfg.ratelimit.windowSecs = 0) .windowSecs = [])
  have hburst : cfg.ratelimit.burstWindowSecs ≠ 0 := of_decide_eq_false <|
    Config.issueIf_eq_nil.mp (Config.check_of_valid h (by simp [Config.checks]) :
      Config.issueIf (cfg.ratelimit.burstWindowSecs = 0) .burstWindowSecs = [])
  exact ⟨Nat.mul_pos (Nat.pos_of_ne_zero hwindow) (by decide),
    Nat.mul_pos (Nat.pos_of_ne_zero hburst) (by decide)⟩

/-- **The record bound.** For a validated configuration, any state of the
baseline and any state the limiter can be in, a restrained run of `print_alert`
for one key within a time `T` emits no more records, markers included, than a
bound that depends on configuration and `T` only. -/
theorem records_le (re : RegexCrate) (cfg : Config F) (hvalid : cfg.validate re = [])
    (before : List RateLimiter.Call) (p : Pipeline F)
    (hlimiter : p.limiter
      = RateLimiter.machine.after (RateLimiter.new (rateLimitConfig cfg.ratelimit)) before)
    (k : Key) (t₀ : Instant) (T : Duration) (cs : List Call)
    (hkey : ∀ c ∈ cs, keyOf c.alert = k)
    (htimes : ∀ c ∈ cs, t₀ ≤ c.checked.now ∧ c.checked.now ≤ t₀ + T)
    (hrun : machine.Along Restrained p cs) :
    (machine.outs p cs).flatten.length ≤ recordsBound cfg.ratelimit T := by
  have hconfig : p.limiter.config = rateLimitConfig cfg.ratelimit := by
    rw [hlimiter, RateLimiter.after_config]
    rfl
  obtain ⟨hwindow, hburst⟩ := windows_pos hvalid
  obtain ⟨halong, hlen⟩ := run_projects hkey hrun
  rw [hconfig] at halong hlen
  have hmax : (rateLimitConfig cfg.ratelimit).burstThreshold ≤ KeyState.u32Max :=
    Nat.le_pred_of_lt cfg.ratelimit.burstThreshold.toNat_lt
  have hcap : ∀ st, p.limiter.state.get k = some st →
      st.windowCount ≤ (rateLimitConfig cfg.ratelimit).windowMax := by
    rw [hlimiter]
    exact RateLimiter.windowCount_le _ before k
  have hspan : ∀ q ∈ probes p cs, t₀ ≤ q.now ∧ q.now ≤ t₀ + T :=
    probes_time (P := fun t => t₀ ≤ t ∧ t ≤ t₀ + T) htimes
  have hbound := RateLimiter.emissions_le_of_running hwindow hburst hmax hcap halong hspan
  have hT : (t₀ + (T : ℤ) - t₀).toNat = T := by simp
  rw [hT] at hbound
  exact hlen.trans (Nat.mul_le_mul_left 3 hbound)

/-- Fifteen alerts at one instant, with room for one and a burst at the third: at most
twelve records. -/
theorem records_le_flood :
    let cfg : Config ℚ := { ratelimit := { windowMax := 1, burstThreshold := 3 } }
    let p : Pipeline ℚ := ⟨Baseline.new (baselineConfig cfg.baseline) 0,
      RateLimiter.new (rateLimitConfig cfg.ratelimit), Counters.empty⟩
    let alert : Alert := ⟨1, "1", 0, .critical, "fim", 1, "write open", [], 7, 0, "cat", .null⟩
    let k : Key := ⟨"fim", "cat", 1⟩
    let cs : List Call := ⟨alert, 5, [], ⟨5, 5, []⟩, 5, 5⟩ ::
      List.replicate 14 ⟨alert, 5, [], ⟨5, 5, [k]⟩, 5, 5⟩
    cs.length = 15 ∧ (machine.outs p cs).flatten.length ≤ 12 := by
  intro cfg p alert k cs
  -- the check does not look at these two settings
  have hvalid (re : RegexCrate) : cfg.validate re = [] := Config.validate_default re
  have hbound := records_le ⟨fun _ => true, fun _ => true, fun _ _ => false⟩ cfg
    (hvalid _) [] p rfl k 5 0 cs (by decide) (by decide) (by decide)
  exact ⟨rfl, hbound.trans (by decide)⟩

end Pipeline

end Kernelradar
