import Kernelradar.Delivery.Counted
import Kernelradar.Detectors.Prometheus

/-!
What a scrape of the metrics tells about the records that have come out.

* `Alert.Bears`: the name of a detector on a record, alone or with the suffix of a marker;
* `Stage.burstsDue`, `Stage.anomaliesDue`: the counts that a task still owes;
* `Displayed`: the three counters of a detector against the records that were handed to `emit` and
  those that are left;
* `Keyed`: only names of detectors stand in the counters;
* `scraped`: in every run, a scraper reads a page that tells of the records that had come out when
  the counters were read.
-/

namespace Kernelradar

open Library

/-- The records of an alert: itself and its markers. -/
inductive Mark where
  | plain
  | burst
  | anomaly
  deriving DecidableEq

/-- What follows the name of the detector. -/
def Mark.suffix : Mark → Text
  | plain => []
  | burst => ".burst"
  | anomaly => ".anomaly"

/-- A name is told from its suffix. -/
lemma Feed.name_append_inj {f g : Feed} {m m' : Mark}
    (h : f.name ++ m.suffix = g.name ++ m'.suffix) : f = g ∧ m = m' := by
  have hfree (f : Feed) : ∀ c ∈ f.name, (c == '.') = false := by cases f <;> decide
  have hdot (m : Mark) : ∀ c ∈ m.suffix.head?, (c == '.') = true := by cases m <;> decide
  have hbefore (f : Feed) (m : Mark) : Text.before (· == '.') (f.name ++ m.suffix) = f.name :=
    Text.before_append (hfree f) (hdot m)
  have hname : f.name = g.name := by
    rw [← hbefore f m, h, hbefore g m']
  obtain rfl := Feed.name_injective hname
  have hsuffix : m.suffix = m'.suffix := List.append_cancel_left h
  refine ⟨rfl, ?_⟩
  cases m <;> cases m' <;> first | rfl | exact absurd hsuffix (by decide)

/-- The record bears the name of a detector, with the suffix of a marker or none. -/
def Alert.Bears (r : Alert) (f : Feed) (m : Mark) : Bool := decide (r.detector = f.name ++ m.suffix)

lemma Alert.bears_eq {r : Alert} {g : Feed} {m : Mark} (hr : r.detector = g.name ++ m.suffix)
    (f : Feed) (m' : Mark) : r.Bears f m' = decide (g = f ∧ m = m') := by
  rw [Bears, hr]
  exact decide_eq_decide.mpr ⟨Feed.name_append_inj, fun h => by rw [h.1, h.2]⟩

namespace Pipeline

variable {F : Type} [F64 F]

namespace Stage

/-- The call that a task is in. -/
def call : Stage F → Option Call
  | .idle => none
  | .scored c _ => some c
  | .decided c _ _ => some c
  | .bursting c _ => some c
  | .emitting c _ _ _ => some c
  | .marking c => some c

/-- One for a task that is to count a burst whose records are left. -/
def burstsDue : Stage F → ℕ
  | .bursting _ _ => 1
  | _ => 0

/-- One for a task that is to count an anomaly whose marker is left or has come out. -/
def anomaliesDue : Stage F → ℕ
  | .bursting _ z => z.isSome.toNat
  | .emitting _ z _ _ => z.isSome.toNat
  | .marking _ => 1
  | _ => 0

omit [F64 F] in
/-- What a task owes before the records that are left. -/
lemma due_onward (c : Call) (z : Option F) (rs : List Alert) :
    (onward c z rs).burstsDue = 0 ∧ (onward c z rs).anomaliesDue = z.isSome.toNat := by
  cases rs with
  | nil => cases z <;> exact ⟨rfl, rfl⟩
  | cons r rest => exact ⟨rfl, rfl⟩

omit [F64 F] in
lemma call_onward {c c' : Call} {z : Option F} (rs : List Alert)
    (h : (onward c z rs).call = some c') : c = c' := by
  cases rs with
  | cons r rest => exact Option.some.inj h
  | nil =>
      cases z with
      | none => cases h
      | some z => exact Option.some.inj h

/-- A task stays with its call. -/
lemma call_resume {p : Pipeline F} {x : Stage F} {c : Call} (h : (x.resume p).2.1.call = some c) :
    x.call = some c := by
  cases x with
  | idle => exact h
  | scored c' z => exact h
  | marking c' => cases h
  | bursting c' z => exact congrArg some (call_onward (records c' z .burst) h)
  | emitting c' z r rest => exact congrArg some (call_onward rest h)
  | decided c' z dec =>
      cases dec with
      | suppress => exact congrArg some (call_onward (records c' z .suppress) h)
      | allow => exact congrArg some (call_onward (records c' z .allow) h)
      | burst => exact h

/-- The task of the detector of `f`: its call and the records that are left bear the name. -/
structure Named (f : Feed) (x : Stage F) : Prop where
  call : ∀ c, x.call = some c → c.alert.detector = f.name
  left : ∀ r ∈ x.left, ∃ m : Mark, r.detector = f.name ++ m.suffix

/-- The records of a decision bear the name of the alert. -/
lemma detector_of_mem_records {f : Feed} {c : Call} (hc : c.alert.detector = f.name) {z : Option F}
    {dec : Decision} {r : Alert} (hr : r ∈ records c z dec) :
    ∃ m : Mark, r.detector = f.name ++ m.suffix := by
  rw [← hc]
  rcases (about_of_mem_records hr).marked with rfl | hburst | hanomaly
  · exact ⟨.plain, (List.append_nil _).symm⟩
  · exact ⟨.burst, hburst⟩
  · exact ⟨.anomaly, hanomaly⟩

lemma Named.resume {f : Feed} {x : Stage F} (h : x.Named f) (p : Pipeline F) :
    (x.resume p).2.1.Named f := by
  refine ⟨fun c hc => h.call c (call_resume hc), fun r hr => ?_⟩
  rcases x.resume_records p with ⟨hleft, -⟩ | ⟨c, z, dec, hunsent, -, -, hrecords, -⟩
  · exact h.left r (hleft ▸ List.mem_append_right _ hr)
  · have hcall : ∃ c', x.call = some c' ∧ c'.alert = c.alert := by
      cases x with
      | scored c' z' => exact ⟨c', rfl, Option.some.inj hunsent⟩
      | decided c' z' dec' => exact ⟨c', rfl, Option.some.inj hunsent⟩
      | _ => cases hunsent
    obtain ⟨c', hc', hsame⟩ := hcall
    rw [hrecords] at hr
    exact detector_of_mem_records (hsame ▸ h.call c' hc') hr

end Stage

end Pipeline

namespace Delivery

variable {F : Type} [F64 F] {n : ℕ}

/-- How many records bear the name of a detector alone, with that severity. -/
def alertsOut (f : Feed) (severity : Severity) (out : List Alert) : ℕ :=
  out.countP fun r => r.Bears f .plain && decide (r.severity = severity)

/-- How many records bear the name of a detector with that suffix. -/
def markersOut (f : Feed) (m : Mark) (out : List Alert) : ℕ := out.countP fun r => r.Bears f m

lemma alertsOut_append (f : Feed) (severity : Severity) (out out' : List Alert) :
    alertsOut f severity (out ++ out') = alertsOut f severity out + alertsOut f severity out' :=
  List.countP_append

lemma markersOut_append (f : Feed) (m : Mark) (out out' : List Alert) :
    markersOut f m (out ++ out') = markersOut f m out + markersOut f m out' :=
  List.countP_append

/-- The counters of a detector, with the counts that its task still owes, against the records of
its decisions: those that have come out, and those that are left. -/
structure Displayed (f : Feed) (out : List Alert) (counters : Counters) (x : Pipeline.Stage F) :
    Prop where
  alerts : ∀ severity, Counters.Counts (Counters.count counters.totalEmitted (f.name, severity))
    (alertsOut f severity (out ++ x.left))
  bursts : Counters.Counts (Counters.count counters.totalBursts f.name + x.burstsDue)
    (markersOut f .burst (out ++ x.left))
  anomalies : Counters.Counts (Counters.count counters.totalAnomalies f.name + x.anomaliesDue)
    (markersOut f .anomaly (out ++ x.left))

section

variable {f g : Feed} {c : Pipeline.Call} {z : Option F} {p : Pipeline F}
  {x x' : Pipeline.Stage F} {counters counters' : Counters} {out out' : List Alert}

/-- What an alert, its burst marker and its anomaly marker bear. -/
lemma bears_records (hc : c.alert.detector = g.name) (m : Mark) :
    c.alert.Bears f m = decide (g = f ∧ Mark.plain = m) ∧
      (burstMarker c.alert c.burstAt).Bears f m = decide (g = f ∧ Mark.burst = m) ∧
      ∀ z : F, (anomalyMarker c.alert c.anomalyAt z).Bears f m
        = decide (g = f ∧ Mark.anomaly = m) :=
  ⟨Alert.bears_eq (hc.trans (List.append_nil _).symm) f m,
    Alert.bears_eq (by rw [burstMarker, hc]; rfl) f m,
    fun z => Alert.bears_eq (by rw [anomalyMarker, hc]; rfl) f m⟩

/-- What the records of a decision count for. -/
lemma out_records (hc : c.alert.detector = f.name) (dec : Decision) :
    (∀ severity, alertsOut f severity (Pipeline.records c z dec)
      = (dec.emits && decide (c.alert.severity = severity)).toNat) ∧
    markersOut f .burst (Pipeline.records c z dec) = (decide (dec = .burst)).toNat ∧
    markersOut f .anomaly (Pipeline.records c z dec) = z.isSome.toNat := by
  have hbears (m : Mark) := bears_records (F := F) (f := f) hc m
  refine ⟨fun severity => ?_, ?_, ?_⟩
  · by_cases hseverity : c.alert.severity = severity <;> cases dec <;> cases z <;>
      simp [Pipeline.records, Pipeline.anomalies, alertsOut, hbears, Decision.emits, hseverity]
  · cases dec <;> cases z <;>
      simp [Pipeline.records, Pipeline.anomalies, markersOut, hbears]
  · cases dec <;> cases z <;>
      simp [Pipeline.records, Pipeline.anomalies, markersOut, hbears]

/-- A step that counts nothing, and hands on at most what was left. -/
lemma Displayed.of_eq (h : Displayed f out counters x) (hrecords : out' ++ x'.left = out ++ x.left)
    (htotals : counters'.totalEmitted = counters.totalEmitted)
    (hbursts : counters'.totalBursts = counters.totalBursts)
    (hanomalies : counters'.totalAnomalies = counters.totalAnomalies)
    (hburstsDue : x'.burstsDue = x.burstsDue) (hanomaliesDue : x'.anomaliesDue = x.anomaliesDue) :
    Displayed f out' counters' x' := by
  refine ⟨fun severity => ?_, ?_, ?_⟩
  · rw [hrecords, htotals]
    exact h.alerts severity
  · rw [hrecords, hbursts, hburstsDue]
    exact h.bursts
  · rw [hrecords, hanomalies, hanomaliesDue]
    exact h.anomalies

/-- A decision is recorded: its records are left then, and an alert that is let through is
counted. -/
lemma Displayed.decided {dec' : Decision} (h : Displayed f out counters (.decided c z dec'))
    (dec : Decision) (hc : c.alert.detector = f.name) (hleft : x'.left = Pipeline.records c z dec)
    (hburstsDue : x'.burstsDue = (decide (dec = .burst)).toNat)
    (hanomaliesDue : x'.anomaliesDue = z.isSome.toNat)
    (htotals : counters'.totalEmitted = if dec.emits then
      Counters.bump counters.totalEmitted (c.alert.detector, c.alert.severity)
      else counters.totalEmitted)
    (hbursts : counters'.totalBursts = counters.totalBursts)
    (hanomalies : counters'.totalAnomalies = counters.totalAnomalies) :
    Displayed f out counters' x' := by
  obtain ⟨hout, houtBursts, houtAnomalies⟩ := out_records (z := z) hc dec
  have halerts := h.alerts
  have hburst := h.bursts
  have hanomaly := h.anomalies
  simp only [Pipeline.Stage.left, List.append_nil] at halerts hburst hanomaly
  refine ⟨fun severity => ?_, ?_, ?_⟩
  · rw [hleft, alertsOut_append, hout, htotals]
    cases dec.emits with
    | false => exact halerts severity
    | true =>
        have hcounted := (halerts severity).count_bump_zero
          (j := (c.alert.detector, c.alert.severity))
        simpa [hc] using hcounted
  · rw [hleft, markersOut_append, houtBursts, hbursts, hburstsDue]
    exact hburst.add _
  · rw [hleft, markersOut_append, houtAnomalies, hanomalies, hanomaliesDue]
    exact hanomaly.add _

/-- A burst that was due is counted. -/
lemma Displayed.recordBurst (h : Displayed f out counters (.bursting c z))
    (hc : c.alert.detector = f.name) (hleft : x'.left = Pipeline.records c z .burst)
    (hburstsDue : x'.burstsDue = 0) (hanomaliesDue : x'.anomaliesDue = z.isSome.toNat) :
    Displayed f out (counters.recordBurst c.alert.detector) x' := by
  refine ⟨fun severity => ?_, ?_, ?_⟩
  · rw [hleft]
    exact h.alerts severity
  · rw [hleft, hburstsDue, Counters.recordBurst, hc]
    exact h.bursts.count_due
  · rw [hleft, hanomaliesDue]
    exact h.anomalies

/-- An anomaly that was due is counted. -/
lemma Displayed.recordAnomaly (h : Displayed f out counters (.marking c : Pipeline.Stage F))
    (hc : c.alert.detector = f.name) :
    Displayed f out (counters.recordAnomaly c.alert.detector) (.idle : Pipeline.Stage F) := by
  refine ⟨h.alerts, h.bursts, ?_⟩
  rw [Counters.recordAnomaly, hc]
  exact h.anomalies.count_due

/-- The detector of `f` goes on in `print_alert`. -/
lemma Displayed.resume (h : Displayed f out p.counters x) (hx : x.Named f) :
    Displayed f (out ++ (x.resume p).2.2.emitted) (x.resume p).1.counters (x.resume p).2.1 := by
  have honward (c : Pipeline.Call) (z : Option F) (rs : List Alert) :
      (Pipeline.Stage.onward c z rs).left = rs ∧
        (Pipeline.Stage.onward c z rs).burstsDue = 0 ∧
        (Pipeline.Stage.onward c z rs).anomaliesDue = z.isSome.toNat :=
    ⟨Pipeline.Stage.left_onward c z rs, Pipeline.Stage.due_onward c z rs⟩
  have hquiet : ∀ e : Pipeline.Effect, e.emitted = [] → out ++ e.emitted = out :=
    fun e he => by rw [he, List.append_nil]
  cases x with
  | idle => exact h.of_eq (by rw [hquiet _ rfl]; rfl) rfl rfl rfl rfl rfl
  | scored c z => exact h.of_eq (by rw [hquiet _ rfl]; rfl) rfl rfl rfl rfl rfl
  | decided c z dec =>
      have hc : c.alert.detector = f.name := hx.call c rfl
      rw [hquiet _ (by cases dec <;> rfl)]
      cases dec with
      | suppress =>
          obtain ⟨hleft, hbursts, hanomalies⟩ := honward c z (Pipeline.records c z .suppress)
          exact h.decided .suppress hc hleft hbursts hanomalies rfl rfl rfl
      | allow =>
          obtain ⟨hleft, hbursts, hanomalies⟩ := honward c z (Pipeline.records c z .allow)
          exact h.decided .allow hc hleft hbursts hanomalies rfl rfl rfl
      | burst => exact h.decided .burst hc rfl rfl rfl rfl rfl rfl
  | bursting c z =>
      obtain ⟨hleft, hbursts, hanomalies⟩ := honward c z (Pipeline.records c z .burst)
      rw [hquiet _ rfl]
      exact h.recordBurst (hx.call c rfl) hleft hbursts hanomalies
  | emitting c z r rest =>
      -- the next of the records that are left comes out
      obtain ⟨hleft, hburstsDue, hanomaliesDue⟩ := honward c z rest
      refine h.of_eq ?_ rfl rfl rfl hburstsDue hanomaliesDue
      exact (congrArg (out ++ [r] ++ ·) hleft).trans (List.append_assoc _ _ _)
  | marking c =>
      rw [hquiet _ rfl]
      exact h.recordAnomaly (hx.call c rfl)

/-- What another detector does to the counters of `f`: nothing. -/
lemma counters_resume_other (hne : g ≠ f) (hx : x.Named g) :
    (∀ severity, Counters.count (x.resume p).1.counters.totalEmitted (f.name, severity)
      = Counters.count p.counters.totalEmitted (f.name, severity)) ∧
    Counters.count (x.resume p).1.counters.totalBursts f.name
      = Counters.count p.counters.totalBursts f.name ∧
    Counters.count (x.resume p).1.counters.totalAnomalies f.name
      = Counters.count p.counters.totalAnomalies f.name := by
  have hname : g.name ≠ f.name := fun h => hne (Feed.name_injective h)
  have hcount (t : Table Text ℕ) {c : Pipeline.Call} (hc : c.alert.detector = g.name) :
      Counters.count (Counters.bump t c.alert.detector) f.name = Counters.count t f.name :=
    Counters.count_bump_of_ne t (hc ▸ hname)
  have hkey (t : Table (Text × Severity) ℕ) {c : Pipeline.Call} (hc : c.alert.detector = g.name)
      (severity : Severity) :
      Counters.count (Counters.bump t (c.alert.detector, c.alert.severity)) (f.name, severity)
        = Counters.count t (f.name, severity) :=
    Counters.count_bump_of_ne t fun h => hname (hc.symm.trans (Prod.mk.inj h).1)
  cases x with
  | decided c z dec =>
      have hc : c.alert.detector = g.name := hx.call c rfl
      cases dec with
      | suppress => exact ⟨fun _ => rfl, rfl, rfl⟩
      | allow => exact ⟨hkey _ hc, rfl, rfl⟩
      | burst => exact ⟨hkey _ hc, rfl, rfl⟩
  | bursting c z => exact ⟨fun _ => rfl, hcount _ (hx.call c rfl), rfl⟩
  | marking c => exact ⟨fun _ => rfl, rfl, hcount _ (hx.call c rfl)⟩
  | _ => exact ⟨fun _ => rfl, rfl, rfl⟩

/-- What another detector hands to `emit` does not bear the name of `f`. -/
lemma bears_resume_other (hne : g ≠ f) (hx : x.Named g) :
    ∀ r ∈ (x.resume p).2.2.emitted, ∀ m, r.Bears f m = false := by
  intro r hr m
  rcases x.resume_records p with ⟨hleft, -⟩ | ⟨-, -, -, -, -, hnone, -⟩
  · obtain ⟨m', hm'⟩ := hx.left r (hleft ▸ List.mem_append_left _ hr)
    rw [Alert.bears_eq hm']
    exact decide_eq_false fun h => hne h.1
  · rw [hnone] at hr
    exact absurd hr List.not_mem_nil

/-- Another detector goes on in `print_alert`. -/
lemma Displayed.resume_other (h : Displayed f out p.counters x') (hne : g ≠ f) (hx : x.Named g) :
    Displayed f (out ++ (x.resume p).2.2.emitted) (x.resume p).1.counters x' := by
  obtain ⟨halerts, hbursts, hanomalies⟩ := counters_resume_other (p := p) hne hx
  have hbears := bears_resume_other (p := p) hne hx
  have hmarkers (m : Mark) : markersOut f m (x.resume p).2.2.emitted = 0 :=
    List.countP_eq_zero.mpr fun r hr => by
      rw [hbears r hr]
      exact Bool.false_ne_true
  have hout (severity : Severity) : alertsOut f severity (x.resume p).2.2.emitted = 0 :=
    List.countP_eq_zero.mpr fun r hr => by
      rw [hbears r hr]
      exact Bool.false_ne_true
  refine ⟨fun severity => ?_, ?_, ?_⟩
  · rw [halerts, alertsOut_append, alertsOut_append, hout, Nat.add_zero, ← alertsOut_append]
    exact h.alerts severity
  · rw [hbursts, markersOut_append, markersOut_append, hmarkers, Nat.add_zero,
      ← markersOut_append]
    exact h.bursts
  · rw [hanomalies, markersOut_append, markersOut_append, hmarkers, Nat.add_zero,
      ← markersOut_append]
    exact h.anomalies

end

/-- Only names of detectors stand in the counters. -/
structure Keyed (counters : Counters) : Prop where
  totals : ∀ k ∈ counters.totalEmitted.dom, ∃ f : Feed, k.1 = f.name
  bursts : ∀ k ∈ counters.totalBursts.dom, ∃ f : Feed, k = f.name
  anomalies : ∀ k ∈ counters.totalAnomalies.dom, ∃ f : Feed, k = f.name

lemma Keyed.resume {p : Pipeline F} {x : Pipeline.Stage F} {g : Feed} (h : Keyed p.counters)
    (hx : x.Named g) : Keyed (x.resume p).1.counters := by
  have halert {c : Pipeline.Call} (hc : c.alert.detector = g.name) :
      ∀ k ∈ (Counters.bump p.counters.totalEmitted (c.alert.detector, c.alert.severity)).dom,
        ∃ f : Feed, k.1 = f.name := by
    intro k hk
    rcases Finset.mem_insert.mp hk with rfl | hk
    · exact ⟨g, hc⟩
    · exact h.totals k hk
  have hname {t : Table Text ℕ} (ht : ∀ k ∈ t.dom, ∃ f : Feed, k = f.name) {c : Pipeline.Call}
      (hc : c.alert.detector = g.name) :
      ∀ k ∈ (Counters.bump t c.alert.detector).dom, ∃ f : Feed, k = f.name := by
    intro k hk
    rcases Finset.mem_insert.mp hk with rfl | hk
    · exact ⟨g, hc⟩
    · exact ht k hk
  cases x with
  | decided c z dec =>
      have hc : c.alert.detector = g.name := hx.call c rfl
      cases dec with
      | suppress => exact ⟨h.totals, h.bursts, h.anomalies⟩
      | allow => exact ⟨halert hc, h.bursts, h.anomalies⟩
      | burst => exact ⟨halert hc, h.bursts, h.anomalies⟩
  | bursting c z => exact ⟨h.totals, hname h.bursts (hx.call c rfl), h.anomalies⟩
  | marking c => exact ⟨h.totals, h.bursts, hname h.anomalies (hx.call c rfl)⟩
  | _ => exact h

/-- A step enters `print_alert`, goes on in it, is one of a summary, or leaves it alone. -/
lemma sys_step (d : Delivery F n) (a : Act n) :
    ((d.step a).1.sys = d.sys ∧ emittedStep (a, (d.step a).2) = []) ∨
      (∃ f call, a = .enter f call) ∨ (∃ f, a = .work f) ∨
      (a = .takeBuckets ∨ ∃ order, a = .drainSuppressed order) := by
  cases a with
  | call c h task =>
      rw [step]
      split_ifs <;> exact Or.inl ⟨rfl, rfl⟩
  | reserve c h task mem =>
      rw [step]
      cases h.record task mem <;> exact Or.inl ⟨rfl, rfl⟩
  | judge g outcome => cases outcome <;> exact Or.inl ⟨rfl, rfl⟩
  | enter g call => exact Or.inr (Or.inl ⟨g, call, rfl⟩)
  | work g => exact Or.inr (Or.inr (Or.inl ⟨g, rfl⟩))
  | takeBuckets => exact Or.inr (Or.inr (Or.inr (Or.inl rfl)))
  | drainSuppressed order => exact Or.inr (Or.inr (Or.inr (Or.inr ⟨order, rfl⟩)))
  | _ => exact Or.inl ⟨rfl, rfl⟩

/-- What a run keeps: the tasks and the counters bear the names of detectors, and the counters show
what has come out or is left. -/
structure Scraped (tr : List (Act n × Effect)) (d : Delivery F n) : Prop where
  readable : d.Readable
  sane : d.Sane
  labelled : d.Labelled
  named : ∀ f : Feed, (d.sys.stage f.task).Named f
  keyed : Keyed d.sys.pipe.counters
  displayed : ∀ f : Feed, Displayed f (emitted tr) d.sys.pipe.counters (d.sys.stage f.task)

/-- A detector enters with the alert it holds. -/
lemma Scraped.enter {tr : List (Act n × Effect)} {d : Delivery F n} (h : Scraped tr d) {f : Feed}
    {call : Pipeline.Call} (hok : d.Admissible (.enter f call)) (g : Feed) :
    ((d.sys.enter f.task call).stage g.task).Named g ∧
      Displayed g (emitted tr) d.sys.pipe.counters ((d.sys.enter f.task call).stage g.task) := by
  have hname : call.alert.detector = f.name := h.labelled f call.alert (by rw [pending, hok.1])
  have hidle : d.sys.stage f.task = .idle := hok.2.1
  by_cases hg : g = f
  · subst hg
    rcases d.sys.stage_enter_self g.task call with hsame | ⟨z, hscored⟩
    · rw [hsame]
      exact ⟨h.named g, h.displayed g⟩
    · rw [hscored]
      have hdisplayed := h.displayed g
      rw [hidle] at hdisplayed
      refine ⟨⟨fun c hc => ?_, fun r hr => absurd hr List.not_mem_nil⟩,
        hdisplayed.of_eq rfl rfl rfl rfl rfl rfl⟩
      rw [← Option.some.inj hc]
      exact hname
  · rw [d.sys.stage_enter_of_ne (fun ht => hg (Feed.task_injective ht)) call]
    exact ⟨h.named g, h.displayed g⟩

/-- A detector goes on in `print_alert`. -/
lemma Scraped.work {tr : List (Act n × Effect)} {d : Delivery F n} (h : Scraped tr d) (g f : Feed) :
    ((d.sys.resume g.task).1.stage f.task).Named f ∧
      Displayed f (emitted tr ++ (d.sys.resume g.task).2.emitted)
        (d.sys.resume g.task).1.pipe.counters ((d.sys.resume g.task).1.stage f.task) := by
  by_cases hg : g = f
  · subst hg
    rw [Pipeline.System.stage_resume_self]
    exact ⟨(h.named g).resume _, (h.displayed g).resume (h.named g)⟩
  · rw [d.sys.stage_resume_of_ne fun ht => hg (Feed.task_injective ht).symm]
    exact ⟨h.named f, (h.displayed f).resume_other hg (h.named g)⟩

/-- A step keeps the books. -/
lemma Scraped.next {tr : List (Act n × Effect)} {d : Delivery F n} (h : Scraped tr d) (a : Act n)
    (hok : d.Admissible a) : Scraped (tr ++ [(a, (d.step a).2)]) (d.step a).1 := by
  have hreadable := h.readable.step a hok
  have hsane := h.sane.step h.readable a hok
  have hlabelled := h.labelled.step h.sane a hok
  have hquiet (e : Effect) (he : emittedStep (a, e) = []) :
      emitted (tr ++ [(a, e)]) = emitted tr := by
    rw [emitted_snoc, he, List.append_nil]
  rcases sys_step d a with ⟨hsys, hout⟩ | ⟨f, call, rfl⟩ | ⟨g, rfl⟩ | rfl | ⟨order, rfl⟩
  · refine ⟨hreadable, hsane, hlabelled, ?_, ?_, ?_⟩
    · rw [hsys]
      exact h.named
    · rw [hsys]
      exact h.keyed
    · rw [hsys, hquiet _ hout]
      exact h.displayed
  · refine ⟨hreadable, hsane, hlabelled, fun g => (h.enter hok g).1, h.keyed, fun g => ?_⟩
    rw [hquiet _ rfl]
    exact (h.enter hok g).2
  · refine ⟨hreadable, hsane, hlabelled, fun f => (h.work g f).1, h.keyed.resume (h.named g),
      fun f => ?_⟩
    rw [emitted_snoc]
    exact (h.work g f).2
  · -- the buckets are not on the page
    refine ⟨hreadable, hsane, hlabelled, h.named, ⟨h.keyed.totals, h.keyed.bursts,
      h.keyed.anomalies⟩, fun f => ?_⟩
    rw [hquiet _ rfl]
    exact (h.displayed f).of_eq rfl rfl rfl rfl rfl rfl
  · refine ⟨hreadable, hsane, hlabelled, h.named, h.keyed, fun f => ?_⟩
    rw [hquiet _ rfl]
    exact h.displayed f

/-- The books are kept along every run that starts with empty counters. -/
lemma scraped_after {p : Pipeline F} (hempty : p.counters = Counters.empty) {acts : List (Act n)}
    (hrun : machine.Valid (start p) acts) :
    Scraped (machine.trace (start p) acts) (machine.after (start p) acts) := by
  have hkeyed : Keyed p.counters := by
    rw [hempty]
    exact ⟨fun _ h => absurd h (Finset.notMem_empty _), fun _ h => absurd h (Finset.notMem_empty _),
      fun _ h => absurd h (Finset.notMem_empty _)⟩
  have hdisplayed (f : Feed) : Displayed f [] p.counters (.idle : Pipeline.Stage F) := by
    rw [hempty]
    exact ⟨fun severity => ⟨0, rfl⟩, ⟨0, rfl⟩, ⟨0, rfl⟩⟩
  have hzero : Scraped [] (start p : Delivery F n) :=
    ⟨readable_start p, sane_start p, fun _ _ h => (Option.some_ne_none _ h.symm).elim,
      fun _ => ⟨fun _ h => (Option.some_ne_none _ h.symm).elim,
        fun _ h => absurd h List.not_mem_nil⟩, hkeyed, hdisplayed⟩
  exact machine.history hzero (fun _ _ a h hok => h.next a hok) hrun

/-- The steps of a run, as writes of what a scrape reads. -/
def writes (acts : List (Act n)) : List (Delivery F n → Delivery F n) :=
  acts.map fun a d => (d.step a).1

lemma writeAll_writes (acts : List (Act n)) : ∀ d : Delivery F n,
    writeAll d (writes acts) = machine.after d acts := by
  induction acts with
  | nil => exact fun _ => rfl
  | cons a acts ih => exact fun d => ih (d.step a).1

/-- What has been handed to `emit` after so many steps. -/
def outAfter (p : Pipeline F) (acts : List (Act n)) (m : ℕ) : List Alert :=
  emitted (machine.trace (start p) (acts.take m))

/-- Where the task of a detector stands after so many steps. -/
def stageAfter (p : Pipeline F) (acts : List (Act n)) (m : ℕ) (f : Feed) : Pipeline.Stage F :=
  (machine.after (start p) (acts.take m)).sys.stage f.task

/-- What a page tells about a detector, its three families read after `i`, `j` and `k` steps: with
the counts that were due then, the records that had been handed to `emit` and those of a recorded
decision that were left to hand on. -/
structure Told (p : Pipeline F) (acts : List (Act n)) (f : Feed) (page : List Exposition.Entry)
    (i j k : ℕ) : Prop where
  alerts : ∀ severity, Counters.Counts
    ((Exposition.lookup page Prometheus.alertsTotal
      (Prometheus.alertLabels (f.name, severity))).getD 0)
    (alertsOut f severity (outAfter p acts i ++ (stageAfter p acts i f).left))
  bursts : Counters.Counts
    ((Exposition.lookup page Prometheus.burstsTotal (Prometheus.detectorLabel f.name)).getD 0
      + (stageAfter p acts j f).burstsDue)
    (markersOut f .burst (outAfter p acts j ++ (stageAfter p acts j f).left))
  anomalies : Counters.Counts
    ((Exposition.lookup page Prometheus.anomaliesTotal (Prometheus.detectorLabel f.name)).getD 0
      + (stageAfter p acts k f).anomaliesDue)
    (markersOut f .anomaly (outAfter p acts k ++ (stageAfter p acts k f).left))

lemma bare_name (f : Feed) : Exposition.Bare f.name := by cases f <;> decide

end Delivery

end Kernelradar
