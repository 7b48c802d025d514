import Kernelradar.Detectors.Util

/-!
`print_alert` as several tasks run it at once, with the hourly summary among them.

Every lock the source takes is one step: the baseline's, the limiter's, and one
for each counter update; so is every record handed to `emit`, with no lock held.
Tasks and summaries step in any order.

* `Stage`, `System`, `step`: where every task stands, and what the next step of one
  of them does;
* `alone_eq_printAlert`: a task that is not interrupted does what `printAlert` does;
* `Audited`, `counters_account`: after any run the counters show what was recorded,
  in the totals and in the buckets, up to wrap-arounds;
* `counters_wrap`: a run that records `2 ^ 64` alerts of one kind.
-/

namespace Kernelradar

open Library

/-- In the learning phase a call below the cap only records. -/
lemma Baseline.recordAndScore_of_learning {F : Type} [F64 F] {b : Baseline F} {c : Baseline.Call}
    {learning : DateTime} (hroom : b.pairs.len < b.config.pairsMax)
    (hlearn : b.learningUntil = some learning) (hnow : c.now < learning) :
    b.recordAndScore c = (b.record c.now (Baseline.key c.detector c.comm), .score none) := by
  have hlearn' : (b.record c.now (Baseline.key c.detector c.comm)).learningUntil = some learning :=
    hlearn
  rw [Baseline.recordAndScore_of_evict (Baseline.evict_of_room hroom _ _)]
  rw [Baseline.scoreOf, Baseline.score, hlearn']
  dsimp only
  rw [if_pos hnow]

namespace Pipeline

variable {F : Type} [F64 F]

/-- Where a task stands in `print_alert`: not in it, after the baseline, after the
limiter, before `record_burst`, before an `emit`, with the records to follow, before
`record_anomaly`. -/
inductive Stage (F : Type) where
  | idle
  | scored (c : Call) (z : Option F)
  | decided (c : Call) (z : Option F) (d : Decision)
  | bursting (c : Call) (z : Option F)
  | emitting (c : Call) (z : Option F) (r : Alert) (rest : List Alert)
  | marking (c : Call)

/-- The globals and the tasks. -/
structure System (F : Type) where
  pipe : Pipeline F
  stage : ℕ → Stage F

/-- The next step: a task enters `print_alert`, a task goes on with it, a summary
takes the buckets, a summary drains the limiter. -/
inductive Act where
  | enter (task : ℕ) (c : Call)
  | resume (task : ℕ)
  | takeBuckets
  | drainSuppressed (order : List Key)

/-- What a step shows: the decision it recorded and the records handed on, or what a
summary took. -/
inductive Effect where
  | worked (recorded : Option (Alert × Decision)) (emitted : List Alert)
  | took (emitted suppressed : Table (Text × Severity) ℕ)
  | drained (out : List (Key × ℕ × Severity))

/-- The records an effect hands to `emit`. -/
def Effect.emitted : Effect → List Alert
  | .worked _ emitted => emitted
  | .took _ _ => []
  | .drained _ => []

/-- The decision an effect recorded. -/
def Effect.recorded : Effect → Option (Alert × Decision)
  | .worked recorded _ => recorded
  | .took _ _ => none
  | .drained _ => none

/-- The buckets an effect took out. -/
def Effect.taken : Effect → Option (Table (Text × Severity) ℕ × Table (Text × Severity) ℕ)
  | .worked _ _ => none
  | .took emitted suppressed => some (emitted, suppressed)
  | .drained _ => none

/-- One for a decision on an alert of `key` that was recorded and passes a test. -/
def recordings (test : Decision → Bool) (key : Text × Severity) (ae : Act × Effect) : ℕ :=
  ae.2.recorded.elim 0 fun ad =>
    (decide ((ad.1.detector, ad.1.severity) = key) && test ad.2).toNat

/-- The `Allow` and `Burst` decisions recorded for `key`. -/
def emissions : Text × Severity → Act × Effect → ℕ := recordings Decision.emits

/-- The `Suppress` decisions recorded for `key`. -/
def suppressions : Text × Severity → Act × Effect → ℕ := recordings fun d => d = .suppress

/-- What a summary took out of the bucket of emitted alerts. -/
def takenEmitted (key : Text × Severity) (ae : Act × Effect) : ℕ :=
  ae.2.taken.elim 0 fun t => Counters.count t.1 key

/-- What a summary took out of the bucket of suppressed alerts. -/
def takenSuppressed (key : Text × Severity) (ae : Act × Effect) : ℕ :=
  ae.2.taken.elim 0 fun t => Counters.count t.2 key

namespace Stage

/-- After the last record: the anomaly is still to be counted, if there is one. -/
def tail (c : Call) (z : Option F) : Stage F := if z.isSome then .marking c else .idle

/-- Before the records that are left. -/
def onward (c : Call) (z : Option F) : List Alert → Stage F
  | [] => tail c z
  | r :: rest => .emitting c z r rest

/-- The next step of a task: the globals, where it stands then, and what it shows. -/
def resume (p : Pipeline F) : Stage F → Pipeline F × Stage F × Effect
  | .idle => (p, .idle, .worked none [])
  | .scored c z =>
      let checked := p.limiter.check c.checked (keyOf c.alert) c.alert.severity
      ({ p with limiter := checked.1 }, .decided c z checked.2, .worked none [])
  | .decided c z .suppress =>
      ({ p with counters := p.counters.recordSuppressed c.alert.detector c.alert.severity },
        onward c z (records c z .suppress), .worked (some (c.alert, .suppress)) [])
  | .decided c z .allow =>
      ({ p with counters := p.counters.recordAlert c.alert.detector c.alert.severity },
        onward c z (records c z .allow), .worked (some (c.alert, .allow)) [])
  | .decided c z .burst =>
      ({ p with counters := p.counters.recordAlert c.alert.detector c.alert.severity },
        .bursting c z, .worked (some (c.alert, .burst)) [])
  | .bursting c z =>
      ({ p with counters := p.counters.recordBurst c.alert.detector },
        onward c z (records c z .burst), .worked none [])
  | .emitting c z r rest => (p, onward c z rest, .worked none [r])
  | .marking c =>
      ({ p with counters := p.counters.recordAnomaly c.alert.detector }, .idle, .worked none [])

/-- The iterator of the limiter yields what its map holds. -/
def Ready (p : Pipeline F) : Stage F → Prop
  | .scored c _ => p.limiter.Admissible (.check c.checked (keyOf c.alert) c.alert.severity)
  | _ => True

end Stage

namespace System

/-- The baseline section of `print_alert`; a panic ends the call. -/
def enter (s : System F) (i : ℕ) (c : Call) : System F :=
  let scored := s.pipe.baseline.recordAndScore (scoring c)
  { pipe := { s.pipe with baseline := scored.1 }
    stage := match scored.2 with
      | .panicked => s.stage
      | .score z => Function.update s.stage i (.scored c z) }

/-- Task `i` goes on. -/
def resume (s : System F) (i : ℕ) : System F × Effect :=
  let next := (s.stage i).resume s.pipe
  ({ pipe := next.1, stage := Function.update s.stage i next.2.1 }, next.2.2)

/-- One step. -/
def step (s : System F) : Act → System F × Effect
  | .enter i c => (s.enter i c, .worked none [])
  | .resume i => s.resume i
  | .takeBuckets =>
      let taken := s.pipe.counters.takeBuckets
      ({ s with pipe := { s.pipe with counters := taken.1 } }, .took taken.2.1 taken.2.2)
  | .drainSuppressed order =>
      let drained := s.pipe.limiter.drainSuppressed order
      ({ s with pipe := { s.pipe with limiter := drained.1 } }, .drained drained.2)

/-- A task enters `print_alert` only from outside, and the iterators yield what the
maps hold. -/
def Admissible (s : System F) : Act → Prop
  | .enter i c => s.stage i = .idle ∧ s.pipe.baseline.Admissible (scoring c)
  | .resume i => (s.stage i).Ready s.pipe
  | .takeBuckets => True
  | .drainSuppressed order => s.pipe.limiter.Admissible (.drain order)

/-- The tasks as a machine. -/
def machine : Machine (System F) Act Effect := ⟨step, Admissible⟩

@[simp] lemma machine_step (s : System F) (a : Act) : machine.step s a = s.step a := rfl

@[simp] lemma stage_resume_self (s : System F) (i : ℕ) :
    (s.resume i).1.stage i = ((s.stage i).resume s.pipe).2.1 := Function.update_self _ _ _

/-- A step of one task leaves the others where they are. -/
lemma stage_resume_of_ne (s : System F) {i j : ℕ} (h : j ≠ i) :
    (s.resume i).1.stage j = s.stage j := Function.update_of_ne h _ _

/-- A task that enters stands after the baseline, or the baseline panicked. -/
lemma stage_enter_self (s : System F) (i : ℕ) (c : Call) :
    (s.enter i c).stage i = s.stage i ∨ ∃ z, (s.enter i c).stage i = .scored c z := by
  rw [enter]
  cases (s.pipe.baseline.recordAndScore (scoring c)).2 with
  | panicked => exact Or.inl rfl
  | score z => exact Or.inr ⟨z, Function.update_self _ _ _⟩

lemma stage_enter_of_ne (s : System F) {i j : ℕ} (h : j ≠ i) (c : Call) :
    (s.enter i c).stage j = s.stage j := by
  rw [enter]
  cases (s.pipe.baseline.recordAndScore (scoring c)).2 with
  | panicked => rfl
  | score z => exact Function.update_of_ne h _ _

/-- Where task `i` stands is all that its step depends on. -/
lemma resume_update (p : Pipeline F) (stage : ℕ → Stage F) (i : ℕ) (x : Stage F) :
    (⟨p, Function.update stage i x⟩ : System F).resume i
      = (⟨(x.resume p).1, Function.update stage i (x.resume p).2.1⟩, (x.resume p).2.2) := by
  rw [resume]
  simp only [Function.update_self, Function.update_idem]

omit [F64 F] in
lemma ready_update (p : Pipeline F) (stage : ℕ → Stage F) (i : ℕ) (x : Stage F) :
    System.Admissible ⟨p, Function.update stage i x⟩ (.resume i) = x.Ready p := by
  rw [Admissible]
  simp only [Function.update_self]

/-- Task `i` goes on `m` times without a break, and hands some records to `emit`. -/
structure Runs (i m : ℕ) (s s' : System F) (out : List Alert) : Prop where
  after : machine.after s (List.replicate m (.resume i)) = s'
  emits : (machine.outs s (List.replicate m (.resume i))).flatMap Effect.emitted = out

section

variable {i m : ℕ} {s' : System F} {out : List Alert} {p : Pipeline F} {stage : ℕ → Stage F}

lemma Runs.cons {x : Stage F}
    (h : Runs i m ⟨(x.resume p).1, Function.update stage i (x.resume p).2.1⟩ s' out) :
    Runs i (m + 1) ⟨p, Function.update stage i x⟩ s' ((x.resume p).2.2.emitted ++ out) := by
  constructor
  · rw [List.replicate_succ, Machine.after_cons, machine_step, step, resume_update]
    exact h.after
  · rw [List.replicate_succ, Machine.outs_cons, machine_step, step, resume_update,
      List.flatMap_cons]
    exact congrArg _ h.emits

/-- Outside `print_alert` there is nothing to do. -/
lemma runs_idle (i : ℕ) (p : Pipeline F) (stage : ℕ → Stage F) : ∀ m : ℕ,
    Runs i m ⟨p, Function.update stage i .idle⟩ ⟨p, Function.update stage i .idle⟩ []
  | 0 => ⟨rfl, rfl⟩
  | m + 1 => Runs.cons (x := .idle) (runs_idle i p stage m)

/-- The records that are left come out one by one; then the anomaly is counted. -/
lemma runs_onward (i : ℕ) (p : Pipeline F) (stage : ℕ → Stage F) (c : Call) (z : Option F) :
    ∀ (rs : List Alert) {m : ℕ}, rs.length < m →
      Runs i m ⟨p, Function.update stage i (Stage.onward c z rs)⟩
        ⟨{ p with counters :=
          if z.isSome then p.counters.recordAnomaly c.alert.detector else p.counters },
          Function.update stage i .idle⟩ rs
  | [], m + 1, _ => by
      cases z with
      | none => exact runs_idle i p stage (m + 1)
      | some z => exact Runs.cons (x := .marking c) (runs_idle i _ stage m)
  | r :: rs, m + 1, h =>
      Runs.cons (x := .emitting c z r rs)
        (runs_onward i p stage c z rs (Nat.lt_of_succ_lt_succ h))

end

/-- The acts of a task that runs `print_alert` without a break. -/
def alone (i : ℕ) (c : Call) : List Act := .enter i c :: List.replicate 7 (.resume i)

lemma length_records_le (c : Call) (z : Option F) (d : Decision) : (records c z d).length ≤ 3 := by
  cases d <;> cases z <;> simp [records, anomalies]

/-- A task goes on alone once the limiter has decided. -/
lemma runs_decided (i : ℕ) (p : Pipeline F) (stage : ℕ → Stage F) (c : Call) (z : Option F) :
    ∀ d : Decision, Runs i 6 ⟨p, Function.update stage i (.decided c z d)⟩
      ⟨{ p with counters := counted p.counters c.alert z d }, Function.update stage i .idle⟩
      (records c z d)
  | .suppress =>
      Runs.cons (x := .decided c z .suppress) (runs_onward i
        { p with counters := p.counters.recordSuppressed c.alert.detector c.alert.severity }
        stage c z (records c z .suppress) ((length_records_le _ _ _).trans_lt (by decide)))
  | .allow =>
      Runs.cons (x := .decided c z .allow) (runs_onward i
        { p with counters := p.counters.recordAlert c.alert.detector c.alert.severity }
        stage c z (records c z .allow) ((length_records_le _ _ _).trans_lt (by decide)))
  | .burst =>
      Runs.cons (x := .decided c z .burst) (Runs.cons (x := .bursting c z) (runs_onward i
        { p with counters := (p.counters.recordAlert c.alert.detector
          c.alert.severity).recordBurst c.alert.detector }
        stage c z (records c z .burst) ((length_records_le _ _ _).trans_lt (by decide))))

/-- **One task on its own** does what `printAlert` does, and leaves the others where
they are. -/
theorem alone_eq_printAlert (s : System F) (i : ℕ) (c : Call) (hidle : s.stage i = .idle) :
    machine.after s (alone i c) = ⟨(s.pipe.printAlert c).1, s.stage⟩ ∧
      (machine.outs s (alone i c)).flatMap Effect.emitted = (s.pipe.printAlert c).2 := by
  have hback : Function.update s.stage i .idle = s.stage := by
    rw [← hidle, Function.update_eq_self]
  rw [alone, Machine.after_cons, Machine.outs_cons, machine_step, step, enter, printAlert]
  cases hscored : (s.pipe.baseline.recordAndScore (scoring c)).2 with
  | panicked =>
      have hruns := runs_idle i { s.pipe with
        baseline := (s.pipe.baseline.recordAndScore (scoring c)).1 } s.stage 7
      rw [hback] at hruns
      exact ⟨hruns.after, hruns.emits⟩
  | score z =>
      let checked := s.pipe.limiter.check c.checked (keyOf c.alert) c.alert.severity
      have hruns := Runs.cons (x := .scored c z) (p := { s.pipe with
          baseline := (s.pipe.baseline.recordAndScore (scoring c)).1 })
        (runs_decided i ⟨(s.pipe.baseline.recordAndScore (scoring c)).1, checked.1,
          s.pipe.counters⟩ s.stage c z checked.2)
      rw [hback] at hruns
      exact ⟨hruns.after, hruns.emits⟩

/-- Everything a step can do to the totals and the buckets: nothing,
record a decision, or take the buckets. -/
lemma step_counters (s : System F) (a : Act) :
    ((s.step a).2.recorded = none ∧ (s.step a).2.taken = none ∧
      (s.step a).1.pipe.counters.bucketEmitted = s.pipe.counters.bucketEmitted ∧
      (s.step a).1.pipe.counters.totalEmitted = s.pipe.counters.totalEmitted ∧
      (s.step a).1.pipe.counters.bucketSuppressed = s.pipe.counters.bucketSuppressed) ∨
    (∃ alert d, (s.step a).2.recorded = some (alert, d) ∧ (s.step a).2.taken = none ∧
      d.emits = true ∧
      (s.step a).1.pipe.counters = s.pipe.counters.recordAlert alert.detector alert.severity) ∨
    (∃ alert, (s.step a).2.recorded = some (alert, .suppress) ∧ (s.step a).2.taken = none ∧
      (s.step a).1.pipe.counters
        = s.pipe.counters.recordSuppressed alert.detector alert.severity) ∨
    ((s.step a).2.recorded = none ∧ (s.step a).2.taken
        = some (s.pipe.counters.bucketEmitted, s.pipe.counters.bucketSuppressed) ∧
      (s.step a).1.pipe.counters = s.pipe.counters.takeBuckets.1) := by
  cases a with
  | enter i c => exact Or.inl ⟨rfl, rfl, rfl, rfl, rfl⟩
  | takeBuckets => exact Or.inr (Or.inr (Or.inr ⟨rfl, rfl, rfl⟩))
  | drainSuppressed order => exact Or.inl ⟨rfl, rfl, rfl, rfl, rfl⟩
  | resume i =>
      rw [step, resume]
      cases s.stage i with
      | decided c z d =>
          cases d with
          | suppress => exact Or.inr (Or.inr (Or.inl ⟨c.alert, rfl, rfl, rfl⟩))
          | allow => exact Or.inr (Or.inl ⟨c.alert, .allow, rfl, rfl, rfl, rfl⟩)
          | burst => exact Or.inr (Or.inl ⟨c.alert, .burst, rfl, rfl, rfl, rfl⟩)
      | _ => exact Or.inl ⟨rfl, rfl, rfl, rfl, rfl⟩

/-- The books for `key`: total and buckets against what the trace recorded and
took out. -/
structure Audited (key : Text × Severity) (tr : List (Act × Effect)) (s : System F) : Prop where
  total : Counters.Counts (Counters.count s.pipe.counters.cumulativeTotals key)
    (Machine.tally (emissions key) tr)
  small : Counters.count s.pipe.counters.cumulativeTotals key < 2 ^ 64
  emitted : Counters.Counts
    (Machine.tally (takenEmitted key) tr + Counters.count s.pipe.counters.bucketEmitted key)
    (Machine.tally (emissions key) tr)
  suppressed : Counters.Counts
    (Machine.tally (takenSuppressed key) tr + Counters.count s.pipe.counters.bucketSuppressed key)
    (Machine.tally (suppressions key) tr)

omit [F64 F] in
/-- The books after one more event: what it adds, and what the counters show then. -/
lemma Audited.snoc {key : Text × Severity} {tr : List (Act × Effect)} {x : Act × Effect}
    {s : System F}
    (total : Counters.Counts (Counters.count s.pipe.counters.totalEmitted key)
      (Machine.tally (emissions key) tr + emissions key x))
    (small : Counters.count s.pipe.counters.totalEmitted key < 2 ^ 64)
    (emitted : Counters.Counts (Machine.tally (takenEmitted key) tr + takenEmitted key x +
        Counters.count s.pipe.counters.bucketEmitted key)
      (Machine.tally (emissions key) tr + emissions key x))
    (suppressed : Counters.Counts (Machine.tally (takenSuppressed key) tr + takenSuppressed key x +
        Counters.count s.pipe.counters.bucketSuppressed key)
      (Machine.tally (suppressions key) tr + suppressions key x)) :
    Audited key (tr ++ [x]) s := by
  have htally (f : Act × Effect → ℕ) : Machine.tally f (tr ++ [x]) = Machine.tally f tr + f x := by
    rw [Machine.tally_append, Machine.tally_cons, Machine.tally_nil, Nat.add_zero]
  constructor
  · rw [htally]
    exact total
  · exact small
  · rw [htally, htally]
    exact emitted
  · rw [htally, htally]
    exact suppressed

section Entries

variable (key : Text × Severity) {a : Act} {e : Effect} {alert : Alert} {d : Decision}

lemma recordings_of_none (test : Decision → Bool) (h : e.recorded = none) :
    recordings test key (a, e) = 0 := by
  rw [recordings, h]
  rfl

lemma recordings_of_some (test : Decision → Bool) (h : e.recorded = some (alert, d)) :
    recordings test key (a, e)
      = (decide ((alert.detector, alert.severity) = key) && test d).toNat := by
  rw [recordings, h]
  rfl

lemma emissions_of_emits (h : e.recorded = some (alert, d)) (hd : d.emits = true) :
    emissions key (a, e) = (decide ((alert.detector, alert.severity) = key)).toNat := by
  rw [emissions, recordings_of_some key _ h, hd, Bool.and_true]

lemma suppressions_of_emits (h : e.recorded = some (alert, d)) (hd : d.emits = true) :
    suppressions key (a, e) = 0 := by
  have hne : decide (d = .suppress) = false := by
    cases d with
    | suppress => cases hd
    | allow => rfl
    | burst => rfl
  rw [suppressions, recordings_of_some key _ h, hne, Bool.and_false]
  rfl

lemma emissions_of_suppress (h : e.recorded = some (alert, .suppress)) :
    emissions key (a, e) = 0 := by
  rw [emissions, recordings_of_some key _ h, Decision.emits, Bool.and_false]
  rfl

lemma suppressions_of_suppress (h : e.recorded = some (alert, .suppress)) :
    suppressions key (a, e) = (decide ((alert.detector, alert.severity) = key)).toNat := by
  rw [suppressions, recordings_of_some key _ h, decide_eq_true rfl, Bool.and_true]

lemma taken_of_none (h : e.taken = none) :
    takenEmitted key (a, e) = 0 ∧ takenSuppressed key (a, e) = 0 := by
  rw [takenEmitted, takenSuppressed, h]
  exact ⟨rfl, rfl⟩

lemma taken_of_some {t : Table (Text × Severity) ℕ × Table (Text × Severity) ℕ}
    (h : e.taken = some t) :
    takenEmitted key (a, e) = Counters.count t.1 key ∧
      takenSuppressed key (a, e) = Counters.count t.2 key := by
  rw [takenEmitted, takenSuppressed, h]
  exact ⟨rfl, rfl⟩

end Entries

/-- One step keeps the books. -/
lemma audited_next {key : Text × Severity} {tr : List (Act × Effect)} {s : System F}
    (h : Audited key tr s) (a : Act) :
    Audited key (tr ++ [(a, (s.step a).2)]) (s.step a).1 := by
  rcases step_counters s a with ⟨hrec, htaken, hbucket, htotal, hsupp⟩ |
    ⟨alert, d, hrec, htaken, hd, hc⟩ | ⟨alert, hrec, htaken, hc⟩ | ⟨hrec, htaken, hc⟩
  · obtain ⟨hte, hts⟩ := taken_of_none key (a := a) htaken
    have hem : emissions key (a, (s.step a).2) = 0 := recordings_of_none key _ hrec
    have hsu : suppressions key (a, (s.step a).2) = 0 := recordings_of_none key _ hrec
    apply Audited.snoc
    · rw [hem, htotal]
      exact h.total
    · rw [htotal]
      exact h.small
    · rw [hte, hem, hbucket]
      exact h.emitted
    · rw [hts, hsu, hsupp]
      exact h.suppressed
  · -- an alert is recorded
    obtain ⟨hte, hts⟩ := taken_of_none key (a := a) htaken
    apply Audited.snoc
    · rw [emissions_of_emits key hrec hd, hc]
      exact h.total.count_bump_zero
    · rw [hc]
      exact Counters.count_bump_lt h.small _
    · rw [hte, emissions_of_emits key hrec hd, hc]
      exact h.emitted.count_bump
    · rw [hts, suppressions_of_emits key hrec hd, hc]
      exact h.suppressed
  · -- a suppressed event is recorded
    obtain ⟨hte, hts⟩ := taken_of_none key (a := a) htaken
    apply Audited.snoc
    · rw [emissions_of_suppress key hrec, hc]
      exact h.total
    · rw [hc]
      exact h.small
    · rw [hte, emissions_of_suppress key hrec, hc]
      exact h.emitted
    · rw [hts, suppressions_of_suppress key hrec, hc]
      exact h.suppressed.count_bump
  · -- the buckets are taken
    obtain ⟨hte, hts⟩ := taken_of_some key (a := a) htaken
    have hem : emissions key (a, (s.step a).2) = 0 := recordings_of_none key _ hrec
    have hsu : suppressions key (a, (s.step a).2) = 0 := recordings_of_none key _ hrec
    apply Audited.snoc
    · rw [hem, hc]
      exact h.total
    · rw [hc]
      exact h.small
    · rw [hte, hem, hc]
      exact h.emitted
    · rw [hts, hsu, hc]
      exact h.suppressed

/-- No task is in `print_alert`. -/
def atRest (p : Pipeline F) : System F := ⟨p, fun _ => .idle⟩

omit [F64 F] in
/-- A start with empty counters is audited. -/
lemma audited_atRest {p : Pipeline F} (hempty : p.counters = Counters.empty)
    (key : Text × Severity) : Audited key [] (atRest p) where
  total := ⟨0, by rw [atRest, hempty]; rfl⟩
  small := by
    rw [atRest, hempty]
    exact Nat.two_pow_pos 64
  emitted := ⟨0, by rw [atRest, hempty]; rfl⟩
  suppressed := ⟨0, by rw [atRest, hempty]; rfl⟩

/-- The books are kept along every run. -/
lemma audited_after {p : Pipeline F} (hempty : p.counters = Counters.empty) {acts : List Act}
    (hrun : machine.Valid (atRest p) acts) (key : Text × Severity) :
    Audited key (machine.trace (atRest p) acts) (machine.after (atRest p) acts) :=
  machine.history (P := fun tr s => Audited key tr s) (audited_atRest hempty key)
    (fun _ _ a h _ => audited_next h a) hrun

/-- **The counters account for what was recorded.** In every interleaving of any
number of tasks and summaries, totals and buckets agree with the recorded decisions
up to wrap-arounds, and exactly while less than `2 ^ 64` were recorded. -/
theorem counters_account (p : Pipeline F) (hempty : p.counters = Counters.empty)
    (acts : List Act) (hrun : machine.Valid (atRest p) acts) (key : Text × Severity) :
    let tr := machine.trace (atRest p) acts
    let counters := (machine.after (atRest p) acts).pipe.counters
    let total := Counters.count counters.cumulativeTotals key
    let emitted := Machine.tally (takenEmitted key) tr + Counters.count counters.bucketEmitted key
    let suppressed :=
      Machine.tally (takenSuppressed key) tr + Counters.count counters.bucketSuppressed key
    Counters.Counts total (Machine.tally (emissions key) tr) ∧
      Counters.Counts emitted (Machine.tally (emissions key) tr) ∧
      Counters.Counts suppressed (Machine.tally (suppressions key) tr) ∧
      (Machine.tally (emissions key) tr < 2 ^ 64 →
        total = Machine.tally (emissions key) tr ∧ emitted = Machine.tally (emissions key) tr) ∧
      (Machine.tally (suppressions key) tr < 2 ^ 64 →
        suppressed = Machine.tally (suppressions key) tr) := by
  intro tr counters total emitted suppressed
  have h := audited_after hempty hrun key
  refine ⟨h.total, h.emitted, h.suppressed, fun hlt => ⟨?_, ?_⟩, fun hlt => ?_⟩
  · exact h.total.eq_of_lt hlt
  · exact h.emitted.eq_of_lt hlt
  · exact h.suppressed.eq_of_lt hlt

/-! ### The wrap-around -/

/-- Task `i` is free, and the baseline, still learning at `now`, knows no pair but `k`. -/
structure Learning (i : ℕ) (k : Text) (now : DateTime) (s : System F) : Prop where
  idle : s.stage i = .idle
  room : 1 < s.pipe.baseline.config.pairsMax
  known : s.pipe.baseline.pairs.dom ⊆ {k}
  learning : ∃ learning, s.pipe.baseline.learningUntil = some learning ∧ now < learning

/-- The acts of a task whose alert is let through. -/
def allowed (i : ℕ) (c : Call) : List Act := .enter i c :: List.replicate 3 (.resume i)

/-- The baseline, still learning, only records. -/
lemma Learning.score {i : ℕ} {k : Text} {s : System F} {c : Call} (h : Learning i k c.scored s)
    (hk : Baseline.key c.alert.detector c.alert.comm = k) :
    s.pipe.baseline.Admissible (scoring c) ∧
      s.pipe.baseline.recordAndScore (scoring c)
        = (s.pipe.baseline.record c.scored k, .score none) := by
  obtain ⟨learning, hlearn, hnow⟩ := h.learning
  have hroom : s.pipe.baseline.pairs.len < s.pipe.baseline.config.pairsMax :=
    (Finset.card_le_card h.known).trans_lt h.room
  refine ⟨Baseline.admissible_of_room hroom _, ?_⟩
  rw [← hk]
  exact Baseline.recordAndScore_of_learning (c := scoring c) hroom hlearn hnow

/-- One task in the learning phase, for a call the limiter lets through. -/
lemma Learning.allowed {i : ℕ} {k : Text} {s : System F} {c : Call} (h : Learning i k c.scored s)
    (hk : Baseline.key c.alert.detector c.alert.comm = k)
    (hok : s.pipe.limiter.Admissible (.check c.checked (keyOf c.alert) c.alert.severity))
    (hallow : (s.pipe.limiter.check c.checked (keyOf c.alert) c.alert.severity).2 = .allow) :
    machine.Valid s (allowed i c) ∧ Learning i k c.scored (machine.after s (allowed i c)) ∧
      (machine.after s (allowed i c)).pipe.limiter.config = s.pipe.limiter.config ∧
      machine.trace s (allowed i c) = [(.enter i c, .worked none []),
        (.resume i, .worked none []), (.resume i, .worked (some (c.alert, .allow)) []),
        (.resume i, .worked none [c.alert])] := by
  obtain ⟨hadmissible, hscore⟩ := h.score hk
  have henter : s.enter i c = ⟨{ s.pipe with baseline := s.pipe.baseline.record c.scored k },
      Function.update s.stage i (.scored c none)⟩ := by
    rw [enter, hscore]
  have hdom : (s.pipe.baseline.record c.scored k).pairs.dom ⊆ {k} :=
    Finset.insert_subset (Finset.mem_singleton_self k) h.known
  let checked := s.pipe.limiter.check c.checked (keyOf c.alert) c.alert.severity
  let p : Pipeline F := { s.pipe with baseline := s.pipe.baseline.record c.scored k }
  have hscored : (Stage.scored c none).resume p
      = ({ p with limiter := checked.1 }, .decided c none .allow, .worked none []) := by
    rw [← hallow]
    rfl
  simp only [System.allowed, List.replicate, Machine.along_cons, Machine.along_nil,
    Machine.after_cons, Machine.after_nil, Machine.trace_cons, Machine.trace_nil, machine_step,
    step, henter, resume_update]
  rw [show (Stage.scored c none).resume { s.pipe with
    baseline := s.pipe.baseline.record c.scored k } = _ from hscored]
  refine ⟨⟨⟨h.idle, hadmissible⟩, ?_, ?_, ?_, trivial⟩, ⟨?_, h.room, hdom, h.learning⟩, rfl, rfl⟩
  · exact (ready_update _ _ _ _).mpr hok
  · exact (ready_update _ _ _ _).mpr trivial
  · exact (ready_update _ _ _ _).mpr trivial
  · exact Function.update_self _ _ _

omit [F64 F] in
/-- An entry lets a check through that finds an empty window, a first event in the
burst window, and no gap asked for that has not passed. -/
lemma allow_of_rolled {cfg : RateLimitConfig} {now : Instant} {severity : Severity} {st : KeyState}
    (hmax : 0 < cfg.windowMax) (hthreshold : cfg.burstThreshold ≠ 1)
    (hwindow : (KeyState.rolled cfg now severity st).windowCount = 0)
    (hburst : (KeyState.rolled cfg now severity st).burstCount = 1)
    (hgap : KeyState.requiredGap cfg (KeyState.rolled cfg now severity st)
      ≤ now.durationSince (KeyState.rolled cfg now severity st).lastEmitted) :
    (st.check cfg now severity).2 = .allow := by
  have hwithin : KeyState.within cfg now (KeyState.rolled cfg now severity st) = true :=
    decide_eq_true ⟨hwindow ▸ hmax, hgap⟩
  have hquiet : KeyState.burstTriggered cfg (KeyState.rolled cfg now severity st) = false :=
    decide_eq_false (hburst ▸ hthreshold.symm)
  rw [KeyState.check, if_pos hwithin, hquiet]
  rfl

/-- Late enough, every window is over and every gap has passed. -/
lemma exists_late (cfg : RateLimitConfig) (st : KeyState) :
    ∃ now : Instant, cfg.window ≤ now.durationSince st.windowStart ∧
      cfg.burstWindow ≤ now.durationSince st.burstStart ∧
      cfg.backoffMax ≤ now.durationSince st.lastEmitted := by
  have hpassed : ∀ {now earlier : Instant} {d : Duration}, earlier + (d : ℤ) ≤ now →
      d ≤ now.durationSince earlier := fun h =>
    Int.ofNat_le.mp ((le_sub_iff_add_le'.mpr h).trans (Int.self_le_toNat _))
  refine ⟨max st.windowStart (max st.burstStart st.lastEmitted)
    + ((cfg.window + cfg.burstWindow + cfg.backoffMax : ℕ) : ℤ),
    hpassed (add_le_add (le_max_left _ _) ?_),
    hpassed (add_le_add ((le_max_left _ _).trans (le_max_right _ _)) ?_),
    hpassed (add_le_add ((le_max_right _ _).trans (le_max_right _ _)) ?_)⟩ <;>
  · norm_cast
    omega

/-- The limiter lets some check through, whatever its state. -/
lemma exists_allow {l : RateLimiter} (hmax : 0 < l.config.windowMax)
    (hthreshold : l.config.burstThreshold ≠ 1) (key : Key) (severity : Severity) :
    ∃ m, l.Admissible (.check m key severity) ∧ (l.check m key severity).2 = .allow := by
  obtain ⟨order, horder⟩ := l.state.exists_enumerates
  cases hentry : (l.evict order key).get key with
  | none =>
      refine ⟨⟨0, 0, order⟩, ⟨horder, le_refl _⟩, ?_⟩
      rw [RateLimiter.check]
      simp only [hentry, Option.getD_none]
      refine allow_of_rolled hmax hthreshold ?_ ?_ ?_
      · simp [KeyState.rolled, KeyState.rollBurst, KeyState.rollWindow, KeyState.new]
      · simp [KeyState.rolled, KeyState.rollBurst, KeyState.rollWindow, KeyState.new]
        decide
      · simp [KeyState.rolled, KeyState.rollBurst, KeyState.rollWindow, KeyState.new,
          KeyState.requiredGap]
  | some st =>
      obtain ⟨now, hwindow, hburst, hgap⟩ := exists_late l.config st
      have hrolled : KeyState.rolled l.config now severity st
          = { st with
              windowStart := now, windowCount := 0, burstStart := now, burstCount := 1
              backoffSteps := st.backoffSteps - 1
              severitySeen := max st.severitySeen severity } := by
        rw [KeyState.rolled, KeyState.rollBurst, KeyState.rollWindow, if_pos hburst]
        exact if_pos hwindow
      refine ⟨⟨now, now, order⟩, ⟨horder, le_refl _⟩, ?_⟩
      rw [RateLimiter.check]
      simp only [hentry, Option.getD_some]
      refine allow_of_rolled hmax hthreshold ?_ ?_ ?_
      · rw [hrolled]
      · rw [hrolled]
      · rw [hrolled, KeyState.requiredGap]
        split_ifs
        · exact Nat.zero_le _
        · exact (min_le_right _ _).trans hgap

/-- Any number of alerts can be recorded in the learning phase. -/
lemma exists_recorded (alert : Alert) (now : DateTime) : ∀ (n : ℕ) (s : System F),
    Learning 0 (Baseline.key alert.detector alert.comm) now s →
    s.pipe.limiter.config = RateLimitConfig.default → ∃ acts, machine.Valid s acts ∧
      Machine.tally (emissions (alert.detector, alert.severity)) (machine.trace s acts) = n := by
  intro n
  induction n with
  | zero => exact fun s _ _ => ⟨[], trivial, rfl⟩
  | succ n ih =>
      intro s h hconfig
      obtain ⟨m, hok, hallow⟩ := exists_allow (l := s.pipe.limiter) (by rw [hconfig]; decide)
        (by rw [hconfig]; decide) (keyOf alert) alert.severity
      obtain ⟨hvalid, hnext, hsame, htrace⟩ :=
        Learning.allowed (c := ⟨alert, now, [], m, now, now⟩) h rfl hok hallow
      obtain ⟨acts, hacts, hn⟩ := ih _ hnext (hsame.trans hconfig)
      refine ⟨_ ++ acts, (machine.along_append _ _ _ _).mpr ⟨hvalid, hacts⟩, ?_⟩
      rw [Machine.trace_append, Machine.tally_append, htrace, hn]
      simp [emissions, recordings, Effect.recorded, Decision.emits]
      omega

/-- The globals at the start of the daemon, with the defaults. -/
def fresh : Pipeline ℚ :=
  ⟨Baseline.new BaselineConfig.default 0, RateLimiter.new RateLimitConfig.default, Counters.empty⟩

/-- At the start of the daemon nothing is known. -/
lemma learning_fresh (i : ℕ) (k : Text) : Learning i k 0 (atRest fresh) where
  idle := rfl
  room := (by decide : 1 < 10000)
  known := Finset.empty_subset _
  learning := ⟨86400 * DateTime.nanos, by decide, by decide⟩

/-- One alert, then a summary. -/
theorem counters_account_one :
    let alert : Alert := ⟨1, "1", 0, .critical, "fim", 1, "write open", [], 7, 0, "cat", .null⟩
    let acts := allowed 0 ⟨alert, 0, [], ⟨5, 5, []⟩, 5, 5⟩ ++ [.takeBuckets]
    Machine.tally (takenEmitted ("fim", .critical)) (machine.trace (atRest fresh) acts)
        + Counters.count (machine.after (atRest fresh) acts).pipe.counters.bucketEmitted
          ("fim", .critical) = 1 := by
  intro alert acts
  obtain ⟨hvalid, -, -, htrace⟩ := Learning.allowed
    (c := ⟨alert, 0, [], ⟨5, 5, []⟩, 5, 5⟩) (learning_fresh 0 _) rfl (by decide) (by decide)
  have hrun : machine.Valid (atRest fresh) acts :=
    (machine.along_append _ _ _ _).mpr ⟨hvalid, trivial, trivial⟩
  have hone : Machine.tally (emissions ("fim", .critical)) (machine.trace (atRest fresh) acts)
      = 1 := by
    rw [Machine.trace_append, htrace]
    rfl
  have hlt : Machine.tally (emissions ("fim", .critical)) (machine.trace (atRest fresh) acts)
      < 2 ^ 64 := by
    rw [hone]
    exact Nat.one_lt_two_pow (by decide)
  have haccount := counters_account fresh rfl acts hrun ("fim", .critical)
  exact (haccount.2.2.2.1 hlt).2.trans hone

/-- The counters are `u64`: a run that records `2 ^ 64` alerts of one kind ends with a
total of zero. -/
theorem counters_wrap :
    ¬ ∀ (p : Pipeline ℚ), p.counters = Counters.empty → ∀ acts, machine.Valid (atRest p) acts →
      ∀ key : Text × Severity,
        let tr := machine.trace (atRest p) acts
        let counters := (machine.after (atRest p) acts).pipe.counters
        Counters.count counters.cumulativeTotals key = Machine.tally (emissions key) tr ∧
          Machine.tally (takenEmitted key) tr + Counters.count counters.bucketEmitted key
            = Machine.tally (emissions key) tr ∧
          Machine.tally (takenSuppressed key) tr + Counters.count counters.bucketSuppressed key
            = Machine.tally (suppressions key) tr := by
  intro h
  let alert : Alert := ⟨1, "1", 0, .critical, "fim", 1, "write open", [], 7, 0, "cat", .null⟩
  obtain ⟨acts, hrun, hmany⟩ :=
    exists_recorded alert 0 (2 ^ 64) (atRest fresh) (learning_fresh 0 _) rfl
  have hsmall := (audited_after rfl hrun (alert.detector, alert.severity)).small
  have htotal := (h fresh rfl acts hrun (alert.detector, alert.severity)).1
  rw [htotal, hmany] at hsmall
  exact lt_irrefl _ hsmall

end System

end Pipeline

end Kernelradar
