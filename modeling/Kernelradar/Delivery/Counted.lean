import Kernelradar.Delivery.Numbers

/-!
The alert counters of the daemon against the calls.

* `pipeTrace`: the part of a run that happens in `print_alert` and in the summaries;
* `Labelled`: what a detector has on its way bears its name;
* `decided_counted`: every decision on an alert of a detector is counted under its name and one
  severity, in the totals or among the suppressed.
-/

namespace Kernelradar

open Library Bpf

lemma Feed.name_injective : Function.Injective Feed.name := by
  intro f g h
  cases f <;> cases g <;> first | rfl | exact absurd h (by decide)

namespace Delivery

variable {F : Type} [F64 F] {n : ℕ}

/-- The step of `print_alert` or of a summary. -/
def pipeStep : Act n × Effect → Option (Pipeline.Act × Pipeline.Effect)
  | (.enter f call, _) => some (.enter f.task call, .worked none [])
  | (.work f, .piped e) => some (.resume f.task, e)
  | (.takeBuckets, .piped e) => some (.takeBuckets, e)
  | (.drainSuppressed order, .piped e) => some (.drainSuppressed order, e)
  | _ => none

/-- The steps of `print_alert` and of the summaries. -/
def pipeTrace (tr : List (Act n × Effect)) : List (Pipeline.Act × Pipeline.Effect) :=
  tr.filterMap pipeStep

/-- A step of the daemon is a step of `print_alert` or leaves it alone. -/
lemma pipeStep_cases (d : Delivery F n) (a : Act n) :
    (pipeStep (a, (d.step a).2) = none ∧ (d.step a).1.sys = d.sys) ∨
    ∃ b, pipeStep (a, (d.step a).2) = some (b, (d.sys.step b).2) ∧
      (d.step a).1.sys = (d.sys.step b).1 := by
  cases a with
  | call c h task =>
      rw [step]
      split_ifs <;> exact Or.inl ⟨rfl, rfl⟩
  | reserve c h task mem =>
      rw [step]
      cases h.record task mem <;> exact Or.inl ⟨rfl, rfl⟩
  | judge g outcome => cases outcome <;> exact Or.inl ⟨rfl, rfl⟩
  | enter g call => exact Or.inr ⟨.enter g.task call, rfl, rfl⟩
  | work g => exact Or.inr ⟨.resume g.task, rfl, rfl⟩
  | takeBuckets => exact Or.inr ⟨.takeBuckets, rfl, rfl⟩
  | drainSuppressed order => exact Or.inr ⟨.drainSuppressed order, rfl, rfl⟩
  | _ => exact Or.inl ⟨rfl, rfl⟩

/-- What a detector has on its way bears its name. -/
def Labelled (d : Delivery F n) : Prop := ∀ f a, d.pending f = some a → a.detector = f.name

section

variable {d : Delivery F n}

lemma Labelled.step (h : d.Labelled) (hsane : d.Sane) (a : Act n) (hok : d.Admissible a) :
    (d.step a).1.Labelled := by
  intro f b hb
  rcases pending_step hsane a hok with hkeeps | ⟨g, alert, hmakes⟩ | ⟨g, c, z, dec, hdecides⟩
  · exact h f b (hkeeps.pending f b hb)
  · obtain ⟨ev, hcalled, houtcome⟩ := hmakes.outcome
    rcases hmakes.pending f b hb with ⟨rfl, rfl⟩ | hold
    · exact (id_of_outcome hcalled houtcome).2
    · exact h f b hold
  · exact h f b (hdecides.pending f b hb).2

/-- The decision a task records is about the alert it has on its way. -/
lemma unsent_of_recorded {p : Pipeline F} {x : Pipeline.Stage F} {alert : Alert} {dec : Decision}
    (h : (x.resume p).2.2.recorded = some (alert, dec)) : x.unsent = some alert := by
  cases x with
  | decided c z d => cases d <;> exact congrArg some (congrArg Prod.fst (Option.some.inj h))
  | _ => cases h

end

/-- The severities. -/
def severities : List Severity := [.info, .warning, .alert, .critical]

/-- What the decisions of a step add to the counters under a name, over all severities. -/
def counted (name : Text) (x : Pipeline.Act × Pipeline.Effect) : ℕ :=
  (severities.map fun severity =>
    Pipeline.emissions (name, severity) x + Pipeline.suppressions (name, severity) x).sum

lemma counted_of_none (name : Text) (b : Pipeline.Act) {e : Pipeline.Effect}
    (h : e.recorded = none) : counted name (b, e) = 0 := by
  have hem : ∀ key, Pipeline.emissions key (b, e) = 0 := fun key =>
    Pipeline.System.recordings_of_none key _ h
  have hsu : ∀ key, Pipeline.suppressions key (b, e) = 0 := fun key =>
    Pipeline.System.recordings_of_none key _ h
  simp only [counted, severities, hem, hsu]
  rfl

/-- A decision is counted once: under the alert's name and severity, emitted or suppressed. -/
lemma counted_of_some (name : Text) (b : Pipeline.Act) {e : Pipeline.Effect} {alert : Alert}
    {dec : Decision} (h : e.recorded = some (alert, dec)) :
    counted name (b, e) = if alert.detector = name then 1 else 0 := by
  have hkey : ∀ severity, (decide ((alert.detector, alert.severity) = (name, severity))).toNat
      = if alert.detector = name ∧ alert.severity = severity then 1 else 0 := by
    intro severity
    split_ifs with hkey
    · rw [decide_eq_true (Prod.ext hkey.1 hkey.2)]
      rfl
    · rw [decide_eq_false fun heq => hkey (Prod.mk.inj heq)]
      rfl
  have hone : ∀ severity, Pipeline.emissions (name, severity) (b, e)
      + Pipeline.suppressions (name, severity) (b, e)
      = if alert.detector = name ∧ alert.severity = severity then 1 else 0 := by
    intro severity
    cases dec with
    | suppress =>
        rw [Pipeline.System.emissions_of_suppress _ h, Pipeline.System.suppressions_of_suppress _ h,
          Nat.zero_add, hkey]
    | allow =>
        rw [Pipeline.System.emissions_of_emits _ h rfl,
          Pipeline.System.suppressions_of_emits _ h rfl, Nat.add_zero, hkey]
    | burst =>
        rw [Pipeline.System.emissions_of_emits _ h rfl,
          Pipeline.System.suppressions_of_emits _ h rfl, Nat.add_zero, hkey]
  simp only [counted, severities, hone]
  by_cases hname : alert.detector = name
  · cases hsev : alert.severity <;> simp [hname]
  · simp [hname]

/-- A decision on an alert of `f` is counted under the name of `f`. -/
lemma decided_step (f : Feed) {d : Delivery F n} (hsane : d.Sane) (hlabelled : d.Labelled)
    (a : Act n) : decided f (a, (d.step a).2)
      = (pipeStep (a, (d.step a).2)).elim 0 (counted f.name) := by
  cases a with
  | call c h task =>
      rw [step]
      split_ifs <;> rfl
  | reserve c h task mem =>
      rw [step]
      cases h.record task mem <;> rfl
  | judge g outcome => cases outcome <;> rfl
  | enter g call => exact (counted_of_none f.name _ rfl).symm
  | takeBuckets => exact (counted_of_none f.name _ rfl).symm
  | drainSuppressed order => exact (counted_of_none f.name _ rfl).symm
  | work g =>
      change decided f (Act.work g, .piped (d.sys.resume g.task).2)
        = counted f.name (.resume g.task, (d.sys.resume g.task).2)
      cases hrec : (d.sys.resume g.task).2.recorded with
      | none =>
          rw [counted_of_none f.name _ hrec]
          simp [decided, hrec]
      | some ad =>
          obtain ⟨alert, dec⟩ := ad
          have hunsent := unsent_of_recorded hrec
          have hstage : d.sys.stage g.task ≠ .idle := by
            intro hidle
            rw [hidle] at hunsent
            cases hunsent
          have hname : alert.detector = g.name :=
            hlabelled g alert ((hsane.pending_of_stage hstage).trans hunsent)
          rw [counted_of_some f.name _ hrec, hname]
          simp only [decided, hrec, Option.isSome_some, and_true, Feed.name_injective.eq_iff]
  | _ => rfl

/-- **The counters bear the right names**: whatever the order of the steps, every recorded
decision on an alert of a detector is counted under its own name, once, as emitted or as
suppressed; and the totals and the buckets show these counts, up to wrap-arounds. -/
theorem decided_counted {p : Pipeline F} (hempty : p.counters = Counters.empty)
    {acts : List (Act n)} (hrun : machine.Valid (start p) acts) (f : Feed) :
    let tr := machine.trace (start p) acts
    let d := machine.after (start p) acts
    Machine.tally (decided f) tr = (severities.map fun severity =>
        Machine.tally (Pipeline.emissions (f.name, severity)) (pipeTrace tr)
          + Machine.tally (Pipeline.suppressions (f.name, severity)) (pipeTrace tr)).sum ∧
      ∀ key, Pipeline.System.Audited key (pipeTrace tr) d.sys := by
  intro tr d
  have hsane : ∀ (d : Delivery F n) a, d.Readable ∧ d.Sane ∧ d.Labelled → d.Admissible a →
      (d.step a).1.Readable ∧ (d.step a).1.Sane ∧ (d.step a).1.Labelled :=
    fun d a h hok => ⟨h.1.step a hok, h.2.1.step h.1 a hok, h.2.2.step h.2.1 a hok⟩
  have hbalance := machine.balance (I := fun d : Delivery F n => d.Readable ∧ d.Sane ∧ d.Labelled)
    (fun _ => 0) (decided f) (fun x => (pipeStep x).elim 0 (counted f.name)) hsane
    (fun d a h _ => by rw [machine_step, decided_step f h.2.1 h.2.2 a])
    ⟨readable_start p, sane_start p, fun _ _ h => nomatch h⟩ hrun
  rw [← Machine.tally_filterMap pipeStep (counted f.name), Nat.zero_add, Nat.zero_add] at hbalance
  refine ⟨?_, fun key => ?_⟩
  · rw [hbalance]
    refine (Machine.tally_sum _ _ severities).trans ?_
    simp only [Machine.tally_add]
    rfl
  · have hzero : Pipeline.System.Audited key (pipeTrace ([] : List (Act n × Effect)))
        (start p : Delivery F n).sys :=
      Pipeline.System.audited_atRest hempty key
    refine machine.history (P := fun tr (d : Delivery F n) =>
      Pipeline.System.Audited key (pipeTrace tr) d.sys) hzero (fun tr d a h _ => ?_) hrun
    rw [pipeTrace, filterMap_snoc]
    rcases pipeStep_cases d a with ⟨hnone, hsys⟩ | ⟨b, hsome, hsys⟩
    · rw [machine_step, hnone, hsys, Option.toList_none, List.append_nil]
      exact h
    · rw [machine_step, hsome, hsys, Option.toList_some]
      exact Pipeline.System.audited_next h b

lemma pipeTrace_append (tr tr' : List (Act n × Effect)) :
    pipeTrace (tr ++ tr') = pipeTrace tr ++ pipeTrace tr' := List.filterMap_append

/-- An alert that is let through is counted once. -/
lemma emissions_told {f : Feed} {c : Pipeline.Call} (hname : c.alert.detector = f.name)
    (item : Option (List UInt8)) :
    Machine.tally (Pipeline.emissions (f.name, c.alert.severity))
      (pipeTrace (told f item c : List (Act n × Effect))) = 1 := by
  have hone := Pipeline.System.emissions_of_emits (f.name, c.alert.severity)
    (a := .resume f.task) (e := .worked (some (c.alert, .allow)) []) rfl rfl
  rw [hname, decide_eq_true rfl] at hone
  exact congrArg (fun m => 0 + (0 + (m + (0 + 0)))) hone

/-- Two calls of `setuid(0)`, then a summary, which takes both alerts out of the bucket. -/
theorem decided_counted_setuid : ∃ acts : List (Act 1),
    let tr := machine.trace (start Pipeline.System.fresh) acts
    (severities.map fun severity =>
        Machine.tally (Pipeline.emissions (Feed.privesc.name, severity)) (pipeTrace tr)
          + Machine.tally (Pipeline.suppressions (Feed.privesc.name, severity))
              (pipeTrace tr)).sum = 2 ∧
      Machine.tally (Pipeline.takenEmitted (Feed.privesc.name, .alert)) (pipeTrace tr) = 2 := by
  obtain ⟨acts, a, b, i, j, hrun, htrace, -, hboth⟩ := exists_twice
  let key : Text × Severity := (Feed.privesc.name, .alert)
  have hvalid : machine.Valid (start Pipeline.System.fresh) (acts ++ [.takeBuckets]) :=
    (machine.along_append _ _ _ _).mpr ⟨hrun, trivial, trivial⟩
  obtain ⟨last, hlast⟩ : ∃ e,
      machine.trace (start Pipeline.System.fresh) (acts ++ [.takeBuckets])
        = machine.trace (start Pipeline.System.fresh) acts
          ++ [(.takeBuckets, .piped (.took e.1 e.2))] :=
    ⟨(_, _), machine.trace_append _ _ _⟩
  have hquiet : pipeTrace (machine.trace (start Pipeline.System.fresh) setuids) = [] ∧
      Machine.tally (decided .privesc)
        (machine.trace (start Pipeline.System.fresh) setuids) = 0 := ⟨rfl, rfl⟩
  have hdecided : Machine.tally (decided .privesc)
      (machine.trace (start Pipeline.System.fresh) (acts ++ [.takeBuckets])) = 2 := by
    rw [hlast, htrace, Machine.tally_append, Machine.tally_append, hquiet.2]
    rfl
  have htold : ∀ c ∈ [a, b], ∀ item, Machine.tally (Pipeline.emissions key)
      (pipeTrace (told .privesc item c : List (Act 1 × Effect))) = 1 := by
    intro c hc item
    obtain ⟨hname, -, hseverity⟩ := hboth c hc
    have hone := emissions_told (n := 1) hname item
    rwa [hseverity] at hone
  have hemissions : Machine.tally (Pipeline.emissions key)
      (pipeTrace (machine.trace (start Pipeline.System.fresh) (acts ++ [.takeBuckets]))) = 2 := by
    rw [hlast, htrace, pipeTrace_append, pipeTrace_append, pipeTrace_append, hquiet.1,
      List.nil_append, Machine.tally_append, Machine.tally_append, htold a (by simp) i,
      htold b (by simp) j]
    rfl
  obtain ⟨hsum, haudited⟩ := decided_counted rfl hvalid .privesc
  -- nothing is in the bucket after the summary, so it has taken both
  have hbucket : Counters.Counts (Machine.tally (Pipeline.takenEmitted key)
      (pipeTrace (machine.trace (start Pipeline.System.fresh) (acts ++ [.takeBuckets])))) 2 := by
    have hempty : Counters.count (machine.after (start Pipeline.System.fresh)
        (acts ++ [.takeBuckets])).sys.pipe.counters.bucketEmitted key = 0 := by
      rw [Machine.after_append]
      rfl
    have hemitted := (haudited key).emitted
    rwa [hemissions, hempty, Nat.add_zero] at hemitted
  refine ⟨acts ++ [.takeBuckets], ?_, ?_⟩
  · exact hsum.symm.trans hdecided
  · exact hbucket.eq_of_lt (by decide)

end Delivery

end Kernelradar
