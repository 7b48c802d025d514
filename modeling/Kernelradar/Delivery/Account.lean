import Kernelradar.Delivery.System

/-!
What becomes of the calls a program has seen.

* `seen`, `dropped`, … : what a step adds to each station's account, by ring buffer;
* `owing`, `waiting`, … : what is at a station;
* `accounted`: no call is lost on the way, and the counters of the programs say so.
-/

namespace Kernelradar

open Library Bpf

/-- One for a context that has counted a call and not yet found a place for it. -/
def Probe.owes (f : Feed) : Probe → ℕ
  | .counted h _ => if h.feed = f then 1 else 0
  | .refused g => if g = f then 1 else 0
  | _ => 0

/-- One for a detector that holds an event. -/
def Hand.judging : Hand → ℕ
  | .event _ => 1
  | _ => 0

/-- One for a detector that holds an alert. -/
def Hand.reporting : Hand → ℕ
  | .alert _ => 1
  | _ => 0

/-- One for a task in `print_alert` whose decision is not recorded. -/
def Pipeline.Stage.deciding {F : Type} : Pipeline.Stage F → ℕ
  | .scored _ _ => 1
  | .decided _ _ _ => 1
  | _ => 0

lemma Pipeline.Stage.deciding_onward {F : Type} (c : Call) (z : Option F) (rs : List Alert) :
    (onward c z rs).deciding = 0 := by
  cases rs with
  | nil => cases z <;> rfl
  | cons r rs => rfl

lemma Pipeline.Stage.deciding_resume {F : Type} [F64 F] (p : Pipeline F) (x : Stage F) :
    (x.resume p).2.1.deciding + (if (x.resume p).2.2.recorded.isSome then 1 else 0)
      = x.deciding := by
  cases x with
  | decided c z d =>
      cases d with
      | suppress => exact congrArg (· + 1) (deciding_onward c z (records c z .suppress))
      | allow => exact congrArg (· + 1) (deciding_onward c z (records c z .allow))
      | burst => rfl
  | bursting c z => exact deciding_onward c z (records c z .burst)
  | emitting c z r rest => exact deciding_onward c z rest
  | _ => rfl

namespace Delivery

variable {F : Type} [F64 F] {n : ℕ}

/-! ### What a step adds -/

/-- A call is seen. -/
def seen (f : Feed) : Act n × Effect → ℕ
  | (.call _ h _, .seen) => if h.feed = f then 1 else 0
  | _ => 0

/-- A call is counted as dropped. -/
def dropped (f : Feed) : Act n × Effect → ℕ
  | (.drop _ g, _) => if g = f then 1 else 0
  | _ => 0

/-- A record is reserved. -/
def reserved (f : Feed) : Act n × Effect → ℕ
  | (.reserve _ h task mem, _) => if h.feed = f ∧ (h.record task mem).isSome then 1 else 0
  | _ => 0

/-- A record is taken. -/
def taken (f : Feed) : Act n × Effect → ℕ
  | (.next g, .item (some _)) => if g = f then 1 else 0
  | _ => 0

/-- An event is not reported. -/
def unreported (f : Feed) : Act n × Effect → ℕ
  | (.judge g none, _) => if g = f then 1 else 0
  | _ => 0

/-- An alert is made. -/
def made (f : Feed) : Act n × Effect → ℕ
  | (.judge g (some _), _) => if g = f then 1 else 0
  | _ => 0

/-- An alert enters `print_alert`, and the baseline panics. -/
def panicked (f : Feed) : Act n × Effect → ℕ
  | (.enter g _, .entered true) => if g = f then 1 else 0
  | _ => 0

/-- An alert enters `print_alert`. -/
def entered (f : Feed) : Act n × Effect → ℕ
  | (.enter g _, .entered false) => if g = f then 1 else 0
  | _ => 0

/-- A decision on an alert is recorded. -/
def decided (f : Feed) : Act n × Effect → ℕ
  | (.work g, .piped e) => if g = f ∧ e.recorded.isSome then 1 else 0
  | _ => 0

/-! ### What is at a station -/

/-- The calls of `f` that have been counted and have neither a place nor a drop. -/
def owing (f : Feed) (d : Delivery F n) : ℕ := ∑ c, (d.probe c).owes f

/-- The records in the ring buffer of `f`. -/
def waiting (f : Feed) (d : Delivery F n) : ℕ := (d.ring f).ring.slots.length

omit [F64 F] in
lemma owing_stand (f : Feed) (d : Delivery F n) (c : Fin n) (p : Probe) :
    owing f (d.stand c p) + (d.probe c).owes f = owing f d + p.owes f := by
  have hrest : ∑ x ∈ Finset.univ.erase c, ((d.stand c p).probe x).owes f
      = ∑ x ∈ Finset.univ.erase c, (d.probe x).owes f := by
    refine Finset.sum_congr rfl fun x hx => ?_
    rw [d.probe_stand_of_ne (Finset.ne_of_mem_erase hx)]
  have hnew := Finset.add_sum_erase Finset.univ (fun x => ((d.stand c p).probe x).owes f)
    (Finset.mem_univ c)
  have hold := Finset.add_sum_erase Finset.univ (fun x => (d.probe x).owes f) (Finset.mem_univ c)
  rw [owing, owing, ← hnew, ← hold, hrest, probe_stand_self]
  omega

/-- What was counted and has found a place or a drop. -/
lemma owing_step (f : Feed) (d : Delivery F n) (a : Act n) (hok : d.Admissible a) :
    owing f (d.step a).1 + (dropped f (a, (d.step a).2) + reserved f (a, (d.step a).2))
      = owing f d + seen f (a, (d.step a).2) := by
  cases a with
  | call c h task =>
      have hidle : d.probe c = .idle := hok
      rw [step]
      split_ifs with hwants
      · have hmove := owing_stand f (d.bump h.feed h.feed.observed) c (.counted h task)
        rw [show (d.bump h.feed h.feed.observed).probe c = .idle from hidle] at hmove
        exact hmove
      · rfl
  | refuse c h task =>
      have hmove := owing_stand f d c (.refused h.feed)
      rw [show d.probe c = .counted h task from hok] at hmove
      exact Nat.add_right_cancel hmove
  | reserve c h task mem =>
      rw [step]
      cases hrec : h.record task mem with
      | none => simp [dropped, reserved, seen, hrec]
      | some bytes =>
          have hmove := owing_stand f (d.onRing h.feed (.reserve c bytes)) c (.filling h.feed)
          rw [show (d.onRing h.feed (.reserve c bytes)).probe c = .counted h task from hok.1]
            at hmove
          have hres : reserved f (Act.reserve c h task mem, Effect.quiet)
              = (Probe.counted h task).owes f := by
            simp [reserved, Probe.owes, hrec]
          rw [hres]
          exact (Nat.zero_add _).symm ▸ hmove
  | drop c g =>
      have hmove := owing_stand f (d.bump g g.dropped) c .idle
      rw [show (d.bump g g.dropped).probe c = .refused g from hok] at hmove
      exact hmove
  | submit c g =>
      have hmove := owing_stand f (d.onRing g (.submit c)) c .idle
      rw [show (d.onRing g (.submit c)).probe c = .filling g from hok] at hmove
      exact hmove
  | judge g outcome => cases outcome <;> rfl
  | _ => rfl

omit [F64 F] in
/-- A step on a ring buffer changes its length by what it reserves and what it takes. -/
lemma length_step (s : SharedRing (List UInt8)) (op : SharedRing.Op (List UInt8)) :
    (s.step op).1.ring.slots.length + (s.step op).2.isSome.toNat
      = s.ring.slots.length + op.reserved.isSome.toNat := by
  cases op with
  | reserve p a => simp [SharedRing.step, Ring.reserve, SharedRing.Op.reserved]
  | submit p =>
      rw [SharedRing.step]
      cases s.holds p with
      | none => rfl
      | some ta => simp [Ring.submit, SharedRing.Op.reserved]
  | next =>
      rw [SharedRing.step]
      rcases s.ring.next_cases with hnone | ⟨a, rest, hslots, hnext⟩
      · rw [hnone]
        rfl
      · rw [hnext, hslots]
        rfl

/-- A detector takes what its ring buffer yields. -/
lemma taken_next (f : Feed) (d : Delivery F n) (g : Feed) :
    taken f ((Act.next g : Act n), (d.step (.next g)).2)
      = if g = f then ((d.ring g).step .next).2.isSome.toNat else 0 := by
  rw [step]
  cases ((d.ring g).step .next).2 <;> simp [taken]

/-- What was reserved is in the ring buffer or was taken. -/
lemma waiting_step (f : Feed) (d : Delivery F n) (a : Act n) :
    waiting f (d.step a).1 + taken f (a, (d.step a).2)
      = waiting f d + reserved f (a, (d.step a).2) := by
  have honRing : ∀ (g : Feed) (op : SharedRing.Op (List UInt8)), waiting f (d.onRing g op)
        + (if g = f then ((d.ring g).step op).2.isSome.toNat else 0)
      = waiting f d + (if g = f then op.reserved.isSome.toNat else 0) := by
    intro g op
    by_cases hg : g = f
    · subst hg
      rw [if_pos rfl, if_pos rfl, waiting, ring_onRing_self]
      exact length_step _ op
    · rw [if_neg hg, if_neg hg, waiting, d.ring_onRing_of_ne (Ne.symm hg), waiting]
  cases a with
  | call c h task =>
      rw [step]
      split_ifs <;> rfl
  | reserve c h task mem =>
      rw [step]
      cases hrec : h.record task mem with
      | none => simp [taken, reserved, hrec]
      | some bytes =>
          have hring := honRing h.feed (.reserve c bytes)
          simp only [SharedRing.step, SharedRing.Op.reserved, Option.isSome_none,
            Option.isSome_some, Bool.toNat_false, Bool.toNat_true, ite_self] at hring
          simp only [reserved, hrec, Option.isSome_some, and_true]
          exact hring
  | submit c g =>
      have hring := honRing g (.submit c)
      have hout : ((d.ring g).step (.submit c)).2 = none := by
        rw [SharedRing.step]
        cases (d.ring g).holds c <;> rfl
      simp only [hout, SharedRing.Op.reserved, Option.isSome_none, Bool.toNat_false,
        ite_self] at hring
      exact hring
  | next g =>
      have hring := honRing g .next
      simp only [SharedRing.Op.reserved, Option.isSome_none, Bool.toNat_false, ite_self] at hring
      rw [taken_next]
      exact hring
  | judge g outcome => cases outcome <;> rfl
  | _ => rfl

/-! ### Records -/

/-- The event is that of a call that a program of `f` has seen. -/
def Called (f : Feed) (ev : KrEvent) : Prop :=
  ∃ (h : Hook) (task : Task) (stale : KrEvent), h.feed = f ∧ h.event task stale = some ev

/-- The record can be read, and its event is that of a call. -/
def Sound (f : Feed) (bytes : List UInt8) : Prop :=
  ∃ ev, KrEvent.parseItem bytes = some ev ∧ Called f ev

/-- Every record in the ring buffers is sound. -/
def Readable (d : Delivery F n) : Prop := ∀ f, (d.ring f).All (Sound f)

/-- What a program fills in can be read. -/
lemma parseItem_record {h : Hook} {task : Task} {mem bytes : List UInt8}
    (hlen : mem.length = structSize KrEvent.members) (hrec : h.record task mem = some bytes) :
    ∃ ev, h.event task (KrEvent.readUnaligned mem) = some ev ∧
      KrEvent.parseItem bytes = some ev := by
  obtain ⟨ev, hev, rfl⟩ := Option.map_eq_some_iff.mp hrec
  exact ⟨ev, hev, Hook.parseItem_submitted hlen hev⟩

omit [F64 F] in
lemma Readable.onRing {d : Delivery F n} (h : d.Readable) {f : Feed}
    (op : SharedRing.Op (List UInt8)) (hres : ∀ bytes ∈ op.reserved, Sound f bytes) :
    (d.onRing f op).Readable := by
  intro g
  by_cases hg : g = f
  · subst hg
    rw [ring_onRing_self]
    exact ((h g).step op hres).1
  · rw [d.ring_onRing_of_ne hg]
    exact h g

/-- No step puts a record into a ring buffer that cannot be read. -/
lemma Readable.step {d : Delivery F n} (h : d.Readable) (a : Act n) (hok : d.Admissible a) :
    (d.step a).1.Readable := by
  cases a with
  | call c h' task =>
      rw [Delivery.step]
      split_ifs
      · exact h
      · exact h
  | reserve c h' task mem =>
      rw [Delivery.step]
      cases hrec : h'.record task mem with
      | none => exact h
      | some bytes =>
          obtain ⟨ev, hev, hparse⟩ := parseItem_record hok.2 hrec
          refine h.onRing (.reserve c bytes) fun b hb => ?_
          rw [← Option.some.inj hb]
          exact ⟨ev, hparse, h', task, _, rfl, hev⟩
  | submit c g =>
      exact h.onRing (.submit c) fun _ hb => absurd hb (by simp [SharedRing.Op.reserved])
  | next g => exact h.onRing .next fun _ hb => absurd hb (by simp [SharedRing.Op.reserved])
  | judge g outcome => cases outcome <;> exact h
  | _ => exact h

omit [F64 F] in
/-- What a detector takes is sound. -/
lemma Readable.item {d : Delivery F n} (h : d.Readable) {f : Feed} {bytes : List UInt8}
    (hitem : ((d.ring f).step .next).2 = some bytes) : Sound f bytes :=
  ((h f).step .next fun _ hb => nomatch hb).2 bytes hitem

/-! ### The detectors -/

omit [F64 F] in
/-- What a detector holds, by any weight, when the detector of `g` gives up `k'` for `k`. -/
lemma weigh_take (w : Hand → ℕ) {d : Delivery F n} {f g : Feed} {k k' : Hand}
    (hheld : d.hand g = k') {gone came : ℕ} (hself : g = f → w k + gone = w k' + came)
    (hother : g ≠ f → gone = came) :
    w ((d.take g k).hand f) + gone = w (d.hand f) + came := by
  by_cases hg : g = f
  · have hw := hself hg
    subst hg
    rw [hand_take_self, hheld]
    exact hw
  · rw [d.hand_take_of_ne (Ne.symm hg), hother hg]

/-- What was taken is held as an event, or was judged. -/
lemma judging_step (f : Feed) (d : Delivery F n) (hread : d.Readable) (a : Act n)
    (hok : d.Admissible a) :
    ((d.step a).1.hand f).judging
        + (unreported f (a, (d.step a).2) + made f (a, (d.step a).2))
      = (d.hand f).judging + taken f (a, (d.step a).2) := by
  cases a with
  | call c h task =>
      rw [step]
      split_ifs <;> rfl
  | reserve c h task mem =>
      rw [step]
      cases h.record task mem <;> rfl
  | next g =>
      rw [taken_next]
      refine weigh_take Hand.judging hok.1 (fun hg => ?_) fun hg => ?_
      · -- what a program has put there can be read
        rw [if_pos hg]
        cases hitem : ((d.ring g).step .next).2 with
        | none => rfl
        | some bytes =>
            obtain ⟨ev, hev, -⟩ := hread.item hitem
            rw [Option.bind_some, hev]
            rfl
      · rw [if_neg hg]
        rfl
  | judge g outcome =>
      obtain ⟨ev, hhand, -⟩ := hok
      cases outcome with
      | none =>
          refine weigh_take Hand.judging hhand (fun hg => ?_) fun hg => ?_
          · simp [hg, unreported, made, taken, Hand.judging]
          · simp [hg, unreported, made, taken]
      | some alert =>
          refine weigh_take Hand.judging hhand (fun hg => ?_) fun hg => ?_
          · simp [hg, unreported, made, taken, Hand.judging]
          · simp [hg, unreported, made, taken]
  | enter g call =>
      refine weigh_take Hand.judging hok.1 (fun _ => ?_) fun _ => rfl
      split_ifs <;> rfl
  | stop g => exact weigh_take Hand.judging hok.1 (fun _ => rfl) fun _ => rfl
  | _ => rfl

/-- An alert that was made is held, or has entered `print_alert`. -/
lemma reporting_step (f : Feed) (d : Delivery F n) (a : Act n) (hok : d.Admissible a) :
    ((d.step a).1.hand f).reporting
        + (entered f (a, (d.step a).2) + panicked f (a, (d.step a).2))
      = (d.hand f).reporting + made f (a, (d.step a).2) := by
  cases a with
  | call c h task =>
      rw [step]
      split_ifs <;> rfl
  | reserve c h task mem =>
      rw [step]
      cases h.record task mem <;> rfl
  | next g =>
      refine weigh_take Hand.reporting hok.1 (fun _ => ?_) fun _ => rfl
      cases (((d.ring g).step .next).2.bind KrEvent.parseItem) <;> rfl
  | judge g outcome =>
      obtain ⟨ev, hhand, -⟩ := hok
      cases outcome with
      | none => exact weigh_take Hand.reporting hhand (fun _ => rfl) fun _ => rfl
      | some alert =>
          refine weigh_take Hand.reporting hhand (fun hg => ?_) fun hg => ?_
          · simp [hg, entered, panicked, made, Hand.reporting]
          · simp [hg, entered, panicked, made]
  | enter g call =>
      rw [step]
      refine weigh_take Hand.reporting hok.1 (fun hg => ?_) fun hg => ?_
      · cases (d.sys.pipe.baseline.recordAndScore (Pipeline.scoring call)).2 <;>
          simp [hg, entered, panicked, made, Hand.reporting]
      · cases (d.sys.pipe.baseline.recordAndScore (Pipeline.scoring call)).2 <;>
          simp [hg, entered, panicked, made]
  | stop g => exact weigh_take Hand.reporting hok.1 (fun _ => rfl) fun _ => rfl
  | _ => rfl

/-- The step of `print_alert` that records a decision. -/
lemma deciding_resume (s : Pipeline.System F) (i j : ℕ) :
    ((s.resume i).1.stage j).deciding + (if i = j ∧ (s.resume i).2.recorded.isSome then 1 else 0)
      = (s.stage j).deciding := by
  by_cases hij : i = j
  · subst hij
    have hself := (s.stage i).deciding_resume s.pipe
    rw [s.stage_resume_self]
    simp only [true_and]
    exact hself
  · rw [if_neg fun h => hij h.1, Nat.add_zero]
    rw [s.stage_resume_of_ne (Ne.symm hij)]

/-- What has entered `print_alert` without a panic is being decided, or was. -/
lemma deciding_step (f : Feed) (d : Delivery F n) (a : Act n) (hok : d.Admissible a) :
    ((d.step a).1.sys.stage f.task).deciding + decided f (a, (d.step a).2)
      = (d.sys.stage f.task).deciding + entered f (a, (d.step a).2) := by
  cases a with
  | call c h task =>
      rw [step]
      split_ifs <;> rfl
  | reserve c h task mem =>
      rw [step]
      cases h.record task mem <;> rfl
  | judge g outcome => cases outcome <;> rfl
  | enter g call =>
      change ((d.sys.enter g.task call).stage f.task).deciding + 0 = _
      rw [step, Pipeline.System.enter]
      dsimp only
      by_cases hg : g = f
      · subst hg
        have hidle : d.sys.stage g.task = .idle := hok.2.1
        cases (d.sys.pipe.baseline.recordAndScore (Pipeline.scoring call)).2 <;>
          simp [entered, hidle, Pipeline.Stage.deciding]
      · have hne : f.task ≠ g.task := fun h => hg (Feed.task_injective h).symm
        cases (d.sys.pipe.baseline.recordAndScore (Pipeline.scoring call)).2 with
        | panicked => rfl
        | score z =>
            dsimp only
            rw [Function.update_of_ne hne]
            simp [entered, hg]
  | work g =>
      have hwork := deciding_resume d.sys g.task f.task
      have heq : g.task = f.task ↔ g = f := Feed.task_injective.eq_iff
      simp only [heq] at hwork
      exact hwork
  | takeBuckets => rfl
  | drainSuppressed order => rfl
  | _ => rfl

/-! ### The counters of the programs -/

lemma krStatInc_self (stats : Stats) (slot : Fin 18) :
    (krStatInc stats slot).get slot = stats.get slot + 1 := by
  have hget (v : Stats) : v.get slot = v[slot.val] := rfl
  simp [krStatInc, hget]

lemma krStatInc_of_ne (stats : Stats) {slot other : Fin 18} (h : slot ≠ other) :
    (krStatInc stats slot).get other = stats.get other := by
  have hne : (slot : ℕ) ≠ other := fun heq => h (Fin.ext heq)
  have hget (v : Stats) : v.get other = v[other.val] := rfl
  simp [krStatInc, hget, Vector.getElem_set_ne, hne]

/-- The two counters of `f` show two numbers, modulo `2 ^ 64`. -/
def Shows (f : Feed) (seen dropped : ℕ) (d : Delivery F n) : Prop :=
  (d.stats f).get f.observed = UInt64.ofNat seen ∧ (d.stats f).get f.dropped = UInt64.ofNat dropped

omit [F64 F] in
lemma Shows.observe {f : Feed} {s k : ℕ} {d : Delivery F n} (h : Shows f s k d) (g : Feed) :
    Shows f (s + if g = f then 1 else 0) k (d.bump g g.observed) := by
  by_cases hg : g = f
  · subst hg
    rw [if_pos rfl, Shows, stats_bump_self, krStatInc_self,
      krStatInc_of_ne _ g.observed_ne_dropped, h.1, h.2]
    exact ⟨(UInt64.ofNat_add s 1).symm, rfl⟩
  · rw [if_neg hg, Nat.add_zero, Shows, d.stats_bump_of_ne (Ne.symm hg)]
    exact h

omit [F64 F] in
lemma Shows.drop {f : Feed} {s k : ℕ} {d : Delivery F n} (h : Shows f s k d) (g : Feed) :
    Shows f s (k + if g = f then 1 else 0) (d.bump g g.dropped) := by
  by_cases hg : g = f
  · subst hg
    rw [if_pos rfl, Shows, stats_bump_self, krStatInc_self,
      krStatInc_of_ne _ (Ne.symm g.observed_ne_dropped), h.1, h.2]
    exact ⟨rfl, (UInt64.ofNat_add k 1).symm⟩
  · rw [if_neg hg, Nat.add_zero, Shows, d.stats_bump_of_ne (Ne.symm hg)]
    exact h

/-- The counters show what was seen and what was dropped. -/
lemma shows_step {f : Feed} {s k : ℕ} {d : Delivery F n} (h : Shows f s k d) (a : Act n) :
    Shows f (s + seen f (a, (d.step a).2)) (k + dropped f (a, (d.step a).2)) (d.step a).1 := by
  cases a with
  | call c h' task =>
      rw [step]
      split_ifs
      · exact h.observe h'.feed
      · exact h
  | reserve c h' task mem =>
      rw [step]
      cases h'.record task mem <;> exact h
  | drop c g => exact h.drop g
  | judge g outcome => cases outcome <;> exact h
  | _ => exact h

omit [F64 F] in
lemma shows_start (f : Feed) (p : Pipeline F) : Shows f 0 0 (start p : Delivery F n) := by
  cases f <;> exact ⟨rfl, rfl⟩

omit [F64 F] in
lemma readable_start (p : Pipeline F) : (start p : Delivery F n).Readable :=
  fun _ => SharedRing.all_empty _

/-! ### The account -/

/-- **No silent loss**: whatever the order of the steps, every call a program has counted as seen
was dropped and counted, still lacks its place, waits in the ring buffer, is held by the detector
as an event or as an alert, was judged not worth an alert, met a panic, or has its decision
coming or recorded; and the two counters of the program show what was seen and dropped. -/
theorem accounted {p : Pipeline F} {acts : List (Act n)} (hrun : machine.Valid (start p) acts)
    (f : Feed) :
    let tr := machine.trace (start p) acts
    let d := machine.after (start p) acts
    (d.stats f).get f.observed = UInt64.ofNat (Machine.tally (seen f) tr) ∧
    (d.stats f).get f.dropped = UInt64.ofNat (Machine.tally (dropped f) tr) ∧
    Machine.tally (seen f) tr = Machine.tally (dropped f) tr + owing f d + waiting f d
      + (d.hand f).judging + Machine.tally (unreported f) tr + (d.hand f).reporting
      + Machine.tally (panicked f) tr + (d.sys.stage f.task).deciding
      + Machine.tally (decided f) tr := by
  intro tr d
  have hshows := machine.history
    (P := fun tr d => Shows f (Machine.tally (seen f) tr) (Machine.tally (dropped f) tr) d)
    (shows_start f p) (fun tr d a h _ => by
      simp only [Machine.tally_append, Machine.tally_cons, Machine.tally_nil, Nat.add_zero]
      exact shows_step h a) hrun
  have howing := machine.balance (I := fun _ => True) (owing f)
    (fun x => dropped f x + reserved f x) (seen f) (fun _ _ _ _ => trivial)
    (fun d a _ hok => owing_step f d a hok) trivial hrun
  have hwaiting := machine.balance (I := fun _ => True) (waiting f) (taken f) (reserved f)
    (fun _ _ _ _ => trivial) (fun d a _ _ => waiting_step f d a) trivial hrun
  have hjudging := machine.balance (I := Readable) (fun d => (d.hand f).judging)
    (fun x => unreported f x + made f x) (taken f) (fun _ a h hok => h.step a hok)
    (fun d a h hok => judging_step f d h a hok) (readable_start p) hrun
  have hreporting := machine.balance (I := fun _ => True) (fun d => (d.hand f).reporting)
    (fun x => entered f x + panicked f x) (made f) (fun _ _ _ _ => trivial)
    (fun d a _ hok => reporting_step f d a hok) trivial hrun
  have hdeciding := machine.balance (I := fun _ => True)
    (fun d => (d.sys.stage f.task).deciding) (decided f) (entered f)
    (fun _ _ _ _ => trivial) (fun d a _ hok => deciding_step f d a hok) trivial hrun
  have hidle : owing f (start p : Delivery F n) = 0 := Finset.sum_eq_zero fun _ _ => rfl
  change owing f d + Machine.tally _ tr = _ at howing
  change waiting f d + Machine.tally _ tr = 0 + Machine.tally _ tr at hwaiting
  change (d.hand f).judging + Machine.tally _ tr = 0 + Machine.tally _ tr at hjudging
  change (d.hand f).reporting + Machine.tally _ tr = 0 + Machine.tally _ tr at hreporting
  change (d.sys.stage f.task).deciding + Machine.tally _ tr = 0 + Machine.tally _ tr at hdeciding
  rw [hidle, Machine.tally_add] at howing
  rw [Machine.tally_add] at hjudging hreporting
  refine ⟨hshows.1, hshows.2, ?_⟩
  change _ + _ = 0 + Machine.tally (seen f) tr at howing
  omega

/-- Two calls of `setuid(0)`: there is no room for the first. -/
theorem accounted_setuid :
    let p : Pipeline ℚ := Pipeline.System.fresh
    let h : Hook := .setuid (Vector.replicate 6 0)
    let task : Task := ⟨7, 1000, 5, Vector.replicate 16 0⟩
    let acts : List (Act 2) := [.call 0 h task, .refuse 0 h task, .call 1 h task, .drop 0 .privesc,
      .reserve 1 h task (List.replicate 80 0), .submit 1 .privesc]
    ((machine.after (start p) acts).stats .privesc).get Feed.privesc.observed = 2 ∧
      ((machine.after (start p) acts).stats .privesc).get Feed.privesc.dropped = 1 := by
  intro p h task acts
  have hrun : machine.Valid (start p) acts := ⟨rfl, rfl, rfl, rfl, ⟨rfl, rfl⟩, rfl, trivial⟩
  obtain ⟨hseen, hdropped, -⟩ := accounted hrun .privesc
  exact ⟨hseen.trans rfl, hdropped.trans rfl⟩

end Delivery

end Kernelradar
