import Mathlib.Algebra.BigOperators.Fin
import Kernelradar.Alerts.Tasks
import Kernelradar.Detectors.Reports
import Kernelradar.Library.Ring

/-!
The whole way of an event: programs on several contexts of the kernel, the ring buffers, the
detectors of the daemon, and `print_alert`.

A program counts the call, reserves a record, fills it in and submits it, or counts that there was
no room; a detector takes a record, decides whether to report it, draws the number of the alert
and goes through `print_alert`. Everybody goes on at any time.

* `Probe`, `Hand`, `Delivery`: where programs and detectors stand;
* `Delivery.step`, `Admissible`: one step of one of them;
* `alone_eq_program`: a program that is not interrupted does what `Hook.program` does.
-/

namespace Kernelradar

open Library Bpf

namespace Feed

/-- The task of the detector. -/
def task (f : Feed) : ℕ := f.detectorId.toNat

lemma task_injective : Function.Injective task := by
  intro f g h
  cases f <;> cases g <;> first | rfl | exact absurd h (by decide)

end Feed

namespace Hook

/-- The record of a call in the memory it was given. -/
def record (h : Hook) (task : Task) (mem : List UInt8) : Option (List UInt8) :=
  (h.event task (KrEvent.readUnaligned mem)).map (KrEvent.submitted mem h.fields)

/-- The program wants an event; it does not look at the record for that. -/
def wants (h : Hook) (task : Task) : Bool := (h.event task (KrEvent.readUnaligned [])).isSome

lemma isSome_event (h : Hook) (task : Task) (stale : KrEvent) :
    (h.event task stale).isSome = h.wants task := by
  cases h with
  | setuid args =>
      rw [wants, event, event, setuidEvent, setuidEvent]
      dsimp only
      split_ifs <;> rfl
  | setgid args =>
      rw [wants, event, event, setgidEvent, setgidEvent]
      dsimp only
      split_ifs <;> rfl
  | _ => rfl

end Hook

/-- Where a context stands in a program: not in one, after the count of what was seen, before the
count of what did not fit, before the submission. -/
inductive Probe where
  | idle
  | counted (h : Hook) (task : Task)
  | refused (f : Feed)
  | filling (f : Feed)

/-- What a detector holds: nothing, an event, or an alert that has its number; it may have
ended. -/
inductive Hand where
  | free
  | event (ev : KrEvent)
  | alert (a : Alert)
  | ended

/-- The counters and ring buffers of the programs, `n` contexts that run them, the detectors, the
next `ALERT_ID`, and `print_alert`. -/
structure Delivery (F : Type) (n : ℕ) where
  stats : Feed → Stats
  ring : Feed → SharedRing (List UInt8)
  probe : Fin n → Probe
  hand : Feed → Hand
  alertId : ℕ
  sys : Pipeline.System F

namespace Delivery

variable {F : Type} [F64 F] {n : ℕ}

/-- One step: a context starts a program, is refused a record, is given one, counts what did not
fit, submits; a detector takes a record, decides about its event, enters `print_alert`, goes on
with it, or ends; a summary takes the buckets, or drains the limiter. -/
inductive Act (n : ℕ) where
  | call (c : Fin n) (h : Hook) (task : Task)
  | refuse (c : Fin n) (h : Hook) (task : Task)
  | reserve (c : Fin n) (h : Hook) (task : Task) (mem : List UInt8)
  | drop (c : Fin n) (f : Feed)
  | submit (c : Fin n) (f : Feed)
  | next (f : Feed)
  | judge (f : Feed) (outcome : Option Alert)
  | enter (f : Feed) (call : Pipeline.Call)
  | work (f : Feed)
  | stop (f : Feed)
  | takeBuckets
  | drainSuppressed (order : List Key)

/-- What a step shows: nothing, that a call was seen, the record that was taken, whether the
baseline panicked, what `print_alert` shows. -/
inductive Effect where
  | quiet
  | seen
  | item (record : Option (List UInt8))
  | entered (panicked : Bool)
  | piped (e : Pipeline.Effect)

/-- A counter of the programs of `f` goes up. -/
def bump (d : Delivery F n) (f : Feed) (slot : Fin 18) : Delivery F n :=
  { d with stats := Function.update d.stats f (krStatInc (d.stats f) slot) }

/-- Context `c` moves on. -/
def stand (d : Delivery F n) (c : Fin n) (p : Probe) : Delivery F n :=
  { d with probe := Function.update d.probe c p }

/-- A step on the ring buffer of `f`. -/
def onRing (d : Delivery F n) (f : Feed) (op : SharedRing.Op (List UInt8)) : Delivery F n :=
  { d with ring := Function.update d.ring f ((d.ring f).step op).1 }

/-- The detector of `f` holds something else. -/
def take (d : Delivery F n) (f : Feed) (h : Hand) : Delivery F n :=
  { d with hand := Function.update d.hand f h }

section

omit [F64 F]

variable (d : Delivery F n)

@[simp] lemma stats_bump_self (f : Feed) (slot : Fin 18) :
    (d.bump f slot).stats f = krStatInc (d.stats f) slot := Function.update_self _ _ _

lemma stats_bump_of_ne {f g : Feed} (h : g ≠ f) (slot : Fin 18) :
    (d.bump f slot).stats g = d.stats g := Function.update_of_ne h _ _

@[simp] lemma probe_stand_self (c : Fin n) (p : Probe) : (d.stand c p).probe c = p :=
  Function.update_self _ _ _

lemma probe_stand_of_ne {c x : Fin n} (h : x ≠ c) (p : Probe) :
    (d.stand c p).probe x = d.probe x := Function.update_of_ne h _ _

@[simp] lemma ring_onRing_self (f : Feed) (op : SharedRing.Op (List UInt8)) :
    (d.onRing f op).ring f = ((d.ring f).step op).1 := Function.update_self _ _ _

lemma ring_onRing_of_ne {f g : Feed} (h : g ≠ f) (op : SharedRing.Op (List UInt8)) :
    (d.onRing f op).ring g = d.ring g := Function.update_of_ne h _ _

@[simp] lemma hand_take_self (f : Feed) (h : Hand) : (d.take f h).hand f = h :=
  Function.update_self _ _ _

lemma hand_take_of_ne {f g : Feed} (hne : g ≠ f) (h : Hand) : (d.take f h).hand g = d.hand g :=
  Function.update_of_ne hne _ _

end

/-- A step of `print_alert`, or of a summary. -/
def pipe (d : Delivery F n) (a : Pipeline.Act) : Delivery F n × Effect :=
  ({ d with sys := (d.sys.step a).1 }, .piped (d.sys.step a).2)

/-- One step. A record that is too short is skipped; a panic ends the detector. -/
def step (d : Delivery F n) : Act n → Delivery F n × Effect
  | .call c h task =>
      if h.wants task then ((d.bump h.feed h.feed.observed).stand c (.counted h task), .seen)
      else (d, .quiet)
  | .refuse c h _ => (d.stand c (.refused h.feed), .quiet)
  | .reserve c h task mem =>
      match h.record task mem with
      | none => (d, .quiet)
      | some bytes => ((d.onRing h.feed (.reserve c bytes)).stand c (.filling h.feed), .quiet)
  | .drop c f => ((d.bump f f.dropped).stand c .idle, .quiet)
  | .submit c f => ((d.onRing f (.submit c)).stand c .idle, .quiet)
  | .next f =>
      let item := ((d.ring f).step .next).2
      ((d.onRing f .next).take f ((item.bind KrEvent.parseItem).elim .free .event), .item item)
  | .judge f none => (d.take f .free, .quiet)
  | .judge f (some a) => ({ d.take f (.alert a) with alertId := d.alertId + 1 }, .quiet)
  | .enter f call =>
      let panicked := match (d.sys.pipe.baseline.recordAndScore (Pipeline.scoring call)).2 with
        | .panicked => true
        | .score _ => false
      ({ d.take f (if panicked then .ended else .free) with sys := d.sys.enter f.task call },
        .entered panicked)
  | .work f => d.pipe (.resume f.task)
  | .stop f => (d.take f .ended, .quiet)
  | .takeBuckets => d.pipe .takeBuckets
  | .drainSuppressed order => d.pipe (.drainSuppressed order)

/-- What a detector can make of an event, while a reload writes. -/
def Outcome (f : Feed) (ev : KrEvent) (alertId : ℕ) (outcome : Option Alert) : Prop :=
  ∃ (selfTgid : UInt32) (re : RegexCrate) (sc : Scene) (held : Held) (ws : List (Held → Held)),
    sc.stamp.id = alertId % 2 ^ 64 ∧
      Interleaving held ws (f.handle selfTgid re sc ev) outcome

/-- Who is ready for which step. -/
def Admissible (d : Delivery F n) : Act n → Prop
  | .call c _ _ => d.probe c = .idle
  | .refuse c h task => d.probe c = .counted h task
  | .reserve c h task mem =>
      d.probe c = .counted h task ∧ mem.length = structSize KrEvent.members
  | .drop c f => d.probe c = .refused f
  | .submit c f => d.probe c = .filling f
  | .next f => d.hand f = .free ∧ d.sys.stage f.task = .idle
  | .judge f outcome => ∃ ev, d.hand f = .event ev ∧ Outcome f ev d.alertId outcome
  | .enter f call => d.hand f = .alert call.alert ∧ d.sys.Admissible (.enter f.task call)
  | .work f => d.sys.Admissible (.resume f.task)
  | .stop f => d.hand f = .free ∧ d.sys.stage f.task = .idle
  | .takeBuckets => True
  | .drainSuppressed order => d.sys.Admissible (.drainSuppressed order)

/-- The daemon as a machine. -/
def machine : Machine (Delivery F n) (Act n) Effect := ⟨step, Admissible⟩

@[simp] lemma machine_step (d : Delivery F n) (a : Act n) : machine.step d a = d.step a := rfl

/-- The start: nothing was seen, and nobody is at work. -/
def start (p : Pipeline F) : Delivery F n where
  stats _ := Vector.replicate 18 0
  ring _ := SharedRing.empty
  probe _ := .idle
  hand _ := .free
  alertId := 1
  sys := Pipeline.System.atRest p

/-! ### A program on its own -/

/-- The acts of a context that runs a program without a break; `room` is the memory it is given,
if any. -/
def alone (c : Fin n) (h : Hook) (task : Task) (room : Option (List UInt8)) : List (Act n) :=
  if h.wants task then
    match room with
    | none => [.call c h task, .refuse c h task, .drop c h.feed]
    | some mem => [.call c h task, .reserve c h task mem, .submit c h.feed]
  else [.call c h task]

/-- A step of one context in two parts, on the ring buffer of `f`. -/
lemma reserve_submit (s : SharedRing (List UInt8)) (p : ℕ) (bytes : List UInt8) :
    ((((s.step (.reserve p bytes)).1).step (.submit p)).1).ring
      = { s.ring with slots := s.ring.slots ++ [some bytes] } := by
  simp only [SharedRing.step, Function.update_self]
  exact s.ring.submit_reserve bytes

/-- **One program on its own** does what the source says: the counters are those of
`Hook.program`, and the event it submits stands at the end of the ring buffer, as bytes. -/
theorem alone_eq_program (d : Delivery F n) (c : Fin n) (h : Hook) (task : Task) (mem : List UInt8)
    (room : Bool) :
    let out := h.program task (KrEvent.readUnaligned mem) room (d.stats h.feed)
    let d' := machine.after d (alone c h task (if room then some mem else none))
    d'.stats h.feed = out.1 ∧ (d'.ring h.feed).ring = { (d.ring h.feed).ring with
      slots := (d.ring h.feed).ring.slots
        ++ (out.2.map (KrEvent.submitted mem h.fields)).toList.map some } := by
  intro out d'
  have hout : out = emitIf h.feed (h.event task (KrEvent.readUnaligned mem)) room
      (d.stats h.feed) := h.program_eq task _ room _
  have hwants := h.isSome_event task (KrEvent.readUnaligned mem)
  cases hev : h.event task (KrEvent.readUnaligned mem) with
  | none =>
      rw [hev] at hwants hout
      have hno : h.wants task = false := hwants.symm
      have hd' : d' = d := by
        simp only [d', alone, hno, Bool.false_eq_true, if_false, Machine.after_cons,
          Machine.after_nil, machine_step, step]
      rw [hd', hout]
      exact ⟨rfl, by simp [emitIf]⟩
  | some ev =>
      rw [hev] at hwants hout
      have hyes : h.wants task = true := hwants.symm
      have hrec : h.record task mem = some (KrEvent.submitted mem h.fields ev) := by
        rw [Hook.record, hev]
        rfl
      cases room with
      | false =>
          rw [hout]
          simp only [d', alone, hyes, if_true, Bool.false_eq_true, if_false, Machine.after_cons,
            Machine.after_nil, machine_step, step]
          refine ⟨?_, by simp [emitIf]; rfl⟩
          exact (stats_bump_self _ _ _).trans (congrArg (krStatInc · _) (stats_bump_self _ _ _))
      | true =>
          rw [hout]
          simp only [d', alone, hyes, if_true, Machine.after_cons, Machine.after_nil, machine_step,
            step, hrec]
          refine ⟨stats_bump_self _ _ _, ?_⟩
          refine Eq.trans ?_ (reserve_submit (d.ring h.feed) c (KrEvent.submitted mem h.fields ev))
          exact congrArg SharedRing.ring ((ring_onRing_self _ _ _).trans
            (congrArg (fun s => (SharedRing.step s _).1) (ring_onRing_self _ _ _)))

end Delivery

end Kernelradar
