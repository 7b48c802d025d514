import Kernelradar.Delivery.Account
import Mathlib.Algebra.BigOperators.Group.Finset.Basic
import Mathlib.Algebra.Order.Group.Multiset

/-!
The numbers of the alerts, and what is handed to `emit`.

* `Alert.About`: an alert and its markers;
* `Stage.unsent`, `Stage.left`: an alert without a recorded decision, and the records that are
  left of a recorded one;
* `Numbered`: the alerts made, the records of the decisions and the alerts on their way, with the
  next number; it is kept by the two things that can happen to an alert;
* `Keeps`, `Makes`, `Decides`: what a step does to them (`pending_step`);
* `emitted_once`: in every run, alerts are numbered in the order they are made,
  no record is emitted twice, and every record is about an alert that was made.
-/

namespace Kernelradar

open Library Bpf

/-- The record is the alert, or one of its two markers. -/
structure Alert.About (r a : Alert) : Prop where
  id : r.id = a.id
  correlationId : r.correlationId = a.correlationId
  eventType : r.eventType = a.eventType
  pid : r.pid = a.pid
  uid : r.uid = a.uid
  comm : r.comm = a.comm
  marked : r = a ∨ r.detector = a.detector ++ ".burst" ∨ r.detector = a.detector ++ ".anomaly"

namespace Pipeline

variable {F : Type} [F64 F]

/-- What sets the records of one alert apart. -/
def mark (r : Alert) : ℕ × Text := (r.id, r.detector)

lemma about_of_mem_records {c : Call} {z : Option F} {d : Decision} {r : Alert}
    (h : r ∈ records c z d) : r.About c.alert := by
  have hanomaly : ∀ {r : Alert}, r ∈ anomalies c z → r.About c.alert := by
    intro r hr
    cases z with
    | none => cases hr
    | some score =>
        obtain rfl := List.mem_singleton.mp hr
        exact ⟨rfl, rfl, rfl, rfl, rfl, rfl, Or.inr (Or.inr rfl)⟩
  have hself : c.alert.About c.alert := ⟨rfl, rfl, rfl, rfl, rfl, rfl, Or.inl rfl⟩
  cases d with
  | suppress => exact hanomaly h
  | allow =>
      rcases List.mem_cons.mp h with rfl | h
      · exact hself
      · exact hanomaly h
  | burst =>
      rcases List.mem_cons.mp h with rfl | h
      · exact hself
      · rcases List.mem_cons.mp h with rfl | h
        · exact ⟨rfl, rfl, rfl, rfl, rfl, rfl, Or.inr (Or.inl rfl)⟩
        · exact hanomaly h

lemma nodup_records (c : Call) (z : Option F) (d : Decision) :
    ((records c z d).map mark).Nodup := by
  cases d <;> cases z <;> simp [records, anomalies, mark, burstMarker, anomalyMarker]

namespace Stage

/-- The alert of a task as long as no decision about it is recorded. -/
def unsent : Stage F → Option Alert
  | .scored c _ => some c.alert
  | .decided c _ _ => some c.alert
  | _ => none

/-- The records of a recorded decision that are still to be handed to `emit`. -/
def left : Stage F → List Alert
  | .bursting c z => records c z .burst
  | .emitting _ _ r rest => r :: rest
  | _ => []

lemma left_onward (c : Call) (z : Option F) (rs : List Alert) : (onward c z rs).left = rs := by
  cases rs with
  | nil => cases z <;> rfl
  | cons r rest => rfl

omit [F64 F] in
lemma unsent_onward (c : Call) (z : Option F) (rs : List Alert) :
    (onward c z rs).unsent = none := by
  cases rs with
  | nil => cases z <;> rfl
  | cons r rest => rfl

/-- What a step of a task does with the records: it may hand on the first of those that are left,
or it records a decision, and the records of the decision are left then. -/
lemma resume_records (p : Pipeline F) (x : Stage F) :
    ((x.resume p).2.2.emitted ++ (x.resume p).2.1.left = x.left ∧
      (x.resume p).2.1.unsent = x.unsent) ∨
    ∃ (c : Call) (z : Option F) (dec : Decision), x.unsent = some c.alert ∧ x.left = [] ∧
      (x.resume p).2.2.emitted = [] ∧ (x.resume p).2.1.left = records c z dec ∧
      (x.resume p).2.1.unsent = none := by
  have honward (c : Call) (z : Option F) (rs : List Alert) :
      (onward c z rs).left = rs ∧ (onward c z rs).unsent = none :=
    ⟨left_onward c z rs, unsent_onward c z rs⟩
  cases x with
  | idle => exact Or.inl ⟨rfl, rfl⟩
  | scored c z => exact Or.inl ⟨rfl, rfl⟩
  | marking c => exact Or.inl ⟨rfl, rfl⟩
  | bursting c z => exact Or.inl (honward c z (records c z .burst))
  | emitting c z r rest =>
      exact Or.inl ⟨congrArg (r :: ·) (left_onward c z rest), unsent_onward c z rest⟩
  | decided c z dec =>
      refine Or.inr ⟨c, z, dec, rfl, rfl, ?_⟩
      cases dec with
      | suppress => exact ⟨rfl, honward c z (records c z .suppress)⟩
      | allow => exact ⟨rfl, honward c z (records c z .allow)⟩
      | burst => exact ⟨rfl, rfl, rfl⟩

end Stage

end Pipeline

/-- The alerts made so far, the records of the decisions about them, the next number, and the
alert that each detector has on its way to a decision. -/
structure Numbered (alerts : List Alert) (records : Multiset Alert) (nextId : ℕ)
    (pending : Feed → Option Alert) : Prop where
  numbered : alerts.map Alert.id = List.range' 1 alerts.length
  next : nextId = alerts.length + 1
  made : ∀ f a, pending f = some a → a ∈ alerts
  unsent : ∀ f a, pending f = some a → ∀ r ∈ records, r.id ≠ a.id
  apart : ∀ f g a b, pending f = some a → pending g = some b → a.id = b.id → f = g
  about : ∀ r ∈ records, ∃ a ∈ alerts, r.About a
  nodup : (records.map Pipeline.mark).Nodup

namespace Numbered

variable {alerts : List Alert} {records : Multiset Alert} {nextId : ℕ}
  {pending pending' : Feed → Option Alert}

lemma id_lt (h : Numbered alerts records nextId pending) {a : Alert} (ha : a ∈ alerts) :
    a.id < nextId := by
  have hmem : a.id ∈ List.range' 1 alerts.length := h.numbered ▸ List.mem_map_of_mem ha
  have hlt := (List.mem_range'_1.mp hmem).2
  rw [h.next]
  omega

/-- Nothing new is on its way. -/
lemma keep (h : Numbered alerts records nextId pending)
    (hpending : ∀ f a, pending' f = some a → pending f = some a) :
    Numbered alerts records nextId pending' where
  numbered := h.numbered
  next := h.next
  made := fun f a ha => h.made f a (hpending f a ha)
  unsent := fun f a ha => h.unsent f a (hpending f a ha)
  apart := fun f g a b ha hb => h.apart f g a b (hpending f a ha) (hpending g b hb)
  about := h.about
  nodup := h.nodup

/-- An alert is made. -/
lemma make (h : Numbered alerts records nextId pending) {g : Feed} {a : Alert}
    (hid : a.id = nextId)
    (hpending : ∀ f b, pending' f = some b → f = g ∧ b = a ∨ pending f = some b) :
    Numbered (alerts ++ [a]) records (nextId + 1) pending' := by
  have hnew : ∀ f b, pending f = some b → b.id ≠ a.id := fun f b hb =>
    (hid ▸ h.id_lt (h.made f b hb)).ne
  refine ⟨?_, ?_, fun f b hb => ?_, fun f b hb r hr => ?_, fun f f' b b' hb hb' hbb' => ?_,
    fun r hr => ?_, h.nodup⟩
  · rw [List.map_append, h.numbered, List.length_append, List.length_singleton,
      List.range'_concat, List.map_singleton, hid, h.next, Nat.one_mul, Nat.add_comm 1]
  · rw [h.next, List.length_append, List.length_singleton]
  · rcases hpending f b hb with ⟨-, rfl⟩ | hold
    · exact List.mem_append_right _ (List.mem_singleton_self b)
    · exact List.mem_append_left _ (h.made f b hold)
  · rcases hpending f b hb with ⟨-, rfl⟩ | hold
    · obtain ⟨a', ha', habout⟩ := h.about r hr
      rw [habout.id, hid]
      exact (h.id_lt ha').ne
    · exact h.unsent f b hold r hr
  · rcases hpending f b hb with ⟨hf, hba⟩ | hold
    · rcases hpending f' b' hb' with ⟨hf', -⟩ | hold'
      · rw [hf, hf']
      · exact absurd (hbb'.symm.trans (congrArg Alert.id hba)) (hnew f' b' hold')
    · rcases hpending f' b' hb' with ⟨-, hba'⟩ | hold'
      · exact absurd (hbb'.trans (congrArg Alert.id hba')) (hnew f b hold)
      · exact h.apart f f' b b' hold hold' hbb'
  · obtain ⟨a', ha', habout⟩ := h.about r hr
    exact ⟨a', List.mem_append_left _ ha', habout⟩

/-- A decision about an alert on its way is recorded. -/
lemma record (h : Numbered alerts records nextId pending) {g : Feed} {a : Alert}
    (hg : pending g = some a) {rs : List Alert} (habout : ∀ r ∈ rs, r.About a)
    (hnodup : (rs.map Pipeline.mark).Nodup)
    (hpending : ∀ f b, pending' f = some b → f ≠ g ∧ pending f = some b) :
    Numbered alerts (records + (rs : Multiset Alert)) nextId pending' := by
  refine ⟨h.numbered, h.next, fun f b hb => h.made f b (hpending f b hb).2,
    fun f b hb r hr => ?_, fun f f' b b' hb hb' =>
      h.apart f f' b b' (hpending f b hb).2 (hpending f' b' hb').2, fun r hr => ?_, ?_⟩
  · obtain ⟨hne, hold⟩ := hpending f b hb
    rcases Multiset.mem_add.mp hr with hr | hr
    · exact h.unsent f b hold r hr
    · rw [(habout r hr).id]
      exact fun hab => hne (h.apart f g b a hold hg hab.symm)
  · rcases Multiset.mem_add.mp hr with hr | hr
    · exact h.about r hr
    · exact ⟨a, h.made g a hg, habout r hr⟩
  · rw [Multiset.map_add, Multiset.nodup_add]
    refine ⟨h.nodup, hnodup, Multiset.disjoint_left.mpr fun hm hm' => ?_⟩
    obtain ⟨r, hr, rfl⟩ := Multiset.mem_map.mp hm
    obtain ⟨r', hr', hrr'⟩ := Multiset.mem_map.mp hm'
    exact h.unsent g a hg r hr ((congrArg Prod.fst hrr').symm.trans (habout r' hr').id)

end Numbered

namespace Delivery

variable {F : Type} [F64 F] {n : ℕ}

/-- The alert that a step makes. -/
def madeStep : Act n × Effect → Option Alert
  | (.judge _ outcome, _) => outcome
  | _ => none

/-- The records that a step hands to `emit`. -/
def emittedStep : Act n × Effect → List Alert
  | (.work _, .piped e) => e.emitted
  | _ => []

/-- The alerts made, in order. -/
def alerts (tr : List (Act n × Effect)) : List Alert := tr.filterMap madeStep

/-- The records handed to `emit`, in order. -/
def emitted (tr : List (Act n × Effect)) : List Alert := tr.flatMap emittedStep

lemma alerts_snoc (tr : List (Act n × Effect)) (x : Act n × Effect) :
    alerts (tr ++ [x]) = alerts tr ++ (madeStep x).toList := filterMap_snoc _ tr x

lemma emitted_snoc (tr : List (Act n × Effect)) (x : Act n × Effect) :
    emitted (tr ++ [x]) = emitted tr ++ emittedStep x := by
  rw [emitted, List.flatMap_append, List.flatMap_singleton, emitted]

/-- The alert that the detector of `f` has on its way to a decision. -/
def pending (d : Delivery F n) (f : Feed) : Option Alert :=
  match d.hand f with
  | .alert a => some a
  | _ => (d.sys.stage f.task).unsent

/-- The records of recorded decisions that are still to be handed to `emit`. -/
def lefts (d : Delivery F n) : Multiset Alert :=
  ∑ f : Feed, ((d.sys.stage f.task).left : Multiset Alert)

/-- A detector in `print_alert` holds nothing, and the event it holds is that of a call. -/
structure Sane (d : Delivery F n) : Prop where
  idle : ∀ f, (d.hand f = .free ∨ d.hand f = .ended) ∨ d.sys.stage f.task = .idle
  called : ∀ f ev, d.hand f = .event ev → Called f ev

section

variable {d : Delivery F n} {f : Feed}

omit [F64 F] in
lemma Sane.pending_of_stage (h : d.Sane) (hne : d.sys.stage f.task ≠ .idle) :
    d.pending f = (d.sys.stage f.task).unsent := by
  rw [pending]
  rcases (h.idle f).resolve_right hne with hhand | hhand
  · rw [hhand]
  · rw [hhand]

omit [F64 F] in
lemma Sane.take (h : d.Sane) {g : Feed} {k : Hand} (hidle : d.sys.stage g.task = .idle)
    (hcalled : ∀ ev, k = .event ev → Called g ev) : (d.take g k).Sane := by
  constructor
  · intro f
    by_cases hg : f = g
    · exact Or.inr (hg ▸ hidle)
    · rw [d.hand_take_of_ne hg]
      exact h.idle f
  · intro f ev hev
    by_cases hg : f = g
    · subst hg
      rw [hand_take_self] at hev
      exact hcalled ev hev
    · rw [d.hand_take_of_ne hg] at hev
      exact h.called f ev hev

omit [F64 F] in
lemma Sane.of_eq (h : d.Sane) {d' : Delivery F n} (hhand : d'.hand = d.hand)
    (hstage : d'.sys.stage = d.sys.stage) : d'.Sane := by
  constructor
  · rw [hhand, hstage]
    exact h.idle
  · rw [hhand]
    exact h.called

/-- What a detector takes is the event of a call. -/
lemma Sane.next (h : d.Sane) (hread : d.Readable) {g : Feed} (hok : d.Admissible (.next g)) :
    (d.step (.next g)).1.Sane := by
  have hring : (d.onRing g .next).Sane := h.of_eq rfl rfl
  refine hring.take hok.2 fun ev hev => ?_
  cases hitem : ((d.ring g).step .next).2 with
  | none =>
      rw [hitem] at hev
      cases hev
  | some bytes =>
      obtain ⟨ev', hparse, hcalled⟩ := hread.item hitem
      rw [hitem, Option.bind_some, hparse] at hev
      exact Hand.event.inj hev ▸ hcalled

omit [F64 F] in
/-- A detector that holds an event is not in `print_alert`. -/
lemma Sane.idle_of_event (h : d.Sane) {g : Feed} {ev : KrEvent} (hhand : d.hand g = .event ev) :
    d.sys.stage g.task = .idle := by
  refine (h.idle g).resolve_left fun hor => ?_
  rw [hhand] at hor
  rcases hor with h | h <;> cases h

/-- A detector that enters `print_alert` has nothing in its hand any more. -/
lemma Sane.enter (h : d.Sane) {g : Feed} {k : Hand} (hk : k = .free ∨ k = .ended)
    (call : Pipeline.Call) :
    ({ d.take g k with sys := d.sys.enter g.task call } : Delivery F n).Sane := by
  have hself : ({ d.take g k with sys := d.sys.enter g.task call } : Delivery F n).hand g = k :=
    hand_take_self ..
  have hother (f : Feed) (hf : f ≠ g) : ({ d.take g k with
      sys := d.sys.enter g.task call } : Delivery F n).hand f = d.hand f := d.hand_take_of_ne hf k
  constructor
  · intro f
    by_cases hf : f = g
    · subst hf
      exact Or.inl (by rwa [hself])
    · rw [hother f hf]
      refine (h.idle f).imp_right ?_
      exact (d.sys.stage_enter_of_ne (fun ht => hf (Feed.task_injective ht)) call).trans
  · intro f ev hev
    by_cases hf : f = g
    · subst hf
      rw [hself] at hev
      rcases hk with hk | hk <;> exact Hand.noConfusion (hk.symm.trans hev)
    · rw [hother f hf] at hev
      exact h.called f ev hev

/-- A task that goes on in `print_alert` was not idle. -/
lemma Sane.work (h : d.Sane) (g : Feed) : (d.step (.work g)).1.Sane := by
  refine ⟨fun f => (h.idle f).imp_right fun hidle => ?_, h.called⟩
  change (d.sys.resume g.task).1.stage f.task = .idle
  by_cases hf : f = g
  · subst hf
    rw [Pipeline.System.stage_resume_self, hidle]
    rfl
  · rw [Pipeline.System.stage_resume_of_ne _ fun ht => hf (Feed.task_injective ht)]
    exact hidle

lemma Sane.step (h : d.Sane) (hread : d.Readable) (a : Act n) (hok : d.Admissible a) :
    (d.step a).1.Sane := by
  cases a with
  | call c h' task =>
      rw [Delivery.step]
      split_ifs <;> exact h.of_eq rfl rfl
  | reserve c h' task mem =>
      rw [Delivery.step]
      cases h'.record task mem <;> exact h.of_eq rfl rfl
  | next g => exact h.next hread hok
  | judge g outcome =>
      obtain ⟨ev, hhand, -⟩ := hok
      have hidle := h.idle_of_event hhand
      cases outcome with
      | none => exact h.take hidle fun ev hev => Hand.noConfusion hev
      | some alert =>
          have htake := h.take (k := .alert alert) hidle fun ev hev => Hand.noConfusion hev
          exact htake.of_eq rfl rfl
  | enter g call =>
      refine h.enter ?_ call
      split_ifs
      · exact Or.inr rfl
      · exact Or.inl rfl
  | work g => exact h.work g
  | stop g => exact h.take hok.2 fun ev hev => Hand.noConfusion hev
  | _ => exact h.of_eq rfl rfl

omit [F64 F] in
/-- What a detector makes of the event of a call: the alert has the next number and the
detector's name. -/
lemma id_of_outcome {ev : KrEvent} (hcalled : Called f ev) {alertId : ℕ} {a : Alert}
    (h : Outcome f ev alertId (some a)) : a.id = alertId % 2 ^ 64 ∧ a.detector = f.name := by
  obtain ⟨hook, task, stale, rfl, hev⟩ := hcalled
  obtain ⟨selfTgid, re, sc, held, ws, hid, hout⟩ := h
  have htells := ((made_handle selfTgid re sc hook.feed
    (Hook.event_common hev).severity).of_interleaving hout).tells
  exact ⟨htells.id.trans hid, htells.detector⟩

/-- The next number goes up with every alert. -/
lemma alertId_step (d : Delivery F n) (a : Act n) : (d.step a).1.alertId
    = d.alertId + (madeStep (a, (d.step a).2)).toList.length := by
  cases a with
  | call c h task =>
      rw [step]
      split_ifs <;> rfl
  | reserve c h task mem =>
      rw [step]
      cases h.record task mem <;> rfl
  | judge g outcome => cases outcome <;> rfl
  | _ => rfl

omit [F64 F] in
/-- What a detector has on its way, when another holds something else. -/
lemma pending_take_of_ne {g : Feed} (hf : f ≠ g) (k : Hand) :
    (d.take g k).pending f = d.pending f := by
  rw [pending, pending, d.hand_take_of_ne hf]
  rfl

omit [F64 F] in
/-- A detector that holds no alert while its task is idle has none on its way. -/
lemma pending_take_self {g : Feed} (hidle : d.sys.stage g.task = .idle) {k : Hand}
    (hk : ∀ a, k ≠ .alert a) : (d.take g k).pending g = none := by
  have hstage : ((d.take g k).sys.stage g.task).unsent = none := by
    change (d.sys.stage g.task).unsent = none
    rw [hidle]
    rfl
  rw [pending, hand_take_self]
  cases k with
  | alert a => exact absurd rfl (hk a)
  | free => exact hstage
  | event ev => exact hstage
  | ended => exact hstage

omit [F64 F] in
/-- A detector that gives up what it holds has no more on its way than before. -/
lemma pending_take_le {g : Feed} (hidle : d.sys.stage g.task = .idle) {k : Hand}
    (hk : ∀ a, k ≠ .alert a) {f : Feed} {a : Alert} (h : (d.take g k).pending f = some a) :
    d.pending f = some a := by
  by_cases hf : f = g
  · subst hf
    rw [pending_take_self hidle hk] at h
    cases h
  · rwa [pending_take_of_ne hf] at h

/-- What is left, when only the task of `g` has moved. -/
lemma lefts_of_other (d' : Delivery F n) {g : Feed}
    (h : ∀ f ≠ g, d'.sys.stage f.task = d.sys.stage f.task) :
    d'.lefts + ((d.sys.stage g.task).left : Multiset Alert)
      = d.lefts + ((d'.sys.stage g.task).left : Multiset Alert) := by
  have hrest : ∑ f ∈ Finset.univ.erase g, ((d'.sys.stage f.task).left : Multiset Alert)
      = ∑ f ∈ Finset.univ.erase g, ((d.sys.stage f.task).left : Multiset Alert) :=
    Finset.sum_congr rfl fun f hf => by rw [h f (Finset.ne_of_mem_erase hf)]
  rw [lefts, lefts, ← Finset.add_sum_erase _ _ (Finset.mem_univ g),
    ← Finset.add_sum_erase _ _ (Finset.mem_univ g), hrest]
  ac_rfl

/-- A step that makes no alert and records no decision: at most, it hands on a record that was
left. -/
structure Keeps (d : Delivery F n) (a : Act n) : Prop where
  made : madeStep (a, (d.step a).2) = none
  lefts : (emittedStep (a, (d.step a).2) : Multiset Alert) + (d.step a).1.lefts = d.lefts
  pending : ∀ f b, (d.step a).1.pending f = some b → d.pending f = some b

/-- A step in which the detector of `g` makes an alert of the event it holds. -/
structure Makes (d : Delivery F n) (a : Act n) (g : Feed) (alert : Alert) : Prop where
  made : madeStep (a, (d.step a).2) = some alert
  emitted : emittedStep (a, (d.step a).2) = []
  lefts : (d.step a).1.lefts = d.lefts
  pending : ∀ f b, (d.step a).1.pending f = some b → f = g ∧ b = alert ∨ d.pending f = some b
  outcome : ∃ ev, Called g ev ∧ Outcome g ev d.alertId (some alert)

/-- A step in which a decision about the alert of `g` is recorded: its records are left then, and
the alert is no longer on its way. -/
structure Decides (d : Delivery F n) (a : Act n) (g : Feed) (c : Pipeline.Call) (z : Option F)
    (dec : Decision) : Prop where
  made : madeStep (a, (d.step a).2) = none
  emitted : emittedStep (a, (d.step a).2) = []
  lefts : (d.step a).1.lefts = d.lefts + (Pipeline.records c z dec : Multiset Alert)
  unsent : d.pending g = some c.alert
  pending : ∀ f b, (d.step a).1.pending f = some b → f ≠ g ∧ d.pending f = some b

/-- A step that moves no detector and no task. -/
lemma Keeps.of_eq {a : Act n} (hmade : madeStep (a, (d.step a).2) = none)
    (hemitted : emittedStep (a, (d.step a).2) = []) (hhand : (d.step a).1.hand = d.hand)
    (hstage : (d.step a).1.sys.stage = d.sys.stage) : d.Keeps a where
  made := hmade
  lefts := by
    rw [hemitted, Delivery.lefts, hstage]
    exact zero_add _
  pending := fun f b hb => by
    rwa [Delivery.pending, hhand, hstage] at hb

/-- A step in which a detector outside `print_alert` gives up what it holds. -/
lemma Keeps.take {a : Act n} {g : Feed} {k : Hand} (hmade : madeStep (a, (d.step a).2) = none)
    (hemitted : emittedStep (a, (d.step a).2) = [])
    (hhand : (d.step a).1.hand = (d.take g k).hand) (hsys : (d.step a).1.sys = d.sys)
    (hidle : d.sys.stage g.task = .idle) (hk : ∀ b, k ≠ .alert b) : d.Keeps a where
  made := hmade
  lefts := by
    rw [hemitted, Delivery.lefts, hsys]
    exact zero_add _
  pending := fun f b hb => by
    rw [Delivery.pending, hhand, hsys] at hb
    exact pending_take_le hidle hk hb

/-- A detector decides about its event. -/
lemma judge_cases (hsane : d.Sane) {g : Feed} {outcome : Option Alert}
    (hok : d.Admissible (.judge g outcome)) :
    d.Keeps (.judge g outcome) ∨ ∃ alert, d.Makes (.judge g outcome) g alert := by
  obtain ⟨ev, hhand, hout⟩ := hok
  have hidle := hsane.idle_of_event hhand
  cases outcome with
  | none => exact Or.inl (.take rfl rfl rfl rfl hidle fun _ => Hand.noConfusion)
  | some alert =>
      refine Or.inr ⟨alert, rfl, rfl, rfl, fun f b hb => ?_, ev, hsane.called g ev hhand, hout⟩
      change (d.take g (.alert alert)).pending f = some b at hb
      by_cases hf : f = g
      · subst hf
        rw [pending, hand_take_self] at hb
        exact Or.inl ⟨rfl, (Option.some.inj hb).symm⟩
      · rw [pending_take_of_ne hf] at hb
        exact Or.inr hb

/-- A detector enters `print_alert` with the alert it holds. -/
lemma keeps_enter {g : Feed} {call : Pipeline.Call} (hok : d.Admissible (.enter g call)) :
    d.Keeps (.enter g call) := by
  obtain ⟨hhand, hidle, -⟩ := hok
  have hself := d.sys.stage_enter_self g.task call
  have hother (f : Feed) (hf : f ≠ g) :
      (d.sys.enter g.task call).stage f.task = d.sys.stage f.task :=
    d.sys.stage_enter_of_ne (fun ht => hf (Feed.task_injective ht)) call
  refine ⟨rfl, ?_, fun f b hb => ?_⟩
  · have hlefts := lefts_of_other (d.step (.enter g call)).1 hother
    have hnone : ((d.step (.enter g call)).1.sys.stage g.task).left = [] := by
      change ((d.sys.enter g.task call).stage g.task).left = []
      rcases hself with hsame | ⟨z, hscored⟩
      · rw [hsame, hidle]
        rfl
      · rw [hscored]
        rfl
    rw [hnone, hidle] at hlefts
    exact (zero_add _).trans ((add_zero _).symm.trans (hlefts.trans (add_zero _)))
  · by_cases hf : f = g
    · -- the alert is in `print_alert` now, or the baseline panicked and it is lost
      subst hf
      rw [show d.pending f = some call.alert by rw [pending, hhand]]
      have hfree : ∀ k : Hand, k = .free ∨ k = .ended →
          ({ d.take f k with sys := d.sys.enter f.task call } : Delivery F n).pending f
            = ((d.sys.enter f.task call).stage f.task).unsent := by
        intro k hk
        rw [pending, show ({ d.take f k with sys := d.sys.enter f.task call } :
          Delivery F n).hand f = k from hand_take_self _ _ _]
        rcases hk with rfl | rfl <;> rfl
      rw [step] at hb
      dsimp only at hb
      rw [hfree _ (by split_ifs <;> simp)] at hb
      rcases hself with hsame | ⟨z, hscored⟩
      · rw [hsame, hidle] at hb
        cases hb
      · rwa [hscored] at hb
    · rw [step] at hb
      dsimp only at hb
      rwa [pending, show ∀ k : Hand, ({ d.take g k with sys := d.sys.enter g.task call } :
        Delivery F n).hand f = d.hand f from fun k => d.hand_take_of_ne hf k, hother f hf] at hb

/-- A detector goes on in `print_alert`. -/
lemma work_cases (hsane : d.Sane) (g : Feed) :
    d.Keeps (.work g) ∨ ∃ c z dec, d.Decides (.work g) g c z dec := by
  have hother (f : Feed) (hf : f ≠ g) :
      (d.step (.work g)).1.sys.stage f.task = d.sys.stage f.task :=
    Pipeline.System.stage_resume_of_ne _ fun ht => hf (Feed.task_injective ht)
  have hlefts := lefts_of_other (d.step (.work g)).1 hother
  have hpending (f : Feed) (hf : f ≠ g) : (d.step (.work g)).1.pending f = d.pending f := by
    rw [pending, pending, hother f hf]
    rfl
  have hself : (d.step (.work g)).1.sys.stage g.task
      = ((d.sys.stage g.task).resume d.sys.pipe).2.1 := d.sys.stage_resume_self g.task
  rcases (d.sys.stage g.task).resume_records d.sys.pipe with ⟨hleft, hsame⟩ |
    ⟨c, z, dec, hunsent, hnone, hquiet, hrecords, hgone⟩
  · refine Or.inl ⟨rfl, ?_, fun f b hb => ?_⟩
    · rw [← hleft, hself, ← Multiset.coe_add, ← add_assoc] at hlefts
      exact (add_comm _ _).trans (add_right_cancel hlefts)
    · by_cases hf : f = g
      · subst hf
        rwa [pending, hself, hsame] at hb
      · rwa [hpending f hf] at hb
  · have hstage : d.sys.stage g.task ≠ .idle := by
      intro hidle
      rw [hidle] at hunsent
      cases hunsent
    refine Or.inr ⟨c, z, dec, rfl, hquiet, ?_, (hsane.pending_of_stage hstage).trans hunsent,
      fun f b hb => ?_⟩
    · rw [hnone, hself, hrecords] at hlefts
      exact (add_zero _).symm.trans hlefts
    · have hf : f ≠ g := by
        rintro rfl
        rw [pending, hself, hgone] at hb
        rcases (hsane.idle f).resolve_right hstage with hhand | hhand
        · rw [show (d.step (.work f)).1.hand f = .free from hhand] at hb
          cases hb
        · rw [show (d.step (.work f)).1.hand f = .ended from hhand] at hb
          cases hb
      exact ⟨hf, (hpending f hf).symm.trans hb⟩

/-- **What a step does to the alerts on their way**: nothing is added; or an alert is made of the
event a detector holds; or a decision about an alert is recorded, and its records are left. -/
lemma pending_step (hsane : d.Sane) (a : Act n) (hok : d.Admissible a) :
    d.Keeps a ∨ (∃ g alert, d.Makes a g alert) ∨ ∃ g c z dec, d.Decides a g c z dec := by
  cases a with
  | call c h task =>
      refine Or.inl (.of_eq ?_ ?_ ?_ ?_) <;>
      · rw [step]
        split_ifs <;> rfl
  | reserve c h task mem =>
      refine Or.inl (.of_eq ?_ ?_ ?_ ?_) <;>
      · rw [step]
        cases h.record task mem <;> rfl
  | next g =>
      refine Or.inl (.take rfl rfl rfl rfl hok.2 fun b hb => ?_)
      cases hitem : ((d.ring g).step .next).2.bind KrEvent.parseItem with
      | none =>
          rw [hitem] at hb
          cases hb
      | some ev =>
          rw [hitem] at hb
          cases hb
  | stop g => exact Or.inl (.take rfl rfl rfl rfl hok.2 fun _ => Hand.noConfusion)
  | judge g outcome =>
      rcases judge_cases hsane hok with h | ⟨alert, h⟩
      · exact Or.inl h
      · exact Or.inr (Or.inl ⟨g, alert, h⟩)
  | enter g call => exact Or.inl (keeps_enter hok)
  | work g =>
      rcases work_cases hsane g with h | ⟨c, z, dec, h⟩
      · exact Or.inl h
      · exact Or.inr (Or.inr ⟨g, c, z, dec, h⟩)
  | _ => exact Or.inl (.of_eq rfl rfl rfl rfl)

/-- The books of the alerts, as long as their numbers have not wrapped around: the records of the
decisions are those that were handed to `emit` and those that are left. -/
def Booked (tr : List (Act n × Effect)) (d : Delivery F n) : Prop :=
  d.alertId ≤ 2 ^ 64 →
    Numbered (alerts tr) ((emitted tr : Multiset Alert) + d.lefts) d.alertId d.pending

/-- One step keeps the books. -/
lemma Booked.next {tr : List (Act n × Effect)} (h : Booked tr d) (hsane : d.Sane) (a : Act n)
    (hok : d.Admissible a) : Booked (tr ++ [(a, (d.step a).2)]) (d.step a).1 := by
  intro hle
  rw [alertId_step] at hle ⊢
  rw [alerts_snoc, emitted_snoc, ← Multiset.coe_add, add_assoc]
  rcases pending_step hsane a hok with hkeeps | ⟨g, alert, hmakes⟩ | ⟨g, c, z, dec, hdecides⟩
  · rw [hkeeps.made] at hle ⊢
    rw [hkeeps.lefts, Option.toList_none, List.append_nil]
    exact (h hle).keep hkeeps.pending
  · -- the number has not wrapped around
    rw [hmakes.made] at hle ⊢
    rw [hmakes.emitted, hmakes.lefts, Option.toList_some, Multiset.coe_nil, zero_add]
    obtain ⟨ev, hcalled, houtcome⟩ := hmakes.outcome
    have hid : alert.id = d.alertId :=
      (id_of_outcome hcalled houtcome).1.trans (Nat.mod_eq_of_lt hle)
    exact (h (Nat.le_of_succ_le hle)).make hid hmakes.pending
  · rw [hdecides.made] at hle ⊢
    rw [hdecides.emitted, hdecides.lefts, Option.toList_none, List.append_nil, Multiset.coe_nil,
      zero_add, ← add_assoc]
    exact (h hle).record hdecides.unsent (fun r hr => Pipeline.about_of_mem_records hr)
      (Pipeline.nodup_records c z dec) hdecides.pending

end

omit [F64 F] in
lemma sane_start (p : Pipeline F) : (start p : Delivery F n).Sane :=
  ⟨fun _ => Or.inr rfl, fun _ _ h => (nomatch h)⟩

/-- At the start nothing is left. -/
lemma lefts_start (p : Pipeline F) : (start p : Delivery F n).lefts = 0 :=
  Finset.sum_const_zero

omit [F64 F] in
lemma numbered_start (p : Pipeline F) :
    Numbered [] 0 1 (start p : Delivery F n).pending where
  numbered := rfl
  next := rfl
  made := fun _ _ h => nomatch h
  unsent := fun _ _ h => nomatch h
  apart := fun _ _ _ _ h => nomatch h
  about := fun _ h => absurd h (Multiset.notMem_zero _)
  nodup := Multiset.nodup_zero

/-- What is known of the alerts after a trace. -/
structure Followed (tr : List (Act n × Effect)) (d : Delivery F n) : Prop where
  readable : d.Readable
  sane : d.Sane
  count : d.alertId = (alerts tr).length + 1
  booked : Booked tr d

lemma Followed.next {tr : List (Act n × Effect)} {d : Delivery F n} (h : Followed tr d) (a : Act n)
    (hok : d.Admissible a) : Followed (tr ++ [(a, (d.step a).2)]) (d.step a).1 where
  readable := h.readable.step a hok
  sane := h.sane.step h.readable a hok
  count := by
    rw [alertId_step, h.count, alerts_snoc, List.length_append]
    omega
  booked := h.booked.next h.sane a hok

/-- **Each alert once**: whatever the order of the steps, as long as fewer than `2 ^ 64` alerts are
made, they are numbered from one in the order in which they are made; no alert and no marker is
handed to `emit` twice; and whatever is handed to `emit` is an alert that was made, or a marker
that carries its number, its process, its user and its command. -/
theorem emitted_once {p : Pipeline F} {acts : List (Act n)} (hrun : machine.Valid (start p) acts)
    (hfew : (alerts (machine.trace (start p) acts)).length < 2 ^ 64) :
    let tr := machine.trace (start p) acts
    (alerts tr).map Alert.id = List.range' 1 (alerts tr).length ∧
      ((emitted tr).map fun r => (r.id, r.detector)).Nodup ∧
      ∀ r ∈ emitted tr, ∃ a ∈ alerts tr, r.About a := by
  intro tr
  have hzero : Followed [] (start p : Delivery F n) :=
    ⟨readable_start p, sane_start p, rfl, fun _ => by
      rw [lefts_start, add_zero]
      exact numbered_start p⟩
  have h := machine.history hzero (fun tr d a hd hok => hd.next a hok) hrun
  have hnumbered := h.booked (h.count ▸ hfew)
  refine ⟨hnumbered.numbered, ?_, fun r hr => hnumbered.about r
    (Multiset.mem_add.mpr (Or.inl (Multiset.mem_coe.mpr hr)))⟩
  have hnodup := hnumbered.nodup
  rw [Multiset.map_add, Multiset.nodup_add] at hnodup
  exact hnodup.1

/-! ### A run that emits -/

/-- The task of a detector goes on in the daemon as it does in `print_alert`. -/
lemma works (f : Feed) : ∀ (m : ℕ) (d : Delivery F n),
    (machine.Valid d (List.replicate m (.work f)) ↔
      Pipeline.System.machine.Valid d.sys (List.replicate m (.resume f.task))) ∧
    machine.after d (List.replicate m (.work f)) = { d with
      sys := Pipeline.System.machine.after d.sys (List.replicate m (.resume f.task)) } ∧
    machine.trace d (List.replicate m (.work f))
      = (Pipeline.System.machine.trace d.sys (List.replicate m (.resume f.task))).map
          fun x => (.work f, .piped x.2) := by
  intro m
  induction m with
  | zero => exact fun d => ⟨Iff.rfl, rfl, rfl⟩
  | succ m ih =>
      intro d
      obtain ⟨hvalid, hafter, htrace⟩ := ih (d.step (.work f)).1
      exact ⟨and_congr_right fun _ => hvalid, hafter, congrArg (List.cons _) htrace⟩

/-- The detector of `f` goes through `print_alert` with an alert that is let through. -/
def allowed (f : Feed) (c : Pipeline.Call) : List (Act n) :=
  .enter f c :: List.replicate 3 (.work f)

/-- What is shown while the detector of `f` takes the record `item`, makes an alert of it and goes
through `print_alert`. -/
def told (f : Feed) (item : Option (List UInt8)) (c : Pipeline.Call) : List (Act n × Effect) :=
  [(.next f, .item item), (.judge f (some c.alert), .quiet), (.enter f c, .entered false),
    (.work f, .piped (.worked none [])), (.work f, .piped (.worked (some (c.alert, .allow)) [])),
    (.work f, .piped (.worked none [c.alert]))]

/-- The daemon is still learning, and the task of `f` is free. -/
structure Eager (f : Feed) (k : Text) (sys : Pipeline.System F) : Prop where
  learning : Pipeline.System.Learning f.task k 0 sys
  config : sys.pipe.limiter.config = RateLimitConfig.default

/-- In the learning phase an alert can go through. -/
lemma exists_allowed {d : Delivery F n} {f : Feed} {a : Alert} (hhand : d.hand f = .alert a)
    (heager : Eager f (Baseline.key a.detector a.comm) d.sys) :
    ∃ (c : Pipeline.Call) (sys : Pipeline.System F), c.alert = a ∧
      machine.Valid d (allowed f c) ∧ machine.trace d (allowed f c) = (told f none c).drop 2 ∧
      machine.after d (allowed f c) = { d.take f .free with sys := sys } ∧
      Eager f (Baseline.key a.detector a.comm) sys := by
  obtain ⟨m, hok, hallow⟩ := Pipeline.System.exists_allow (l := d.sys.pipe.limiter)
    (by rw [heager.config]; decide) (by rw [heager.config]; decide) (Pipeline.keyOf a) a.severity
  let c : Pipeline.Call := ⟨a, 0, [], m, 0, 0⟩
  obtain ⟨hvalid, hlearning, hconfig, htrace⟩ :=
    heager.learning.allowed (c := c) rfl hok hallow
  have hscore := (heager.learning.score (c := c) rfl).2
  have hstep : d.step (.enter f c)
      = ({ d.take f .free with sys := d.sys.enter f.task c }, .entered false) := by
    rw [step, hscore]
    rfl
  obtain ⟨hworks, hafter, htraces⟩ := works f 3 (d.step (.enter f c)).1
  rw [hstep] at hworks hafter htraces
  rw [Pipeline.System.allowed, Machine.trace_cons] at htrace
  refine ⟨c, _, rfl, ⟨⟨hhand, hvalid.1⟩, ?_⟩, ?_, ?_, hlearning, hconfig.trans heager.config⟩
  · rw [machine_step, hstep]
    exact hworks.mpr hvalid.2
  · rw [allowed, Machine.trace_cons, machine_step, hstep]
    refine congrArg (List.cons _) (htraces.trans ?_)
    exact congrArg _ (List.tail_eq_of_cons_eq htrace)
  · rw [allowed, Machine.after_cons, machine_step, hstep]
    exact hafter

/-- In the learning phase the detector of `setuid` can make an alert of a record and let it
through. -/
lemma exists_told {d : Delivery F n} {ev : KrEvent} (hhand : d.hand .privesc = .free)
    (hparse : ((d.ring .privesc).step .next).2.bind KrEvent.parseItem = some ev)
    (heager : Eager .privesc (Baseline.key Feed.privesc.name (commStr ev)) d.sys) :
    ∃ (acts : List (Act n)) (c : Pipeline.Call) (sys : Pipeline.System F),
      c.alert.detector = Feed.privesc.name ∧ c.alert.comm = commStr ev ∧
      c.alert.severity = Severity.ofU8 ev.severity ∧
      machine.Valid d acts ∧
      machine.trace d acts = told .privesc ((d.ring .privesc).step .next).2 c ∧
      machine.after d acts
        = { (d.onRing .privesc .next).take .privesc .free with
            alertId := d.alertId + 1, sys := sys } ∧
      Eager .privesc (Baseline.key Feed.privesc.name (commStr ev)) sys := by
  let re : RegexCrate := ⟨fun _ => false, fun _ => false, fun _ _ => false⟩
  let sc : Scene := ⟨⟨none, none⟩, ⟨d.alertId % 2 ^ 64, "1", 0⟩⟩
  let held : Held := ⟨RwLock.new ⟨[], []⟩, RwLock.new []⟩
  obtain ⟨a, ha, hname, hcomm, hseverity⟩ : ∃ a,
      (Feed.privesc.handle 9 re sc ev).run held = some a ∧ a.detector = Feed.privesc.name ∧
        a.comm = commStr ev ∧ a.severity = Severity.ofU8 ev.severity := ⟨_, rfl, rfl, rfl, rfl⟩
  have hout : Outcome .privesc ev d.alertId (some a) :=
    ⟨9, re, sc, held, [], rfl, ha ▸ interleaving_run held [] _⟩
  have hnext : d.step (.next .privesc) = ((d.onRing .privesc .next).take .privesc (.event ev),
      .item ((d.ring .privesc).step .next).2) := by
    rw [step, hparse]
    rfl
  let d₁ : Delivery F n := { ((d.onRing .privesc .next).take .privesc (.event ev)).take .privesc
    (.alert a) with alertId := d.alertId + 1 }
  have heager₁ : Eager .privesc (Baseline.key a.detector a.comm) d₁.sys := by
    rw [hname, hcomm]
    exact heager
  obtain ⟨c, sys, rfl, hvalid, htrace, hafter, heager₂⟩ :=
    exists_allowed (d := d₁) (hand_take_self _ _ _) heager₁
  rw [hname, hcomm] at heager₂
  refine ⟨.next .privesc :: .judge .privesc (some c.alert) :: allowed .privesc c, c, sys, hname,
    hcomm, hseverity, ⟨⟨hhand, heager.learning.idle⟩, ?_⟩, ?_, ?_, heager₂⟩
  · rw [machine_step, hnext]
    exact ⟨⟨ev, hand_take_self _ _ _, hout⟩, hvalid⟩
  · rw [Machine.trace_cons, Machine.trace_cons, machine_step, hnext]
    exact congrArg (fun tr => _ :: _ :: tr) htrace
  · rw [Machine.after_cons, machine_step, hnext]
    refine hafter.trans ?_
    simp only [d₁, take, Function.update_idem]

/-- A command with a line feed in its name. -/
def feeder : Task := ⟨7, 1000, 5, #v[97, 10, 98, 0, 0, 0, 0, 0, 0, 0, 0, 0, 0, 0, 0, 0]⟩

/-- It calls `setuid(0)`, twice. -/
def setuids : List (Act 1) :=
  let h : Hook := .setuid (Vector.replicate 6 0)
  let once : List (Act 1) :=
    [.call 0 h feeder, .reserve 0 h feeder (List.replicate 80 0), .submit 0 .privesc]
  once ++ once

/-- What the ring buffer of `privesc` holds then. -/
def setuidRing : SharedRing (List UInt8) :=
  let bytes := ((Hook.setuid (Vector.replicate 6 0)).record feeder (List.replicate 80 0)).getD []
  let once (r : SharedRing (List UInt8)) := ((r.step (.reserve 0 bytes)).1.step (.submit 0)).1
  once (once SharedRing.empty)

/-- A run with two alerts that are let through. -/
lemma exists_twice [F64 ℚ] : ∃ (acts : List (Act 1)) (a b : Pipeline.Call)
    (i j : Option (List UInt8)), machine.Valid (start (Pipeline.System.fresh : Pipeline ℚ)) acts ∧
      machine.trace (start (Pipeline.System.fresh : Pipeline ℚ)) acts
        = machine.trace (start (Pipeline.System.fresh : Pipeline ℚ)) setuids
          ++ (told .privesc i a ++ told .privesc j b) ∧
      (machine.after (start (Pipeline.System.fresh : Pipeline ℚ)) acts).sys.stage
        Feed.privesc.task = .idle ∧
      ∀ c ∈ [a, b], c.alert.detector = Feed.privesc.name ∧ c.alert.comm = "a\nb" ∧
        c.alert.severity = .alert := by
  let p : Pipeline ℚ := Pipeline.System.fresh
  let d := machine.after (start p) setuids
  have hvalid : machine.Valid (start p) setuids :=
    ⟨rfl, ⟨rfl, rfl⟩, rfl, rfl, ⟨rfl, rfl⟩, rfl, trivial⟩
  have hring : d.ring .privesc = setuidRing := rfl
  let item := (setuidRing.step .next).2
  let item' := ((setuidRing.step .next).1.step .next).2
  -- the detector reads the same from both records
  let seen (i : Option (List UInt8)) : Text × Severity :=
    (i.bind KrEvent.parseItem).elim ([], .info) fun ev => (commStr ev, Severity.ofU8 ev.severity)
  have hseen : ∀ i, seen i = (("a\nb" : Text), Severity.alert) → ∃ ev,
      i.bind KrEvent.parseItem = some ev ∧ commStr ev = "a\nb" ∧
        Severity.ofU8 ev.severity = .alert := by
    intro i hi
    cases hev : i.bind KrEvent.parseItem with
    | none =>
        simp only [seen, hev, Option.elim_none] at hi
        exact absurd (congrArg Prod.fst hi) (by decide)
    | some ev =>
        simp only [seen, hev, Option.elim_some] at hi
        exact ⟨ev, rfl, congrArg Prod.fst hi, congrArg Prod.snd hi⟩
  obtain ⟨ev, hparse, hcomm, hseverity⟩ := hseen item (by decide)
  obtain ⟨ev', hparse', hcomm', hseverity'⟩ := hseen item' (by decide)
  obtain ⟨acts, a, sys, haname, hacomm, haseverity, hacts, htrace, hafter, heager⟩ :=
    exists_told (d := d) rfl hparse ⟨Pipeline.System.learning_fresh _ _, rfl⟩
  have hnext : (((machine.after d acts).ring .privesc).step .next).2.bind KrEvent.parseItem
      = some ev' := by
    rw [hafter]
    exact hparse'
  obtain ⟨acts', b, sys', hbname, hbcomm, hbseverity, hacts', htrace', hafter', heager'⟩ :=
    exists_told (by rw [hafter]; rfl) hnext (by rw [hafter, hcomm', ← hcomm]; exact heager)
  refine ⟨setuids ++ (acts ++ acts'), a, b, item, item', ?_, ?_, ?_, List.forall_mem_cons.mpr
    ⟨⟨haname, hacomm.trans hcomm, haseverity.trans hseverity⟩, List.forall_mem_singleton.mpr
      ⟨hbname, hbcomm.trans hcomm', hbseverity.trans hseverity'⟩⟩⟩
  · exact (machine.along_append _ _ _ _).mpr ⟨hvalid, (machine.along_append _ _ _ _).mpr
      ⟨hacts, hacts'⟩⟩
  · rw [Machine.trace_append, Machine.trace_append, htrace, htrace', hafter]
    rfl
  · rw [Machine.after_append, Machine.after_append, hafter']
    exact heager'.learning.idle

lemma emitted_twice [F64 ℚ] {tr : List (Act 1 × Effect)} {a b : Pipeline.Call}
    {i j : Option (List UInt8)}
    (h : tr = machine.trace (start (Pipeline.System.fresh : Pipeline ℚ)) setuids
      ++ (told .privesc i a ++ told .privesc j b)) : emitted tr = [a.alert, b.alert] := by
  rw [h, emitted, List.flatMap_append]
  rfl

/-- Two calls of `setuid(0)`: their alerts have the numbers one and two. -/
theorem emitted_once_setuid : ∃ (acts : List (Act 1)) (a b : Alert),
    emitted (machine.trace (start Pipeline.System.fresh) acts) = [a, b] ∧
      [a, b].map Alert.id = [1, 2] ∧ (a.id, a.detector) ≠ (b.id, b.detector) := by
  obtain ⟨acts, a, b, i, j, hrun, htrace, -, -⟩ := exists_twice
  have halerts : alerts (machine.trace (start Pipeline.System.fresh) acts)
      = [a.alert, b.alert] := by
    rw [htrace, alerts, List.filterMap_append]
    rfl
  have hemitted := emitted_twice htrace
  obtain ⟨hids, hnodup, -⟩ := emitted_once hrun (by rw [halerts]; exact (by decide : 2 < 2 ^ 64))
  rw [halerts] at hids
  rw [hemitted] at hnodup
  exact ⟨acts, a.alert, b.alert, hemitted, hids, by simpa using hnodup⟩

end Delivery

end Kernelradar
