import Kernelradar.Delivery.Account

/-!
In which order the calls are handled.

* `logged`, `handled`: the events a place was reserved for, and those a detector has taken;
* `Ordered`, `in_order`: every detector takes the events of its ring buffer in the order in which
  the places were reserved, each once, whatever the order in which they are filled in;
* `ring_step`, `drained`: what is submitted is taken, whatever comes after it.
-/

namespace Kernelradar

open Library Bpf

namespace Delivery

variable {F : Type} [F64 F] {n : ℕ}

/-- The step on the ring buffer of `f`, and what it takes out. -/
def ringStep (f : Feed) :
    Act n × Effect → Option (SharedRing.Op (List UInt8) × Option (List UInt8))
  | (.reserve c h task mem, _) =>
      if h.feed = f then (h.record task mem).map fun bytes => (.reserve c bytes, none) else none
  | (.submit c g, _) => if g = f then some (.submit c, none) else none
  | (.next g, .item out) => if g = f then some (.next, out) else none
  | _ => none

/-- The event a place in the ring buffer of `f` is reserved for. -/
def loggedStep (f : Feed) : Act n × Effect → Option KrEvent
  | (.reserve _ h task mem, _) =>
      if h.feed = f then h.event task (KrEvent.readUnaligned mem) else none
  | _ => none

/-- The event the detector of `f` takes. -/
def handledStep (f : Feed) : Act n × Effect → Option KrEvent
  | (.next g, .item (some bytes)) => if g = f then KrEvent.parseItem bytes else none
  | _ => none

/-- The steps on the ring buffer of `f`. -/
def ringTrace (f : Feed) (tr : List (Act n × Effect)) :
    List (SharedRing.Op (List UInt8) × Option (List UInt8)) := tr.filterMap (ringStep f)

/-- The events that places were reserved for, in order. -/
def logged (f : Feed) (tr : List (Act n × Effect)) : List KrEvent := tr.filterMap (loggedStep f)

/-- The events the detector of `f` has taken, in order. -/
def handled (f : Feed) (tr : List (Act n × Effect)) : List KrEvent := tr.filterMap (handledStep f)

/-- A context with a place is at work on it. -/
def Placed (f : Feed) (d : Delivery F n) : Prop :=
  ∀ c : Fin n, ((d.ring f).holds c).isSome → d.probe c = .filling f

/-- The ring buffer of `f` and its detector against the trace. -/
structure Ordered (f : Feed) (tr : List (Act n × Effect)) (d : Delivery F n) : Prop where
  readable : d.Readable
  placed : d.Placed f
  told : SharedRing.Told (ringTrace f tr) (d.ring f)
  logs : (SharedRing.log (ringTrace f tr)).map KrEvent.parseItem = (logged f tr).map some
  takes : (SharedRing.taken (ringTrace f tr)).map KrEvent.parseItem = (handled f tr).map some
  holds : ∀ ev, d.hand f = .event ev → (handled f tr).getLast? = some ev

section

variable {f : Feed} {d : Delivery F n}

omit [F64 F] in
lemma Placed.stand (h : d.Placed f) {c : Fin n} (hfree : (d.ring f).holds c = none) (p : Probe) :
    (d.stand c p).Placed f := by
  intro x hx
  have hne : x ≠ c := by
    rintro rfl
    rw [show (d.stand x p).ring f = d.ring f from rfl, hfree] at hx
    cases hx
  rw [d.probe_stand_of_ne hne]
  exact h x hx

omit [F64 F] in
/-- A context elsewhere has no place. -/
lemma Placed.holds_none (h : d.Placed f) {c : Fin n} {p : Probe} (hp : d.probe c = p)
    (hne : p ≠ .filling f) : (d.ring f).holds c = none := by
  rw [← Option.not_isSome_iff_eq_none]
  exact fun hsome => hne (hp.symm.trans (h c hsome))

omit [F64 F] in
/-- A context that submits has no place any more. -/
lemma holds_submit (s : SharedRing (List UInt8)) (p : ℕ) :
    (s.step (.submit p)).1.holds p = none := by
  rw [SharedRing.step]
  cases hholds : s.holds p with
  | none => exact hholds
  | some ta => exact Function.update_self _ _ _

omit [F64 F] in
/-- The contexts that have a place after a step had it before, or have just got it. -/
lemma holds_step (s : SharedRing (List UInt8)) (op : SharedRing.Op (List UInt8)) {q : ℕ}
    (hq : ∀ a, op ≠ .reserve q a) (h : ((s.step op).1.holds q).isSome) : (s.holds q).isSome := by
  cases op with
  | reserve p a =>
      have hne : q ≠ p := by
        rintro rfl
        exact hq a rfl
      change (Function.update s.holds p _ q).isSome at h
      rwa [Function.update_of_ne hne] at h
  | submit p =>
      rw [SharedRing.step] at h
      cases hholds : s.holds p with
      | none =>
          rw [hholds] at h
          exact h
      | some ta =>
          rw [hholds] at h
          change (Function.update s.holds p none q).isSome at h
          by_cases hp : q = p
          · rw [hp, Function.update_self] at h
            cases h
          · rwa [Function.update_of_ne hp] at h
  | next => exact h

omit [F64 F] in
/-- The context that is given a place is at work on it, and the others stay at theirs. -/
lemma Placed.reserve (h : d.Placed f) {c : Fin n} {g : Feed} (hfree : (d.ring f).holds c = none)
    (bytes : List UInt8) : ((d.onRing g (.reserve c bytes)).stand c (.filling g)).Placed f := by
  intro x hx
  change (((d.onRing g (.reserve c bytes)).ring f).holds x).isSome at hx
  by_cases hxc : x = c
  · subst hxc
    by_cases hf : f = g
    · rw [hf]
      exact probe_stand_self _ _ _
    · -- in another ring buffer it had no place before
      rw [d.ring_onRing_of_ne hf, hfree] at hx
      cases hx
  · refine (probe_stand_of_ne _ hxc _).trans (h x ?_)
    by_cases hf : f = g
    · subst hf
      rw [ring_onRing_self] at hx
      refine holds_step _ _ (fun a ha => hxc ?_) hx
      exact Fin.ext (SharedRing.Op.reserve.inj ha).1.symm
    · rwa [d.ring_onRing_of_ne hf] at hx

omit [F64 F] in
/-- The context that submits leaves its place, and the others stay at theirs. -/
lemma Placed.submit (h : d.Placed f) {c : Fin n} {g : Feed} (hprobe : d.probe c = .filling g) :
    ((d.onRing g (.submit c)).stand c .idle).Placed f := by
  intro x hx
  change (((d.onRing g (.submit c)).ring f).holds x).isSome at hx
  by_cases hf : f = g
  · subst hf
    rw [ring_onRing_self] at hx
    by_cases hxc : x = c
    · rw [hxc, holds_submit] at hx
      cases hx
    · exact (probe_stand_of_ne _ hxc _).trans
        (h x (holds_step _ (.submit c) (fun _ ha => absurd ha (by simp)) hx))
  · rw [d.ring_onRing_of_ne hf] at hx
    have hxc : x ≠ c := by
      rintro rfl
      have hfill := h x hx
      rw [hprobe] at hfill
      exact hf (Probe.filling.inj hfill).symm
    exact (probe_stand_of_ne _ hxc _).trans (h x hx)

/-- One step keeps the contexts at their places. -/
lemma Placed.step (h : d.Placed f) (a : Act n) (hok : d.Admissible a) : (d.step a).1.Placed f := by
  cases a with
  | call c h' task =>
      rw [Delivery.step]
      split_ifs
      · exact Placed.stand (d := d.bump h'.feed h'.feed.observed) h
          (h.holds_none hok Probe.noConfusion) _
      · exact h
  | refuse c h' task => exact h.stand (h.holds_none hok Probe.noConfusion) _
  | drop c g =>
      exact Placed.stand (d := d.bump g g.dropped) h (h.holds_none hok Probe.noConfusion) _
  | reserve c h' task mem =>
      rw [Delivery.step]
      cases h'.record task mem with
      | none => exact h
      | some bytes => exact h.reserve (h.holds_none hok.1 Probe.noConfusion) bytes
  | submit c g => exact h.submit hok
  | next g =>
      intro x hx
      refine h x ?_
      change (((d.onRing g .next).ring f).holds x).isSome at hx
      by_cases hf : f = g
      · subst hf
        rwa [ring_onRing_self] at hx
      · rwa [d.ring_onRing_of_ne hf] at hx
  | judge g outcome => cases outcome <;> exact h
  | _ => exact h

variable {tr : List (Act n × Effect)} {x : Act n × Effect} {d' : Delivery F n}

omit [F64 F] in
/-- A step that does not touch the ring buffer of `f`. -/
lemma Ordered.quiet (h : Ordered f tr d) (hread : d'.Readable) (hplaced : d'.Placed f)
    (hring : d'.ring f = d.ring f)
    (hhand : ∀ ev, d'.hand f = .event ev → d.hand f = .event ev)
    (hstep : ringStep f x = none) (hlog : loggedStep f x = none) (htake : handledStep f x = none) :
    Ordered f (tr ++ [x]) d' := by
  have hringTrace : ringTrace f (tr ++ [x]) = ringTrace f tr := by
    rw [ringTrace, filterMap_snoc, hstep, Option.toList_none, List.append_nil, ringTrace]
  have hlogged : logged f (tr ++ [x]) = logged f tr := by
    rw [logged, filterMap_snoc, hlog, Option.toList_none, List.append_nil, logged]
  have hhandled : handled f (tr ++ [x]) = handled f tr := by
    rw [handled, filterMap_snoc, htake, Option.toList_none, List.append_nil, handled]
  refine ⟨hread, hplaced, ?_, ?_, ?_, ?_⟩
  · rw [hringTrace, hring]
    exact h.told
  · rw [hringTrace, hlogged]
    exact h.logs
  · rw [hringTrace, hhandled]
    exact h.takes
  · rw [hhandled]
    exact fun ev hev => h.holds ev (hhand ev hev)

omit [F64 F] in
/-- A step on the ring buffer of `f`. -/
lemma Ordered.turn (h : Ordered f tr d) (hread : d'.Readable) (hplaced : d'.Placed f)
    (op : SharedRing.Op (List UInt8)) (hring : d'.ring f = ((d.ring f).step op).1)
    (hok : (d.ring f).Admissible op)
    (hhand : ∀ ev, d'.hand f = .event ev →
      handledStep f x = some ev ∨ handledStep f x = none ∧ d.hand f = .event ev)
    (hstep : ringStep f x = some (op, ((d.ring f).step op).2))
    (hlog : op.reserved.map KrEvent.parseItem = (loggedStep f x).map some)
    (htake : ((d.ring f).step op).2.map KrEvent.parseItem = (handledStep f x).map some) :
    Ordered f (tr ++ [x]) d' := by
  have hringTrace : ringTrace f (tr ++ [x])
      = ringTrace f tr ++ [(op, ((d.ring f).step op).2)] := by
    rw [ringTrace, filterMap_snoc, hstep, Option.toList_some, ringTrace]
  refine ⟨hread, hplaced, ?_, ?_, ?_, ?_⟩
  · rw [hringTrace, hring]
    exact SharedRing.told_next h.told op hok
  · rw [hringTrace, SharedRing.log, filterMap_snoc, List.map_append, logged, filterMap_snoc,
      List.map_append]
    refine congrArg₂ _ h.logs ?_
    rw [← Option.toList_map, ← Option.toList_map, hlog]
  · rw [hringTrace, SharedRing.taken, filterMap_snoc, List.map_append, handled, filterMap_snoc,
      List.map_append]
    refine congrArg₂ _ h.takes ?_
    rw [← Option.toList_map, ← Option.toList_map, htake]
  · intro ev hev
    rw [handled, filterMap_snoc]
    rcases hhand ev hev with htook | ⟨hnone, hold⟩
    · rw [htook]
      exact List.getLast?_concat
    · rw [hnone, Option.toList_none, List.append_nil]
      exact h.holds ev hold

/-- A context is given a place, in the ring buffer of `f` or in another. -/
lemma Ordered.reserve (h : Ordered f tr d) {c : Fin n} {hook : Hook} {task : Task}
    {mem : List UInt8} (hok : d.Admissible (.reserve c hook task mem)) :
    Ordered f (tr ++ [(.reserve c hook task mem, (d.step (.reserve c hook task mem)).2)])
      (d.step (.reserve c hook task mem)).1 := by
  have hread := h.readable.step _ hok
  have hplaced := h.placed.step _ hok
  have hhand : (d.step (.reserve c hook task mem)).1.hand = d.hand := by
    rw [step]
    cases hook.record task mem <;> rfl
  by_cases hf : hook.feed = f
  · subst hf
    cases hrec : hook.record task mem with
    | none =>
        have hnone : hook.event task (KrEvent.readUnaligned mem) = none :=
          Option.map_eq_none_iff.mp hrec
        refine h.quiet hread hplaced ?_ (fun ev hev => (congrFun hhand _).symm.trans hev) ?_ ?_ rfl
        · rw [step, hrec]
        · simp [ringStep, hrec]
        · simp [loggedStep, hnone]
    | some bytes =>
        -- the event is logged with the ticket of its place
        obtain ⟨ev, hev, hparse⟩ := parseItem_record hok.2 hrec
        refine h.turn hread hplaced (.reserve c bytes) ?_
          (h.placed.holds_none hok.1 Probe.noConfusion)
          (fun ev hev => Or.inr ⟨rfl, (congrFun hhand _).symm.trans hev⟩) ?_ ?_ rfl
        · rw [step, hrec]
          exact d.ring_onRing_self _ _
        · simp [ringStep, hrec, SharedRing.step]
        · simp [loggedStep, SharedRing.Op.reserved, hev, hparse]
  · refine h.quiet hread hplaced ?_ (fun ev hev => (congrFun hhand _).symm.trans hev)
      (if_neg hf) (if_neg hf) rfl
    rw [step]
    cases hook.record task mem with
    | none => rfl
    | some bytes => exact d.ring_onRing_of_ne (Ne.symm hf) _

/-- A context submits: the record can be taken then, and nothing is taken yet. -/
lemma Ordered.submit (h : Ordered f tr d) {c : Fin n} {g : Feed}
    (hok : d.Admissible (.submit c g)) :
    Ordered f (tr ++ [(.submit c g, (d.step (.submit c g)).2)]) (d.step (.submit c g)).1 := by
  have hread := h.readable.step _ hok
  have hplaced := h.placed.step _ hok
  by_cases hg : g = f
  · subst hg
    have hnone : ((d.ring g).step (.submit c)).2 = none := by
      rw [SharedRing.step]
      cases (d.ring g).holds c <;> rfl
    refine h.turn hread hplaced (.submit c) (d.ring_onRing_self _ _) trivial
      (fun ev hev => Or.inr ⟨rfl, hev⟩) ?_ rfl ?_
    · rw [hnone]
      exact if_pos rfl
    · rw [hnone]
      rfl
  · exact h.quiet hread hplaced (d.ring_onRing_of_ne (Ne.symm hg) _) (fun _ hev => hev)
      (if_neg hg) rfl rfl

/-- The detector of `f` takes what its ring buffer yields. -/
lemma Ordered.take_self (h : Ordered f tr d) (hok : d.Admissible (.next f)) :
    Ordered f (tr ++ [(.next f, (d.step (.next f)).2)]) (d.step (.next f)).1 := by
  have hself : (d.step (.next f)).1.hand f = (((d.ring f).step .next).2.bind
      KrEvent.parseItem).elim .free .event := hand_take_self _ _ _
  refine h.turn (h.readable.step _ hok) (h.placed.step _ hok) .next (d.ring_onRing_self _ _)
    trivial ?_ (if_pos rfl) rfl ?_
  · -- what it holds then is what it has taken
    intro ev hev
    rw [hself] at hev
    left
    change handledStep f (.next f, .item ((d.ring f).step .next).2) = some ev
    cases hitem : ((d.ring f).step .next).2 with
    | none =>
        rw [hitem] at hev
        cases hev
    | some bytes =>
        rw [hitem, Option.bind_some] at hev
        rw [handledStep, if_pos rfl]
        cases hparse : KrEvent.parseItem bytes with
        | none =>
            rw [hparse] at hev
            cases hev
        | some ev' =>
            rw [hparse] at hev
            exact congrArg some (Hand.event.inj hev)
  · change _ = (handledStep f (.next f, .item ((d.ring f).step .next).2)).map some
    cases hitem : ((d.ring f).step .next).2 with
    | none => rfl
    | some bytes =>
        obtain ⟨ev, hparse, -⟩ := h.readable.item hitem
        rw [handledStep, if_pos rfl, hparse, Option.map_some, Option.map_some, hparse]

/-- Another detector takes what its ring buffer yields. -/
lemma Ordered.take_other (h : Ordered f tr d) {g : Feed} (hg : g ≠ f)
    (hok : d.Admissible (.next g)) :
    Ordered f (tr ++ [(.next g, (d.step (.next g)).2)]) (d.step (.next g)).1 := by
  have htake : handledStep f ((Act.next g : Act n), (d.step (.next g)).2) = none := by
    change handledStep f (.next g, .item ((d.ring g).step .next).2) = none
    cases ((d.ring g).step .next).2 with
    | none => rfl
    | some bytes => exact if_neg hg
  refine h.quiet (h.readable.step _ hok) (h.placed.step _ hok) (d.ring_onRing_of_ne (Ne.symm hg) _)
    (fun ev hev => ?_) (if_neg hg) rfl htake
  rwa [show (d.step (.next g)).1.hand f = d.hand f from hand_take_of_ne _ (Ne.symm hg) _] at hev

/-- A detector gives up its event, and the ring buffers stay. -/
lemma Ordered.leave (h : Ordered f tr d) {a : Act n} (hok : d.Admissible a) {g : Feed} {k : Hand}
    (hring : (d.step a).1.ring = d.ring) (hhand : (d.step a).1.hand = (d.take g k).hand)
    (hk : ∀ ev, k ≠ .event ev) (hstep : ringStep f (a, (d.step a).2) = none)
    (hlog : loggedStep f (a, (d.step a).2) = none)
    (htake : handledStep f (a, (d.step a).2) = none) :
    Ordered f (tr ++ [(a, (d.step a).2)]) (d.step a).1 := by
  refine h.quiet (h.readable.step a hok) (h.placed.step a hok) (congrFun hring f)
    (fun ev hev => ?_) hstep hlog htake
  rw [hhand] at hev
  by_cases hg : g = f
  · subst hg
    rw [hand_take_self] at hev
    exact absurd hev (hk ev)
  · rwa [d.hand_take_of_ne (Ne.symm hg)] at hev

/-- One step keeps the order. -/
lemma Ordered.next (h : Ordered f tr d) (a : Act n) (hok : d.Admissible a) :
    Ordered f (tr ++ [(a, (d.step a).2)]) (d.step a).1 := by
  have hread := h.readable.step a hok
  have hplaced := h.placed.step a hok
  cases a with
  | call c hook task =>
      have hsame : (d.step (.call c hook task)).1.ring = d.ring ∧
          (d.step (.call c hook task)).1.hand = d.hand := by
        rw [step]
        split_ifs <;> exact ⟨rfl, rfl⟩
      exact h.quiet hread hplaced (congrFun hsame.1 f)
        (fun ev hev => (congrFun hsame.2 f).symm.trans hev) rfl rfl rfl
  | reserve c hook task mem => exact h.reserve hok
  | submit c g => exact h.submit hok
  | next g =>
      by_cases hg : g = f
      · subst hg
        exact h.take_self hok
      · exact h.take_other hg hok
  | judge g outcome =>
      cases outcome with
      | none => exact h.leave hok rfl rfl (fun _ => Hand.noConfusion) rfl rfl rfl
      | some alert => exact h.leave hok rfl rfl (fun _ => Hand.noConfusion) rfl rfl rfl
  | enter g call =>
      exact h.leave hok rfl rfl (fun ev hev => by split_ifs at hev) rfl rfl rfl
  | stop g => exact h.leave hok rfl rfl (fun _ => Hand.noConfusion) rfl rfl rfl
  | _ => exact h.quiet hread hplaced rfl (fun _ hev => hev) rfl rfl rfl

end

omit [F64 F] in
lemma ordered_start (f : Feed) (p : Pipeline F) : Ordered f [] (start p : Delivery F n) :=
  ⟨readable_start p, fun _ h => (nomatch h), ⟨SharedRing.kept_empty, rfl⟩, rfl, rfl,
    fun _ h => (nomatch h)⟩

/-- The ring buffers along a run. -/
lemma ordered (f : Feed) {p : Pipeline F} {acts : List (Act n)}
    (hrun : machine.Valid (start p) acts) :
    Ordered f (machine.trace (start p) acts) (machine.after (start p) acts) :=
  machine.history (P := Ordered f) (ordered_start f p) (fun _ _ a h hok => h.next a hok) hrun

section

variable {f : Feed} {tr : List (Act n × Effect)} {d : Delivery F n}

omit [F64 F] in
lemma Ordered.length_logged (h : Ordered f tr d) :
    (logged f tr).length = (d.ring f).ring.ticket := by
  have hlogs := congrArg List.length h.logs
  rw [List.length_map, List.length_map, h.told.1.logs.length] at hlogs
  exact hlogs.symm

omit [F64 F] in
lemma Ordered.length_handled (h : Ordered f tr d) :
    (handled f tr).length = (d.ring f).ring.taken := by
  have htaken := congrArg List.length h.told.2
  have htakes := congrArg List.length h.takes
  have hlog := h.told.1.logs.length
  rw [List.length_map, List.length_map] at htakes
  rw [List.length_take, hlog, Ring.ticket] at htaken
  omega

omit [F64 F] in
lemma Ordered.handled_eq (h : Ordered f tr d) :
    handled f tr = (logged f tr).take (handled f tr).length := by
  have hmap : (handled f tr).map some = ((logged f tr).take (handled f tr).length).map some := by
    rw [← h.takes, h.told.2, List.map_take, h.logs, List.map_take, h.length_handled]
  exact List.map_injective_iff.mpr (Option.some_injective _) hmap

end

/-- **In order, each once**: whatever the order of the steps, the events a detector has taken are
those of the calls that were given the first places in its ring buffer, in the order in which the
places were given, though they are filled in and submitted in any order; the rest is as long as
the ring buffer, and what the detector holds is the last it took. -/
theorem in_order {p : Pipeline F} {acts : List (Act n)} (hrun : machine.Valid (start p) acts)
    (f : Feed) :
    let tr := machine.trace (start p) acts
    let d := machine.after (start p) acts
    handled f tr = (logged f tr).take (handled f tr).length ∧
      (logged f tr).length = (handled f tr).length + waiting f d ∧
      ∀ ev, d.hand f = .event ev → (handled f tr).getLast? = some ev := by
  intro tr d
  have h : Ordered f tr d := ordered f hrun
  refine ⟨h.handled_eq, ?_, h.holds⟩
  rw [h.length_logged, h.length_handled]
  rfl

/-- Two calls of `setuid(0)`: the second is submitted first, and waits for the first. -/
theorem in_order_setuid :
    let p : Pipeline ℚ := Pipeline.System.fresh
    let h : Hook := .setuid (Vector.replicate 6 0)
    let first : Task := ⟨0x700000007, 1000, 5, Vector.replicate 16 0⟩
    let second : Task := ⟨0x800000008, 1000, 5, Vector.replicate 16 0⟩
    let mem : List UInt8 := List.replicate 80 0
    let acts : List (Act 2) := [.call 0 h first, .call 1 h second, .reserve 0 h first mem,
      .reserve 1 h second mem, .submit 1 .privesc, .next .privesc, .submit 0 .privesc,
      .next .privesc]
    (handled .privesc (machine.trace (start p) acts)).map KrEvent.pid = [7] := by
  intro p h first second mem acts
  have hrun : machine.Valid (start p) acts :=
    ⟨rfl, rfl, ⟨rfl, rfl⟩, ⟨rfl, rfl⟩, rfl, ⟨rfl, rfl⟩, rfl, ⟨rfl, rfl⟩, trivial⟩
  rw [(in_order hrun .privesc).1]
  decide

/-! ### Nothing stays behind -/

/-- The step is the detector of `f` trying to take a record. -/
def Act.takes (f : Feed) : Act n → Bool
  | .next g => decide (g = f)
  | _ => false

section

variable {f : Feed} {d : Delivery F n}

/-- What one step does to the ring buffer of `f`. -/
lemma ring_step (f : Feed) (d : Delivery F n) (a : Act n) :
    (d.step a).1.ring f = d.ring f ∧ a.takes f = false ∨
    ∃ op : SharedRing.Op (List UInt8), (d.step a).1.ring f = ((d.ring f).step op).1 ∧
      op.takes = a.takes f ∧ ∀ q bytes, op = .reserve q bytes → q < n := by
  cases a with
  | call c h task =>
      refine Or.inl ⟨?_, rfl⟩
      rw [step]
      split_ifs <;> rfl
  | reserve c h task mem =>
      rw [step]
      cases h.record task mem with
      | none => exact Or.inl ⟨rfl, rfl⟩
      | some bytes =>
          by_cases hf : f = h.feed
          · subst hf
            refine Or.inr ⟨.reserve c bytes, d.ring_onRing_self _ _, rfl, fun q _ hq => ?_⟩
            exact (SharedRing.Op.reserve.inj hq).1 ▸ c.isLt
          · exact Or.inl ⟨d.ring_onRing_of_ne hf _, rfl⟩
  | submit c g =>
      by_cases hf : f = g
      · subst hf
        exact Or.inr ⟨.submit c, d.ring_onRing_self _ _, rfl, fun _ _ hq => absurd hq (by simp)⟩
      · exact Or.inl ⟨d.ring_onRing_of_ne hf _, rfl⟩
  | next g =>
      by_cases hf : f = g
      · subst hf
        exact Or.inr ⟨.next, d.ring_onRing_self _ _, (decide_eq_true rfl).symm,
          fun _ _ hq => absurd hq (by simp)⟩
      · exact Or.inl ⟨d.ring_onRing_of_ne hf _, decide_eq_false (Ne.symm hf)⟩
  | judge g outcome => cases outcome <;> exact Or.inl ⟨rfl, rfl⟩
  | _ => exact Or.inl ⟨rfl, rfl⟩

/-- Only the contexts there are have places. -/
lemma holds_lt (f : Feed) {p : Pipeline F} {acts : List (Act n)}
    (hrun : machine.Valid (start p) acts) {q : ℕ}
    (hq : (((machine.after (start p) acts).ring f).holds q).isSome) : q < n := by
  refine machine.invariant (I := fun d => ∀ q, ((d.ring f).holds q).isSome → q < n)
    (fun d a hlt _ q hq => ?_) (fun q hq => ?_) hrun q hq
  · rw [machine_step] at hq
    rcases ring_step f d a with ⟨hsame, -⟩ | ⟨op, hring, -, hop⟩
    · rw [hsame] at hq
      exact hlt q hq
    · rw [hring] at hq
      by_cases hres : ∃ bytes, op = .reserve q bytes
      · obtain ⟨bytes, hres⟩ := hres
        exact hop q bytes hres
      · exact hlt q (holds_step _ op (fun bytes hb => hres ⟨bytes, hb⟩) hq)
  · cases hq

/-- Every try to take a record succeeds while one of the first `m` is left. -/
lemma taken_after {m : ℕ} : ∀ (acts : List (Act n)) {d : Delivery F n}, (d.ring f).ring.Ready m →
    min m ((d.ring f).ring.taken + acts.countP (Act.takes f))
      ≤ ((machine.after d acts).ring f).ring.taken
  | [], _, _ => min_le_right _ _
  | a :: acts, d, hready => by
      have hstep : ((d.step a).1.ring f).ring.Ready m ∧
          min m ((d.ring f).ring.taken + (a.takes f).toNat)
            ≤ ((d.step a).1.ring f).ring.taken := by
        rcases ring_step f d a with ⟨hsame, htakes⟩ | ⟨op, hring, htakes, -⟩
        · rw [hsame, htakes]
          exact ⟨hready, min_le_right _ _⟩
        · rw [hring, ← htakes]
          exact SharedRing.ready_step hready op
      have hrest := taken_after acts hstep.1
      have hcount : (a :: acts).countP (Act.takes f)
          = (a.takes f).toNat + acts.countP (Act.takes f) := by
        rw [List.countP_cons, Nat.add_comm]
        cases a.takes f <;> rfl
      rw [hcount, machine.after_cons, machine_step]
      omega

end

/-- **Nothing stays behind**: from a moment at which all that was reserved is submitted, once the
detector has tried as often as records were waiting, it has taken all of them, in their order,
whatever else is reserved meanwhile. -/
theorem drained {p : Pipeline F} {acts acts' : List (Act n)}
    (hrun : machine.Valid (start p) (acts ++ acts')) (f : Feed)
    (hsubmitted : ∀ c, (machine.after (start p) acts).probe c ≠ .filling f)
    (htries : waiting f (machine.after (start p) acts) ≤ acts'.countP (Act.takes f)) :
    logged f (machine.trace (start p) acts)
      <+: handled f (machine.trace (start p) (acts ++ acts')) := by
  have hfirst : machine.Valid (start p) acts := ((machine.along_append _ _ _ _).mp hrun).1
  have h := ordered f hfirst
  have hall := ordered f hrun
  -- A place that is held is held by a context, and none is filling in a record.
  have hidle : ∀ q, ((machine.after (start p) acts).ring f).holds q = none := by
    intro q
    rw [← Option.not_isSome_iff_eq_none]
    exact fun hq => hsubmitted ⟨q, holds_lt f hfirst hq⟩ (h.placed ⟨q, holds_lt f hfirst hq⟩ hq)
  have hready := h.told.1.ready hidle
  rw [h.told.1.logs.length] at hready
  have htaken := taken_after acts' hready
  rw [← machine.after_append, ← hall.length_handled] at htaken
  have hlong : (logged f (machine.trace (start p) acts)).length
      ≤ (handled f (machine.trace (start p) (acts ++ acts'))).length := by
    rw [waiting] at htries
    rw [h.length_logged]
    refine le_trans (le_min le_rfl ?_) htaken
    rw [Ring.ticket]
    omega
  have hlogged : logged f (machine.trace (start p) acts)
      <+: logged f (machine.trace (start p) (acts ++ acts')) := by
    rw [machine.trace_append, logged, logged, List.filterMap_append]
    exact List.prefix_append _ _
  refine List.prefix_of_prefix_length_le hlogged ?_ hlong
  rw [hall.handled_eq]
  exact List.take_prefix _ _

/-- A call of `setuid(0)` is taken while the next one is under way. -/
theorem drained_setuid :
    let p : Pipeline ℚ := Pipeline.System.fresh
    let h : Hook := .setuid (Vector.replicate 6 0)
    let first : Task := ⟨0x700000007, 1000, 5, Vector.replicate 16 0⟩
    let second : Task := ⟨0x800000008, 1000, 5, Vector.replicate 16 0⟩
    let mem : List UInt8 := List.replicate 80 0
    let acts : List (Act 2) := [.call 0 h first, .reserve 0 h first mem, .submit 0 .privesc]
    let acts' : List (Act 2) := [.call 1 h second, .reserve 1 h second mem, .next .privesc]
    [7] <+: (handled .privesc (machine.trace (start p) (acts ++ acts'))).map KrEvent.pid := by
  intro p h first second mem acts acts'
  have hrun : machine.Valid (start p) (acts ++ acts') :=
    ⟨rfl, ⟨rfl, rfl⟩, rfl, rfl, ⟨rfl, rfl⟩, ⟨rfl, rfl⟩, trivial⟩
  have hsubmitted : ∀ c, (machine.after (start p) acts).probe c ≠ .filling .privesc :=
    Fin.forall_fin_two.mpr ⟨Probe.noConfusion, Probe.noConfusion⟩
  have hlogged : (logged .privesc (machine.trace (start p) acts)).map KrEvent.pid = [7] := by decide
  rw [← hlogged]
  exact (drained hrun .privesc hsubmitted (by decide)).map _

end Delivery

end Kernelradar
