import Mathlib.Logic.Function.Basic
import Mathlib.Order.Nat
import Kernelradar.Library.Machine

/-!
A ring buffer with many producers and one consumer.

A producer reserves the next place, fills it in and submits it; the consumer takes the first
record, once it is submitted.

* `Ring`, `reserve`, `submit`, `next`: the buffer; places are known by their number since the
  start;
* `Ring.Logs`, `Ring.Open`: the buffer against the log of all reservations;
* `SharedRing`: the buffer with its producers, as a machine;
* `SharedRing.All`: what holds of what is reserved holds of what is taken;
* `SharedRing.Told`: what was taken is the beginning of the log, whatever the order of the steps;
* `Ring.Ready`, `SharedRing.Kept.ready`, `SharedRing.ready_step`: what is submitted up to some place
  can be taken, whatever is reserved behind it.
-/

namespace Library

variable {α : Type}

/-- How many records were taken out, and the places in use, in the order of reservation; `none`
is not submitted yet. -/
structure Ring (α : Type) where
  taken : ℕ
  slots : List (Option α)

namespace Ring

/-- The buffer at the start. -/
def empty : Ring α := ⟨0, []⟩

/-- The number of the next place. -/
def ticket (r : Ring α) : ℕ := r.taken + r.slots.length

/-- A place is reserved. -/
def reserve (r : Ring α) : Ring α := { r with slots := r.slots ++ [none] }

/-- The record at a place is submitted. -/
def submit (r : Ring α) (t : ℕ) (a : α) : Ring α :=
  { r with slots := r.slots.set (t - r.taken) (some a) }

/-- The first record is taken, if it is submitted. -/
def next : Ring α → Ring α × Option α
  | ⟨n, some a :: rest⟩ => (⟨n + 1, rest⟩, some a)
  | r => (r, none)

/-- The buffer belongs to a log of reservations. -/
structure Logs (r : Ring α) (log : List α) : Prop where
  length : log.length = r.ticket
  agrees : ∀ i a, r.slots[i]? = some (some a) → log[r.taken + i]? = some a

/-- What is left of the first `m` places is submitted. -/
def Ready (r : Ring α) (m : ℕ) : Prop :=
  ∀ t, r.taken ≤ t → t < m → ∃ a, r.slots[t - r.taken]? = some (some a)

/-- The place `t` is reserved for `a`. -/
structure Open (r : Ring α) (log : List α) (t : ℕ) (a : α) : Prop where
  le : r.taken ≤ t
  free : r.slots[t - r.taken]? = some none
  logged : log[t]? = some a

variable {r : Ring α} {log : List α} {t u : ℕ} {a b : α}

lemma logs_empty : (empty : Ring α).Logs [] := ⟨rfl, fun i a h => by simp [empty] at h⟩

lemma Logs.reserve (h : r.Logs log) (a : α) : r.reserve.Logs (log ++ [a]) where
  length := by
    rw [List.length_append, h.length, ticket, ticket, Ring.reserve, List.length_append]
    simp only [List.length_singleton]
    omega
  agrees := by
    intro i b hi
    have hslot : r.slots[i]? = some (some b) := by
      rw [Ring.reserve] at hi
      by_cases hlt : i < r.slots.length
      · rwa [List.getElem?_append_left hlt] at hi
      · rw [List.getElem?_append_right (not_lt.mp hlt)] at hi
        exact nomatch List.mem_singleton.mp (List.mem_of_getElem? hi)
    have hlog := h.agrees i b hslot
    rwa [Ring.reserve, List.getElem?_append_left (List.getElem?_eq_some_iff.mp hlog).1]

/-- The place just reserved. -/
lemma Logs.open_reserve (h : r.Logs log) (a : α) : r.reserve.Open (log ++ [a]) r.ticket a where
  le := Nat.le_add_right _ _
  free := by simp [Ring.reserve, ticket]
  logged := by
    rw [← h.length]
    exact List.getElem?_concat_length

lemma Open.reserve (h : r.Open log t a) (b : α) : r.reserve.Open (log ++ [b]) t a where
  le := h.le
  free := by
    rw [Ring.reserve, List.getElem?_append_left (List.getElem?_eq_some_iff.mp h.free).1]
    exact h.free
  logged := by
    rw [List.getElem?_append_left (List.getElem?_eq_some_iff.mp h.logged).1]
    exact h.logged

lemma Open.lt_ticket (h : r.Open log t a) : t < r.ticket := by
  have hlt := (List.getElem?_eq_some_iff.mp h.free).1
  have hle := h.le
  rw [ticket]
  omega

lemma Logs.submit (h : r.Logs log) (hopen : r.Open log t a) : (r.submit t a).Logs log where
  length := by rw [h.length, ticket, ticket, Ring.submit, List.length_set]
  agrees := by
    intro i b hi
    rw [Ring.submit] at hi ⊢
    dsimp only at hi ⊢
    by_cases heq : t - r.taken = i
    · subst heq
      rw [List.getElem?_set_self (List.getElem?_eq_some_iff.mp hopen.free).1] at hi
      rw [Nat.add_sub_cancel' hopen.le, hopen.logged]
      simpa using hi
    · rw [List.getElem?_set_ne heq] at hi
      exact h.agrees i b hi

lemma Open.submit (h : r.Open log t a) (hu : r.Open log u b) (hne : t ≠ u) :
    (r.submit u b).Open log t a where
  le := h.le
  free := by
    have hle := h.le
    have hle' := hu.le
    have hapart : u - r.taken ≠ t - r.taken := by omega
    exact (List.getElem?_set_ne hapart).trans h.free
  logged := h.logged

/-- A record that is submitted at once stands at the end. -/
lemma submit_reserve (r : Ring α) (a : α) :
    r.reserve.submit r.ticket a = { r with slots := r.slots ++ [some a] } := by
  simp [submit, reserve, ticket]

/-- What `next` does. -/
lemma next_cases (r : Ring α) : r.next = (r, none) ∨
    ∃ a rest, r.slots = some a :: rest ∧ r.next = (⟨r.taken + 1, rest⟩, some a) := by
  obtain ⟨n, slots⟩ := r
  match slots with
  | [] => exact Or.inl rfl
  | none :: rest => exact Or.inl rfl
  | some a :: rest => exact Or.inr ⟨a, rest, rfl, rfl⟩

lemma Logs.next (h : r.Logs log) {rest : List (Option α)} (hslots : r.slots = some a :: rest) :
    (⟨r.taken + 1, rest⟩ : Ring α).Logs log where
  length := by
    rw [h.length, ticket, ticket, hslots, List.length_cons]
    dsimp only
    omega
  agrees := by
    intro i b hi
    have hlog := h.agrees (i + 1) b (by rw [hslots]; exact hi)
    rwa [show r.taken + 1 + i = r.taken + (i + 1) by omega]

lemma Open.next (h : r.Open log t a) {rest : List (Option α)} (hslots : r.slots = some b :: rest) :
    (⟨r.taken + 1, rest⟩ : Ring α).Open log t a := by
  have hle := h.le
  have hfree := h.free
  rw [hslots] at hfree
  have hne : t ≠ r.taken := by
    rintro rfl
    simp at hfree
  refine ⟨by dsimp only; omega, ?_, h.logged⟩
  rw [show t - r.taken = t - (r.taken + 1) + 1 by omega] at hfree
  exact hfree

/-- A first record that is submitted is taken. -/
lemma next_of_head (h : r.slots[0]? = some (some a)) :
    ∃ rest, r.slots = some a :: rest ∧ r.next = (⟨r.taken + 1, rest⟩, some a) := by
  obtain ⟨n, slots⟩ := r
  cases slots with
  | nil => cases h
  | cons slot rest =>
      obtain rfl : slot = some a := Option.some.inj h
      exact ⟨rest, rfl, rfl⟩

lemma Ready.reserve {m : ℕ} (h : r.Ready m) : r.reserve.Ready m := by
  intro t hle ht
  obtain ⟨a, ha⟩ := h t hle ht
  refine ⟨a, ?_⟩
  rw [Ring.reserve, List.getElem?_append_left (List.getElem?_eq_some_iff.mp ha).1]
  exact ha

lemma Ready.submit {m : ℕ} (h : r.Ready m) (u : ℕ) (b : α) : (r.submit u b).Ready m := by
  intro t hle ht
  obtain ⟨a, ha⟩ := h t hle ht
  by_cases heq : u - r.taken = t - r.taken
  · refine ⟨b, ?_⟩
    rw [Ring.submit, heq]
    exact List.getElem?_set_self (List.getElem?_eq_some_iff.mp ha).1
  · exact ⟨a, (List.getElem?_set_ne heq).trans ha⟩

/-- While places are left, each try takes one of them. -/
lemma Ready.next {m : ℕ} (h : r.Ready m) :
    r.next.1.Ready m ∧ min m (r.taken + 1) ≤ r.next.1.taken := by
  rcases r.next_cases with hnone | ⟨a, rest, hslots, hnext⟩
  · have hdone : m ≤ r.taken := by
      by_contra hlt
      obtain ⟨a, ha⟩ := h r.taken le_rfl (not_le.mp hlt)
      rw [Nat.sub_self] at ha
      obtain ⟨rest, -, hnext⟩ := next_of_head ha
      rw [hnone] at hnext
      cases congrArg Prod.snd hnext
    rw [hnone]
    exact ⟨h, (min_le_left _ _).trans hdone⟩
  · rw [hnext]
    refine ⟨fun t hle ht => ?_, min_le_right _ _⟩
    dsimp only at hle
    obtain ⟨b, hb⟩ := h t (by omega) ht
    refine ⟨b, ?_⟩
    rw [hslots, show t - r.taken = t - (r.taken + 1) + 1 by omega] at hb
    exact hb

end Ring

/-- The buffer with its producers: the place each one has reserved, and what it fills in. -/
structure SharedRing (α : Type) where
  ring : Ring α
  holds : ℕ → Option (ℕ × α)

namespace SharedRing

/-- A step of producer `p`, or of the consumer. -/
inductive Op (α : Type) where
  | reserve (p : ℕ) (a : α)
  | submit (p : ℕ)
  | next

/-- What a step does, and what it takes out. -/
def step (s : SharedRing α) : Op α → SharedRing α × Option α
  | .reserve p a =>
      (⟨s.ring.reserve, Function.update s.holds p (some (s.ring.ticket, a))⟩, none)
  | .submit p =>
      match s.holds p with
      | none => (s, none)
      | some (t, a) => (⟨s.ring.submit t a, Function.update s.holds p none⟩, none)
  | .next => ({ s with ring := s.ring.next.1 }, s.ring.next.2)

/-- A producer has at most one place at a time. -/
def Admissible (s : SharedRing α) : Op α → Prop
  | .reserve p _ => s.holds p = none
  | _ => True

/-- The steps as a machine. -/
def machine : Machine (SharedRing α) (Op α) (Option α) := ⟨step, Admissible⟩

@[simp] lemma machine_step (s : SharedRing α) (op : Op α) : machine.step s op = s.step op := rfl

/-- The start. -/
def empty : SharedRing α := ⟨Ring.empty, fun _ => none⟩

/-- What a step reserves a place for. -/
def Op.reserved : Op α → Option α
  | .reserve _ a => some a
  | .submit _ => none
  | .next => none

/-- A step that tries to take a record. -/
def Op.takes : Op α → Bool
  | .next => true
  | _ => false

/-- The log: all that was reserved for, in order. -/
def log (tr : List (Op α × Option α)) : List α := tr.filterMap fun x => x.1.reserved

/-- What was taken out, in order. -/
def taken (tr : List (Op α × Option α)) : List α := tr.filterMap Prod.snd

/-- The places of the producers against the log. -/
structure Kept (log : List α) (s : SharedRing α) : Prop where
  logs : s.ring.Logs log
  opens : ∀ p t a, s.holds p = some (t, a) → s.ring.Open log t a
  apart : ∀ p q t a b, s.holds p = some (t, a) → s.holds q = some (t, b) → p = q
  owned : ∀ t, s.ring.taken ≤ t → s.ring.slots[t - s.ring.taken]? = some none →
    ∃ p a, s.holds p = some (t, a)

/-- Every record, submitted or not, has the property. -/
structure All (P : α → Prop) (s : SharedRing α) : Prop where
  held : ∀ p t a, s.holds p = some (t, a) → P a
  stored : ∀ a, some a ∈ s.ring.slots → P a

variable {l : List α} {s : SharedRing α}

lemma all_empty (P : α → Prop) : All P (empty : SharedRing α) :=
  ⟨fun _ _ _ h => (nomatch h), fun _ h => (nomatch h)⟩

/-- What holds of what is reserved holds of what is stored, and of what is taken out. -/
lemma All.step {P : α → Prop} (h : All P s) (op : Op α) (hres : ∀ a ∈ op.reserved, P a) :
    All P (s.step op).1 ∧ ∀ a ∈ (s.step op).2, P a := by
  cases op with
  | reserve p a =>
      refine ⟨⟨fun q t b hb => ?_, fun b hb => ?_⟩, fun _ h => (nomatch h)⟩
      · change Function.update s.holds p _ q = _ at hb
        by_cases hq : q = p
        · rw [hq, Function.update_self, Option.some.injEq, Prod.mk.injEq] at hb
          exact hres b (congrArg some hb.2)
        · rw [Function.update_of_ne hq] at hb
          exact h.held q t b hb
      · rcases List.mem_append.mp hb with hb | hb
        · exact h.stored b hb
        · exact nomatch List.mem_singleton.mp hb
  | submit p =>
      rw [SharedRing.step]
      cases hholds : s.holds p with
      | none => exact ⟨h, fun _ h => (nomatch h)⟩
      | some ta =>
          obtain ⟨t, a⟩ := ta
          refine ⟨⟨fun q u b hb => ?_, fun b hb => ?_⟩, fun _ h => (nomatch h)⟩
          · change Function.update s.holds p none q = _ at hb
            by_cases hq : q = p
            · rw [hq, Function.update_self] at hb
              cases hb
            · rw [Function.update_of_ne hq] at hb
              exact h.held q u b hb
          · rcases List.mem_or_eq_of_mem_set hb with hb | hb
            · exact h.stored b hb
            · rw [Option.some.inj hb]
              exact h.held p t a hholds
  | next =>
      rw [SharedRing.step]
      rcases s.ring.next_cases with hnone | ⟨a, rest, hslots, hnext⟩
      · rw [hnone]
        exact ⟨h, fun _ h => (nomatch h)⟩
      · rw [hnext]
        refine ⟨⟨h.held, fun b hb => h.stored b ?_⟩, fun b hb => h.stored b ?_⟩
        · rw [hslots]
          exact List.mem_cons_of_mem _ hb
        · rw [hslots, ← Option.some.inj hb]
          exact List.mem_cons_self

lemma kept_empty : Kept [] (empty : SharedRing α) where
  logs := Ring.logs_empty
  opens := fun _ _ _ h => nomatch h
  apart := fun _ _ _ _ _ h _ => nomatch h
  owned := fun t _ h => by simp [empty, Ring.empty] at h

lemma Kept.reserve (h : Kept l s) {p : ℕ} (hfree : s.holds p = none) (a : α) :
    Kept (l ++ [a]) (s.step (.reserve p a)).1 := by
  have hold : ∀ q t b, q ≠ p → Function.update s.holds p (some (s.ring.ticket, a)) q = some (t, b) →
      s.ring.Open l t b := by
    intro q t b hq hholds
    rw [Function.update_of_ne hq] at hholds
    exact h.opens q t b hholds
  have hself : ∀ t b, Function.update s.holds p (some (s.ring.ticket, a)) p = some (t, b) →
      t = s.ring.ticket ∧ b = a := by
    intro t b hholds
    rw [Function.update_self, Option.some.injEq, Prod.mk.injEq] at hholds
    exact ⟨hholds.1.symm, hholds.2.symm⟩
  constructor
  · exact h.logs.reserve a
  · intro q t b hholds
    by_cases hq : q = p
    · subst hq
      obtain ⟨rfl, rfl⟩ := hself t b hholds
      exact h.logs.open_reserve b
    · exact (hold q t b hq hholds).reserve a
  · intro q q' t b b' hb hb'
    by_cases hq : q = p
    · by_cases hq' : q' = p
      · rw [hq, hq']
      · subst hq
        exact absurd (hself t b hb).1 (ne_of_lt (hold q' t b' hq' hb').lt_ticket)
    · by_cases hq' : q' = p
      · subst hq'
        exact absurd (hself t b' hb').1 (ne_of_lt (hold q t b hq hb).lt_ticket)
      · simp only [step, Function.update_of_ne hq, Function.update_of_ne hq'] at hb hb'
        exact h.apart q q' t b b' hb hb'
  · intro t ht hslot
    change (s.ring.slots ++ [none])[t - s.ring.taken]? = some none at hslot
    have hlen := (List.getElem?_eq_some_iff.mp hslot).1
    rw [List.length_append, List.length_singleton] at hlen
    change s.ring.taken ≤ t at ht
    by_cases hlast : t = s.ring.ticket
    · exact ⟨p, a, by simp [step, hlast]⟩
    · rw [Ring.ticket] at hlast
      rw [List.getElem?_append_left (by omega)] at hslot
      obtain ⟨q, b, hb⟩ := h.owned t ht hslot
      have hq : q ≠ p := by
        rintro rfl
        rw [hfree] at hb
        cases hb
      exact ⟨q, b, by simpa [step, Function.update_of_ne hq] using hb⟩

lemma Kept.submit (h : Kept l s) {p t : ℕ} {a : α} (hholds : s.holds p = some (t, a)) :
    Kept l ⟨s.ring.submit t a, Function.update s.holds p none⟩ := by
  have hopen := h.opens p t a hholds
  have hold : ∀ q u b, Function.update s.holds p none q = some (u, b) →
      q ≠ p ∧ s.holds q = some (u, b) := by
    intro q u b hq
    have hne : q ≠ p := by
      rintro rfl
      rw [Function.update_self] at hq
      cases hq
    rw [Function.update_of_ne hne] at hq
    exact ⟨hne, hq⟩
  constructor
  · exact h.logs.submit hopen
  · intro q u b hq
    obtain ⟨hne, hb⟩ := hold q u b hq
    refine (h.opens q u b hb).submit hopen fun htu => hne ?_
    subst htu
    exact h.apart q p u b a hb hholds
  · intro q q' u b b' hb hb'
    exact h.apart q q' u b b' (hold q u b hb).2 (hold q' u b' hb').2
  · intro u hu hslot
    change s.ring.taken ≤ u at hu
    change (s.ring.slots.set (t - s.ring.taken) (some a))[u - s.ring.taken]? = some none at hslot
    have hle := hopen.le
    by_cases htu : t - s.ring.taken = u - s.ring.taken
    · rw [← htu, List.getElem?_set_self (List.getElem?_eq_some_iff.mp hopen.free).1] at hslot
      cases hslot
    · rw [List.getElem?_set_ne htu] at hslot
      obtain ⟨q, b, hb⟩ := h.owned u hu hslot
      have hq : q ≠ p := by
        rintro rfl
        rw [hholds] at hb
        cases hb
        exact htu rfl
      exact ⟨q, b, (Function.update_of_ne hq _ _).trans hb⟩

lemma Kept.next (h : Kept l s) {a : α} {rest : List (Option α)}
    (hslots : s.ring.slots = some a :: rest) :
    Kept l { s with ring := ⟨s.ring.taken + 1, rest⟩ } := by
  constructor
  · exact h.logs.next hslots
  · exact fun p t b hb => (h.opens p t b hb).next hslots
  · exact h.apart
  · intro t ht hslot
    dsimp only at ht hslot
    refine h.owned t (by omega) ?_
    rw [hslots, show t - s.ring.taken = t - (s.ring.taken + 1) + 1 by omega]
    exact hslot

/-- The log, the places, and what was taken out so far. -/
def Told (tr : List (Op α × Option α)) (s : SharedRing α) : Prop :=
  Kept (log tr) s ∧ taken tr = (log tr).take s.ring.taken

lemma told_snoc {tr : List (Op α × Option α)} {op : Op α} {out : Option α} {s' : SharedRing α}
    (hkept : Kept (log tr ++ op.reserved.toList) s')
    (htaken : taken tr ++ out.toList = (log tr ++ op.reserved.toList).take s'.ring.taken) :
    Told (tr ++ [(op, out)]) s' := by
  have hlog : log (tr ++ [(op, out)]) = log tr ++ op.reserved.toList := filterMap_snoc _ tr _
  have htook : taken (tr ++ [(op, out)]) = taken tr ++ out.toList := filterMap_snoc _ tr _
  exact ⟨hlog ▸ hkept, by rw [htook, hlog, htaken]⟩

/-- One step keeps the log. -/
lemma told_next {tr : List (Op α × Option α)} {s : SharedRing α} (h : Told tr s) (op : Op α)
    (hok : s.Admissible op) : Told (tr ++ [(op, (s.step op).2)]) (s.step op).1 := by
  obtain ⟨hkept, htaken⟩ := h
  have hle : s.ring.taken ≤ (log tr).length := hkept.logs.length ▸ Nat.le_add_right _ _
  cases op with
  | reserve p a =>
      refine told_snoc (hkept.reserve hok a) ?_
      change taken tr ++ [] = (log tr ++ [a]).take s.ring.taken
      rw [List.append_nil, htaken, List.take_append_of_le_length hle]
  | submit p =>
      refine told_snoc ?_ ?_
      · rw [Op.reserved, Option.toList_none, List.append_nil, step]
        cases hholds : s.holds p with
        | none => exact hkept
        | some ta => exact hkept.submit hholds
      · have hring : (s.step (.submit p)).1.ring.taken = s.ring.taken ∧
            (s.step (.submit p)).2 = none := by
          rw [step]
          cases s.holds p <;> exact ⟨rfl, rfl⟩
        rw [hring.1, hring.2]
        simpa [Op.reserved] using htaken
  | next =>
      rcases s.ring.next_cases with hnone | ⟨a, rest, hslots, hnext⟩
      · refine told_snoc ?_ ?_ <;> rw [step, hnone]
        · simpa [Op.reserved] using hkept
        · simpa [Op.reserved] using htaken
      · refine told_snoc ?_ ?_ <;> rw [step, hnext]
        · simpa [Op.reserved] using hkept.next hslots
        · have hlog := hkept.logs.agrees 0 a (by rw [hslots]; rfl)
          rw [Nat.add_zero] at hlog
          simp [Op.reserved, htaken, List.take_add_one, hlog]

/-- With no producer at work, all that was reserved is ready. -/
lemma Kept.ready (h : Kept l s) (hidle : ∀ p, s.holds p = none) : s.ring.Ready l.length := by
  intro t hle ht
  rw [h.logs.length, Ring.ticket] at ht
  obtain ⟨slot, hslot⟩ : ∃ slot, s.ring.slots[t - s.ring.taken]? = some slot :=
    ⟨_, List.getElem?_eq_getElem (by omega)⟩
  cases slot with
  | some a => exact ⟨a, hslot⟩
  | none =>
      obtain ⟨p, a, hp⟩ := h.owned t hle hslot
      rw [hidle p] at hp
      cases hp

/-- Whatever the step, what is ready stays so, and a try takes one of it. -/
lemma ready_step {m : ℕ} (h : s.ring.Ready m) (op : Op α) :
    (s.step op).1.ring.Ready m ∧
      min m (s.ring.taken + op.takes.toNat) ≤ (s.step op).1.ring.taken := by
  cases op with
  | reserve p a => exact ⟨h.reserve, min_le_right _ _⟩
  | submit p =>
      rw [step]
      cases s.holds p with
      | none => exact ⟨h, min_le_right _ _⟩
      | some ta => exact ⟨h.submit ta.1 ta.2, min_le_right _ _⟩
  | next => exact h.next

end SharedRing

end Library
