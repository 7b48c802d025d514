import Mathlib.Algebra.BigOperators.Group.List.Basic
import Mathlib.Algebra.GroupWithZero.Nat
import Mathlib.Data.List.Basic

/-!
Deterministic machines over events, and what holds along their runs.

A `Machine` answers every event with an output; the environment may offer an
event in a state only if `ok` holds. Whatever is not determined by the program
(a clock reading, the order of an iterator) is part of the event.

* `after`, `outs`, `trace`: the state after a list of events, the outputs given
  along the way, and the two zipped; `Along`: a relation between each event and
  the state it meets, `Valid` where it is admissibility;
* `invariant`: what every admissible step preserves holds after every valid
  run;
* `history`: the same for a property of the trace and the state together;
  `forall_outs` for a property of the outputs;
* `balance_iff`: an account that is kept step by step is right in every state
  of a run exactly when no step puts it out; `balance` where none does;
* `always_iff`: a property holds in every state of a run exactly if the guard of
  every step does;
* `simulation`: two machines whose states stay related give related outputs;
* `projection`: what a machine answers to the events a view picks out is what a
  smaller machine answers to them alone.
-/

namespace Library

universe u v w

/-- What one more element adds to a selection. -/
lemma filterMap_snoc {A : Type u} {B : Type v} (g : A → Option B) (l : List A) (x : A) :
    (l ++ [x]).filterMap g = l.filterMap g ++ (g x).toList := by
  rw [List.filterMap_append]
  cases hx : g x <;> simp [hx]

/-- A machine with states `S`, events `E` and outputs `D`. -/
structure Machine (S : Type u) (E : Type v) (D : Type w) where
  step : S → E → S × D
  ok : S → E → Prop

namespace Machine

variable {S : Type u} {E : Type v} {D : Type w} (M : Machine S E D)

/-- The state after a list of events. -/
def after : S → List E → S
  | s, [] => s
  | s, e :: es => after (M.step s e).1 es

/-- Every event together with the output it got. -/
def trace : S → List E → List (E × D)
  | _, [] => []
  | s, e :: es => (e, (M.step s e).2) :: trace (M.step s e).1 es

/-- The outputs along a list of events. -/
def outs (s : S) (es : List E) : List D := (M.trace s es).map Prod.snd

/-- Every event finds the state it meets in a given relation to it. -/
def Along (P : S → E → Prop) : S → List E → Prop
  | _, [] => True
  | s, e :: es => P s e ∧ Along P (M.step s e).1 es

/-- Every event is admissible in the state it meets. -/
abbrev Valid (s : S) (es : List E) : Prop := M.Along M.ok s es

@[simp] lemma after_nil (s : S) : M.after s [] = s := rfl

@[simp] lemma after_cons (s : S) (e : E) (es : List E) :
    M.after s (e :: es) = M.after (M.step s e).1 es := rfl

@[simp] lemma trace_nil (s : S) : M.trace s [] = [] := rfl

@[simp] lemma trace_cons (s : S) (e : E) (es : List E) :
    M.trace s (e :: es) = (e, (M.step s e).2) :: M.trace (M.step s e).1 es := rfl

@[simp] lemma outs_nil (s : S) : M.outs s [] = [] := rfl

@[simp] lemma outs_cons (s : S) (e : E) (es : List E) :
    M.outs s (e :: es) = (M.step s e).2 :: M.outs (M.step s e).1 es := rfl

@[simp] lemma along_nil (P : S → E → Prop) (s : S) : M.Along P s [] := trivial

@[simp] lemma along_cons (P : S → E → Prop) (s : S) (e : E) (es : List E) :
    M.Along P s (e :: es) ↔ P s e ∧ M.Along P (M.step s e).1 es := Iff.rfl

instance decidableAlong (P : S → E → Prop) [∀ s e, Decidable (P s e)] :
    ∀ s es, Decidable (M.Along P s es)
  | _, [] => isTrue trivial
  | s, e :: es =>
      have := decidableAlong P (M.step s e).1 es
      inferInstanceAs (Decidable (P s e ∧ M.Along P (M.step s e).1 es))

/-- Where every event is admissible, every run is valid. -/
lemma valid_of_ok (h : ∀ s e, M.ok s e) (es : List E) : ∀ s, M.Valid s es := by
  induction es with
  | nil => exact fun _ => trivial
  | cons e es ih => exact fun s => ⟨h s e, ih _⟩

lemma after_append (es es' : List E) : ∀ s, M.after s (es ++ es') = M.after (M.after s es) es' := by
  induction es with
  | nil => intro s; rfl
  | cons e es ih => intro s; simp only [List.cons_append, after_cons, ih]

lemma along_append (P : S → E → Prop) (es es' : List E) :
    ∀ s, M.Along P s (es ++ es') ↔ M.Along P s es ∧ M.Along P (M.after s es) es' := by
  induction es with
  | nil => intro s; simp
  | cons e es ih => intro s; simp only [List.cons_append, along_cons, after_cons, ih, and_assoc]

lemma outs_append (es es' : List E) :
    ∀ s, M.outs s (es ++ es') = M.outs s es ++ M.outs (M.after s es) es' := by
  induction es with
  | nil => intro s; rfl
  | cons e es ih => intro s; simp only [List.cons_append, outs_cons, after_cons, ih]

lemma trace_append (es es' : List E) :
    ∀ s, M.trace s (es ++ es') = M.trace s es ++ M.trace (M.after s es) es' := by
  induction es with
  | nil => intro s; rfl
  | cons e es ih => intro s; simp only [List.cons_append, trace_cons, after_cons, ih]

@[simp] lemma length_outs (es : List E) : ∀ s, (M.outs s es).length = es.length := by
  induction es with
  | nil => exact fun _ => rfl
  | cons e es ih => exact fun s => congrArg Nat.succ (ih _)

/-- The outputs so far come from the events so far. -/
lemma outs_take_of_append {s : S} {es : List E} {ds ds' : List D} (h : M.outs s es = ds ++ ds') :
    M.outs s (es.take ds.length) = ds := by
  have hsplit := M.outs_append (es.take ds.length) (es.drop ds.length) s
  rw [List.take_append_drop, h] at hsplit
  have hlen := congrArg List.length h
  rw [length_outs, List.length_append] at hlen
  refine (List.append_inj_left hsplit ?_).symm
  rw [length_outs, List.length_take]
  omega

/-- What holds at every step of a run may be weakened there. -/
lemma Along.imp {P Q : S → E → Prop} {I : S → Prop}
    (hstep : ∀ s e, I s → P s e → I (M.step s e).1) (h : ∀ s e, I s → P s e → Q s e) :
    ∀ {s : S} {es : List E}, I s → M.Along P s es → M.Along Q s es
  | _, [], _, _ => trivial
  | s, e :: _, hI, hP => ⟨h s e hI hP.1, imp hstep h (hstep s e hI hP.1) hP.2⟩

/-- A property of the events alone. -/
lemma along_of_forall {Q : E → Prop} : ∀ {es : List E} (s : S), (∀ e ∈ es, Q e) →
    M.Along (fun _ e => Q e) s es
  | [], _, _ => trivial
  | e :: _, _, h =>
      ⟨h e List.mem_cons_self, along_of_forall _ fun e' he' => h e' (List.mem_cons_of_mem e he')⟩

/-- Two things that hold at every step of a run. -/
lemma Along.and {P Q : S → E → Prop} : ∀ {s : S} {es : List E}, M.Along P s es → M.Along Q s es →
    M.Along (fun s e => P s e ∧ Q s e) s es
  | _, [], _, _ => trivial
  | _, _ :: _, hP, hQ => ⟨⟨hP.1, hQ.1⟩, Along.and hP.2 hQ.2⟩

/-- **The invariant rule.** What every admissible step preserves holds after
every valid run. -/
theorem invariant {I : S → Prop} (hstep : ∀ s e, I s → M.ok s e → I (M.step s e).1) :
    ∀ {s : S} {es : List E}, I s → M.Valid s es → I (M.after s es) := by
  intro s es
  induction es generalizing s with
  | nil => intro h _; exact h
  | cons e es ih => intro h hv; exact ih (hstep s e h hv.1) hv.2

/-- **The history rule.** A property of the trace so far and of the state, once
it survives every admissible step, holds at the end of every valid run. -/
theorem history {s₀ : S} {P : List (E × D) → S → Prop} (hnil : P [] s₀)
    (hstep : ∀ tr s e, P tr s → M.ok s e → P (tr ++ [(e, (M.step s e).2)]) (M.step s e).1) :
    ∀ {es : List E}, M.Valid s₀ es → P (M.trace s₀ es) (M.after s₀ es) := by
  have key : ∀ (es : List E) (tr : List (E × D)) (s : S), P tr s → M.Valid s es →
      P (tr ++ M.trace s es) (M.after s es) := by
    intro es
    induction es with
    | nil => intro tr s h _; simpa using h
    | cons e es ih =>
        intro tr s h hv
        have hnext := ih _ _ (hstep tr s e h hv.1) hv.2
        simpa using hnext
  intro es hv
  simpa using key es [] s₀ hnil hv

@[simp] lemma trace_map_fst (es : List E) : ∀ s, (M.trace s es).map Prod.fst = es := by
  induction es with
  | nil => exact fun _ => rfl
  | cons e es ih => exact fun s => congrArg (e :: ·) (ih _)

/-- The trace is the events next to their outputs. -/
lemma zip_outs (es : List E) : ∀ s, es.zip (M.outs s es) = M.trace s es := by
  induction es with
  | nil => exact fun _ => rfl
  | cons e es ih => exact fun s => congrArg ((e, (M.step s e).2) :: ·) (ih _)

/-- What every admissible step answers holds of every output of a valid run. -/
lemma forall_outs {I : S → Prop} {Q : D → Prop}
    (hstep : ∀ s e, I s → M.ok s e → I (M.step s e).1 ∧ Q (M.step s e).2) {s : S} {es : List E}
    (hI : I s) (hv : M.Valid s es) : ∀ d ∈ M.outs s es, Q d := by
  have hrun : I (M.after s es) ∧ ∀ ed ∈ M.trace s es, Q ed.2 := by
    refine M.history (P := fun tr s => I s ∧ ∀ ed ∈ tr, Q ed.2) ⟨hI, by simp⟩ ?_ hv
    rintro tr s e ⟨hs, htr⟩ hok
    obtain ⟨hnext, hout⟩ := hstep s e hs hok
    refine ⟨hnext, fun ed hed => ?_⟩
    rcases List.mem_append.mp hed with hold | hlast
    · exact htr ed hold
    · rw [List.mem_singleton.mp hlast]
      exact hout
  intro d hd
  obtain ⟨ed, hed, rfl⟩ := List.mem_map.mp hd
  exact hrun.2 ed hed

/-- What a trace adds up to. -/
def tally (f : E × D → ℕ) (tr : List (E × D)) : ℕ := (tr.map f).sum

@[simp] lemma tally_nil (f : E × D → ℕ) : tally f [] = 0 := rfl

@[simp] lemma tally_cons (f : E × D → ℕ) (ed : E × D) (tr : List (E × D)) :
    tally f (ed :: tr) = f ed + tally f tr := by
  simp [tally]

lemma tally_append (f : E × D → ℕ) (tr tr' : List (E × D)) :
    tally f (tr ++ tr') = tally f tr + tally f tr' := by
  rw [tally, List.map_append, List.sum_append, tally, tally]

lemma tally_add (f g : E × D → ℕ) (tr : List (E × D)) :
    tally (fun x => f x + g x) tr = tally f tr + tally g tr := by
  rw [tally, tally, tally, ← List.sum_map_add]

/-- A sum over keys may be taken before or after. -/
lemma tally_sum {K : Type*} (f : K → E × D → ℕ) (tr : List (E × D)) : ∀ ks : List K,
    tally (fun x => (ks.map fun k => f k x).sum) tr = (ks.map fun k => tally (f k) tr).sum
  | [] => by
      simp only [List.map_nil, List.sum_nil]
      rw [tally, List.map_const', List.sum_replicate, nsmul_zero]
  | k :: ks => by
      simp only [List.map_cons, List.sum_cons]
      rw [tally_add, tally_sum f tr ks]

/-- What a part of a trace adds up to. -/
lemma tally_filterMap {E' D' : Type*} (g : E × D → Option (E' × D')) (f : E' × D' → ℕ) :
    ∀ tr : List (E × D), tally f (tr.filterMap g) = tally (fun x => (g x).elim 0 f) tr
  | [] => rfl
  | x :: tr => by
      rw [tally_cons, ← tally_filterMap g f tr]
      cases hx : g x with
      | none => rw [List.filterMap_cons_none hx, Option.elim_none, Nat.zero_add]
      | some y => rw [List.filterMap_cons_some hx, tally_cons, Option.elim_some]

/-- **The balance rule.** An account `held` takes in `earned` and gives out
`paid`, up to what a step loses and what it adds on the side; it is right in
every state of a valid run exactly when the two are equal at every step. -/
theorem balance_iff {I : S → Prop} (held : S → ℕ) (paid earned : E × D → ℕ)
    (lost extra : S → E → ℕ) (hinv : ∀ s e, I s → M.ok s e → I (M.step s e).1)
    (hstep : ∀ s e, I s → M.ok s e → held (M.step s e).1 + paid (e, (M.step s e).2) + lost s e
      = held s + earned (e, (M.step s e).2) + extra s e) :
    ∀ {es : List E} {s : S}, I s → M.Valid s es →
      ((∀ n, held (M.after s (es.take n)) + tally paid (M.trace s (es.take n))
          = held s + tally earned (M.trace s (es.take n))) ↔
        M.Along (fun s e => lost s e = extra s e) s es) := by
  intro es
  induction es with
  | nil => intro s _ _; simp
  | cons e es ih =>
      intro s hI hv
      have hone := hstep s e hI hv.1
      have hrest := ih (hinv s e hI hv.1) hv.2
      rw [along_cons, ← hrest]
      constructor
      · intro h
        have hfirst := h 1
        simp only [List.take_succ_cons, List.take_zero, after_cons, after_nil, trace_cons,
          trace_nil, tally_cons, tally_nil] at hfirst
        refine ⟨by omega, fun n => ?_⟩
        have hn := h (n + 1)
        simp only [List.take_succ_cons, after_cons, trace_cons, tally_cons] at hn
        omega
      · rintro ⟨heq, h⟩ n
        cases n with
        | zero => simp
        | succ n =>
            have hn := h n
            simp only [List.take_succ_cons, after_cons, trace_cons, tally_cons]
            omega

/-- **The balance rule**, where no step loses anything. -/
theorem balance {I : S → Prop} (held : S → ℕ) (paid earned : E × D → ℕ)
    (hinv : ∀ s e, I s → M.ok s e → I (M.step s e).1)
    (hstep : ∀ s e, I s → M.ok s e → held (M.step s e).1 + paid (e, (M.step s e).2)
      = held s + earned (e, (M.step s e).2)) {s : S} {es : List E} (hI : I s) (hv : M.Valid s es) :
    held (M.after s es) + tally paid (M.trace s es) = held s + tally earned (M.trace s es) := by
  have hall := (M.balance_iff held paid earned (fun _ _ => 0) (fun _ _ => 0) hinv
    (fun s e hs hok => hstep s e hs hok) hI hv).mpr (hv.imp M hinv (fun _ _ _ _ => rfl) hI)
  have hend := hall es.length
  rwa [List.take_length] at hend

/-- **The guard rule.** Where a step keeps a property exactly if its guard holds, the
property holds in every state of a run exactly if the guards hold along the run. -/
theorem always_iff {J I : S → Prop} {G : S → E → Prop} (hinv : ∀ s e, J s → J (M.step s e).1)
    (hstep : ∀ s e, J s → I s → (I (M.step s e).1 ↔ G s e)) :
    ∀ {es : List E} {s : S}, J s → I s →
      ((∀ n, I (M.after s (es.take n))) ↔ M.Along G s es) := by
  intro es
  induction es with
  | nil => exact fun _ hI => ⟨fun _ => trivial, fun _ n => by rw [List.take_nil]; exact hI⟩
  | cons e es ih =>
      intro s hJ hI
      rw [along_cons]
      constructor
      · intro h
        have hnext : I (M.step s e).1 := h 1
        exact ⟨(hstep s e hJ hI).mp hnext, (ih (hinv s e hJ) hnext).mp fun n => h (n + 1)⟩
      · rintro ⟨hG, hrest⟩ n
        cases n with
        | zero => exact hI
        | succ n => exact (ih (hinv s e hJ) ((hstep s e hJ hI).mpr hG)).mpr hrest n

/-- **The simulation rule.** Related states answer corresponding events with the
same output and stay related, so corresponding runs give the same outputs. -/
theorem simulation {S' : Type*} {E' : Type*} {N : Machine S' E' D} {R : S → S' → Prop}
    {f : E → E'} (hstep : ∀ s s' e, R s s' → M.ok s e →
      R (M.step s e).1 (N.step s' (f e)).1 ∧ (M.step s e).2 = (N.step s' (f e)).2) :
    ∀ {es : List E} {s : S} {s' : S'}, R s s' → M.Valid s es →
      R (M.after s es) (N.after s' (es.map f)) ∧ M.outs s es = N.outs s' (es.map f) := by
  intro es
  induction es with
  | nil => intro s s' h _; exact ⟨h, rfl⟩
  | cons e es ih =>
      intro s s' h hv
      obtain ⟨hR, hout⟩ := hstep s s' e h hv.1
      obtain ⟨hR', houts⟩ := ih hR hv.2
      refine ⟨hR', ?_⟩
      simp only [outs, trace_cons, List.map_cons] at houts ⊢
      rw [hout, houts]

/-- **The projection rule.** A step either is unseen and leaves the relation to the
smaller machine alone, or is seen as a step of it with the same answer; then a run
is seen as the run of the smaller machine over the events that are seen. -/
theorem projection {S' E' D' : Type*} {N : Machine S' E' D'} {P : S → E → Prop}
    {R : S → S' → Prop} {f : E → Option E'} {g : E × D → Option D'}
    (hstep : ∀ s s' e, R s s' → P s e →
      (f e = none ∧ g (e, (M.step s e).2) = none ∧ R (M.step s e).1 s') ∨
      ∃ e', f e = some e' ∧ g (e, (M.step s e).2) = some (N.step s' e').2 ∧
        R (M.step s e).1 (N.step s' e').1) :
    ∀ {es : List E} {s : S} {s' : S'}, R s s' → M.Along P s es →
      R (M.after s es) (N.after s' (es.filterMap f)) ∧
        (M.trace s es).filterMap g = N.outs s' (es.filterMap f) := by
  intro es
  induction es with
  | nil => intro s s' h _; exact ⟨h, rfl⟩
  | cons e es ih =>
      intro s s' h hP
      rcases hstep s s' e h hP.1 with ⟨hf, hg, hR⟩ | ⟨e', hf, hg, hR⟩
      · rw [List.filterMap_cons_none hf, trace_cons, List.filterMap_cons_none hg]
        exact ih hR hP.2
      · obtain ⟨hR', houts⟩ := ih hR hP.2
        rw [List.filterMap_cons_some hf, trace_cons, List.filterMap_cons_some hg, outs_cons,
          houts]
        exact ⟨hR', rfl⟩

end Machine

end Library
