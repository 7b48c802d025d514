import Mathlib.Data.List.Basic

/-!
A reader and a writer of one shared state, one atomic step at a time.

* `Reads`: a computation that looks at the state step by step; `run` has it look
  at one and the same state throughout;
* `Interleaving`: the outcomes of a reader among the writes of a writer;
* `Reads.All`: what holds of every outcome; `Reads.Blames`: what every bad outcome is owed to;
* `interleaving_read`: a read sees the state after some of the writes, and what
  follows sees the rest of them;
* `interleaving_run`, `interleaving_run_after`: the outcomes without overlap are
  outcomes;
* `view_writeAll`: what a reader can see of a component that every write either
  keeps or sets to one value.
-/

namespace Library

variable {S T A B : Type}

/-- A computation that looks at a shared state step by step. -/
inductive Reads (S A : Type) where
  | done (a : A)
  | read (k : S → Reads S A)

namespace Reads

/-- The outcome when the state stands still. -/
def run (s : S) : Reads S A → A
  | done a => a
  | read k => (k s).run s

/-- The same computation on a larger state. -/
def comap (f : S → T) : Reads T A → Reads S A
  | done a => done a
  | read k => read fun s => (k (f s)).comap f

/-- Something done to the outcome. -/
def map (f : A → B) : Reads S A → Reads S B
  | done a => done (f a)
  | read k => read fun s => (k s).map f

/-- Whatever is read on the way, the outcome satisfies `P`. -/
def All (P : A → Prop) : Reads S A → Prop
  | done a => P a
  | read k => ∀ s, (k s).All P

/-- An outcome that is `bad` comes after a look at a state with `P`. -/
def Blames (P : S → Prop) (bad : A → Prop) : Reads S A → Prop
  | done a => ¬bad a
  | read k => ∀ s, P s ∨ (k s).Blames P bad

@[simp] lemma run_done (s : S) (a : A) : (done a).run s = a := rfl

@[simp] lemma run_read (s : S) (k : S → Reads S A) : (read k).run s = (k s).run s := rfl

@[simp] lemma comap_done (f : S → T) (a : A) : (done a).comap f = done a := rfl

@[simp] lemma comap_read (f : S → T) (k : T → Reads T A) :
    (read k).comap f = read fun s => (k (f s)).comap f := rfl

/-- Running on the larger state is running on its part. -/
@[simp] lemma run_comap (f : S → T) (s : S) : ∀ r : Reads T A, (r.comap f).run s = r.run (f s)
  | done _ => rfl
  | read k => run_comap f s (k (f s))

end Reads

/-- The state after some writes. -/
def writeAll (s : S) (ws : List (S → S)) : S := ws.foldl (fun s w => w s) s

@[simp] lemma writeAll_nil (s : S) : writeAll s [] = s := rfl

@[simp] lemma writeAll_cons (s : S) (w : S → S) (ws : List (S → S)) :
    writeAll s (w :: ws) = writeAll (w s) ws := rfl

lemma writeAll_append (s : S) (ws ws' : List (S → S)) :
    writeAll s (ws ++ ws') = writeAll (writeAll s ws) ws' := List.foldl_append

/-- Some of the writes, and then some of the rest. -/
lemma writeAll_take_drop (s : S) (ws : List (S → S)) (i j : ℕ) :
    writeAll (writeAll s (ws.take i)) ((ws.drop i).take j) = writeAll s (ws.take (i + j)) := by
  rw [List.take_add, writeAll_append]

/-- The outcomes of a reader while a writer does its writes in order: at every
point either side may go next. -/
inductive Interleaving : S → List (S → S) → Reads S A → A → Prop where
  | done {s : S} {ws : List (S → S)} {a : A} : Interleaving s ws (.done a) a
  | write {s : S} {w : S → S} {ws : List (S → S)} {r : Reads S A} {a : A}
      (h : Interleaving (w s) ws r a) : Interleaving s (w :: ws) r a
  | read {s : S} {ws : List (S → S)} {k : S → Reads S A} {a : A}
      (h : Interleaving s ws (k s) a) : Interleaving s ws (.read k) a

/-- A reader that is done has one outcome. -/
lemma interleaving_done {s : S} {ws : List (S → S)} {a b : A} :
    Interleaving s ws (.done a) b ↔ b = a := by
  refine ⟨fun h => ?_, fun h => h ▸ .done⟩
  generalize hr : Reads.done (S := S) a = r at h
  induction h with
  | done => exact (Reads.done.inj hr).symm
  | write _ ih => exact ih hr
  | read _ => cases hr

/-- Any number of writes may come before the reader goes on. -/
lemma interleaving_of_drop {r : Reads S A} {a : A} : ∀ (n : ℕ) {s : S} {ws : List (S → S)},
    Interleaving (writeAll s (ws.take n)) (ws.drop n) r a → Interleaving s ws r a := by
  intro n
  induction n with
  | zero => exact fun h => h
  | succ n ih =>
      intro s ws h
      cases ws with
      | nil => exact h
      | cons w ws => exact .write (ih h)

/-- **One read**: it sees the state after some of the writes, and what follows it
sees the rest of them. -/
theorem interleaving_read {s : S} {ws : List (S → S)} {k : S → Reads S A} {a : A} :
    Interleaving s ws (.read k) a ↔ ∃ n ≤ ws.length,
      Interleaving (writeAll s (ws.take n)) (ws.drop n) (k (writeAll s (ws.take n))) a := by
  refine ⟨fun h => ?_, fun ⟨n, _, h⟩ => interleaving_of_drop n (.read h)⟩
  generalize hr : Reads.read k = r at h
  induction h with
  | done => cases hr
  | write _ ih =>
      obtain ⟨n, hn, hrest⟩ := ih hr
      exact ⟨n + 1, Nat.succ_le_succ hn, hrest⟩
  | read h =>
      obtain rfl := Reads.read.inj hr
      exact ⟨0, Nat.zero_le _, h⟩

/-- What holds of all outcomes holds of those among writes. -/
lemma Reads.All.of_interleaving {P : A → Prop} {s : S} {ws : List (S → S)} {r : Reads S A} {a : A}
    (hall : r.All P) (h : Interleaving s ws r a) : P a := by
  induction h with
  | done => exact hall
  | write _ ih => exact ih hall
  | read _ ih => exact ih (hall _)

/-- **Blame**: an outcome that is `bad` among writes is owed to a state that was in force
meanwhile. -/
theorem Reads.Blames.of_interleaving {P : S → Prop} {bad : A → Prop} {s : S} {ws : List (S → S)}
    {r : Reads S A} {a : A} (hblames : r.Blames P bad) (h : Interleaving s ws r a) (hbad : bad a) :
    ∃ n ≤ ws.length, P (writeAll s (ws.take n)) := by
  induction h with
  | done => exact absurd hbad hblames
  | write _ ih =>
      obtain ⟨n, hn, hP⟩ := ih hblames hbad
      exact ⟨n + 1, Nat.succ_le_succ hn, hP⟩
  | @read s ws k a _ ih =>
      rcases hblames s with hP | hrest
      · exact ⟨0, Nat.zero_le _, hP⟩
      · exact ih hrest hbad

/-- The reader may be through before the first write. -/
lemma interleaving_run (s : S) (ws : List (S → S)) (r : Reads S A) :
    Interleaving s ws r (r.run s) := by
  induction r with
  | done a => exact .done
  | read k ih => exact .read (ih s)

/-- The reader may start after the last write. -/
lemma interleaving_run_after (s : S) (ws : List (S → S)) (r : Reads S A) :
    Interleaving s ws r (r.run (writeAll s ws)) := by
  refine interleaving_of_drop ws.length ?_
  rw [List.take_length]
  exact interleaving_run _ _ r

/-! ### What a reader can see -/

/-- A component that every write keeps stays as it was. -/
lemma keep_writeAll {f : S → B} : ∀ {ws : List (S → S)} {s : S},
    (∀ w ∈ ws, ∀ t, f (w t) = f t) → f (writeAll s ws) = f s := by
  intro ws
  induction ws with
  | nil => exact fun _ => rfl
  | cons w ws ih =>
      intro s h
      rw [writeAll_cons, ih fun w' hw' => h w' (List.mem_cons_of_mem w hw')]
      exact h w List.mem_cons_self s

/-- A component that every write keeps or sets to `b` is as it was or `b`. -/
lemma view_writeAll {f : S → B} {b : B} : ∀ {ws : List (S → S)} {s : S},
    (∀ w ∈ ws, ∀ t, f (w t) = f t ∨ f (w t) = b) →
    f (writeAll s ws) = f s ∨ f (writeAll s ws) = b := by
  intro ws
  induction ws with
  | nil => exact fun _ => Or.inl rfl
  | cons w ws ih =>
      intro s h
      rw [writeAll_cons]
      rcases ih (s := w s) fun w' hw' => h w' (List.mem_cons_of_mem w hw') with hkeep | hset
      · rw [hkeep]
        exact h w List.mem_cons_self s
      · exact Or.inr hset

end Library
