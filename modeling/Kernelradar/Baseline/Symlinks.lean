import Kernelradar.Library.Links
import Kernelradar.Library.Machine
import Kernelradar.Baseline.Publish

/-!
`save` among the steps of somebody who plants symbolic links.

The stages are those of `Saver`, on a directory that may hold links: a name is looked up
anew by every operation, an open file is not. Between any two operations the other party
puts a link to anywhere in the place of the temporary file or of the file, or removes
one of the two.

* `Race.step`: the operations of `save` and the acts of the other party;
* `simulates`: without the other party and without links this is `Saver`;
* `Untouched`: the files of before the call, but the one that the call replaces, are as
  they were;
* `untouched_iff`: so they stay in every state of a run exactly if every `chmod` finds a
  file of the call behind the name.
-/

namespace Kernelradar

open Library

namespace Baseline

open Saver (writing)

/-- A path: the directory, and the name in it. -/
abbrev Place := Text × Text

/-- `path.with_extension("json.tmp")`. -/
def tmpOf (path : Place) : Place := (path.1, tmpName path.2)

/-- How far `save` is, and the file that its `rename` has replaced. -/
structure Race where
  tree : Links Place
  stage : Stage
  replaced : Option ℕ

namespace Race

/-- The two names of `save`. -/
inductive Spot where
  | tmp
  | path

/-- What happens next: an operation of `save` succeeds, takes some bytes or fails; a
link is planted, a name is removed. -/
inductive Act where
  | ok
  | write (n : ℕ)
  | fail
  | plant (spot : Spot) (target : Place)
  | remove (spot : Spot)

section Step

variable (path : Place)

/-- The path of a name. -/
def placeOf : Spot → Place
  | .tmp => tmpOf path
  | .path => path

/-- The operation succeeds: `create_new` finds a link that stands in its way, `rename`
a name that is gone. -/
def succeed (s : Race) : Race × Saver.Reply :=
  match s.stage with
  | .idle => (s, .going)
  | .unlink text => (⟨s.tree.unlink (tmpOf path), .create text, s.replaced⟩, .going)
  | .create text =>
      match s.tree.dir (tmpOf path) with
      | some _ => (⟨s.tree, .idle, s.replaced⟩, .failed)
      | none =>
          (⟨s.tree.create (tmpOf path) 0o600, writing s.tree.next text, s.replaced⟩, .going)
  | .write _ _ => (s, .going)
  | .sync i => (⟨s.tree.sync i, .rename, s.replaced⟩, .going)
  | .rename =>
      match s.tree.dir (tmpOf path) with
      | none => (⟨s.tree, .idle, s.replaced⟩, .failed)
      | some _ => (⟨s.tree.rename (tmpOf path) path, .chmod, (s.tree.dir path).bind Entry.own⟩,
          .published)
  | .chmod => (⟨s.tree.chmod path 0o640, .idle, s.replaced⟩, .done)

/-- The operation fails. -/
def refuse (s : Race) : Race × Saver.Reply :=
  match s.stage with
  | .idle => (s, .going)
  | .unlink text => (⟨s.tree, .create text, s.replaced⟩, .going)
  | .chmod => (⟨s.tree, .idle, s.replaced⟩, .done)
  | _ => (⟨s.tree, .idle, s.replaced⟩, .failed)

/-- One act. -/
def step (s : Race) : Act → Race × Saver.Reply
  | .ok => succeed path s
  | .write n =>
      match s.stage with
      | .write i rest =>
          (⟨s.tree.append i (rest.take n), writing i (rest.drop n), s.replaced⟩, .going)
      | _ => (s, .going)
  | .fail => refuse s
  | .plant spot target => ({ s with tree := s.tree.plant (placeOf path spot) target }, .going)
  | .remove spot => ({ s with tree := s.tree.unlink (placeOf path spot) }, .going)

/-- `save` and the other party as a machine. -/
def machine : Machine Race Act Saver.Reply := ⟨step path, fun _ _ => True⟩

@[simp] lemma machine_step (s : Race) (a : Act) : (machine path).step s a = step path s a := rfl

end Step

/-! ### Without the other party -/

/-- A `Saver` as a race that nobody else takes part in. -/
def ofSaver (d : Text) (s : Saver) (replaced : Option ℕ) : Race :=
  ⟨.ofVolume d s.volume, s.stage, replaced⟩

/-- The acts of a `Saver` that is not interrupted by a crash. -/
def toSaver {F : Type} : Act → Option (Saver.Act F)
  | .ok => some .ok
  | .write n => some (.write n)
  | .fail => some .fail
  | .plant _ _ => none
  | .remove _ => none

/-- **One operation** of `save` does the same with and without links, where there are
none. -/
lemma step_ofSaver {F : Type} (pretty : Saved F → Option (List UInt8)) {d name : Text}
    {s : Saver} (h : s.stage = .rename → s.volume.dir (tmpName name) ≠ none) {a : Act}
    {b : Saver.Act F} (hab : toSaver a = some b) (replaced : Option ℕ) :
    (step (d, name) (ofSaver d s replaced) a).2 = (Saver.step pretty name s b).2 ∧
      ∃ replaced', (step (d, name) (ofSaver d s replaced) a).1
        = ofSaver d (Saver.step pretty name s b).1 replaced' := by
  obtain ⟨v, stage⟩ := s
  cases a with
  | plant spot target => cases hab
  | remove spot => cases hab
  | fail =>
      obtain rfl := Option.some.inj hab
      cases stage <;> exact ⟨rfl, _, rfl⟩
  | write n =>
      obtain rfl := Option.some.inj hab
      cases stage <;> exact ⟨rfl, _, rfl⟩
  | ok =>
      obtain rfl := Option.some.inj hab
      cases stage with
      | idle | write i rest | sync i => exact ⟨rfl, _, rfl⟩
      | unlink text =>
          refine ⟨rfl, replaced, ?_⟩
          exact congrArg (Race.mk · _ _) (Links.unlink_ofVolume (tmpName name))
      | create text =>
          simp only [step, succeed, ofSaver, tmpOf, Links.dir_ofVolume, Saver.step, Saver.succeed]
          cases hdir : v.dir (tmpName name) with
          | some i => exact ⟨rfl, _, rfl⟩
          | none =>
              refine ⟨rfl, replaced, ?_⟩
              exact congrArg (Race.mk · _ _) (Links.create_ofVolume (tmpName name) 0o600)
      | rename =>
          simp only [step, succeed, ofSaver, tmpOf, Links.dir_ofVolume, Saver.step, Saver.succeed]
          cases hdir : v.dir (tmpName name) with
          | none => exact absurd hdir (h rfl)
          | some i =>
              refine ⟨rfl, (((v.dir name).map .file : Option (Entry Place))).bind Entry.own, ?_⟩
              exact congrArg (Race.mk · _ _) (Links.rename_ofVolume (tmpName name) name)
      | chmod =>
          refine ⟨rfl, replaced, ?_⟩
          exact congrArg (Race.mk · _ _) (Links.chmod_ofVolume name 0o640)

/-- **Without links** and without the other party, a run of `save` is the run of a
`Saver`, with the same replies. -/
theorem simulates {F : Type} {pretty : Saved F → Option (List UInt8)} {d name : Text} :
    ∀ {acts : List Act} {acts' : List (Saver.Act F)}, acts.map toSaver = acts'.map some →
      ∀ {s : Saver}, Saver.Intact name (fun _ => True) s → ∀ replaced : Option ℕ,
        (machine (d, name)).outs (ofSaver d s replaced) acts
            = (Saver.machine pretty name).outs s acts' ∧
          ∃ replaced', (machine (d, name)).after (ofSaver d s replaced) acts
            = ofSaver d ((Saver.machine pretty name).after s acts') replaced' := by
  intro acts
  induction acts with
  | nil =>
      intro acts' hacts s _ replaced
      obtain rfl := List.map_eq_nil_iff.mp hacts.symm
      exact ⟨rfl, replaced, rfl⟩
  | cons a acts ih =>
      intro acts' hacts s hs replaced
      obtain ⟨b, acts', rfl, hb, hrest⟩ := List.map_eq_cons_iff.mp hacts.symm
      have hrename : s.stage = .rename → s.volume.dir (tmpName name) ≠ none := by
        intro hstage hnone
        have hfits := hs.fits
        rw [Saver.Fits, hstage] at hfits
        obtain ⟨-, text, -, hread⟩ := hfits
        rw [Volume.read, hnone] at hread
        cases hread
      obtain ⟨hout, replaced', hstep⟩ := step_ofSaver pretty hrename hb.symm replaced
      have hkeeps : Saver.Keeps name (fun _ => True) s (Saver.step pretty name s b) :=
        Saver.keeps_step hs fun _ _ _ _ => trivial
      obtain ⟨houts, hafter⟩ := ih hrest.symm hkeeps.intact replaced'
      rw [Machine.outs_cons, Machine.outs_cons, Machine.after_cons, Machine.after_cons,
        machine_step, hstep, hout, houts]
      exact ⟨rfl, hafter⟩

/-! ### The files of before the call -/

/-- The inodes in use before the call, but the one that the call has replaced, hold what
they held, with the mode they had. -/
def Untouched (t : Links Place) (s : Race) : Prop :=
  ∀ i < t.next, s.replaced ≠ some i →
    (s.tree.inode i).bytes = (t.inode i).bytes ∧ (s.tree.inode i).mode = (t.inode i).mode

/-- The open file is one of the call, and nothing is replaced before the `rename`. -/
def Fits (t : Links Place) (s : Race) : Prop :=
  t.next ≤ s.tree.next ∧
    match s.stage with
    | .idle | .chmod => True
    | .unlink _ | .create _ | .rename => s.replaced = none
    | .write i _ | .sync i => t.next ≤ i ∧ s.replaced = none

/-- `chmod` finds no file of before the call behind the name, or the one that the call
has replaced, or one that has the mode already. -/
def Guarded (path : Place) (t : Links Place) (s : Race) : Act → Prop
  | .ok =>
      match s.stage with
      | .chmod => ∀ i < t.next, s.tree.resolve path = some i →
          s.replaced = some i ∨ (s.tree.inode i).mode = 0o640
      | _ => True
  | _ => True

variable {path : Place} {t tree : Links Place} {stage : Stage} {replaced : Option ℕ}

lemma fits_writing {i : ℕ} {rest : List UInt8} (hnext : t.next ≤ tree.next) (hi : t.next ≤ i) :
    Fits t ⟨tree, writing i rest, none⟩ := by
  rw [writing]
  split_ifs
  · exact ⟨hnext, hi, rfl⟩
  · exact ⟨hnext, hi, rfl⟩

/-- A stage of a call that has ended. -/
lemma fits_idle {s : Race} (h : Fits t s) : Fits t ⟨s.tree, .idle, s.replaced⟩ := ⟨h.1, trivial⟩

/-- The stage of the call goes on to fit. -/
lemma fits_step {s : Race} (h : Fits t s) (a : Act) : Fits t (step path s a).1 := by
  obtain ⟨tree, stage, replaced⟩ := s
  have hnext : t.next ≤ tree.next := h.1
  cases a with
  | plant spot target => exact h
  | remove spot => exact h
  | fail =>
      cases stage with
      | idle | unlink text => exact h
      | create text | write i rest | sync i | rename | chmod => exact fits_idle h
  | write n =>
      cases stage with
      | write i rest =>
          obtain ⟨hi, rfl⟩ := h.2
          exact fits_writing hnext hi
      | idle | unlink text | create text | sync i | rename | chmod => exact h
  | ok =>
      cases stage with
      | idle | unlink text | write i rest => exact h
      | create text =>
          obtain rfl : replaced = none := h.2
          rw [step, succeed]
          dsimp only
          cases tree.dir (tmpOf path) with
          | some e => exact fits_idle h
          | none => exact fits_writing (hnext.trans (Nat.le_succ _)) hnext
      | sync i => exact ⟨hnext, h.2.2⟩
      | rename =>
          rw [step, succeed]
          dsimp only
          cases tree.dir (tmpOf path) with
          | none => exact fits_idle h
          | some e => exact ⟨hnext, trivial⟩
      | chmod => exact ⟨(Links.next_chmod _).symm ▸ hnext, trivial⟩

/-- Only files of the call change. -/
lemma untouched_set {i : ℕ} (h : Untouched t ⟨tree, stage, replaced⟩) (hi : t.next ≤ i)
    (file : Inode) (stage' : Stage) : Untouched t ⟨tree.set i file, stage', replaced⟩ := by
  intro j hj hne
  have hji : j ≠ i := Nat.ne_of_lt (hj.trans_le hi)
  dsimp only
  rw [Links.inode_set_of_ne _ hji]
  exact h j hj hne

/-- `chmod` is the one operation that reaches files of before the call. -/
lemma untouched_chmod (h : Untouched t ⟨tree, .chmod, replaced⟩) :
    Untouched t ⟨tree.chmod path 0o640, .idle, replaced⟩ ↔
      Guarded path t ⟨tree, .chmod, replaced⟩ .ok := by
  constructor
  · intro hafter i hi hresolve
    by_cases hreplaced : replaced = some i
    · exact Or.inl hreplaced
    · right
      have hmode := (hafter i hi hreplaced).2
      dsimp only at hmode
      rw [Links.mode_chmod, if_pos hresolve] at hmode
      exact (h i hi hreplaced).2.trans hmode.symm
  · intro hguard i hi hreplaced
    obtain ⟨hbytes, hmode⟩ := h i hi hreplaced
    refine ⟨(Links.bytes_chmod _).trans hbytes, ?_⟩
    dsimp only
    rw [Links.mode_chmod]
    split_ifs with hresolve
    · have hhad := (hguard i hi hresolve).resolve_left hreplaced
      exact hhad.symm.trans hmode
    · exact hmode

/-- **One act** leaves the files alone exactly if it is guarded. -/
lemma untouched_step {s : Race} (hfits : Fits t s) (h : Untouched t s) (a : Act) :
    Untouched t (step path s a).1 ↔ Guarded path t s a := by
  obtain ⟨tree, stage, replaced⟩ := s
  cases a with
  | plant spot target => exact iff_of_true h trivial
  | remove spot => exact iff_of_true h trivial
  | fail => cases stage <;> exact iff_of_true h trivial
  | write n =>
      cases stage with
      | write i rest => exact iff_of_true (untouched_set h hfits.2.1 _ _) trivial
      | idle | unlink text | create text | sync i | rename | chmod =>
          exact iff_of_true h trivial
  | ok =>
      cases stage with
      | idle | unlink text | write i rest => exact iff_of_true h trivial
      | sync i => exact iff_of_true (untouched_set h hfits.2.1 _ _) trivial
      | chmod => exact untouched_chmod h
      | create text =>
          rw [step, succeed]
          dsimp only
          cases tree.dir (tmpOf path) with
          | some e => exact iff_of_true h trivial
          | none =>
              refine iff_of_true (fun i hi hne => ?_) trivial
              dsimp only
              rw [Links.inode_create_of_lt _ (hi.trans_le hfits.1)]
              exact h i hi hne
      | rename =>
          obtain rfl : replaced = none := hfits.2
          rw [step, succeed]
          dsimp only
          cases tree.dir (tmpOf path) with
          | none => exact iff_of_true h trivial
          | some e => exact iff_of_true (fun i hi _ => h i hi (Option.some_ne_none i).symm) trivial

/-- **Symlinks.** Whatever the other party does between the operations of a save, and
whichever of them fail: the files of before the call, but the one that it replaces, have
the bytes and the modes of before in every state of the run exactly if every `chmod` of
it is guarded. -/
theorem untouched_iff (path : Place) (t : Links Place) (text : List UInt8) (acts : List Act) :
    let start : Race := ⟨t, .unlink text, none⟩
    (∀ n, Untouched t ((machine path).after start (acts.take n))) ↔
      (machine path).Along (Guarded path t) start acts := by
  intro start
  have hfits : Fits t start := ⟨le_rfl, rfl⟩
  have huntouched : Untouched t start := fun _ _ _ => ⟨rfl, rfl⟩
  exact (machine path).always_iff (J := Fits t) (I := Untouched t) (fun _ a h => fits_step h a)
    (fun _ a hJ hI => untouched_step hJ hI a) hfits huntouched

/-- A link planted between the `rename` and the `chmod` hands the mode `0640` on to a
file that was closed to everyone but its owner. -/
theorem chmod_through_link :
    ¬ ∀ (path : Place) (t : Links Place) (text : List UInt8) (acts : List Act) (n : ℕ),
      Untouched t ((machine path).after ⟨t, .unlink text, none⟩ (acts.take n)) := by
  intro h
  let path : Place := ("/var/lib/kernelradar/state", "baseline.json")
  let shadow : Place := ("/etc", "shadow")
  let t : Links Place :=
    ⟨fun p => if p = shadow then some (.file 0) else none, fun _ => ⟨[0x72], 0o600, true⟩, 1⟩
  have hmode := (h path t [0x7b] [.ok, .ok, .write 1, .ok, .ok, .plant .path shadow, .ok] 7 0
    Nat.one_pos (by decide)).2
  exact absurd hmode (by decide)

end Race

end Baseline

end Kernelradar
