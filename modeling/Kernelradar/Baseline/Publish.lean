import Kernelradar.Library.Volume
import Kernelradar.Detectors.Baseline

/-!
`save`, one file operation at a time.

Every operation may fail, every write may be short, and the machine may go down
between any two of them, or in the middle of the `rename`. What an operation does next
is an act of the environment; the directory is a `Volume`.

* `tmpName`, `tmpName_ne`: the name of the temporary file, never that of the file;
* `Stage`, `step`, `saving`: the stages of `save` and what an act does in each;
* `Intact`: the invariant; `keeps_step`: what one act does to it and to what is found
  under the name;
* `fileAt_after`: what the next start finds;
* `save_atomic`: what is found under the name after any run, and after a save that
  fails.
-/

namespace Kernelradar

open Library

namespace Baseline

variable {F : Type}

/-- What `serde` writes of a baseline. -/
def saved (b : Baseline F) : Saved F := ⟨b.version, b.started, b.config, b.pairs⟩

/-! ### The temporary file -/

/-- `Path::file_stem`: the name before its last dot, if something is before it. -/
def fileStem (name : Text) : Text :=
  match Text.splitOnce '.' name.reverse with
  | none => name
  | some (_, stem) => if stem = [] then name else stem.reverse

/-- `path.with_extension("json.tmp")`. -/
def tmpName (name : Text) : Text := fileStem name ++ ".json.tmp".toList

/-- A stem of the temporary name would be longer than itself. -/
lemma tmpName_ne (name : Text) : name ≠ tmpName name := by
  intro h
  have hrev : name.reverse
      = "pmt".toList ++ '.' :: ("nosj.".toList ++ (fileStem name).reverse) := by
    calc name.reverse = (tmpName name).reverse := congrArg List.reverse h
      _ = ".json.tmp".toList.reverse ++ (fileStem name).reverse := List.reverse_append
      _ = _ := rfl
  have hsplit : Text.splitOnce '.' name.reverse
      = some ("pmt".toList, "nosj.".toList ++ (fileStem name).reverse) :=
    Text.splitOnce_eq_some.mpr ⟨hrev, by decide⟩
  have hstem : fileStem name = ("nosj.".toList ++ (fileStem name).reverse).reverse := by
    conv_lhs => rw [fileStem, hsplit]
    rfl
  have hlen := congrArg List.length hstem
  have hfive : "nosj.".toList.length = 5 := rfl
  rw [List.length_reverse, List.length_append, List.length_reverse, hfive] at hlen
  omega

/-! ### The stages of `save` -/

/-- The operation that comes next. -/
inductive Stage where
  /-- `save` is not running. -/
  | idle
  | unlink (text : List UInt8)
  | create (text : List UInt8)
  /-- `write_all`, with the bytes still to be written. -/
  | write (i : ℕ) (rest : List UInt8)
  | sync (i : ℕ)
  | rename
  | chmod

/-- The directory of `save_path`, and how far `save` is. -/
structure Saver where
  volume : Volume Text
  stage : Stage

namespace Saver

/-- What happens next. -/
inductive Act (F : Type) where
  /-- `save` is called. -/
  | save (b : Baseline F)
  /-- The operation succeeds. -/
  | ok
  /-- One `write` of `write_all` takes `n` bytes. -/
  | write (n : ℕ)
  /-- The operation fails. -/
  | fail
  /-- The machine goes down, and comes up with `garbage` in the files that are not
  synced; during a `rename` it may leave both names behind. -/
  | crash (torn : Bool) (garbage : ℕ → List UInt8)

/-- What becomes of the call. -/
inductive Reply where
  | going
  /-- The file is in place. -/
  | published
  /-- `Ok(())`. -/
  | done
  /-- `Err(_)`. -/
  | failed
  | crashed
  /-- The machine went down with the file in place. -/
  | torn
  deriving DecidableEq

/-- The file has been put in place. -/
def Reply.Publishes : Reply → Prop
  | .published => True
  | .torn => True
  | _ => False

/-- The call goes on. -/
def Reply.Runs : Reply → Prop
  | .going => True
  | .published => True
  | _ => False

section Step

variable (pretty : Saved F → Option (List UInt8)) (name : Text)

/-- `write_all` ends once nothing is left. -/
def writing (i : ℕ) (rest : List UInt8) : Stage := if rest = [] then .sync i else .write i rest

/-- The operation succeeds, except that `create_new` finds a file that is still there. -/
def succeed (s : Saver) : Saver × Reply :=
  match s.stage with
  | .idle => (s, .going)
  | .unlink text => (⟨s.volume.unlink (tmpName name), .create text⟩, .going)
  | .create text =>
      match s.volume.dir (tmpName name) with
      | some _ => (⟨s.volume, .idle⟩, .failed)
      | none => (⟨s.volume.create (tmpName name) 0o600, writing s.volume.next text⟩, .going)
  | .write _ _ => (s, .going)
  | .sync i => (⟨s.volume.sync i, .rename⟩, .going)
  | .rename => (⟨s.volume.rename (tmpName name) name, .chmod⟩, .published)
  | .chmod => (⟨s.volume.chmod name 0o640, .idle⟩, .done)

/-- The operation fails. Removing a stale file and setting the mode may fail, the others
end the call. -/
def refuse (s : Saver) : Saver × Reply :=
  match s.stage with
  | .idle => (s, .going)
  | .unlink text => (⟨s.volume, .create text⟩, .going)
  | .chmod => (⟨s.volume, .idle⟩, .done)
  | _ => (⟨s.volume, .idle⟩, .failed)

/-- The machine goes down. -/
def goDown (s : Saver) (torn : Bool) (garbage : ℕ → List UInt8) : Saver × Reply :=
  match torn, s.stage with
  | true, .rename => (⟨(s.volume.replace (tmpName name) name).crash garbage, .idle⟩, .torn)
  | _, _ => (⟨s.volume.crash garbage, .idle⟩, .crashed)

/-- One act; an act that does not fit the stage does nothing. -/
def step (s : Saver) : Act F → Saver × Reply
  | .save b =>
      match s.stage, pretty b.saved with
      | .idle, some text => (⟨s.volume, .unlink text⟩, .going)
      | .idle, none => (s, .failed)
      | _, _ => (s, .going)
  | .ok => succeed name s
  | .write n =>
      match s.stage with
      | .write i rest => (⟨s.volume.append i (rest.take n), writing i (rest.drop n)⟩, .going)
      | _ => (s, .going)
  | .fail => refuse s
  | .crash torn garbage => goDown name s torn garbage

/-- `save` as a machine. -/
def machine : Machine Saver (Act F) Reply := ⟨step pretty name, fun _ _ => True⟩

@[simp] lemma machine_step (s : Saver) (a : Act F) :
    (machine pretty name).step s a = step pretty name s a := rfl

/-! ### The invariant -/

/-- The stage fits the directory: what will be put in place is a file of its own, and
will hold one of the texts. -/
def Fits (T : List UInt8 → Prop) (s : Saver) : Prop :=
  match s.stage with
  | .idle => True
  | .unlink text => T text
  | .create text => T text
  | .write i rest => s.volume.dir (tmpName name) = some i ∧ s.volume.dir name ≠ some i ∧
      T ((s.volume.inode i).bytes ++ rest)
  | .sync i => s.volume.dir (tmpName name) = some i ∧ s.volume.dir name ≠ some i ∧
      T (s.volume.inode i).bytes
  | .rename => s.volume.Durable (tmpName name) ∧
      ∃ text, T text ∧ s.volume.read (tmpName name) = some text
  | .chmod => True

/-- What is found under the name is on the medium, and the stage fits. -/
structure Intact (T : List UInt8 → Prop) (s : Saver) : Prop where
  durable : s.volume.Durable name
  fits : Fits name T s

/-- What an act does: it keeps the invariant, and what is found under the name is as
before, or one of the texts if the act puts a file in place. -/
structure Keeps (T : List UInt8 → Prop) (s : Saver) (r : Saver × Reply) : Prop where
  intact : Intact name T r.1
  unseen : ¬r.2.Publishes → r.1.volume.read name = s.volume.read name
  seen : r.2.Publishes → ∃ text, T text ∧ r.1.volume.read name = some text

variable {pretty name} {T : List UInt8 → Prop} {s : Saver}

lemma fits_writing {v : Volume Text} {i : ℕ} {rest : List UInt8}
    (htmp : v.dir (tmpName name) = some i) (hname : v.dir name ≠ some i)
    (hT : T ((v.inode i).bytes ++ rest)) : Fits name T ⟨v, writing i rest⟩ := by
  rw [writing]
  split_ifs with h
  · rw [h, List.append_nil] at hT
    exact ⟨htmp, hname, hT⟩
  · exact ⟨htmp, hname, hT⟩

/-- An act after which nothing is found differently. -/
lemma keeps_of_unseen {v : Volume Text} {stage : Stage} {r : Reply} (hr : ¬r.Publishes)
    (hdurable : v.Durable name) (hread : v.read name = s.volume.read name)
    (hfits : Fits name T ⟨v, stage⟩) : Keeps name T s (⟨v, stage⟩, r) :=
  ⟨⟨hdurable, hfits⟩, fun _ => hread, fun h => absurd h hr⟩

/-- An operation that succeeds. -/
lemma keeps_succeed (h : Intact name T s) : Keeps name T s (succeed name s) := by
  obtain ⟨v, stage⟩ := s
  obtain ⟨hdurable, hfits⟩ := h
  have hne : name ≠ tmpName name := tmpName_ne name
  cases stage with
  | idle => exact keeps_of_unseen id hdurable rfl trivial
  | unlink text =>
      exact keeps_of_unseen id (hdurable.unlink hne) (Volume.read_unlink hne) hfits
  | create text =>
      rw [succeed]
      dsimp only
      cases hstale : v.dir (tmpName name) with
      | some i => exact keeps_of_unseen id hdurable rfl trivial
      | none =>
          refine keeps_of_unseen id (hdurable.create _ hne) (Volume.read_create _ hne) ?_
          refine fits_writing (Volume.dir_create_self _) ?_ ?_
          · -- the new inode is not the one of the file
            rw [Volume.dir_create_of_ne _ hne]
            exact fun hi => absurd (v.closed _ _ hi) (Nat.lt_irrefl _)
          · rw [Volume.inode_create_self]
            exact hfits
  | write i rest => exact keeps_of_unseen id hdurable rfl hfits
  | sync i =>
      obtain ⟨htmp, -, hT⟩ := hfits
      have hbytes : (v.sync i).read (tmpName name) = some (v.inode i).bytes := by
        rw [Volume.read_sync, Volume.read, htmp, Option.map_some]
      refine keeps_of_unseen id (hdurable.sync i) Volume.read_sync
        ⟨fun j hj => ?_, _, hT, hbytes⟩
      have hji : j = i := Option.some.inj (hj.symm.trans htmp)
      rw [Volume.sync, hji, Volume.inode_set_self]
  | rename =>
      obtain ⟨htmp, text, hT, htext⟩ := hfits
      have hread : (v.rename (tmpName name) name).read name = some text :=
        (Volume.read_rename hne).trans htext
      exact ⟨⟨htmp.rename hne, trivial⟩, fun hnot => absurd trivial hnot,
        fun _ => ⟨text, hT, hread⟩⟩
  | chmod =>
      exact keeps_of_unseen id (hdurable.chmod _ _) (Volume.read_chmod _ _) trivial

/-- An operation that fails. -/
lemma keeps_refuse (h : Intact name T s) : Keeps name T s (refuse s) := by
  obtain ⟨v, stage⟩ := s
  obtain ⟨hdurable, hfits⟩ := h
  cases stage with
  | idle => exact keeps_of_unseen id hdurable rfl trivial
  | unlink text => exact keeps_of_unseen id hdurable rfl hfits
  | create text => exact keeps_of_unseen id hdurable rfl trivial
  | write i rest => exact keeps_of_unseen id hdurable rfl trivial
  | sync i => exact keeps_of_unseen id hdurable rfl trivial
  | rename => exact keeps_of_unseen id hdurable rfl trivial
  | chmod => exact keeps_of_unseen id hdurable rfl trivial

/-- A crash, which may leave a `rename` half done. -/
lemma keeps_goDown (h : Intact name T s) (torn : Bool) (garbage : ℕ → List UInt8) :
    Keeps name T s (goDown name s torn garbage) := by
  have hplain : Keeps name T s (⟨s.volume.crash garbage, .idle⟩, .crashed) :=
    keeps_of_unseen id (h.durable.crash garbage) (Volume.read_crash garbage h.durable)
      trivial
  cases torn with
  | false => exact hplain
  | true =>
      obtain ⟨v, stage⟩ := s
      cases stage with
      | rename =>
          obtain ⟨htmp, text, hT, htext⟩ := h.fits
          have hreplaced : (v.replace (tmpName name) name).Durable name := htmp.replace
          have hread : ((v.replace (tmpName name) name).crash garbage).read name = some text := by
            rw [Volume.read_crash garbage hreplaced, Volume.read_replace, htext]
          exact ⟨⟨hreplaced.crash garbage, trivial⟩, fun hnot => absurd trivial hnot,
            fun _ => ⟨text, hT, hread⟩⟩
      | idle | unlink text | create text | write i rest | sync i | chmod => exact hplain

/-- A short write adds what it takes. -/
lemma keeps_write {v : Volume Text} {i : ℕ} {rest : List UInt8}
    (h : Intact name T ⟨v, .write i rest⟩) (n : ℕ) :
    Keeps name T ⟨v, .write i rest⟩
      (⟨v.append i (rest.take n), writing i (rest.drop n)⟩, .going) := by
  obtain ⟨htmp, hname, hT⟩ := h.fits
  refine keeps_of_unseen id (h.durable.append _ hname) (Volume.read_append _ hname)
    (fits_writing htmp hname ?_)
  rw [Volume.append, Volume.inode_set_self]
  dsimp only
  rw [List.append_assoc, List.take_append_drop]
  exact hT

/-- **One act.** -/
lemma keeps_step (h : Intact name T s) {a : Act F}
    (hT : ∀ b text, a = .save b → pretty b.saved = some text → T text) :
    Keeps name T s (step pretty name s a) := by
  have hsame : ∀ r : Reply, ¬r.Publishes → Keeps name T s (s, r) := fun r hr =>
    keeps_of_unseen hr h.durable rfl h.fits
  cases a with
  | save b =>
      obtain ⟨v, stage⟩ := s
      cases stage with
      | idle =>
          rw [step]
          dsimp only
          cases htext : pretty b.saved with
          | none => exact hsame _ id
          | some text => exact keeps_of_unseen id h.durable rfl (hT b text rfl htext)
      | unlink text | create text | write i rest | sync i | rename | chmod =>
          exact hsame _ id
  | ok => exact keeps_succeed h
  | write n =>
      obtain ⟨v, stage⟩ := s
      cases stage with
      | write i rest => exact keeps_write h n
      | idle | unlink text | create text | sync i | rename | chmod => exact hsame _ id
  | fail => exact keeps_refuse h
  | crash torn garbage => exact keeps_goDown h torn garbage

/-! ### Runs -/

variable (pretty) in
/-- A run of acts, from any directory that fits. -/
lemma visible_after : ∀ (acts : List (Act F)) {s : Saver}, Intact name T s →
    (∀ a ∈ acts, ∀ b text, a = .save b → pretty b.saved = some text → T text) →
    Intact name T ((machine pretty name).after s acts) ∧
    ((∀ r ∈ (machine pretty name).outs s acts, ¬r.Publishes) →
      ((machine pretty name).after s acts).volume.read name = s.volume.read name) ∧
    ((∃ r ∈ (machine pretty name).outs s acts, r.Publishes) →
      ∃ text, T text ∧ ((machine pretty name).after s acts).volume.read name = some text) := by
  intro acts
  induction acts with
  | nil =>
      intro s h _
      exact ⟨h, fun _ => rfl, fun ⟨r, hr, _⟩ => absurd hr List.not_mem_nil⟩
  | cons a acts ih =>
      intro s h hT
      have hone := keeps_step h (hT a List.mem_cons_self)
      obtain ⟨hintact, hunseen, hseen⟩ :=
        ih hone.intact fun a' ha' => hT a' (List.mem_cons_of_mem a ha')
      rw [Machine.after_cons, Machine.outs_cons, machine_step]
      refine ⟨hintact, fun hnone => ?_, fun hsome => ?_⟩
      · obtain ⟨hfirst, hrest⟩ := List.forall_mem_cons.mp hnone
        calc ((machine pretty name).after (step pretty name s a).1 acts).volume.read name
            = (step pretty name s a).1.volume.read name := hunseen hrest
          _ = s.volume.read name := hone.unseen hfirst
      · by_cases hlater : ∃ r ∈ (machine pretty name).outs (step pretty name s a).1 acts,
            r.Publishes
        · exact hseen hlater
        · have hrest : ∀ r ∈ (machine pretty name).outs (step pretty name s a).1 acts,
              ¬r.Publishes := fun r hr hpub => hlater ⟨r, hr, hpub⟩
          have hfirst : (step pretty name s a).2.Publishes :=
            (List.exists_mem_cons_iff _ _ _).mp hsome |>.resolve_right hlater
          obtain ⟨text, htext, hread⟩ := hone.seen hfirst
          exact ⟨text, htext, (hunseen hrest).trans hread⟩

/-- Once the file is in place the call cannot fail any more. -/
lemma step_chmod (hs : s.stage = .chmod) (a : Act F) :
    (step pretty name s a).2 ≠ .failed ∧
      ((step pretty name s a).2.Runs → (step pretty name s a).1.stage = .chmod) := by
  obtain ⟨v, stage⟩ := s
  obtain rfl : stage = .chmod := hs
  have hdone : ∀ (s' : Saver) (r : Reply), r = .done ∨ r = .crashed →
      r ≠ .failed ∧ (r.Runs → s'.stage = .chmod) := by
    rintro s' r (rfl | rfl)
    · exact ⟨nofun, False.elim⟩
    · exact ⟨nofun, False.elim⟩
  cases a with
  | save b => exact ⟨nofun, fun _ => rfl⟩
  | write n => exact ⟨nofun, fun _ => rfl⟩
  | ok => exact hdone _ _ (Or.inl rfl)
  | fail => exact hdone _ _ (Or.inl rfl)
  | crash torn garbage =>
      cases torn with
      | false => exact hdone _ _ (Or.inr rfl)
      | true => exact hdone _ _ (Or.inr rfl)

/-- The stage after the file has been put in place. -/
lemma stage_of_published {a : Act F} (h : (step pretty name s a).2 = .published) :
    (step pretty name s a).1.stage = .chmod := by
  obtain ⟨v, stage⟩ := s
  cases a with
  | save b =>
      rw [step] at h
      split at h <;> cases h
  | write n =>
      rw [step] at h
      split at h <;> cases h
  | fail => cases stage <;> cases h
  | crash torn garbage => cases torn <;> cases stage <;> cases h
  | ok =>
      cases stage with
      | rename => rfl
      | create text =>
          rw [step, succeed] at h
          dsimp only at h
          split at h <;> cases h
      | idle | unlink text | write i rest | sync i | chmod => cases h

/-- A call that fails has put nothing in place. -/
lemma read_of_failed : ∀ {acts : List (Act F)} {before : List Reply} {s : Saver},
    Intact name (fun _ => True) s →
    (machine pretty name).outs s acts = before ++ [.failed] → (∀ r ∈ before, r.Runs) →
    s.stage ≠ .chmod ∧
      ((machine pretty name).after s acts).volume.read name = s.volume.read name := by
  intro acts
  induction acts with
  | nil =>
      intro before s _ houts _
      exact absurd (congrArg List.length houts) (by simp)
  | cons a acts ih =>
      intro before s h houts hruns
      have hone : Keeps name (fun _ => True) s (step pretty name s a) :=
        keeps_step h fun _ _ _ _ => trivial
      rw [Machine.outs_cons, machine_step] at houts
      rw [Machine.after_cons, machine_step]
      cases before with
      | nil =>
          obtain ⟨hfailed, hnil⟩ := List.cons.inj houts
          have hlen := congrArg List.length hnil
          rw [Machine.length_outs, List.length_nil] at hlen
          obtain rfl := List.length_eq_zero_iff.mp hlen
          refine ⟨fun hs => (step_chmod hs a).1 hfailed, hone.unseen ?_⟩
          rw [hfailed]
          exact id
      | cons r before =>
          obtain ⟨hr, hrest⟩ := List.cons.inj houts
          obtain ⟨hrun, hruns'⟩ := List.forall_mem_cons.mp hruns
          obtain ⟨hstage, hread⟩ := ih hone.intact hrest hruns'
          rw [← hr] at hrun
          refine ⟨fun hs => hstage ((step_chmod hs a).2 hrun), hread.trans (hone.unseen ?_)⟩
          cases hreply : (step pretty name s a).2 with
          | going => exact id
          | published =>
              -- putting the file in place would leave the call nothing to fail at
              exact absurd (stage_of_published hreply) hstage
          | done | failed | crashed | torn =>
              rw [hreply] at hrun
              exact hrun.elim

/-- The bytes of a baseline that some save of the run has serialised. -/
def Wrote (pretty : Saved F → Option (List UInt8)) (acts : List (Act F)) (text : List UInt8) :
    Prop := ∃ b, .save b ∈ acts ∧ pretty b.saved = some text

/-- What `load_or_default` finds under the name. -/
def fileAt (parse : List UInt8 → Option (Saved F)) (name : Text) (v : Volume Text) : File F :=
  match v.read name with
  | none => .missing
  | some bytes => (parse bytes).elim .corrupted .baseline

/-- Where the parser reads back what the serializer writes, the next start finds no file
or what `save` stands for in one of the saves, whatever has happened since. -/
theorem fileAt_after {parse : List UInt8 → Option (Saved F)}
    (hparse : ∀ saved text, pretty saved = some text → parse text = some saved) {v : Volume Text}
    (hnew : v.dir name = none) (acts : List (Act F)) :
    let s := (machine pretty name).after ⟨v, .idle⟩ acts
    fileAt parse name s.volume = .missing ∨
      ∃ b, .save b ∈ acts ∧ fileAt parse name s.volume = b.save := by
  intro s
  have hnone : v.read name = none := by rw [Volume.read, hnew, Option.map_none]
  have hstart : Intact name (Wrote pretty acts) ⟨v, .idle⟩ :=
    ⟨Volume.durable_of_absent hnew, trivial⟩
  obtain ⟨-, hunseen, hseen⟩ := visible_after pretty acts hstart
    fun a ha b text hab htext => ⟨b, hab ▸ ha, htext⟩
  by_cases hpub : ∃ r ∈ (machine pretty name).outs ⟨v, .idle⟩ acts, r.Publishes
  · obtain ⟨text, ⟨b, hb, htext⟩, hread⟩ := hseen hpub
    refine Or.inr ⟨b, hb, ?_⟩
    rw [fileAt, hread]
    dsimp only
    rw [hparse _ _ htext]
    rfl
  · have hread := hunseen fun r hr hp => hpub ⟨r, hr, hp⟩
    left
    rw [fileAt, hread, hnone]

/-- **Atomic saves.** Whatever fails and whenever the machine goes down, with any files
left behind under other names: after any sequence of acts from a directory without the
file there is none if nothing was put in place, and otherwise it is the complete text of
a baseline that a save of the run has serialised; and a save that returns an error
leaves what is found under the name as it was when the save began. -/
theorem save_atomic (pretty : Saved F → Option (List UInt8)) (name : Text) (v : Volume Text)
    (hnew : v.dir name = none) (acts : List (Act F)) :
    let M := machine pretty name
    let s := M.after ⟨v, .idle⟩ acts
    ((∀ r ∈ M.outs ⟨v, .idle⟩ acts, ¬r.Publishes) → s.volume.read name = none) ∧
    ((∃ r ∈ M.outs ⟨v, .idle⟩ acts, r.Publishes) →
      ∃ text, Wrote pretty acts text ∧ s.volume.read name = some text) ∧
    ∀ (b : Baseline F) (rest : List (Act F)) (before : List Reply),
      M.outs s (.save b :: rest) = before ++ [.failed] → (∀ r ∈ before, r.Runs) →
      (M.after s (.save b :: rest)).volume.read name = s.volume.read name := by
  intro M s
  have hnone : v.read name = none := by rw [Volume.read, hnew, Option.map_none]
  have hstart : ∀ T, Intact name T ⟨v, .idle⟩ := fun _ => ⟨Volume.durable_of_absent hnew, trivial⟩
  obtain ⟨-, hunseen, hseen⟩ := visible_after pretty acts (hstart (Wrote pretty acts))
    fun a ha b text hab htext => ⟨b, hab ▸ ha, htext⟩
  obtain ⟨hintact, -, -⟩ := visible_after pretty acts (hstart fun _ => True)
    fun _ _ _ _ _ _ => trivial
  refine ⟨fun h => (hunseen h).trans hnone, hseen, fun b rest before houts hruns => ?_⟩
  exact (read_of_failed hintact houts hruns).2

/-- A save cut off in its write, and one that goes through after it. -/
theorem save_atomic_crash :
    let b : Baseline ℚ := new .default 0
    let pretty : Saved ℚ → Option (List UInt8) := fun _ => some [0x7b, 0x7d]
    let acts : List (Act ℚ) := [.save b, .ok, .ok, .write 1, .crash false fun _ => [0], .save b,
      .ok, .ok, .write 2, .ok, .ok, .ok]
    ∃ text, Wrote pretty acts text ∧ ((machine pretty "baseline.json").after
      ⟨Volume.empty, .idle⟩ acts).volume.read "baseline.json" = some text := by
  intro b pretty acts
  exact (save_atomic pretty "baseline.json" Volume.empty rfl acts).2.1
    ⟨.published, by decide, trivial⟩

end Step

end Saver

end Baseline

end Kernelradar
