import Kernelradar.Library.Volume

/-!
Names that may stand for symbolic links.

`unlink`, `create` and `rename` act on the name itself, `chmod` on the file it leads to;
an open file is written by its inode, whatever becomes of its name.

* `follow`, `resolve`: the file a name leads to;
* `plant`: a link in the place of whatever the name stood for;
* `ofVolume`: a directory without links, under one parent.
-/

namespace Library

universe u

/-- What a name stands for. -/
inductive Entry (N : Type u) where
  | file (i : ℕ)
  | link (target : N)

/-- The file of an entry that is not a link. -/
def Entry.own {N : Type u} : Entry N → Option ℕ
  | .file i => some i
  | .link _ => none

/-- Names, files and links; the inodes from `next` on are unused. -/
structure Links (N : Type u) where
  dir : N → Option (Entry N)
  inode : ℕ → Inode
  next : ℕ

namespace Links

variable {N : Type u}

/-- The file a name leads to, over fewer than `fuel` links. -/
def follow (t : Links N) : ℕ → N → Option ℕ
  | 0, _ => none
  | fuel + 1, n =>
      match t.dir n with
      | none => none
      | some (.file i) => some i
      | some (.link target) => follow t fuel target

/-- The file a name leads to; more than forty links are an error. -/
def resolve (t : Links N) (n : N) : Option ℕ := t.follow 41 n

/-- The inode becomes `file`. -/
def set (t : Links N) (i : ℕ) (file : Inode) : Links N :=
  ⟨t.dir, Function.update t.inode i file, t.next⟩

/-- Add bytes at the end of an open file. -/
def append (t : Links N) (i : ℕ) (bytes : List UInt8) : Links N :=
  t.set i ⟨(t.inode i).bytes ++ bytes, (t.inode i).mode, false⟩

/-- `fsync`. -/
def sync (t : Links N) (i : ℕ) : Links N := t.set i ⟨(t.inode i).bytes, (t.inode i).mode, true⟩

/-- `chmod`, which follows links. -/
def chmod (t : Links N) (n : N) (mode : ℕ) : Links N :=
  match t.resolve n with
  | none => t
  | some i => t.set i ⟨(t.inode i).bytes, mode, (t.inode i).synced⟩

section Names

variable [DecidableEq N]

/-- Remove a name; a link goes, its target stays. -/
def unlink (t : Links N) (n : N) : Links N := ⟨Function.update t.dir n none, t.inode, t.next⟩

/-- A new, empty file. -/
def create (t : Links N) (n : N) (mode : ℕ) : Links N :=
  ⟨Function.update t.dir n (some (.file t.next)),
    Function.update t.inode t.next ⟨[], mode, false⟩, t.next + 1⟩

/-- `rename`, which moves a file or a link and does not follow it. -/
def rename (t : Links N) (src dst : N) : Links N :=
  ⟨Function.update (Function.update t.dir dst (t.dir src)) src none, t.inode, t.next⟩

/-- `symlink`, in the place of whatever was there. -/
def plant (t : Links N) (n target : N) : Links N :=
  ⟨Function.update t.dir n (some (.link target)), t.inode, t.next⟩

end Names

variable {t : Links N} {n : N} {i j : ℕ}

/-- A file leads to itself. -/
lemma resolve_of_file (h : t.dir n = some (.file i)) : t.resolve n = some i := by
  rw [resolve, follow, h]

lemma resolve_of_absent (h : t.dir n = none) : t.resolve n = none := by
  rw [resolve, follow, h]

@[simp] lemma next_set (file : Inode) : (t.set i file).next = t.next := rfl

lemma inode_set_self (file : Inode) : (t.set i file).inode i = file :=
  Function.update_self _ _ _

lemma inode_set_of_ne (file : Inode) (h : j ≠ i) : (t.set i file).inode j = t.inode j :=
  Function.update_of_ne h _ _

/-- What `chmod` does to the mode of a file: it depends on where the name leads. -/
lemma mode_chmod (mode : ℕ) : ((t.chmod n mode).inode i).mode
    = if t.resolve n = some i then mode else (t.inode i).mode := by
  rw [chmod]
  cases hn : t.resolve n with
  | none => rw [if_neg (Option.some_ne_none i).symm]
  | some j =>
      dsimp only
      by_cases hij : i = j
      · rw [hij, inode_set_self, if_pos rfl]
      · rw [inode_set_of_ne _ hij, if_neg fun h => hij (Option.some.inj h).symm]

/-- `chmod` leaves the bytes. -/
lemma bytes_chmod (mode : ℕ) : ((t.chmod n mode).inode i).bytes = (t.inode i).bytes := by
  rw [chmod]
  cases t.resolve n with
  | none => rfl
  | some j =>
      dsimp only
      by_cases hij : i = j
      · rw [hij, inode_set_self]
      · rw [inode_set_of_ne _ hij]

@[simp] lemma next_chmod (mode : ℕ) : (t.chmod n mode).next = t.next := by
  rw [chmod]
  cases t.resolve n <;> rfl

/-- A new file is none of the others. -/
lemma inode_create_of_lt [DecidableEq N] (mode : ℕ) (h : i < t.next) :
    (t.create n mode).inode i = t.inode i := Function.update_of_ne (Nat.ne_of_lt h) _ _

/-! ### A directory without links -/

section OfVolume

variable {D : Type u} [DecidableEq D]

/-- The names of one directory, every other directory being empty. -/
def ofVolume (d : D) (v : Volume N) : Links (D × N) where
  dir := fun p => if p.1 = d then (v.dir p.2).map .file else none
  inode := v.inode
  next := v.next

variable {d : D} {v : Volume N}

@[simp] lemma inode_ofVolume : (ofVolume d v).inode = v.inode := rfl

@[simp] lemma next_ofVolume : (ofVolume d v).next = v.next := rfl

@[simp] lemma dir_ofVolume (n : N) : (ofVolume d v).dir (d, n) = (v.dir n).map .file := if_pos rfl

/-- Without links a name leads to its own file. -/
lemma resolve_ofVolume (n : N) : (ofVolume d v).resolve (d, n) = v.dir n := by
  cases hn : v.dir n with
  | none => exact resolve_of_absent (by rw [dir_ofVolume, hn, Option.map_none])
  | some i => exact resolve_of_file (by rw [dir_ofVolume, hn, Option.map_some])

lemma chmod_ofVolume (n : N) (mode : ℕ) :
    (ofVolume d v).chmod (d, n) mode = ofVolume d (v.chmod n mode) := by
  rw [chmod, resolve_ofVolume, Volume.chmod]
  cases v.dir n <;> rfl

variable [DecidableEq N]

/-- A change of one name. -/
lemma update_ofVolume (n : N) (o : Option ℕ) :
    Function.update (ofVolume d v).dir (d, n) (o.map .file)
      = fun p => if p.1 = d then (Function.update v.dir n o p.2).map .file else none := by
  funext p
  obtain ⟨d', n'⟩ := p
  by_cases hp : (d', n') = (d, n)
  · obtain ⟨rfl, rfl⟩ := Prod.mk.inj hp
    rw [Function.update_self, if_pos rfl, Function.update_self]
  · rw [Function.update_of_ne hp, ofVolume]
    dsimp only
    by_cases hd : d' = d
    · have hn : n' ≠ n := fun h => hp (by rw [hd, h])
      rw [if_pos hd, if_pos hd, Function.update_of_ne hn]
    · rw [if_neg hd, if_neg hd]

lemma unlink_ofVolume (n : N) : (ofVolume d v).unlink (d, n) = ofVolume d (v.unlink n) :=
  congrArg (Links.mk · v.inode v.next) (update_ofVolume n none)

lemma create_ofVolume (n : N) (mode : ℕ) :
    (ofVolume d v).create (d, n) mode = ofVolume d (v.create n mode) :=
  congrArg (Links.mk · _ _) (update_ofVolume n (some v.next))

lemma rename_ofVolume (src dst : N) :
    (ofVolume d v).rename (d, src) (d, dst) = ofVolume d (v.rename src dst) := by
  have hreplace : Function.update (ofVolume d v).dir (d, dst) ((ofVolume d v).dir (d, src))
      = (ofVolume d (v.replace src dst)).dir := by
    rw [dir_ofVolume]
    exact update_ofVolume dst (v.dir src)
  rw [rename, hreplace]
  exact unlink_ofVolume (v := v.replace src dst) src

end OfVolume

end Links

end Library
