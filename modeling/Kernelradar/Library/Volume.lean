import Mathlib.Logic.Function.Basic
import Mathlib.Data.List.Basic

/-!
One directory of a file system, and what a crash leaves of it.

A name stands for an inode in use; two names may stand for the same one. What has been
written to an inode is safe from a crash once it is synced; the names are kept in
the order in which they are changed.

* `unlink`, `create`, `append`, `sync`, `rename`, `chmod`: the operations;
  `replace`: a `rename` that is cut off halfway, with both names in place;
* `crash`: inodes that are not synced hold anything;
* `read`: what is found under a name; `Durable`: a crash does not change it;
* `read_*`: what each operation leaves alone.
-/

namespace Library

universe u

/-- A file: its bytes, its mode, and whether the bytes are on the medium. -/
structure Inode where
  bytes : List UInt8
  mode : ℕ
  synced : Bool

/-- A directory; the inodes from `next` on are unused. -/
structure Volume (N : Type u) where
  dir : N → Option ℕ
  inode : ℕ → Inode
  next : ℕ
  closed : ∀ n i, dir n = some i → i < next

namespace Volume

variable {N : Type u}

/-- A directory without files. -/
def empty : Volume N := ⟨fun _ => none, fun _ => ⟨[], 0, false⟩, 0, nofun⟩

/-- The bytes found under a name. -/
def read (v : Volume N) (n : N) : Option (List UInt8) := (v.dir n).map fun i => (v.inode i).bytes

/-- What is found under the name is on the medium. -/
def Durable (v : Volume N) (n : N) : Prop := ∀ i, v.dir n = some i → (v.inode i).synced = true

/-- The inode becomes `file`. -/
def set (v : Volume N) (i : ℕ) (file : Inode) : Volume N :=
  ⟨v.dir, Function.update v.inode i file, v.next, v.closed⟩

/-- Add bytes at the end of a file. -/
def append (v : Volume N) (i : ℕ) (bytes : List UInt8) : Volume N :=
  v.set i ⟨(v.inode i).bytes ++ bytes, (v.inode i).mode, false⟩

/-- `fsync`. -/
def sync (v : Volume N) (i : ℕ) : Volume N :=
  v.set i ⟨(v.inode i).bytes, (v.inode i).mode, true⟩

/-- `chmod`. -/
def chmod (v : Volume N) (n : N) (mode : ℕ) : Volume N :=
  match v.dir n with
  | none => v
  | some i => v.set i ⟨(v.inode i).bytes, mode, (v.inode i).synced⟩

/-- The machine goes down and comes up again: what was not synced is garbage. -/
def crash (v : Volume N) (garbage : ℕ → List UInt8) : Volume N :=
  ⟨v.dir, fun i => if (v.inode i).synced then v.inode i
    else ⟨garbage i, (v.inode i).mode, false⟩, v.next, v.closed⟩

section Names

variable [DecidableEq N]

lemma closed_unlink (v : Volume N) (m : N) :
    ∀ n i, Function.update v.dir m none n = some i → i < v.next := by
  intro n i hi
  by_cases hn : n = m
  · rw [hn, Function.update_self] at hi
    cases hi
  · exact v.closed n i ((Function.update_of_ne hn _ _).symm.trans hi)

lemma closed_create (v : Volume N) (m : N) :
    ∀ n i, Function.update v.dir m (some v.next) n = some i → i < v.next + 1 := by
  intro n i hi
  by_cases hn : n = m
  · rw [hn, Function.update_self] at hi
    obtain rfl := Option.some.inj hi
    exact Nat.lt_succ_self _
  · exact Nat.lt_succ_of_lt (v.closed n i ((Function.update_of_ne hn _ _).symm.trans hi))

lemma closed_replace (v : Volume N) (src dst : N) :
    ∀ n i, Function.update v.dir dst (v.dir src) n = some i → i < v.next := by
  intro n i hi
  by_cases hn : n = dst
  · rw [hn, Function.update_self] at hi
    exact v.closed src i hi
  · exact v.closed n i ((Function.update_of_ne hn _ _).symm.trans hi)

/-- Remove a name. -/
def unlink (v : Volume N) (n : N) : Volume N :=
  ⟨Function.update v.dir n none, v.inode, v.next, v.closed_unlink n⟩

/-- A new, empty file. -/
def create (v : Volume N) (n : N) (mode : ℕ) : Volume N :=
  ⟨Function.update v.dir n (some v.next), Function.update v.inode v.next ⟨[], mode, false⟩,
    v.next + 1, v.closed_create n⟩

/-- The second name stands for what the first does, which is still there. -/
def replace (v : Volume N) (src dst : N) : Volume N :=
  ⟨Function.update v.dir dst (v.dir src), v.inode, v.next, v.closed_replace src dst⟩

/-- `rename`, onto whatever the second name stands for. -/
def rename (v : Volume N) (src dst : N) : Volume N := (v.replace src dst).unlink src

end Names

variable {v : Volume N} {n : N} {i j : ℕ}

/-- A name without a file. -/
lemma durable_of_absent (h : v.dir n = none) : v.Durable n := by
  intro i hi
  rw [h] at hi
  cases hi

/-! ### Bytes and modes -/

@[simp] lemma dir_set (file : Inode) : (v.set i file).dir = v.dir := rfl

@[simp] lemma inode_set_self (file : Inode) : (v.set i file).inode i = file :=
  Function.update_self _ _ _

lemma inode_set_of_ne (file : Inode) (h : j ≠ i) : (v.set i file).inode j = v.inode j :=
  Function.update_of_ne h _ _

/-- Other names do not see it. -/
lemma read_set (file : Inode) (h : v.dir n ≠ some i) : (v.set i file).read n = v.read n := by
  rw [read, dir_set]
  refine Option.map_congr fun j hj => ?_
  have hne : j ≠ i := fun hji => h (hji ▸ hj)
  rw [inode_set_of_ne _ hne]

/-- A change of everything but the bytes is not seen. -/
lemma read_set_of_bytes {file : Inode} (h : file.bytes = (v.inode i).bytes) :
    (v.set i file).read n = v.read n := by
  rw [read, dir_set]
  refine Option.map_congr fun j _ => ?_
  by_cases hji : j = i
  · rw [hji, inode_set_self, h]
  · rw [inode_set_of_ne _ hji]

lemma read_append (bytes : List UInt8) (h : v.dir n ≠ some i) :
    (v.append i bytes).read n = v.read n := read_set _ h

lemma read_sync : (v.sync i).read n = v.read n := read_set_of_bytes rfl

/-- Everything `chmod` can do: nothing, or change a mode. -/
lemma chmod_cases (v : Volume N) (m : N) (mode : ℕ) : v.chmod m mode = v ∨
    ∃ i, v.chmod m mode = v.set i ⟨(v.inode i).bytes, mode, (v.inode i).synced⟩ := by
  rw [chmod]
  cases v.dir m with
  | none => exact Or.inl rfl
  | some i => exact Or.inr ⟨i, rfl⟩

lemma read_chmod (m : N) (mode : ℕ) : (v.chmod m mode).read n = v.read n := by
  rcases v.chmod_cases m mode with h | ⟨i, h⟩
  · rw [h]
  · rw [h]
    exact read_set_of_bytes rfl

/-! ### Crashes -/

@[simp] lemma dir_crash (garbage : ℕ → List UInt8) : (v.crash garbage).dir = v.dir := rfl

/-- What is synced survives. -/
lemma inode_crash (garbage : ℕ → List UInt8) (h : (v.inode i).synced = true) :
    (v.crash garbage).inode i = v.inode i := if_pos h

lemma read_crash (garbage : ℕ → List UInt8) (h : v.Durable n) :
    (v.crash garbage).read n = v.read n := by
  rw [read, dir_crash]
  exact Option.map_congr fun i hi => by rw [inode_crash garbage (h i hi)]

lemma Durable.crash (garbage : ℕ → List UInt8) (h : v.Durable n) :
    (v.crash garbage).Durable n := by
  intro i hi
  rw [inode_crash garbage (h i hi)]
  exact h i hi

/-! ### Names -/

variable [DecidableEq N] {m : N}

@[simp] lemma dir_unlink_self : (v.unlink n).dir n = none := Function.update_self _ _ _

lemma dir_unlink_of_ne (h : n ≠ m) : (v.unlink m).dir n = v.dir n := Function.update_of_ne h _ _

@[simp] lemma inode_unlink : (v.unlink n).inode = v.inode := rfl

@[simp] lemma dir_create_self (mode : ℕ) : (v.create n mode).dir n = some v.next :=
  Function.update_self _ _ _

lemma dir_create_of_ne (mode : ℕ) (h : n ≠ m) : (v.create m mode).dir n = v.dir n :=
  Function.update_of_ne h _ _

@[simp] lemma inode_create_self (mode : ℕ) : (v.create n mode).inode v.next = ⟨[], mode, false⟩ :=
  Function.update_self _ _ _

lemma inode_create_of_lt (mode : ℕ) (h : i < v.next) :
    (v.create n mode).inode i = v.inode i := Function.update_of_ne (Nat.ne_of_lt h) _ _

@[simp] lemma dir_replace_self : (v.replace m n).dir n = v.dir m := Function.update_self _ _ _

@[simp] lemma inode_replace : (v.replace m n).inode = v.inode := rfl

lemma read_unlink (h : n ≠ m) : (v.unlink m).read n = v.read n := by
  rw [read, dir_unlink_of_ne h, inode_unlink]
  rfl

lemma read_create (mode : ℕ) (h : n ≠ m) : (v.create m mode).read n = v.read n := by
  rw [read, dir_create_of_ne mode h]
  exact Option.map_congr fun i hi => by rw [inode_create_of_lt mode (v.closed n i hi)]

/-- What is found under the new name is what was found under the old one. -/
lemma read_replace : (v.replace m n).read n = v.read m := by
  rw [read, dir_replace_self, inode_replace]
  rfl

lemma read_rename (h : n ≠ m) : (v.rename m n).read n = v.read m := by
  rw [rename, read_unlink h, read_replace]

/-! ### What is on the medium stays there -/

omit [DecidableEq N] in
lemma Durable.append (h : v.Durable n) (bytes : List UInt8) (hi : v.dir n ≠ some i) :
    (v.append i bytes).Durable n := by
  intro j hj
  have hne : j ≠ i := fun hji => hi (hji ▸ hj)
  rw [Volume.append, inode_set_of_ne _ hne]
  exact h j hj

omit [DecidableEq N] in
lemma Durable.sync (h : v.Durable n) (i : ℕ) : (v.sync i).Durable n := by
  intro j hj
  rw [Volume.sync]
  by_cases hji : j = i
  · rw [hji, inode_set_self]
  · rw [inode_set_of_ne _ hji]
    exact h j hj

omit [DecidableEq N] in
lemma Durable.chmod (h : v.Durable n) (m : N) (mode : ℕ) : (v.chmod m mode).Durable n := by
  rcases v.chmod_cases m mode with heq | ⟨i, heq⟩
  · rw [heq]
    exact h
  · rw [heq]
    intro j hj
    by_cases hji : j = i
    · rw [hji, inode_set_self, ← hji]
      exact h j hj
    · rw [inode_set_of_ne _ hji]
      exact h j hj

lemma Durable.unlink (h : v.Durable n) (hne : n ≠ m) : (v.unlink m).Durable n := by
  intro i hi
  exact h i ((dir_unlink_of_ne hne).symm.trans hi)

lemma Durable.create (h : v.Durable n) (mode : ℕ) (hne : n ≠ m) :
    (v.create m mode).Durable n := by
  intro i hi
  have hdir : v.dir n = some i := (dir_create_of_ne mode hne).symm.trans hi
  rw [inode_create_of_lt mode (v.closed n i hdir)]
  exact h i hdir

lemma Durable.replace (h : v.Durable m) : (v.replace m n).Durable n := by
  intro i hi
  exact h i (dir_replace_self.symm.trans hi)

lemma Durable.rename (h : v.Durable m) (hne : n ≠ m) : (v.rename m n).Durable n :=
  h.replace.unlink hne

end Volume

end Library
