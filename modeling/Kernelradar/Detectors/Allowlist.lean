import Kernelradar.Core.Config

/-!
`allowlist.rs`: the compiled allowlist and its lock.

* `CompiledAllowlist.build`, `isAllowed`: as the source computes them;
* `RwLock`: a value behind a lock that may be poisoned; `SharedAllowlist.new`,
  `snapshot`, `replace`;
* `SharedAllowlist.replace_eq_new`: a replacement of a list whose lock is not
  poisoned is the list a fresh start would build.
-/

namespace Kernelradar

open Library

/-- `CompiledAllowlist`: the exact strings and the patterns of the regex set. -/
structure CompiledAllowlist where
  exact : List Text
  regex : List Text

namespace CompiledAllowlist

/-- `CompiledAllowlist::build`. A set that does not compile leaves no pattern. -/
def build (re : RegexCrate) (entries : List Text) : CompiledAllowlist :=
  let patterns := entries.filterMap regexEntry
  { exact := entries.filter fun e => (regexEntry e).isNone
    regex := if re.setCompiles patterns then patterns else [] }

/-- One of the strings an event is matched by: `comm`, `exe` and the last
component of `exe`. -/
def subjects (comm : Text) (exe : Option Text) : List Text :=
  comm :: (exe.elim [] fun p => [p, Text.afterLast '/' p])

/-- `CompiledAllowlist::is_allowed`: exact strings first, the regex set second. -/
def isAllowed (re : RegexCrate) (al : CompiledAllowlist) (comm : Text) (exe : Option Text) :
    Bool :=
  (subjects comm exe).any (fun s => al.exact.contains s)
    || (!al.regex.isEmpty && (subjects comm exe).any fun s => re.isMatch al.regex s)

end CompiledAllowlist

/-- A value behind `RwLock`, with the poison flag a panicking writer leaves. -/
structure RwLock (α : Type*) where
  value : α
  poisoned : Bool := false

namespace RwLock

variable {α : Type*}

/-- `RwLock::new`. -/
def new (a : α) : RwLock α := ⟨a, false⟩

/-- `if let Ok(mut w) = lock.write() { *w = a }`. -/
def store (l : RwLock α) (a : α) : RwLock α := if l.poisoned then l else { l with value := a }

/-- `lock.read()`, with a default where the lock is poisoned. -/
def load (l : RwLock α) (dflt : α) : α := if l.poisoned then dflt else l.value

@[simp] lemma poisoned_new (a : α) : (new a).poisoned = false := rfl

@[simp] lemma poisoned_store (l : RwLock α) (a : α) : (l.store a).poisoned = l.poisoned := by
  rw [store]
  split_ifs <;> rfl

@[simp] lemma load_new (a dflt : α) : (new a).load dflt = a := rfl

/-- The last store decides. -/
lemma store_store (l : RwLock α) (a b : α) : (l.store a).store b = l.store b := by
  simp only [store]
  split_ifs <;> rfl

/-- A store makes a new lock or does nothing. -/
lemma store_eq_self_or_new (l : RwLock α) (a : α) : l.store a = l ∨ l.store a = new a := by
  rcases l with ⟨value, _ | _⟩
  · exact Or.inr rfl
  · exact Or.inl rfl

/-- Storing into a healthy lock is making a new one. -/
lemma store_eq_new {l : RwLock α} (h : l.poisoned = false) (a : α) : l.store a = new a := by
  cases l
  simp_all [store, new]

end RwLock

/-- `SharedAllowlist`. -/
abbrev SharedAllowlist := RwLock CompiledAllowlist

namespace SharedAllowlist

/-- `SharedAllowlist::new`. -/
def new (re : RegexCrate) (initial : List Text) : SharedAllowlist :=
  RwLock.new (CompiledAllowlist.build re initial)

/-- `SharedAllowlist::snapshot`. -/
def snapshot (re : RegexCrate) (l : SharedAllowlist) : CompiledAllowlist :=
  l.load (CompiledAllowlist.build re [])

/-- `SharedAllowlist::replace`. -/
def replace (re : RegexCrate) (l : SharedAllowlist) (newList : List Text) : SharedAllowlist :=
  l.store (CompiledAllowlist.build re newList)

/-- A replacement of a healthy list is the list a fresh start would build. -/
lemma replace_eq_new {re : RegexCrate} {l : SharedAllowlist} (h : l.poisoned = false)
    (newList : List Text) : l.replace re newList = new re newList :=
  RwLock.store_eq_new h _

@[simp] lemma snapshot_new (re : RegexCrate) (initial : List Text) :
    (new re initial).snapshot re = CompiledAllowlist.build re initial := rfl

end SharedAllowlist

end Kernelradar
