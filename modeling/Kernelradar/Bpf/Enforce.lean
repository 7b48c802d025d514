import Kernelradar.Library.Bytes
import Kernelradar.Library.Table

/-!
`enforce_bpf.bpf.c` and `enforce_kmod.bpf.c`: the hooks that deny `BPF_PROG_LOAD` and the
read of a kernel module, and the maps of names they read.

* `Allowed`, `krBpfEnforce`: the map and the first hook;
* `update_eq_some`: what a full map does;
* `commKey_inj`: names of at most fifteen bytes without a zero;
* `KernelReadFileId`, `krKmodEnforce`: the kinds of reads and the second hook.
-/

namespace Kernelradar

open Library

namespace Bpf

/-- `BPF_PROG_LOAD`. -/
def progLoadCmd : ℤ := 5

/-- `struct comm_key` of a name; `bpf_get_current_comm` fills it up with zeros. -/
def commKey (comm : List UInt8) : List UInt8 := padTo 16 comm

/-- `kr_bpf_allowed`. -/
abbrev Allowed := Table (List UInt8) UInt8

/-- `max_entries` of the map. -/
def maxEntries : ℕ := 256

/-- An update of the map; a full one takes no new key. -/
def Allowed.update (allowed : Allowed) (key : List UInt8) (value : UInt8) : Option Allowed :=
  if key ∉ allowed.dom ∧ maxEntries ≤ allowed.len then none else some (allowed.insert key value)

/-- `kr_bpf_enforce`, called by a thread with the name. -/
def krBpfEnforce (allowed : Allowed) (comm : List UInt8) (cmd : ℤ) : ℤ :=
  if cmd ≠ progLoadCmd then 0
  else
    match allowed.get (commKey comm) with
    | some ok => if ok ≠ 0 then 0 else -1
    | none => -1

/-- Every value in the map is one. -/
def Allowed.Ones (allowed : Allowed) : Prop := ∀ k v, allowed.get k = some v → v = 1

lemma Allowed.Ones.insert {allowed : Allowed} (h : allowed.Ones) (key : List UInt8) :
    Allowed.Ones (allowed.insert key 1) := by
  intro k v hv
  by_cases hk : k = key
  · rw [hk, Table.get_insert_self] at hv
    exact (Option.some.inj hv).symm
  · rw [Table.get_insert_of_ne _ _ hk] at hv
    exact h k v hv

/-- A map of ones permits the names in it. -/
lemma krBpfEnforce_eq_zero {allowed : Allowed} (hones : allowed.Ones) (comm : List UInt8) :
    krBpfEnforce allowed comm progLoadCmd = 0 ↔ commKey comm ∈ allowed.dom := by
  rw [krBpfEnforce, if_neg (not_not_intro rfl)]
  cases hget : allowed.get (commKey comm) with
  | none => exact iff_of_false (by decide) (Table.get_eq_none.mp hget)
  | some ok =>
      obtain rfl := hones _ _ hget
      exact iff_of_true rfl (Table.mem_dom_of_get hget)

/-- The update succeeds as long as there are no more keys than entries. -/
lemma Allowed.update_isSome {allowed : Allowed} (hroom : allowed.len ≤ maxEntries)
    (key : List UInt8) (value : UInt8) :
    (allowed.update key value).isSome ↔ (allowed.insert key value).len ≤ maxEntries := by
  rw [update]
  by_cases hkey : key ∈ allowed.dom
  · rw [if_neg fun h => h.1 hkey, Table.len_insert_of_mem value hkey]
    exact iff_of_true rfl hroom
  · rw [Table.len_insert_of_notMem value hkey]
    split_ifs with hfull
    · exact iff_of_false Bool.false_ne_true (Nat.not_le.mpr (Nat.lt_succ_of_le hfull.2))
    · have hroom' := Nat.not_le.mp fun h => hfull ⟨hkey, h⟩
      exact iff_of_true rfl hroom'

lemma Allowed.update_eq_some {allowed allowed' : Allowed} {key : List UInt8} {value : UInt8}
    (h : allowed.update key value = some allowed') : allowed' = allowed.insert key value := by
  rw [update] at h
  split_ifs at h
  exact (Option.some.inj h).symm

/-- A name that fills the key up to its last byte shares the key with no other. -/
lemma commKey_inj {name comm : List UInt8} (hname : name.length ≤ 15) (hcomm : comm.length = 15)
    (hzero : (0 : UInt8) ∉ comm) : commKey name = commKey comm ↔ name = comm := by
  refine ⟨fun h => ?_, congrArg commKey⟩
  have hfits : comm.length ≤ 16 := hcomm.le.trans (by decide)
  obtain ⟨m, hlonger | hshorter⟩ :=
    (padTo_eq_padTo (hname.trans (by decide)) hfits).mp h
  · have hlen := congrArg List.length hlonger
    rw [List.length_append, List.length_replicate, hcomm] at hlen
    obtain rfl : m = 0 := by omega
    rw [hlonger, List.replicate_zero, List.append_nil]
  · exact (eq_of_append_zeros hshorter hzero).symm

/-! ### Kernel modules -/

/-- `enum kernel_read_file_id` of the kernel. -/
inductive KernelReadFileId where
  | unknown
  | readingFirmware
  | readingModule
  | readingKexecImage
  | readingKexecInitramfs
  | readingPolicy
  | readingX509Certificate
  deriving DecidableEq

/-- The number the kernel passes to the hook. -/
def KernelReadFileId.value : KernelReadFileId → ℤ
  | .unknown => 0
  | .readingFirmware => 1
  | .readingModule => 2
  | .readingKexecImage => 3
  | .readingKexecInitramfs => 4
  | .readingPolicy => 5
  | .readingX509Certificate => 6

/-- `READING_MODULE`, as `enforce_kmod.bpf.c` defines it. -/
def readingModule : ℤ := 1

/-- `kr_kmod_enforce`, called by a thread with the name. The map `kr_kmod_allowed` is of the
type of `kr_bpf_allowed`. -/
def krKmodEnforce (allowed : Allowed) (comm : List UInt8) (id : ℤ) : ℤ :=
  if id ≠ readingModule then 0
  else
    match allowed.get (commKey comm) with
    | some ok => if ok ≠ 0 then 0 else -1
    | none => -1

lemma krKmodEnforce_of_ne (allowed : Allowed) (comm : List UInt8) {id : ℤ}
    (h : id ≠ readingModule) : krKmodEnforce allowed comm id = 0 := if_pos h

/-- Behind the test of the command or of the kind the two hooks are one. -/
lemma krKmodEnforce_eq (allowed : Allowed) (comm : List UInt8) :
    krKmodEnforce allowed comm readingModule = krBpfEnforce allowed comm progLoadCmd := rfl

/-- The hook permits or denies. -/
lemma krBpfEnforce_cases (allowed : Allowed) (comm : List UInt8) (cmd : ℤ) :
    krBpfEnforce allowed comm cmd = 0 ∨ krBpfEnforce allowed comm cmd = -1 := by
  rw [krBpfEnforce]
  split_ifs with hcmd
  · exact Or.inl rfl
  · cases allowed.get (commKey comm) with
    | none => exact Or.inr rfl
    | some ok =>
        dsimp only
        split_ifs
        · exact Or.inl rfl
        · exact Or.inr rfl

/-- A map of ones denies the names that are not in it, for the kind the hook takes for a
module. -/
lemma krKmodEnforce_eq_neg_one {allowed : Allowed} (hones : allowed.Ones) (comm : List UInt8) :
    krKmodEnforce allowed comm readingModule = -1 ↔ commKey comm ∉ allowed.dom := by
  rw [krKmodEnforce_eq, ← krBpfEnforce_eq_zero hones]
  rcases krBpfEnforce_cases allowed comm progLoadCmd with h | h
  · rw [h]
    exact iff_of_false (by decide) (not_not_intro rfl)
  · rw [h]
    exact iff_of_true rfl (by decide)

end Bpf

end Kernelradar
