import Kernelradar.Bpf.Enforce
import Kernelradar.Detectors.Integrity

/-!
`lsm.rs` and `runtime.rs`: the objects that are loaded into the kernel, by whom, and
what the kernel answers.

* `Loader`, `Kernel`: the surroundings, and the loads with what the hook answered;
* `startProgram`, `loadLsm`, `install`: the loads, in the order of the source;
* `populate_isSome`, `dom_populate`: the map after the allowlist;
* `enforceMap`, `loadKmodEnforce`: what the loads of the two hooks return;
* `permitted_install`, `hook_install`: the kernel after `install`.

What the file system, the loader library and the verifier answer is an argument. The map
of `selfprotect.bpf.o` and the ring buffers are left out: no load reads them.
-/

namespace Kernelradar

open Library Bpf

/-- What the surroundings answer: `Btf::from_sys_fs`, the object files, the table of
hashes and the mode they are checked in, `Ebpf::load`, `program_mut`, the verifier,
`attach` and `take_map`. -/
structure Loader where
  btf : Bool
  read : Text → Option (List UInt8)
  hashes : List (Text × Text)
  strict : Bool
  parses : List UInt8 → Bool
  hasProgram : List UInt8 → Text → Bool
  verifies : List UInt8 → Text → Bool
  attaches : List UInt8 → Text → Bool
  hasMap : List UInt8 → Text → Bool

/-- A `BPF_PROG_LOAD`: the name of the thread, the program, and what the hook answered. -/
structure Load where
  comm : List UInt8
  program : Text
  answer : ℤ
  deriving DecidableEq

/-- The part of the kernel that matters: the map of `kr_bpf_enforce` while the hook is
attached, and the loads so far. -/
structure Kernel where
  hook : Option Allowed
  loads : List Load

namespace Kernel

/-- What the hook answers a thread that wants to load. -/
def answer (k : Kernel) (comm : List UInt8) : ℤ :=
  match k.hook with
  | none => 0
  | some allowed => krBpfEnforce allowed comm progLoadCmd

/-- A load of one program, and whether it succeeds. -/
def progLoad (k : Kernel) (l : Loader) (comm bytes : List UInt8) (program : Text) :
    Kernel × Bool :=
  ({ k with loads := k.loads ++ [⟨comm, program, k.answer comm⟩] },
    k.answer comm = 0 && l.verifies bytes program)

end Kernel

/-- An object file as both loaders begin: read, checked, parsed. -/
def Loader.openObject (l : Loader) (name path : Text) : Option (List UInt8) :=
  match l.read path with
  | none => none
  | some bytes =>
      match Integrity.verify l.hashes l.strict name bytes with
      | .error _ => none
      | .ok () => if l.parses bytes then some bytes else none

/-- One program of an object that is open: `program_mut`, `load`, `attach`. -/
def Loader.startProgram (l : Loader) (k : Kernel) (comm bytes : List UInt8) (program : Text) :
    Kernel × Bool :=
  if l.hasProgram bytes program then
    let (k', ok) := k.progLoad l comm bytes program
    (k', ok && l.attaches bytes program)
  else (k, false)

namespace Kernel

/-- No load was denied. -/
def Permitted (k : Kernel) : Prop := ∀ ld ∈ k.loads, ld.answer = 0

variable {l : Loader} {k : Kernel} {comm bytes : List UInt8} {program : Text}

@[simp] lemma hook_startProgram : (l.startProgram k comm bytes program).1.hook = k.hook := by
  rw [Loader.startProgram]
  split_ifs <;> rfl

/-- A program that is in the object makes one load. -/
lemma loads_startProgram (h : l.hasProgram bytes program = true) :
    (l.startProgram k comm bytes program).1.loads
      = k.loads ++ [⟨comm, program, k.answer comm⟩] := by
  rw [Loader.startProgram, if_pos h]
  rfl

lemma startProgram_of_not (h : l.hasProgram bytes program = false) :
    l.startProgram k comm bytes program = (k, false) := by
  rw [Loader.startProgram, h]
  rfl

/-- A thread that is permitted starts its program without a denied load. -/
lemma permitted_startProgram (hk : k.Permitted)
    (h : l.hasProgram bytes program = true → k.answer comm = 0) :
    (l.startProgram k comm bytes program).1.Permitted := by
  cases hprog : l.hasProgram bytes program with
  | false => rwa [startProgram_of_not hprog]
  | true =>
      intro ld hld
      rw [loads_startProgram hprog] at hld
      rcases List.mem_append.mp hld with hold | hnew
      · exact hk ld hold
      · rw [List.mem_singleton.mp hnew]
        exact h hprog

lemma answer_of_none (h : k.hook = none) (comm : List UInt8) : k.answer comm = 0 := by
  rw [answer, h]

/-- A permitted thread starts its program if the verifier and the kernel take it. -/
lemma startProgram_ok (h : k.answer comm = 0) : (l.startProgram k comm bytes program).2
    = (l.hasProgram bytes program && l.verifies bytes program && l.attaches bytes program) := by
  cases hprog : l.hasProgram bytes program with
  | false => rw [startProgram_of_not hprog, Bool.false_and, Bool.false_and]
  | true =>
      rw [Loader.startProgram, if_pos hprog, progLoad, h]
      rfl

end Kernel

namespace Lsm

/-- `EnforcementConfig`. -/
structure EnforcementConfig where
  selfprotectEnabled : Bool := false
  bpfEnforceEnabled : Bool := false
  kmodEnforceEnabled : Bool := false
  selfprotectObjPath : Text := "/var/lib/kernelradar/bpf/selfprotect.bpf.o"
  bpfEnforceObjPath : Text := "/var/lib/kernelradar/bpf/enforce_bpf.bpf.o"
  kmodEnforceObjPath : Text := "/var/lib/kernelradar/bpf/enforce_kmod.bpf.o"
  bpfAllowlist : List Text := ["bpftrace", "falco", "kernelradar"]
  kmodAllowlist : List Text := ["modprobe", "kmod", "insmod", "systemd-udevd"]

/-- `load_lsm`, by a thread with the name. -/
def loadLsm (l : Loader) (k : Kernel) (comm : List UInt8) (path detector progName : Text) :
    Kernel × Option (List UInt8) :=
  match l.openObject detector path with
  | none => (k, none)
  | some bytes =>
      let (k', ok) := l.startProgram k comm bytes progName
      (k', if ok then some bytes else none)

/-- `populate_comm_allowlist`. -/
def populateCommAllowlist (hm : Allowed) : List Text → Option Allowed
  | [] => some hm
  | entry :: allowlist =>
      let bytes := Text.utf8 entry
      if bytes = [] then populateCommAllowlist hm allowlist
      else if 15 < bytes.length then populateCommAllowlist hm allowlist
      else
        match hm.update (padTo 16 bytes) 1 with
        | none => none
        | some hm' => populateCommAllowlist hm' allowlist

@[simp] lemma hook_loadLsm (l : Loader) (k : Kernel) (comm : List UInt8) (path name prog : Text) :
    (loadLsm l k comm path name prog).1.hook = k.hook := by
  rw [loadLsm]
  cases l.openObject name path with
  | none => rfl
  | some bytes => exact Kernel.hook_startProgram

lemma permitted_loadLsm {l : Loader} {k : Kernel} {comm : List UInt8} (hk : k.Permitted)
    (h : k.answer comm = 0) (path name prog : Text) :
    (loadLsm l k comm path name prog).1.Permitted := by
  rw [loadLsm]
  cases l.openObject name path with
  | none => exact hk
  | some bytes => exact Kernel.permitted_startProgram hk fun _ => h

/-- The entries that are used: neither empty nor too long. -/
def Usable (entry : Text) : Prop := Text.utf8 entry ≠ [] ∧ (Text.utf8 entry).length ≤ 15

instance : DecidablePred Usable := fun entry => by
  unfold Usable
  infer_instance

/-- The keys of the entries that are used. -/
def keys (allowlist : List Text) : Finset (List UInt8) :=
  ((allowlist.filter Usable).map fun e => commKey (Text.utf8 e)).toFinset

/-- A key comes from an entry that is used. -/
lemma mem_keys {key : List UInt8} {allowlist : List Text} :
    key ∈ keys allowlist ↔ ∃ e ∈ allowlist, Usable e ∧ commKey (Text.utf8 e) = key := by
  rw [keys, List.mem_toFinset, List.mem_map]
  constructor
  · rintro ⟨e, he, hkey⟩
    obtain ⟨hmem, hused⟩ := List.mem_filter.mp he
    exact ⟨e, hmem, of_decide_eq_true hused, hkey⟩
  · rintro ⟨e, hmem, hused, hkey⟩
    exact ⟨e, List.mem_filter.mpr ⟨hmem, decide_eq_true hused⟩, hkey⟩

lemma commKey_mem_keys {entry : Text} {allowlist : List Text} (h : entry ∈ allowlist)
    (hused : Usable entry) : commKey (Text.utf8 entry) ∈ keys allowlist :=
  mem_keys.mpr ⟨entry, h, hused, rfl⟩

/-- A name of fifteen bytes is in the map only if it is in the list. -/
lemma mem_of_commKey_mem_keys {entry : Text} {allowlist : List Text}
    (hlen : (Text.utf8 entry).length = 15) (hzero : (0 : UInt8) ∉ Text.utf8 entry)
    (h : commKey (Text.utf8 entry) ∈ keys allowlist) : entry ∈ allowlist := by
  obtain ⟨e, hmem, hused, hkey⟩ := mem_keys.mp h
  have hbytes := (commKey_inj hused.2 hlen hzero).mp hkey
  exact Text.utf8_injective hbytes ▸ hmem

lemma filter_cons_of_usable {entry : Text} (h : Usable entry) (allowlist : List Text) :
    (entry :: allowlist).filter Usable = entry :: allowlist.filter Usable :=
  List.filter_cons_of_pos (decide_eq_true h)

lemma filter_cons_of_not {entry : Text} (h : ¬Usable entry) (allowlist : List Text) :
    (entry :: allowlist).filter Usable = allowlist.filter Usable :=
  List.filter_cons_of_neg (mt of_decide_eq_true h)

lemma keys_cons_of_usable {entry : Text} (h : Usable entry) (allowlist : List Text) :
    keys (entry :: allowlist) = insert (commKey (Text.utf8 entry)) (keys allowlist) := by
  rw [keys, filter_cons_of_usable h, List.map_cons, List.toFinset_cons, keys]

lemma keys_cons_of_not {entry : Text} (h : ¬Usable entry) (allowlist : List Text) :
    keys (entry :: allowlist) = keys allowlist := by
  rw [keys, filter_cons_of_not h, keys]

lemma populate_cons_of_usable {entry : Text} (h : Usable entry) (hm : Allowed)
    (allowlist : List Text) : populateCommAllowlist hm (entry :: allowlist)
      = (hm.update (commKey (Text.utf8 entry)) 1).bind fun hm' =>
          populateCommAllowlist hm' allowlist := by
  rw [populateCommAllowlist, if_neg h.1, if_neg (Nat.not_lt.mpr h.2), commKey]
  cases hm.update (padTo 16 (Text.utf8 entry)) 1 <;> rfl

lemma populate_cons_of_not {entry : Text} (h : ¬Usable entry) (hm : Allowed)
    (allowlist : List Text) :
    populateCommAllowlist hm (entry :: allowlist) = populateCommAllowlist hm allowlist := by
  rw [populateCommAllowlist]
  split_ifs with hempty hlong
  · rfl
  · rfl
  · exact absurd ⟨hempty, Nat.not_lt.mp hlong⟩ h

/-- The map holds the keys, each with a one. -/
lemma dom_populate {allowlist : List Text} {hm hm' : Allowed} (hones : hm.Ones)
    (h : populateCommAllowlist hm allowlist = some hm') :
    hm'.dom = hm.dom ∪ keys allowlist ∧ hm'.Ones := by
  induction allowlist generalizing hm with
  | nil =>
      cases h
      exact ⟨(Finset.union_empty _).symm, hones⟩
  | cons entry allowlist ih =>
      by_cases hused : Usable entry
      · rw [populate_cons_of_usable hused] at h
        obtain ⟨hm₁, hupdate, h⟩ := Option.bind_eq_some_iff.mp h
        obtain rfl := Allowed.update_eq_some hupdate
        obtain ⟨hdom, hones'⟩ := ih (hones.insert _) h
        refine ⟨?_, hones'⟩
        rw [hdom, Table.dom_insert, keys_cons_of_usable hused, Finset.insert_union,
          Finset.union_insert]
      · rw [populate_cons_of_not hused] at h
        rw [keys_cons_of_not hused]
        exact ih hones h

/-- The list fits if it has no more keys than the map has entries. -/
lemma populate_isSome {allowlist : List Text} {hm : Allowed} (hroom : hm.len ≤ maxEntries) :
    (populateCommAllowlist hm allowlist).isSome ↔
      (hm.dom ∪ keys allowlist).card ≤ maxEntries := by
  induction allowlist generalizing hm with
  | nil =>
      have hdom : hm.dom ∪ keys [] = hm.dom := Finset.union_empty _
      rw [hdom]
      exact iff_of_true rfl hroom
  | cons entry allowlist ih =>
      by_cases hused : Usable entry
      · have hunion : hm.dom ∪ keys (entry :: allowlist)
            = (hm.insert (commKey (Text.utf8 entry)) 1).dom ∪ keys allowlist := by
          rw [Table.dom_insert, keys_cons_of_usable hused, Finset.insert_union,
            Finset.union_insert]
        rw [populate_cons_of_usable hused, hunion]
        cases hupdate : hm.update (commKey (Text.utf8 entry)) 1 with
        | none =>
            have hfull := (Allowed.update_isSome hroom (commKey (Text.utf8 entry)) 1).not.mp
              (by rw [hupdate]; exact Bool.false_ne_true)
            refine iff_of_false Bool.false_ne_true fun hle => hfull (le_trans ?_ hle)
            exact Finset.card_le_card Finset.subset_union_left
        | some hm₁ =>
            obtain rfl := Allowed.update_eq_some hupdate
            exact ih ((Allowed.update_isSome hroom _ _).mp (by rw [hupdate]; rfl))
      · rw [populate_cons_of_not hused, keys_cons_of_not hused]
        exact ih hroom

/-- `load_bpf_enforce`. The hook answers from when it is attached; an error after that
drops the object, and the hook with it. -/
def loadBpfEnforce (l : Loader) (k : Kernel) (comm : List UInt8) (path : Text)
    (allowlist : List Text) : Kernel :=
  match loadLsm l k comm path "enforce_bpf" "kr_bpf_enforce" with
  | (k', none) => k'
  | (k', some bytes) =>
      if l.hasMap bytes "kr_bpf_allowed" then
        { k' with hook := populateCommAllowlist Table.empty allowlist }
      else { k' with hook := none }

/-- What `load_bpf_enforce` and `load_kmod_enforce` return, by a thread with the name: the map
of the object, filled from the list, if they return `Ok`. -/
def enforceMap (l : Loader) (k : Kernel) (comm : List UInt8) (path detector progName mapName : Text)
    (allowlist : List Text) : Option Allowed :=
  match (loadLsm l k comm path detector progName).2 with
  | none => none
  | some bytes =>
      if l.hasMap bytes mapName then populateCommAllowlist Table.empty allowlist else none

/-- The map of `load_bpf_enforce`. -/
def bpfEnforceMap (l : Loader) (k : Kernel) (comm : List UInt8) (path : Text)
    (allowlist : List Text) : Option Allowed :=
  enforceMap l k comm path "enforce_bpf" "kr_bpf_enforce" "kr_bpf_allowed" allowlist

/-- `load_kmod_enforce`: the kernel, and the map of its object. -/
def loadKmodEnforce (l : Loader) (k : Kernel) (comm : List UInt8) (path : Text)
    (allowlist : List Text) : Kernel × Option Allowed :=
  ((loadLsm l k comm path "enforce_kmod" "kr_kmod_enforce").1,
    enforceMap l k comm path "enforce_kmod" "kr_kmod_enforce" "kr_kmod_allowed" allowlist)

/-- A load that returns `Ok` has filled its map from the list. -/
lemma populate_of_enforceMap {l : Loader} {k : Kernel} {comm : List UInt8}
    {path detector progName mapName : Text} {allowlist : List Text} {allowed : Allowed}
    (h : enforceMap l k comm path detector progName mapName allowlist = some allowed) :
    populateCommAllowlist Table.empty allowlist = some allowed := by
  rw [enforceMap] at h
  cases hr : (loadLsm l k comm path detector progName).2 with
  | none =>
      rw [hr] at h
      cases h
  | some bytes =>
      rw [hr] at h
      dsimp only at h
      split_ifs at h
      exact h

/-- The map the hook reads once `load_bpf_enforce` has returned `Ok`. -/
lemma hook_of_bpfEnforceMap {l : Loader} {k : Kernel} {comm : List UInt8} {path : Text}
    {allowlist : List Text} {allowed : Allowed}
    (h : bpfEnforceMap l k comm path allowlist = some allowed) :
    (loadBpfEnforce l k comm path allowlist).hook = some allowed := by
  rw [bpfEnforceMap, enforceMap] at h
  rw [loadBpfEnforce]
  cases hr : loadLsm l k comm path "enforce_bpf" "kr_bpf_enforce" with
  | mk k' r =>
      rw [hr] at h
      cases r with
      | none => cases h
      | some bytes =>
          dsimp only at h ⊢
          split_ifs at h with hmap
          rw [if_pos hmap]
          exact h

/-- The hook is attached and stays attached: the object is there and intact, with its
program and its map, the kernel takes it, and the list fits into the map. -/
def Enforced (l : Loader) (path : Text) (allowlist : List Text) : Prop :=
  ∃ bytes, l.openObject "enforce_bpf" path = some bytes ∧
    (l.hasProgram bytes "kr_bpf_enforce" && l.verifies bytes "kr_bpf_enforce" &&
      l.attaches bytes "kr_bpf_enforce") = true ∧
    l.hasMap bytes "kr_bpf_allowed" = true ∧ (keys allowlist).card ≤ maxEntries

/-- The hook has the keys of a list in its map. -/
def Hooked (k : Kernel) (allowlist : List Text) : Prop :=
  ∃ allowed : Allowed, k.hook = some allowed ∧ allowed.dom = keys allowlist ∧ allowed.Ones

/-- Who is permitted then. -/
lemma Hooked.answer_eq_zero {k : Kernel} {allowlist : List Text} (h : Hooked k allowlist)
    (comm : List UInt8) : k.answer comm = 0 ↔ commKey comm ∈ keys allowlist := by
  obtain ⟨allowed, hhook, hdom, hones⟩ := h
  rw [Kernel.answer, hhook, ← hdom]
  exact krBpfEnforce_eq_zero hones comm

/-- A thread whose name is in the list is permitted, hook or no hook. -/
lemma answer_of_listed {k : Kernel} {name : Text} {allowlist : List Text} {P : Prop}
    (hused : Usable name) (hmem : name ∈ allowlist) (hattached : P → Hooked k allowlist)
    (hdropped : ¬P → k.hook = none) : k.answer (Text.utf8 name) = 0 := by
  by_cases h : P
  · exact ((hattached h).answer_eq_zero _).mpr (commKey_mem_keys hmem hused)
  · exact Kernel.answer_of_none (hdropped h) _

lemma permitted_loadBpfEnforce {l : Loader} {k : Kernel} {comm : List UInt8} (hk : k.Permitted)
    (h : k.hook = none) (path : Text) (allowlist : List Text) :
    (loadBpfEnforce l k comm path allowlist).Permitted := by
  have hload := permitted_loadLsm (l := l) hk (Kernel.answer_of_none h comm) path "enforce_bpf"
    "kr_bpf_enforce"
  rw [loadBpfEnforce]
  cases hr : loadLsm l k comm path "enforce_bpf" "kr_bpf_enforce" with
  | mk k' r =>
      rw [hr] at hload
      cases r with
      | none => exact hload
      | some bytes =>
          dsimp only
          split_ifs <;> exact hload

/-- The load of `kr_bpf_enforce` itself: nothing is attached yet that could deny it. -/
lemma loadLsm_bytes {l : Loader} {k : Kernel} {comm bytes : List UInt8} (h : k.hook = none)
    {path name prog : Text} : (loadLsm l k comm path name prog).2 = some bytes ↔
      l.openObject name path = some bytes ∧
        (l.hasProgram bytes prog && l.verifies bytes prog && l.attaches bytes prog) = true := by
  rw [loadLsm]
  cases l.openObject name path with
  | none => exact iff_of_false nofun nofun
  | some bytes' =>
      have hok : (l.startProgram k comm bytes' prog).2
          = (l.hasProgram bytes' prog && l.verifies bytes' prog && l.attaches bytes' prog) :=
        Kernel.startProgram_ok (Kernel.answer_of_none h comm)
      dsimp only
      rw [hok]
      split_ifs with hstart
      · rw [Option.some.injEq]
        exact ⟨fun heq => ⟨heq, heq ▸ hstart⟩, And.left⟩
      · exact iff_of_false nofun fun ⟨heq, hb⟩ => hstart (Option.some.inj heq ▸ hb)

/-- A hook whose map is filled from the list. -/
lemma hooked_populate (k : Kernel) (allowlist : List Text) : if (keys allowlist).card ≤ maxEntries
    then Hooked { k with hook := populateCommAllowlist Table.empty allowlist } allowlist
    else populateCommAllowlist Table.empty allowlist = none := by
  have hfits : (populateCommAllowlist Table.empty allowlist).isSome ↔
      ((Table.empty : Allowed).dom ∪ keys allowlist).card ≤ maxEntries :=
    populate_isSome (Nat.zero_le _)
  rw [Table.dom_empty, Finset.empty_union] at hfits
  split_ifs with hroom
  · obtain ⟨allowed, hallowed⟩ := Option.isSome_iff_exists.mp (hfits.mpr hroom)
    obtain ⟨hdom, hones⟩ := dom_populate (fun _ _ h => by cases h) hallowed
    rw [Table.dom_empty, Finset.empty_union] at hdom
    exact ⟨allowed, hallowed, hdom, hones⟩
  · exact Option.not_isSome_iff_eq_none.mp (mt hfits.mp hroom)

/-- The hook after `load_bpf_enforce`. -/
lemma hook_loadBpfEnforce (l : Loader) {k : Kernel} (comm : List UInt8) (h : k.hook = none)
    (path : Text) (allowlist : List Text) :
    (Enforced l path allowlist → Hooked (loadBpfEnforce l k comm path allowlist) allowlist) ∧
      (¬Enforced l path allowlist → (loadBpfEnforce l k comm path allowlist).hook = none) := by
  have hhook := hook_loadLsm l k comm path "enforce_bpf" "kr_bpf_enforce"
  have hbytes (bytes : List UInt8) :
      (loadLsm l k comm path "enforce_bpf" "kr_bpf_enforce").2 = some bytes ↔
        l.openObject "enforce_bpf" path = some bytes ∧
          (l.hasProgram bytes "kr_bpf_enforce" && l.verifies bytes "kr_bpf_enforce" &&
            l.attaches bytes "kr_bpf_enforce") = true := loadLsm_bytes h
  rw [loadBpfEnforce]
  cases hr : loadLsm l k comm path "enforce_bpf" "kr_bpf_enforce" with
  | mk k' r =>
      rw [hr] at hhook hbytes
      cases r with
      | none =>
          refine ⟨fun ⟨bytes, hopen, hstart, _⟩ => ?_, fun _ => hhook.trans h⟩
          cases (hbytes bytes).mpr ⟨hopen, hstart⟩
      | some bytes =>
          have hmapped := hooked_populate k' allowlist
          dsimp only
          split_ifs with hmap
          · split_ifs at hmapped with hroom
            · obtain ⟨hopen, hstart⟩ := (hbytes bytes).mp rfl
              exact ⟨fun _ => hmapped, fun h => absurd ⟨bytes, hopen, hstart, hmap, hroom⟩ h⟩
            · exact ⟨fun ⟨_, _, _, _, hle⟩ => absurd hle hroom, fun _ => hmapped⟩
          · refine ⟨fun ⟨bytes', hopen, hstart, hmap', _⟩ => ?_, fun _ => rfl⟩
            obtain rfl := Option.some.inj ((hbytes bytes').mpr ⟨hopen, hstart⟩)
            exact absurd hmap' hmap

/-- `install`, by a thread with the name. -/
def install (l : Loader) (comm : List UInt8) (cfg : EnforcementConfig) (k : Kernel) : Kernel :=
  if l.btf then
    let k₁ := if cfg.selfprotectEnabled then
      (loadLsm l k comm cfg.selfprotectObjPath "selfprotect" "kr_task_kill").1 else k
    let k₂ := if cfg.bpfEnforceEnabled then
      loadBpfEnforce l k₁ comm cfg.bpfEnforceObjPath cfg.bpfAllowlist else k₁
    if cfg.kmodEnforceEnabled then
      (loadLsm l k₂ comm cfg.kmodEnforceObjPath "enforce_kmod" "kr_kmod_enforce").1 else k₂
  else k

/-- An object of `install` that is not the hook. -/
lemma optional_loadLsm (l : Loader) {k : Kernel} {comm : List UInt8} (hk : k.Permitted)
    (h : k.answer comm = 0) (enabled : Bool) (path name prog : Text) :
    (if enabled = true then (loadLsm l k comm path name prog).1 else k).Permitted ∧
      (if enabled = true then (loadLsm l k comm path name prog).1 else k).hook = k.hook := by
  split_ifs
  · exact ⟨permitted_loadLsm hk h path name prog, hook_loadLsm l k comm path name prog⟩
  · exact ⟨hk, rfl⟩

/-- The hook is attached when the daemon has started. -/
def Attached (l : Loader) (cfg : EnforcementConfig) : Prop :=
  l.btf = true ∧ cfg.bpfEnforceEnabled = true ∧
    Enforced l cfg.bpfEnforceObjPath cfg.bpfAllowlist

/-- The hook of `install`. -/
lemma optional_loadBpfEnforce (l : Loader) {k : Kernel} (comm : List UInt8) (hk : k.Permitted)
    (h : k.hook = none) (enabled : Bool) (path : Text) (allowlist : List Text) :
    (if enabled = true then loadBpfEnforce l k comm path allowlist else k).Permitted ∧
      (enabled = true ∧ Enforced l path allowlist →
        Hooked (if enabled = true then loadBpfEnforce l k comm path allowlist else k) allowlist) ∧
      (¬(enabled = true ∧ Enforced l path allowlist) →
        (if enabled = true then loadBpfEnforce l k comm path allowlist else k).hook = none) := by
  obtain ⟨hattached, hdropped⟩ := hook_loadBpfEnforce l comm h path allowlist
  split_ifs with henabled
  · exact ⟨permitted_loadBpfEnforce hk h path allowlist, fun he => hattached he.2,
      fun he => hdropped fun hen => he ⟨henabled, hen⟩⟩
  · exact ⟨hk, fun he => absurd he.1 henabled, fun _ => h⟩

/-- What `install` leaves behind if the thread itself is in the list: no load was denied,
and the hook is there exactly if it should be. -/
lemma install_spec {l : Loader} {me : Text} {cfg : EnforcementConfig} (hused : Usable me)
    (hself : me ∈ cfg.bpfAllowlist) {k : Kernel} (hk : k.Permitted) (hhook : k.hook = none) :
    (install l (Text.utf8 me) cfg k).Permitted ∧
      (Attached l cfg → Hooked (install l (Text.utf8 me) cfg k) cfg.bpfAllowlist) ∧
      (¬Attached l cfg → (install l (Text.utf8 me) cfg k).hook = none) := by
  cases hbtf : l.btf with
  | false =>
      rw [install, hbtf, if_neg Bool.false_ne_true]
      exact ⟨hk, fun h => absurd (hbtf.symm.trans h.1) Bool.false_ne_true, fun _ => hhook⟩
  | true =>
      have hsplit : Attached l cfg ↔ cfg.bpfEnforceEnabled = true ∧
          Enforced l cfg.bpfEnforceObjPath cfg.bpfAllowlist := and_iff_right hbtf
      rw [install, if_pos hbtf, hsplit]
      obtain ⟨hk₁, hhook₁⟩ := optional_loadLsm l hk (Kernel.answer_of_none hhook (Text.utf8 me))
        cfg.selfprotectEnabled cfg.selfprotectObjPath "selfprotect" "kr_task_kill"
      obtain ⟨hk₂, hattached, hdropped⟩ := optional_loadBpfEnforce l (Text.utf8 me)
        hk₁ (hhook₁.trans hhook) cfg.bpfEnforceEnabled cfg.bpfEnforceObjPath cfg.bpfAllowlist
      -- the thread itself is permitted under the hook
      have hme := answer_of_listed hused hself hattached hdropped
      obtain ⟨hk₃, hhook₃⟩ := optional_loadLsm l hk₂ hme cfg.kmodEnforceEnabled
        cfg.kmodEnforceObjPath "enforce_kmod" "kr_kmod_enforce"
      refine ⟨hk₃, fun he => ?_, fun he => hhook₃.trans (hdropped he)⟩
      obtain ⟨allowed, hallowed, hrest⟩ := hattached he
      exact ⟨allowed, hhook₃.trans hallowed, hrest⟩

end Lsm

end Kernelradar
