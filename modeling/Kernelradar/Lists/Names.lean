import Kernelradar.Detectors.Lsm

/-!
The thread names the two enforcement hooks let through.

* `IsComm`, `Accepted`: the names of threads, and those that are accepted entries;
* `Spelled`, `exists_spelled`: an entry whose key is the key of a name;
* `Faithful`: the map of `kr_bpf_enforce` stands for its list;
* `bpf_enforce_iff`: it does unless an entry ends in zeros behind a name or another entry;
* `kmod_enforce_iff`: when `kr_kmod_enforce` decides by the kind the kernel gives to modules.
-/

namespace Kernelradar

open Library Bpf

namespace Lsm

/-- The name of a thread, without the zeros behind it. -/
def IsComm (name : List UInt8) : Prop := name.length ≤ 15 ∧ (0 : UInt8) ∉ name

instance (name : List UInt8) : Decidable (IsComm name) := inferInstanceAs (Decidable (_ ∧ _))

/-- The name is an entry that is used. -/
def Accepted (allowlist : List Text) (name : List UInt8) : Prop :=
  ∃ e ∈ allowlist, Usable e ∧ Text.utf8 e = name

instance (allowlist : List Text) (name : List UInt8) : Decidable (Accepted allowlist name) :=
  inferInstanceAs (Decidable (∃ e ∈ allowlist, _))

/-- The entry is spelled like `name` with zeros behind it, at least one. -/
def PaddedTo (name : List UInt8) (e : Text) : Prop :=
  ∃ n, Text.utf8 e = name ++ List.replicate (n + 1) 0

/-- No entry that is used is a thread name, or another entry, with zeros behind it. -/
def Unpadded (allowlist : List Text) : Prop :=
  ∀ e ∈ allowlist, Usable e → ∀ name, PaddedTo name e →
    (0 : UInt8) ∈ name ∧ ∀ e' ∈ allowlist, Text.utf8 e' ≠ name

/-! ### Keys and names -/

lemma Usable.fits {e : Text} (h : Usable e) : (Text.utf8 e).length ≤ 16 :=
  h.2.trans (by decide)

lemma IsComm.fits {name : List UInt8} (h : IsComm name) : name.length ≤ 16 :=
  h.1.trans (by decide)

lemma PaddedTo.commKey_eq {name : List UInt8} {e : Text} (h : PaddedTo name e) (he : Usable e) :
    commKey (Text.utf8 e) = commKey name := by
  obtain ⟨n, hn⟩ := h
  have hlen := congrArg List.length hn
  have hfits := he.fits
  rw [List.length_append, List.length_replicate] at hlen
  rw [hn]
  exact padTo_append_zeros (by omega)

/-- The spelling of a padded entry is longer. -/
lemma PaddedTo.length_lt {name : List UInt8} {e : Text} (h : PaddedTo name e) :
    name.length < (Text.utf8 e).length := by
  obtain ⟨n, hn⟩ := h
  rw [hn, List.length_append, List.length_replicate]
  omega

lemma PaddedTo.ne {name : List UInt8} {e : Text} (h : PaddedTo name e) : Text.utf8 e ≠ name :=
  fun heq => h.length_lt.ne' (congrArg List.length heq)

/-- An entry with the key of a thread name is the name, perhaps with zeros behind it. -/
lemma eq_or_paddedTo {e : Text} (he : Usable e) {name : List UInt8} (hname : IsComm name)
    (h : commKey (Text.utf8 e) = commKey name) : Text.utf8 e = name ∨ PaddedTo name e := by
  obtain ⟨m, hlonger | hshorter⟩ := (padTo_eq_padTo he.fits hname.fits).mp h
  · cases m with
    | zero =>
        rw [List.replicate_zero, List.append_nil] at hlonger
        exact Or.inl hlonger
    | succ m => exact Or.inr ⟨m, hlonger⟩
  · exact Or.inl (eq_of_append_zeros hshorter hname.2).symm

/-- Two entries with one key are the same, or one is padded to the other. -/
lemma eq_or_paddedTo_of_entries {e e' : Text} (he : Usable e) (he' : Usable e')
    (h : commKey (Text.utf8 e) = commKey (Text.utf8 e')) :
    e = e' ∨ PaddedTo (Text.utf8 e') e ∨ PaddedTo (Text.utf8 e) e' := by
  obtain ⟨m, h⟩ := (padTo_eq_padTo he.fits he'.fits).mp h
  cases m with
  | zero =>
      rw [List.replicate_zero, List.append_nil, List.append_nil, eq_comm (a := Text.utf8 e'),
        or_self] at h
      exact Or.inl (Text.utf8_injective h)
  | succ m => exact Or.inr (h.imp (fun h => ⟨m, h⟩) fun h => ⟨m, h⟩)

lemma Accepted.mem_keys {allowlist : List Text} {name : List UInt8} (h : Accepted allowlist name) :
    commKey name ∈ keys allowlist := by
  obtain ⟨e, hmem, hused, rfl⟩ := h
  exact commKey_mem_keys hmem hused

/-- An entry spelled like a thread name is used, unless the name is empty. -/
lemma accepted_iff {allowlist : List Text} {name : List UInt8} (hname : IsComm name) :
    Accepted allowlist name ↔ name ≠ [] ∧ ∃ e ∈ allowlist, Text.utf8 e = name := by
  constructor
  · rintro ⟨e, hmem, hused, rfl⟩
    exact ⟨hused.1, e, hmem, rfl⟩
  · rintro ⟨hne, e, hmem, rfl⟩
    exact ⟨e, hmem, ⟨hne, hname.1⟩, rfl⟩

/-- The map that a load has filled. -/
lemma dom_of_enforceMap {l : Loader} {k : Kernel} {comm : List UInt8}
    {path detector progName mapName : Text} {allowlist : List Text} {allowed : Allowed}
    (h : enforceMap l k comm path detector progName mapName allowlist = some allowed) :
    allowed.dom = keys allowlist ∧ allowed.Ones := by
  obtain ⟨hdom, hones⟩ := dom_populate (fun _ _ h => by cases h) (populate_of_enforceMap h)
  rw [Table.dom_empty, Finset.empty_union] at hdom
  exact ⟨hdom, hones⟩

/-- Entries that are not used leave no trace in the map. -/
lemma populate_filter (allowlist : List Text) : ∀ hm : Allowed,
    populateCommAllowlist hm (allowlist.filter Usable) = populateCommAllowlist hm allowlist := by
  induction allowlist with
  | nil => exact fun _ => rfl
  | cons entry allowlist ih =>
      intro hm
      by_cases hused : Usable entry
      · rw [filter_cons_of_usable hused, populate_cons_of_usable hused,
          populate_cons_of_usable hused]
        exact congrArg _ (funext ih)
      · rw [filter_cons_of_not hused, populate_cons_of_not hused, ih]

/-! ### `kr_bpf_enforce` -/

/-- The map of `kr_bpf_enforce` stands for its list: it permits the names that are entries,
no two entries have one key, and entries that are refused might as well be missing. -/
structure Faithful (allowed : Allowed) (allowlist : List Text) : Prop where
  permits : ∀ name, IsComm name → (krBpfEnforce allowed name progLoadCmd = 0 ↔
    name ≠ [] ∧ ∃ e ∈ allowlist, Text.utf8 e = name)
  apart : ∀ e ∈ allowlist, ∀ e' ∈ allowlist, Usable e → Usable e' →
    commKey (Text.utf8 e) = commKey (Text.utf8 e') → e = e'
  refused : populateCommAllowlist Table.empty (allowlist.filter Usable) = some allowed

section

variable {allowed : Allowed} {allowlist : List Text}

/-- Without padded entries the keys in the map are those of the entries. -/
lemma mem_keys_iff_accepted (h : Unpadded allowlist) {name : List UInt8} (hname : IsComm name) :
    commKey name ∈ keys allowlist ↔ Accepted allowlist name := by
  refine ⟨fun hkey => ?_, Accepted.mem_keys⟩
  obtain ⟨e, hmem, hused, hkey⟩ := mem_keys.mp hkey
  rcases eq_or_paddedTo hused hname hkey with heq | hpadded
  · exact ⟨e, hmem, hused, heq⟩
  · exact absurd (h e hmem hused name hpadded).1 hname.2

/-- Without padded entries every entry has a key of its own. -/
lemma Unpadded.apart (h : Unpadded allowlist) {e e' : Text} (hmem : e ∈ allowlist)
    (hmem' : e' ∈ allowlist) (hused : Usable e) (hused' : Usable e')
    (hkey : commKey (Text.utf8 e) = commKey (Text.utf8 e')) : e = e' := by
  rcases eq_or_paddedTo_of_entries hused hused' hkey with heq | hpadded | hpadded
  · exact heq
  · exact absurd rfl ((h e hmem hused _ hpadded).2 e' hmem')
  · exact absurd rfl ((h e' hmem' hused' _ hpadded).2 e hmem)

/-- A padded entry next to the one it is padded to. -/
lemma not_padded_entry (h : Faithful allowed allowlist) {e e' : Text} (hmem : e ∈ allowlist)
    (hmem' : e' ∈ allowlist) (hused : Usable e) (hne : Text.utf8 e' ≠ [])
    (hpadded : PaddedTo (Text.utf8 e') e) : False := by
  have hused' : Usable e' := ⟨hne, hpadded.length_lt.le.trans hused.2⟩
  have hsame := h.apart e hmem e' hmem' hused hused' (hpadded.commKey_eq hused)
  exact hpadded.ne (congrArg Text.utf8 hsame)

/-- A map that stands for its list comes from a list without padded entries. -/
lemma unpadded_of_faithful (hdom : allowed.dom = keys allowlist) (hones : allowed.Ones)
    (h : Faithful allowed allowlist) : Unpadded allowlist := by
  intro e hmem hused name hpadded
  have hlisted : ∀ e' ∈ allowlist, Text.utf8 e' = name → name = [] := by
    rintro e' hmem' rfl
    by_contra hne
    exact not_padded_entry h hmem hmem' hused hne hpadded
  -- a thread of that name is permitted, because of the entry
  have hzero : (0 : UInt8) ∈ name := by
    by_contra hfree
    have hname : IsComm name := ⟨hpadded.length_lt.le.trans hused.2, hfree⟩
    have hpermitted : krBpfEnforce allowed name progLoadCmd = 0 := by
      rw [krBpfEnforce_eq_zero hones, hdom, ← hpadded.commKey_eq hused]
      exact commKey_mem_keys hmem hused
    obtain ⟨hne, e', hmem', heq⟩ := (h.permits name hname).mp hpermitted
    exact hne (hlisted e' hmem' heq)
  refine ⟨hzero, fun e' hmem' heq => ?_⟩
  rw [hlisted e' hmem' heq] at hzero
  cases hzero

/-- **The map of `kr_bpf_enforce`**: once `load_bpf_enforce` has returned `Ok`, the hook reads
a map that stands for the list, exactly if no entry is padded. -/
theorem bpf_enforce_iff (l : Loader) (k : Kernel) (comm : List UInt8) (path : Text)
    (allowlist : List Text) (allowed : Allowed)
    (h : bpfEnforceMap l k comm path allowlist = some allowed) :
    (loadBpfEnforce l k comm path allowlist).hook = some allowed ∧
      (Faithful allowed allowlist ↔ Unpadded allowlist) := by
  obtain ⟨hdom, hones⟩ := dom_of_enforceMap h
  refine ⟨hook_of_bpfEnforceMap h, unpadded_of_faithful hdom hones, fun hunpadded => ?_⟩
  constructor
  · intro name hname
    rw [krBpfEnforce_eq_zero hones, hdom, mem_keys_iff_accepted hunpadded hname,
      accepted_iff hname]
  · exact fun e hmem e' hmem' => hunpadded.apart hmem hmem'
  · exact (populate_filter allowlist Table.empty).trans (populate_of_enforceMap h)

/-- Entries without a zero are not padded. -/
lemma unpadded_of_free (h : ∀ e ∈ allowlist, (0 : UInt8) ∉ Text.utf8 e) :
    Unpadded allowlist := by
  rintro e hmem - name ⟨n, hn⟩
  refine absurd ?_ (h e hmem)
  rw [hn]
  exact List.mem_append_right _ List.mem_cons_self

end

/-- A loader for which every object is in place, in a build without hashes. -/
def unhashed : Loader where
  btf := true
  read _ := some []
  hashes := []
  strict := false
  parses _ := true
  hasProgram _ _ := true
  verifies _ _ := true
  attaches _ _ := true
  hasMap _ _ := true

/-- The default list. -/
theorem bpf_enforce_iff_default : ∃ allowed,
    (loadBpfEnforce unhashed ⟨none, []⟩ (Text.utf8 "kernelradar") "enforce_bpf.bpf.o"
      ["bpftrace", "falco", "kernelradar"]).hook = some allowed ∧
      Faithful allowed ["bpftrace", "falco", "kernelradar"] := by
  obtain ⟨allowed, h⟩ : ∃ allowed, bpfEnforceMap unhashed ⟨none, []⟩ (Text.utf8 "kernelradar")
      "enforce_bpf.bpf.o" ["bpftrace", "falco", "kernelradar"] = some allowed := ⟨_, rfl⟩
  obtain ⟨hhook, hfaithful⟩ := bpf_enforce_iff _ _ _ _ _ _ h
  exact ⟨allowed, hhook, hfaithful.mpr (unpadded_of_free (by decide))⟩

/-- An entry of one zero permits the thread without a name, and `falco` with a zero behind it
permits `falco`. -/
theorem padded_entries_permit : ∃ allowed,
    bpfEnforceMap unhashed ⟨none, []⟩ (Text.utf8 "kernelradar") "enforce_bpf.bpf.o"
      ["\x00", "falco\x00"] = some allowed ∧
    krBpfEnforce allowed [] progLoadCmd = 0 ∧
    krBpfEnforce allowed (Text.utf8 "falco") progLoadCmd = 0 ∧
    ¬Faithful allowed ["\x00", "falco\x00"] := by
  refine ⟨_, rfl, by decide, by decide, fun h => ?_⟩
  exact ((h.permits [] (by decide)).mp (by decide)).1 rfl

/-! ### `kr_kmod_enforce` -/

/-- **The map of `kr_kmod_enforce`**: once `load_kmod_enforce` has returned `Ok`, the hook
denies the reads of modules by names that are no entries, and only these, except for the two
kinds it takes for one another: firmware is denied where no entry has the key of the name,
and a module is never denied. -/
theorem kmod_enforce_iff (l : Loader) (k : Kernel) (comm : List UInt8) (path : Text)
    (allowlist : List Text) (allowed : Allowed)
    (h : (loadKmodEnforce l k comm path allowlist).2 = some allowed) (name : List UInt8) (id : ℤ) :
    (krKmodEnforce allowed name id = -1 ↔
        id = KernelReadFileId.readingModule.value ∧ ¬Accepted allowlist name) ↔
      (id = KernelReadFileId.readingFirmware.value → commKey name ∈ keys allowlist) ∧
        (id = KernelReadFileId.readingModule.value → Accepted allowlist name) := by
  obtain ⟨hdom, hones⟩ := dom_of_enforceMap h
  have hdistinct : KernelReadFileId.readingFirmware.value ≠ KernelReadFileId.readingModule.value :=
    by decide
  by_cases hfirmware : id = KernelReadFileId.readingFirmware.value
  · -- the number of firmware is the one the hook compares with
    have hdenied : krKmodEnforce allowed name id = -1 ↔ commKey name ∉ keys allowlist := by
      rw [hfirmware, ← hdom]
      exact krKmodEnforce_eq_neg_one hones name
    rw [hdenied, hfirmware]
    simp only [hdistinct, false_and, iff_false, not_not, true_implies, false_implies, and_true]
  · have hnever : krKmodEnforce allowed name id ≠ -1 := by
      rw [krKmodEnforce_of_ne allowed name hfirmware]
      decide
    simp only [hnever, hfirmware, false_iff, not_and, not_not, false_implies, true_and]

/-- A name that is an entry, and one that is not. -/
theorem kmod_enforce_iff_default : ∃ allowed,
    (loadKmodEnforce unhashed ⟨none, []⟩ (Text.utf8 "kernelradar") "enforce_kmod.bpf.o"
      ["modprobe", "kmod", "insmod", "systemd-udevd"]).2 = some allowed ∧
    (krKmodEnforce allowed (Text.utf8 "kmod") 2 = -1 ↔
      (2 : ℤ) = KernelReadFileId.readingModule.value ∧
        ¬Accepted ["modprobe", "kmod", "insmod", "systemd-udevd"] (Text.utf8 "kmod")) := by
  refine ⟨_, rfl, ?_⟩
  exact (kmod_enforce_iff unhashed ⟨none, []⟩ (Text.utf8 "kernelradar") "enforce_kmod.bpf.o"
    ["modprobe", "kmod", "insmod", "systemd-udevd"] _ rfl (Text.utf8 "kmod") 2).mpr
    ⟨by decide, fun _ => by decide⟩

/-- A module is read although its loader is not in the list, and firmware is not. -/
theorem module_read_firmware_denied : ∃ allowed,
    (loadKmodEnforce unhashed ⟨none, []⟩ (Text.utf8 "kernelradar") "enforce_kmod.bpf.o"
      ["modprobe", "kmod", "insmod", "systemd-udevd"]).2 = some allowed ∧
    ¬Accepted ["modprobe", "kmod", "insmod", "systemd-udevd"] (Text.utf8 "evil") ∧
    krKmodEnforce allowed (Text.utf8 "evil") KernelReadFileId.readingModule.value = 0 ∧
    krKmodEnforce allowed (Text.utf8 "evil") KernelReadFileId.readingFirmware.value = -1 := by
  exact ⟨_, rfl, by decide, by decide, by decide⟩

end Lsm

end Kernelradar
