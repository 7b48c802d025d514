import Mathlib.Data.Fintype.Basic
import Kernelradar.Core.Event
import Kernelradar.Library.Bytes
import Kernelradar.Library.Layout

/-!
A `kr_event` as bytes: what a BPF program stores into a reserved record, and what the loop in
`runtime.rs` and `lsm.rs` reads out of it.

* `Field`, `members`: the members of the struct, which `events.h` and `event.rs` declare in the
  same order; `krEvent_layout`: 80 bytes, with alignment 8, as a test of `event.rs` asserts;
* `submitted`: a record after the stores of a program, over whatever the ring buffer had there;
* `readUnaligned`, `parseItem`: the reader, behind its test of the length;
* `readUnaligned_submitted`: the reader sees the stored members, and stale bytes in the others.
-/

namespace Kernelradar

open Library

namespace KrEvent

/-- The members of `kr_event`; the elements of `data` are members of their own. -/
inductive Field where
  | timestampNs
  | pid
  | tid
  | uid
  | gid
  | comm
  | detectorId
  | severity
  | eventType
  | data (i : Fin 4)
  deriving DecidableEq

/-- The types of the members, in the order of the struct: `__u64`, four `__u32`,
`__u8 comm[16]`, two `__u8`, `__u16`, and four `__u64`. -/
def members : List Member :=
  [⟨8, 8⟩, ⟨4, 4⟩, ⟨4, 4⟩, ⟨4, 4⟩, ⟨4, 4⟩, ⟨16, 1⟩, ⟨1, 1⟩, ⟨1, 1⟩, ⟨2, 2⟩, ⟨8, 8⟩, ⟨8, 8⟩, ⟨8, 8⟩,
    ⟨8, 8⟩]

namespace Field

/-- The number of a member. -/
def index : Field → ℕ
  | timestampNs => 0
  | pid => 1
  | tid => 2
  | uid => 3
  | gid => 4
  | comm => 5
  | detectorId => 6
  | severity => 7
  | eventType => 8
  | data i => 9 + i

/-- The size of a member. -/
def size (f : Field) : ℕ := (members[f.index]?.map Member.size).getD 0

/-- The place of a member. -/
def offset (f : Field) : ℕ := ((placesFrom 0 members)[f.index]?.map Prod.fst).getD 0

/-- All members, in order. -/
def all : List Field :=
  [timestampNs, pid, tid, uid, gid, comm, detectorId, severity, eventType, data 0, data 1, data 2,
    data 3]

lemma mem_all (f : Field) : f ∈ all := by
  cases f with
  | data i =>
      revert i
      decide
  | _ => decide

lemma index_injective : Function.Injective index := by
  have h : ∀ f ∈ all, ∀ g ∈ all, index f = index g → f = g := by decide
  exact fun f g => h f (mem_all f) g (mem_all g)

lemma size_data (i : Fin 4) : (data i).size = 8 := by
  revert i
  decide

/-- A member is where the layout puts it. -/
lemma place_eq (f : Field) :
    (placesFrom 0 members)[f.index]?.map (fun p => (p.1, p.2.size)) = some (f.offset, f.size) := by
  have h : ∀ f ∈ all, (placesFrom 0 members)[f.index]?.map (fun p => (p.1, p.2.size))
      = some (f.offset, f.size) := by decide
  exact h f (mem_all f)

/-- A member ends inside the record. -/
lemma end_le (f : Field) : f.offset + f.size ≤ 80 := by
  have h : ∀ f ∈ all, f.offset + f.size ≤ 80 := by decide
  exact h f (mem_all f)

/-- A member lies in front of those that come after it in the struct. -/
lemma before_of_lt {f g : Field} (h : f.index < g.index) : f.offset + f.size ≤ g.offset := by
  obtain ⟨p, hp, hpf⟩ := Option.map_eq_some_iff.mp f.place_eq
  obtain ⟨q, hq, hqg⟩ := Option.map_eq_some_iff.mp g.place_eq
  obtain ⟨hi, hpi⟩ := List.getElem?_eq_some_iff.mp hp
  obtain ⟨hj, hqj⟩ := List.getElem?_eq_some_iff.mp hq
  have hpos : ∀ m ∈ members, 0 < m.align := by decide
  have hapart := List.pairwise_iff_getElem.mp (places_apart hpos 0) f.index g.index hi hj h
  obtain ⟨hoff, hsize⟩ := Prod.mk.inj hpf
  rw [hpi, hqj, hoff, hsize, (Prod.mk.inj hqg).1] at hapart
  exact hapart

/-- Two members have no byte in common. -/
lemma clear_of_ne {f g : Field} (h : f ≠ g) : Clear f.offset f.size g.offset g.size := by
  rcases Nat.lt_or_gt_of_ne fun heq => h (index_injective heq) with hlt | hgt
  · exact Or.inl (before_of_lt hlt)
  · exact Or.inr (before_of_lt hgt)

end Field

/-- **The size**: 80 bytes at a multiple of eight, four of them padding. -/
theorem krEvent_layout : structSize members = 80 ∧ structAlign members = 8 ∧
    (members.map Member.size).sum = 76 := by decide

/-- The bytes of a member. -/
def bytes (ev : KrEvent) : Field → List UInt8
  | .timestampNs => leBytes 8 ev.timestampNs.toNat
  | .pid => leBytes 4 ev.pid.toNat
  | .tid => leBytes 4 ev.tid.toNat
  | .uid => leBytes 4 ev.uid.toNat
  | .gid => leBytes 4 ev.gid.toNat
  | .comm => ev.comm.toList
  | .detectorId => leBytes 1 ev.detectorId.toNat
  | .severity => leBytes 1 ev.severity.toNat
  | .eventType => leBytes 2 ev.eventType.toNat
  | .data i => leBytes 8 ev.data[i].toNat

lemma length_bytes (ev : KrEvent) (f : Field) : (ev.bytes f).length = f.size := by
  cases f with
  | comm => exact Vector.length_toList
  | data i => exact (leBytes_length 8 _).trans (Field.size_data i).symm
  | timestampNs => exact leBytes_length 8 _
  | pid => exact leBytes_length 4 _
  | tid => exact leBytes_length 4 _
  | uid => exact leBytes_length 4 _
  | gid => exact leBytes_length 4 _
  | detectorId => exact leBytes_length 1 _
  | severity => exact leBytes_length 1 _
  | eventType => exact leBytes_length 2 _

/-! ### The record -/

/-- The stores of a program that fills in some of the members. -/
def writes (ev : KrEvent) (fields : List Field) : List (ℕ × List UInt8) :=
  fields.map fun f => (f.offset, ev.bytes f)

/-- A reserved record after the stores; `mem` is what the ring buffer had there. -/
def submitted (mem : List UInt8) (fields : List Field) (ev : KrEvent) : List UInt8 :=
  stores mem (ev.writes fields)

/-- A member of the record at the start of some bytes, as a number. -/
def number (item : List UInt8) (f : Field) : ℕ := leNat (fetch item f.offset f.size)

/-- `std::ptr::read_unaligned(item.as_ptr() as *const KrEvent)`. -/
def readUnaligned (item : List UInt8) : KrEvent where
  timestampNs := UInt64.ofNat (number item .timestampNs)
  pid := UInt32.ofNat (number item .pid)
  tid := UInt32.ofNat (number item .tid)
  uid := UInt32.ofNat (number item .uid)
  gid := UInt32.ofNat (number item .gid)
  comm := Vector.ofFn fun i => ((fetch item Field.comm.offset Field.comm.size)[i.val]?).getD 0
  detectorId := UInt8.ofNat (number item .detectorId)
  severity := UInt8.ofNat (number item .severity)
  eventType := UInt16.ofNat (number item .eventType)
  data := Vector.ofFn fun i => UInt64.ofNat (number item (.data i))

/-- The reader: an item that is too short is skipped. -/
def parseItem (item : List UInt8) : Option KrEvent :=
  if item.length < structSize members then none else some (readUnaligned item)

/-- An event is determined by its members. -/
lemma ext_bytes {a b : KrEvent} (h : ∀ f, a.bytes f = b.bytes f) : a = b := by
  have hnat {n x y : ℕ} (hx : x < 256 ^ n) (hy : y < 256 ^ n) (hxy : leBytes n x = leBytes n y) :
      x = y := by
    have := congrArg leNat hxy
    rwa [leNat_leBytes, leNat_leBytes, Nat.mod_eq_of_lt hx, Nat.mod_eq_of_lt hy] at this
  have h64 {x y : UInt64} (hxy : leBytes 8 x.toNat = leBytes 8 y.toNat) : x = y :=
    UInt64.toNat_inj.mp (hnat x.toNat_lt y.toNat_lt hxy)
  have h32 {x y : UInt32} (hxy : leBytes 4 x.toNat = leBytes 4 y.toNat) : x = y :=
    UInt32.toNat_inj.mp (hnat x.toNat_lt y.toNat_lt hxy)
  have h16 {x y : UInt16} (hxy : leBytes 2 x.toNat = leBytes 2 y.toNat) : x = y :=
    UInt16.toNat_inj.mp (hnat x.toNat_lt y.toNat_lt hxy)
  have h8 {x y : UInt8} (hxy : leBytes 1 x.toNat = leBytes 1 y.toNat) : x = y :=
    UInt8.toNat_inj.mp (hnat x.toNat_lt y.toNat_lt hxy)
  have hcomm : a.comm = b.comm := Vector.toList_inj.mp (h .comm)
  have hdata : a.data = b.data := Vector.ext fun i hi => h64 (h (.data ⟨i, hi⟩))
  cases a
  cases b
  simp only [KrEvent.mk.injEq]
  exact ⟨h64 (h .timestampNs), h32 (h .pid), h32 (h .tid), h32 (h .uid), h32 (h .gid), hcomm,
    h8 (h .detectorId), h8 (h .severity), h16 (h .eventType), hdata⟩

/-- The members that are read are the bytes at their places. -/
lemma bytes_readUnaligned {item : List UInt8} (hlen : 80 ≤ item.length) (f : Field) :
    (readUnaligned item).bytes f = fetch item f.offset f.size := by
  have hfetch : (fetch item f.offset f.size).length = f.size :=
    length_fetch (f.end_le.trans hlen)
  have hlt : number item f < 256 ^ f.size := hfetch ▸ leNat_lt _
  have hnum : leBytes f.size (number item f) = fetch item f.offset f.size := by
    have := leBytes_leNat (fetch item f.offset f.size)
    rwa [hfetch] at this
  cases f with
  | comm =>
      refine List.ext_getElem? fun i => ?_
      rw [bytes, readUnaligned, Vector.toList_ofFn, List.getElem?_ofFn]
      split_ifs with hi
      · have hi' : i < (fetch item Field.comm.offset Field.comm.size).length := hfetch.symm ▸ hi
        rw [List.getElem?_eq_getElem hi', Option.getD_some]
      · exact (List.getElem?_eq_none (hfetch.trans_le (Nat.not_lt.mp hi))).symm
  | data i =>
      have hget : (readUnaligned item).data[i] = UInt64.ofNat (number item (.data i)) :=
        Vector.getElem_ofFn i.isLt
      rw [Field.size_data] at hlt hnum ⊢
      rw [bytes, hget, ← hnum, UInt64.toNat_ofNat']
      exact congrArg (leBytes 8) (Nat.mod_eq_of_lt hlt)
  | timestampNs => exact (congrArg (leBytes 8) (Nat.mod_eq_of_lt hlt)).trans hnum
  | pid => exact (congrArg (leBytes 4) (Nat.mod_eq_of_lt hlt)).trans hnum
  | tid => exact (congrArg (leBytes 4) (Nat.mod_eq_of_lt hlt)).trans hnum
  | uid => exact (congrArg (leBytes 4) (Nat.mod_eq_of_lt hlt)).trans hnum
  | gid => exact (congrArg (leBytes 4) (Nat.mod_eq_of_lt hlt)).trans hnum
  | detectorId => exact (congrArg (leBytes 1) (Nat.mod_eq_of_lt hlt)).trans hnum
  | severity => exact (congrArg (leBytes 1) (Nat.mod_eq_of_lt hlt)).trans hnum
  | eventType => exact (congrArg (leBytes 2) (Nat.mod_eq_of_lt hlt)).trans hnum

section Stores

variable {mem : List UInt8} {fields : List Field} (hlen : 80 ≤ mem.length) (ev : KrEvent)
include hlen

lemma inside_writes : Inside mem (ev.writes fields) := by
  intro w hw
  obtain ⟨f, -, rfl⟩ := List.mem_map.mp hw
  rw [ev.length_bytes]
  exact f.end_le.trans hlen

omit hlen in
lemma apart_writes (hnodup : fields.Nodup) : Apart (ev.writes fields) := by
  refine List.pairwise_map.mpr (hnodup.imp fun {f g} hne => ?_)
  rw [ev.length_bytes, ev.length_bytes]
  exact Field.clear_of_ne hne

lemma length_submitted : (submitted mem fields ev).length = mem.length :=
  length_stores (inside_writes hlen ev)

/-- **The reader and the stores**: a member that the program has stored reads as stored, the
others as whatever was in the ring buffer. -/
theorem readUnaligned_submitted (hnodup : fields.Nodup) (f : Field) :
    (readUnaligned (submitted mem fields ev)).bytes f
      = if f ∈ fields then ev.bytes f else (readUnaligned mem).bytes f := by
  rw [bytes_readUnaligned (hlen.trans_eq (length_submitted hlen ev).symm),
    bytes_readUnaligned hlen, submitted]
  split_ifs with hf
  · have hmem : (f.offset, ev.bytes f) ∈ ev.writes fields := List.mem_map.mpr ⟨f, hf, rfl⟩
    have hread := fetch_stores_of_mem (inside_writes hlen ev) (apart_writes ev hnodup) hmem
    rwa [ev.length_bytes] at hread
  · refine fetch_stores_of_clear (inside_writes hlen ev) fun w hw => ?_
    obtain ⟨g, hg, rfl⟩ := List.mem_map.mp hw
    rw [ev.length_bytes]
    exact Field.clear_of_ne fun heq => hf (heq ▸ hg)

end Stores

end KrEvent

end Kernelradar
