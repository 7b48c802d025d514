import Kernelradar.Core.Net
import Kernelradar.Library.Bytes
import Kernelradar.Detectors.Allowlist

/-!
`cidr.rs`: the destination allowlist of the network detector.
-/

namespace Kernelradar

open Library

/-- `Cidr`, in host byte order. -/
structure Cidr where
  network : UInt32
  mask : UInt32
  deriving DecidableEq

namespace Cidr

/-- The mask of a prefix length: `u32::MAX.checked_shl(32 - len).unwrap_or(0)`,
zero for length zero. -/
def maskOf (len : ℕ) : UInt32 :=
  if len = 0 then 0 else UInt32.ofNat ((2 ^ 32 - 1) * 2 ^ (32 - len) % 2 ^ 32)

/-- `Cidr::parse`. -/
def parse (s : Text) : Option Cidr := do
  let (addrS, lenS) ← Text.splitOnce '/' s
  let addr ← Net.parseIpv4 (Text.trim addrS)
  let len ← Net.parseU32 (Text.trim lenS)
  if 32 < len then none
  else some { network := addr.toU32 &&& maskOf len, mask := maskOf len }

/-- `Cidr::contains`. -/
def contains (c : Cidr) (addrHost : UInt32) : Bool := addrHost &&& c.mask = c.network

lemma toNat_maskOf {len : ℕ} (h : len ≤ 32) :
    (maskOf len).toNat = (2 ^ len - 1) * 2 ^ (32 - len) := by
  have hpow : 2 ^ len * 2 ^ (32 - len) = 2 ^ 32 := by rw [← pow_add, Nat.add_sub_cancel' h]
  rw [maskOf, Nat.sub_mul (2 ^ len), hpow]
  split_ifs with h0
  · subst h0
    rfl
  · have hlt : 2 ^ (32 - len) < 2 ^ 32 := Nat.pow_lt_pow_right (by decide) (by omega)
    have hpos : 0 < 2 ^ (32 - len) := Nat.two_pow_pos _
    rw [UInt32.toNat_ofNat']
    omega

/-- **What a CIDR contains**: the addresses that agree with it in the leading bits. -/
lemma contains_iff {len : ℕ} (h : len ≤ 32) (addr host : UInt32) :
    contains ⟨addr &&& maskOf len, maskOf len⟩ host = true ↔
      host.toNat / 2 ^ (32 - len) = addr.toNat / 2 ^ (32 - len) := by
  have hcut : ∀ a : UInt32,
      (a &&& maskOf len).toNat = a.toNat / 2 ^ (32 - len) * 2 ^ (32 - len) := by
    intro a
    have hpow : 2 ^ (32 - len) * 2 ^ len = 2 ^ 32 := by rw [← pow_add, Nat.sub_add_cancel h]
    have hlt : a.toNat / 2 ^ (32 - len) < 2 ^ len :=
      Nat.div_lt_of_lt_mul (hpow ▸ a.toNat_lt)
    rw [UInt32.toNat_and, toNat_maskOf h, and_mask, Nat.mod_eq_of_lt hlt]
  rw [contains, decide_eq_true_iff, ← UInt32.toNat_inj, hcut, hcut]
  exact Nat.mul_left_inj (Nat.two_pow_pos _).ne'

/-- `parse_all`: the CIDRs and how many entries were skipped. -/
def parseAll (items : List Text) : List Cidr × ℕ :=
  (items.filterMap parse, items.countP fun s => (parse s).isNone)

end Cidr

/-- `SharedCidrList`. -/
abbrev SharedCidrList := RwLock (List Cidr)

namespace SharedCidrList

/-- `SharedCidrList::new`. -/
def new (initial : List Cidr) : SharedCidrList := RwLock.new initial

/-- `SharedCidrList::contains`. -/
def contains (l : SharedCidrList) (addrHost : UInt32) : Bool :=
  (l.load []).any fun c => c.contains addrHost

/-- `SharedCidrList::replace`. -/
def replace (l : SharedCidrList) (newList : List Cidr) : SharedCidrList := l.store newList

/-- A replacement of a healthy list is the list a fresh start would build. -/
lemma replace_eq_new {l : SharedCidrList} (h : l.poisoned = false) (newList : List Cidr) :
    l.replace newList = new newList :=
  RwLock.store_eq_new h newList

@[simp] lemma contains_new (initial : List Cidr) (addrHost : UInt32) :
    (new initial).contains addrHost = initial.any fun c => c.contains addrHost := rfl

end SharedCidrList

end Kernelradar
