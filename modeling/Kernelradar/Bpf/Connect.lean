import Kernelradar.Bpf.OpenAt
import Kernelradar.Detectors.Handlers

/-!
`network.bpf.c`: the program on `sys_enter_connect`, and its two readers.

* `isPrivateIpv4`, `krTpConnect`: the filter and the packer, on words in network
  byte order as a little-endian machine holds them;
* `sockaddrIn`: what a caller passes;
* `toNat_fromBe16`, `toNat_fromBe32`: the unpacker turns the bytes round;
* `connect_agrees`: the filter drops what eight CIDRs of the allowlist's own kind
  contain, and the handler finds the octets and the port of the rest.
-/

namespace Kernelradar

open Library

/-- The arguments of `connect` the program reads: the readable memory from `uaddr` on,
and the third argument. -/
structure Connect where
  uaddr : List UInt8
  addrlen : UInt64

namespace Bpf

/-- `bpf_probe_read_user` of `n` bytes at `uaddr + off`, as a number; a read that faults
leaves zeros. -/
def probeReadUser (uaddr : List UInt8) (off n : ℕ) : ℕ :=
  if off + n ≤ uaddr.length then leNat ((uaddr.drop off).take n) else 0

/-- `is_private_ipv4`. -/
def isPrivateIpv4 (addrBe : UInt32) : Bool :=
  let b0 := (addrBe &&& 0xff).toUInt8
  let b1 := ((addrBe >>> 8) &&& 0xff).toUInt8
  b0 = 127 || b0 = 10 || (b0 = 172 && 16 ≤ b1 && b1 ≤ 31) || (b0 = 192 && b1 = 168)
    || (b0 = 169 && b1 = 254) || (b0 = 100 && 64 ≤ b1 && b1 ≤ 127) || 224 ≤ b0 || b0 = 0

/-- The event of a connection, as the program fills it in. -/
def connectEvent (task : Task) (family portBe : UInt16) (addrBe : UInt32) : KrEvent where
  timestampNs := task.ktimeNs
  pid := (task.pidTgid >>> 32).toUInt32
  tid := task.pidTgid.toUInt32
  uid := task.uidGid.toUInt32
  gid := (task.uidGid >>> 32).toUInt32
  comm := task.comm
  detectorId := 6
  severity := 1
  eventType := 1
  data := #v[(family.toUInt64 <<< 16) ||| portBe.toUInt64, addrBe.toUInt64, 0, 0]

/-- `kr_tp_connect`: the counters afterwards, and the event submitted. -/
def krTpConnect (call : Connect) (task : Task) (room : Bool) (stats : Stats) :
    Stats × Option KrEvent :=
  if call.addrlen.toUInt32.toInt32.toInt < 8 then (stats, none)
  else
    let family := UInt16.ofNat (probeReadUser call.uaddr 0 2)
    if family ≠ 2 then (stats, none)
    else
      let portBe := UInt16.ofNat (probeReadUser call.uaddr 2 2)
      let addrBe := UInt32.ofNat (probeReadUser call.uaddr 4 4)
      if isPrivateIpv4 addrBe then (stats, none)
      else
        let stats := krStatInc stats networkObserved
        if !room then (krStatInc stats networkDropped, none)
        else (stats, some (connectEvent task family portBe addrBe))

/-- Four octets, in the order they are written. -/
structure Octets where
  o0 : UInt8
  o1 : UInt8
  o2 : UInt8
  o3 : UInt8

namespace Octets

/-- The address the octets stand for. -/
def addr (o : Octets) : Net.Ipv4Addr := ⟨o.o0.toNat, o.o1.toNat, o.o2.toNat, o.o3.toNat⟩

/-- The octets, as a little-endian machine reads the four bytes. -/
def word (o : Octets) : UInt32 := UInt32.ofNat (leNat [o.o0, o.o1, o.o2, o.o3])

end Octets

/-- A `sockaddr_in`: the family in host order, port and address in network order,
and whatever follows. -/
def sockaddrIn (o : Octets) (port : UInt16) (rest : List UInt8) : List UInt8 :=
  2 :: 0 :: (port >>> 8).toUInt8 :: port.toUInt8 :: o.o0 :: o.o1 :: o.o2 :: o.o3 :: rest

/-- The port, as a little-endian machine reads its two bytes. -/
def portWord (port : UInt16) : UInt16 :=
  UInt16.ofNat (leNat [(port >>> 8).toUInt8, port.toUInt8])

/-- What the program does with a `sockaddr_in`. -/
lemma krTpConnect_sockaddrIn (o : Octets) (port : UInt16) (rest : List UInt8) {addrlen : UInt64}
    (hlen : 8 ≤ addrlen.toUInt32.toInt32) (task : Task) (stats : Stats) :
    (krTpConnect ⟨sockaddrIn o port rest, addrlen⟩ task true stats).2
      = if isPrivateIpv4 o.word then none
        else some (connectEvent task 2 (portWord port) o.word) := by
  have hfamily : probeReadUser (sockaddrIn o port rest) 0 2 = 2 := by
    simp [probeReadUser, sockaddrIn, leNat]
  have hport : probeReadUser (sockaddrIn o port rest) 2 2
      = leNat [(port >>> 8).toUInt8, port.toUInt8] := by
    simp [probeReadUser, sockaddrIn]
  have haddr : probeReadUser (sockaddrIn o port rest) 4 4 = leNat [o.o0, o.o1, o.o2, o.o3] := by
    simp [probeReadUser, sockaddrIn]
  have hlong : ¬addrlen.toUInt32.toInt32.toInt < 8 :=
    Int.not_lt.mpr (Int32.le_iff_toInt_le.mp hlen)
  rw [krTpConnect, if_neg hlong, hfamily, hport, haddr]
  dsimp only
  rw [if_neg (by decide)]
  cases hp : isPrivateIpv4 o.word <;> simp [portWord, Octets.word] at hp ⊢ <;> simp [hp]

end Bpf

namespace NetworkDetector

lemma toNat_fromBe16 (x : UInt16) :
    (fromBe16 x).toNat = 2 ^ 8 * (x.toNat % 256) + x.toNat / 256 := by
  have hlt : x.toNat < 2 ^ 16 := x.toNat_lt
  have hshift : x.toNat * 2 ^ 8 % 2 ^ 16 = 2 ^ 8 * (x.toNat % 256) := by omega
  have hlow : x.toNat / 256 < 2 ^ 8 := by omega
  calc (fromBe16 x).toNat = x.toNat * 2 ^ 8 % 2 ^ 16 ||| x.toNat / 256 := by
        rw [fromBe16, UInt16.toNat_or, UInt16.toNat_shiftLeft, UInt16.toNat_shiftRight,
          Nat.shiftLeft_eq, Nat.shiftRight_eq_div_pow]
        rfl
    _ = 2 ^ 8 * (x.toNat % 256) ||| x.toNat / 256 := by rw [hshift]
    _ = _ := (Nat.two_pow_add_eq_or_of_lt hlow _).symm

lemma toNat_fromBe32 (x : UInt32) : (fromBe32 x).toNat
    = 2 ^ 24 * (x.toNat % 256) + (2 ^ 16 * (x.toNat / 2 ^ 8 % 256)
      + (2 ^ 8 * (x.toNat / 2 ^ 16 % 256) + x.toNat / 2 ^ 24)) := by
  have hlt : x.toNat < 2 ^ 32 := x.toNat_lt
  have h0 : x.toNat * 2 ^ 24 % 2 ^ 32 = 2 ^ 24 * (x.toNat % 256) := by omega
  have h1 : x.toNat * 2 ^ 8 % 2 ^ 32 &&& 0xff0000 = 2 ^ 16 * (x.toNat / 2 ^ 8 % 256) := by
    refine (and_mask (x.toNat * 2 ^ 8 % 2 ^ 32) 16 8).trans ?_
    omega
  have h2 : x.toNat / 2 ^ 8 &&& 0xff00 = 2 ^ 8 * (x.toNat / 2 ^ 16 % 256) := by
    refine (and_mask (x.toNat / 2 ^ 8) 8 8).trans ?_
    omega
  calc (fromBe32 x).toNat
      = x.toNat * 2 ^ 24 % 2 ^ 32 ||| (x.toNat * 2 ^ 8 % 2 ^ 32 &&& 0xff0000) |||
          (x.toNat / 2 ^ 8 &&& 0xff00) ||| x.toNat / 2 ^ 24 := by
        rw [fromBe32, UInt32.toNat_or, UInt32.toNat_or, UInt32.toNat_or, UInt32.toNat_and,
          UInt32.toNat_and, UInt32.toNat_shiftLeft, UInt32.toNat_shiftLeft,
          UInt32.toNat_shiftRight, UInt32.toNat_shiftRight]
        simp only [Nat.shiftLeft_eq, Nat.shiftRight_eq_div_pow]
        rfl
    _ = 2 ^ 24 * (x.toNat % 256) ||| (2 ^ 16 * (x.toNat / 2 ^ 8 % 256) |||
          (2 ^ 8 * (x.toNat / 2 ^ 16 % 256) ||| x.toNat / 2 ^ 24)) := by
        rw [h0, h1, h2, Nat.or_assoc, Nat.or_assoc]
    _ = _ := by
        rw [Nat.two_pow_add_eq_or_of_lt (by omega), Nat.two_pow_add_eq_or_of_lt (by omega),
          Nat.two_pow_add_eq_or_of_lt (by omega)]

end NetworkDetector

namespace Bpf

/-- The CIDRs of the addresses the program drops. -/
def privateCidrs : List Text :=
  ["127.0.0.0/8", "10.0.0.0/8", "172.16.0.0/12", "192.168.0.0/16", "169.254.0.0/16",
    "100.64.0.0/10", "224.0.0.0/3", "0.0.0.0/8"]

lemma Octets.toNat_word (o : Octets) :
    o.word.toNat = o.o0.toNat + 256 * (o.o1.toNat + 256 * (o.o2.toNat + 256 * o.o3.toNat)) := by
  have h0 := o.o0.toNat_lt
  have h1 := o.o1.toNat_lt
  have h2 := o.o2.toNat_lt
  have h3 := o.o3.toNat_lt
  rw [Octets.word, UInt32.toNat_ofNat']
  exact Nat.mod_eq_of_lt (by simp only [leNat]; omega)

/-- The bytes of the word are the octets. -/
lemma Octets.bytes_word (o : Octets) : o.word.toNat % 256 = o.o0.toNat ∧
    o.word.toNat / 2 ^ 8 % 256 = o.o1.toNat ∧ o.word.toNat / 2 ^ 16 % 256 = o.o2.toNat ∧
    o.word.toNat / 2 ^ 24 = o.o3.toNat := by
  have h0 := o.o0.toNat_lt
  have h1 := o.o1.toNat_lt
  have h2 := o.o2.toNat_lt
  have h3 := o.o3.toNat_lt
  rw [o.toNat_word]
  refine ⟨?_, ?_, ?_, ?_⟩
  · omega
  · omega
  · omega
  · omega

lemma Octets.toNat_addr (o : Octets) : o.addr.toU32.toNat
    = ((o.o0.toNat * 256 + o.o1.toNat) * 256 + o.o2.toNat) * 256 + o.o3.toNat := by
  have h0 := o.o0.toNat_lt
  have h1 := o.o1.toNat_lt
  have h2 := o.o2.toNat_lt
  have h3 := o.o3.toNat_lt
  rw [Net.Ipv4Addr.toU32, UInt32.toNat_ofNat']
  exact Nat.mod_eq_of_lt (by simp only [Octets.addr]; omega)

/-- The unpacked address is the one the octets stand for. -/
lemma Octets.fromBe32_word (o : Octets) : NetworkDetector.fromBe32 o.word = o.addr.toU32 := by
  obtain ⟨h0, h1, h2, h3⟩ := o.bytes_word
  rw [← UInt32.toNat_inj, NetworkDetector.toNat_fromBe32, h0, h1, h2, h3, o.toNat_addr]
  omega

/-- The unpacked port is the port. -/
lemma fromBe16_portWord (port : UInt16) : NetworkDetector.fromBe16 (portWord port) = port := by
  have hlt := port.toNat_lt
  have hword : (portWord port).toNat = port.toNat / 256 + 256 * (port.toNat % 256) := by
    have hhigh : (port >>> 8).toUInt8.toNat = port.toNat / 256 := by
      rw [UInt16.toNat_toUInt8, UInt16.toNat_shiftRight, Nat.shiftRight_eq_div_pow]
      exact Nat.mod_eq_of_lt (show port.toNat / 256 < 256 by omega)
    have hlow : port.toUInt8.toNat = port.toNat % 256 := rfl
    have hleNat : leNat [(port >>> 8).toUInt8, port.toUInt8]
        = port.toNat / 256 + 256 * (port.toNat % 256) := by
      rw [leNat, leNat, leNat, hhigh, hlow, Nat.mul_zero, Nat.add_zero]
    rw [portWord, UInt16.toNat_ofNat', hleNat]
    omega
  rw [← UInt16.toNat_inj, NetworkDetector.toNat_fromBe16, hword]
  omega

/-- The blocks of addresses behind `privateCidrs`. -/
def privateBlocks : List (UInt32 × ℕ) :=
  [(0x7f000000, 8), (0x0a000000, 8), (0xac100000, 12), (0xc0a80000, 16), (0xa9fe0000, 16),
    (0x64400000, 10), (0xe0000000, 3), (0, 8)]

/-- The CIDRs of the source's comments parse to the blocks. -/
lemma parse_privateCidrs : privateCidrs.map Cidr.parse
    = privateBlocks.map fun b => some ⟨b.1 &&& Cidr.maskOf b.2, Cidr.maskOf b.2⟩ := by
  decide

/-- What holds of the CIDRs holds of the blocks. -/
lemma forall_privateCidrs (P : Cidr → Prop) :
    (∀ s ∈ privateCidrs, ∃ c, Cidr.parse s = some c ∧ P c) ↔
      ∀ b ∈ privateBlocks, P ⟨b.1 &&& Cidr.maskOf b.2, Cidr.maskOf b.2⟩ := by
  rw [← List.forall_mem_map (f := Cidr.parse) (P := fun r => ∃ c, r = some c ∧ P c),
    parse_privateCidrs, List.forall_mem_map]
  simp

/-- **The filter** drops the addresses of the blocks. -/
lemma isPrivateIpv4_iff (o : Octets) : isPrivateIpv4 o.word = true ↔
    ∃ b ∈ privateBlocks, o.addr.toU32.toNat / 2 ^ (32 - b.2) = b.1.toNat / 2 ^ (32 - b.2) := by
  have h0 := o.o0.toNat_lt
  have h1 := o.o1.toNat_lt
  have h2 := o.o2.toNat_lt
  have h3 := o.o3.toNat_lt
  obtain ⟨hb0, hb1, -, -⟩ := o.bytes_word
  have hb0 : (o.word &&& 0xff).toUInt8 = o.o0 := by
    rw [← UInt8.toNat_inj, UInt32.toNat_toUInt8, UInt32.toNat_and]
    exact (congrArg (· % 2 ^ 8) (Nat.and_two_pow_sub_one_eq_mod _ 8)).trans
      ((Nat.mod_mod _ _).trans hb0)
  have hb1 : ((o.word >>> 8) &&& 0xff).toUInt8 = o.o1 := by
    rw [← UInt8.toNat_inj, UInt32.toNat_toUInt8, UInt32.toNat_and, UInt32.toNat_shiftRight,
      Nat.shiftRight_eq_div_pow]
    exact (congrArg (· % 2 ^ 8) (Nat.and_two_pow_sub_one_eq_mod _ 8)).trans
      ((Nat.mod_mod _ _).trans hb1)
  have haddr := o.toNat_addr
  have h24 : o.addr.toU32.toNat / 2 ^ 24 = o.o0.toNat := by omega
  have h16 : o.addr.toU32.toNat / 2 ^ 16 = o.o0.toNat * 256 + o.o1.toNat := by omega
  have h20 : o.addr.toU32.toNat / 2 ^ 20 = o.o0.toNat * 16 + o.o1.toNat / 16 := by omega
  have h22 : o.addr.toU32.toNat / 2 ^ 22 = o.o0.toNat * 4 + o.o1.toNat / 64 := by omega
  have h29 : o.addr.toU32.toNat / 2 ^ 29 = o.o0.toNat / 32 := by omega
  clear haddr
  have h172 : o.o0.toNat * 16 + o.o1.toNat / 16 = 2753 ↔
      o.o0.toNat = 172 ∧ 16 ≤ o.o1.toNat ∧ o.o1.toNat ≤ 31 := by omega
  have h192 : o.o0.toNat * 256 + o.o1.toNat = 49320 ↔ o.o0.toNat = 192 ∧ o.o1.toNat = 168 := by
    omega
  have h169 : o.o0.toNat * 256 + o.o1.toNat = 43518 ↔ o.o0.toNat = 169 ∧ o.o1.toNat = 254 := by
    omega
  have h100 : o.o0.toNat * 4 + o.o1.toNat / 64 = 401 ↔
      o.o0.toNat = 100 ∧ 64 ≤ o.o1.toNat ∧ o.o1.toNat ≤ 127 := by omega
  have h224 : o.o0.toNat / 32 = 7 ↔ 224 ≤ o.o0.toNat := by omega
  rw [isPrivateIpv4, hb0, hb1]
  simp only [privateBlocks, List.mem_cons, List.not_mem_nil, or_false, exists_eq_or_imp,
    exists_eq_left, Nat.reduceSub, h24, h16, h20, h22, h29, Bool.or_eq_true, Bool.and_eq_true,
    decide_eq_true_eq, ← UInt8.toNat_inj, UInt8.le_iff_toNat_le, or_assoc, and_assoc]
  exact or_congr Iff.rfl (or_congr Iff.rfl (or_congr h172.symm (or_congr h192.symm
    (or_congr h169.symm (or_congr h100.symm (or_congr h224.symm Iff.rfl))))))

/-- The text of the address. -/
lemma Octets.display_addr (o : Octets) : NetworkDetector.display o.addr.toU32
    = List.intercalate ['.']
        [decimal o.o0.toNat, decimal o.o1.toNat, decimal o.o2.toNat, decimal o.o3.toNat] := by
  have h0 := o.o0.toNat_lt
  have h1 := o.o1.toNat_lt
  have h2 := o.o2.toNat_lt
  have h3 := o.o3.toNat_lt
  have haddr := o.toNat_addr
  have hoctet : ∀ shift : UInt32, ((o.addr.toU32 >>> shift) &&& 0xff).toNat
      = o.addr.toU32.toNat / 2 ^ (shift.toNat % 32) % 2 ^ 8 := by
    intro shift
    rw [UInt32.toNat_and, UInt32.toNat_shiftRight, Nat.shiftRight_eq_div_pow]
    exact Nat.and_two_pow_sub_one_eq_mod _ 8
  have e0 : o.addr.toU32.toNat / 2 ^ 24 % 2 ^ 8 = o.o0.toNat := by omega
  have e1 : o.addr.toU32.toNat / 2 ^ 16 % 2 ^ 8 = o.o1.toNat := by omega
  have e2 : o.addr.toU32.toNat / 2 ^ 8 % 2 ^ 8 = o.o2.toNat := by omega
  have e3 : o.addr.toU32.toNat / 2 ^ 0 % 2 ^ 8 = o.o3.toNat := by omega
  rw [NetworkDetector.display]
  simp only [List.map_cons, List.map_nil, hoctet]
  rw [← e0, ← e1, ← e2, ← e3]
  rfl

/-- What the handler reads in the event of a connection. -/
lemma portOf_connectEvent (task : Task) (o : Octets) (port : UInt16) :
    NetworkDetector.portOf (connectEvent task 2 (portWord port) o.word) = port := by
  have hlow : ((connectEvent task 2 (portWord port) o.word).data[0] &&& 0xffff).toUInt16
      = portWord port := by
    change (((2 : UInt16).toUInt64 <<< 16 ||| (portWord port).toUInt64) &&& 0xffff).toUInt16 = _
    rw [UInt64.toUInt16_and, UInt64.toUInt16_or, UInt16.toUInt16_toUInt64]
    have hfamily : ((2 : UInt16).toUInt64 <<< 16).toUInt16 = 0 := by decide
    rw [hfamily, UInt16.zero_or]
    exact UInt16.and_neg_one
  rw [NetworkDetector.portOf, hlow, fromBe16_portWord]

/-- What the handler reads in the event of a connection. -/
lemma ipHost_connectEvent (task : Task) (o : Octets) (portBe : UInt16) :
    NetworkDetector.ipHost (connectEvent task 2 portBe o.word) = o.addr.toU32 := by
  have hlow : ((connectEvent task 2 portBe o.word).data[1] &&& 0xffffffff).toUInt32
      = o.word := by
    change (o.word.toUInt64 &&& 0xffffffff).toUInt32 = _
    rw [UInt64.toUInt32_and, UInt32.toUInt32_toUInt64]
    exact UInt32.and_neg_one
  rw [NetworkDetector.ipHost, hlow, o.fromBe32_word]

/-- **Filter and allowlist agree.** A connection to a `sockaddr_in` is reported exactly
if no CIDR of the source's comments contains its address, and then the handler
reads the octets and the port of the caller. -/
theorem connect_agrees (o : Octets) (port : UInt16) (rest : List UInt8) (addrlen : UInt64)
    (hlen : 8 ≤ addrlen.toUInt32.toInt32) (task : Task) (stats : Stats) :
    ((krTpConnect ⟨sockaddrIn o port rest, addrlen⟩ task true stats).2.isSome = true ↔
      ∀ s ∈ privateCidrs, ∃ c, Cidr.parse s = some c ∧ c.contains o.addr.toU32 = false) ∧
    ∀ ev ∈ (krTpConnect ⟨sockaddrIn o port rest, addrlen⟩ task true stats).2,
      NetworkDetector.ipHost ev = o.addr.toU32 ∧ NetworkDetector.portOf ev = port ∧
        NetworkDetector.display (NetworkDetector.ipHost ev) = List.intercalate ['.']
          [decimal o.o0.toNat, decimal o.o1.toNat, decimal o.o2.toNat, decimal o.o3.toNat] := by
  rw [krTpConnect_sockaddrIn o port rest hlen]
  refine ⟨?_, fun ev hev => ?_⟩
  · have hblocks : ∀ b ∈ privateBlocks, b.2 ≤ 32 := by decide
    have hcontains : ∀ b ∈ privateBlocks,
        (Cidr.contains ⟨b.1 &&& Cidr.maskOf b.2, Cidr.maskOf b.2⟩ o.addr.toU32 = false ↔
          ¬o.addr.toU32.toNat / 2 ^ (32 - b.2) = b.1.toNat / 2 ^ (32 - b.2)) := by
      intro b hb
      rw [← Cidr.contains_iff (hblocks b hb), Bool.not_eq_true]
    calc _ ↔ ¬isPrivateIpv4 o.word = true := by cases isPrivateIpv4 o.word <;> simp
      _ ↔ ∀ b ∈ privateBlocks,
          ¬o.addr.toU32.toNat / 2 ^ (32 - b.2) = b.1.toNat / 2 ^ (32 - b.2) := by
        rw [isPrivateIpv4_iff]
        simp only [not_exists, not_and]
      _ ↔ _ := by
        rw [forall_privateCidrs fun c => c.contains o.addr.toU32 = false]
        exact forall₂_congr fun b hb => (hcontains b hb).symm
  · cases hp : isPrivateIpv4 o.word with
    | true =>
        rw [hp] at hev
        cases hev
    | false =>
        rw [hp] at hev
        obtain rfl : connectEvent task 2 (portWord port) o.word = ev := Option.some.inj hev
        rw [ipHost_connectEvent, portOf_connectEvent]
        exact ⟨rfl, rfl, o.display_addr⟩

/-- `connect` to `8.8.8.8:53`. -/
theorem connect_agrees_dns :
    (krTpConnect ⟨sockaddrIn ⟨8, 8, 8, 8⟩ 53 [], 16⟩ ⟨1, 1, 5, Vector.replicate 16 0⟩ true
        (Vector.replicate 18 0)).2.isSome = true := by
  refine ((connect_agrees ⟨8, 8, 8, 8⟩ 53 [] 16 (by decide) ⟨1, 1, 5, Vector.replicate 16 0⟩
    (Vector.replicate 18 0)).1).mpr fun s hs => ?_
  have hall : ∀ s ∈ privateCidrs, (Cidr.parse s).any
      (fun c => !c.contains (Octets.addr ⟨8, 8, 8, 8⟩).toU32) = true := by decide
  obtain ⟨c, hc, hout⟩ := (Option.any_eq_true _ _).mp (hall s hs)
  exact ⟨c, hc, by simpa using hout⟩

end Bpf

end Kernelradar
