import Mathlib.Data.Nat.Bitwise
import Kernelradar.Library.Text

/-!
The parsers of the standard library that the configuration checks call:
`u32::from_str`, `Ipv4Addr::from_str` and `Ipv6Addr::from_str`.

A reader takes the text left over and returns a value with the rest, as
`core::net::parser` does; an address must use the whole text up.
-/

namespace Kernelradar

open Library

namespace Net

/-- `char::to_digit`. -/
def toDigit (radix : ℕ) (c : Char) : Option ℕ :=
  let n :=
    if '0' ≤ c ∧ c ≤ '9' then c.toNat - '0'.toNat
    else if 'a' ≤ c ∧ c ≤ 'z' then c.toNat - 'a'.toNat + 10
    else if 'A' ≤ c ∧ c ≤ 'Z' then c.toNat - 'A'.toNat + 10
    else radix
  if n < radix then some n else none

/-- The number written by a list of digits. -/
def fromDigits (radix : ℕ) (ds : List ℕ) : ℕ := ds.foldl (fun n d => n * radix + d) 0

/-- The digits at the front of a text, and the rest. -/
def spanDigits (radix : ℕ) : Text → List ℕ × Text
  | [] => ([], [])
  | c :: s =>
      match toDigit radix c with
      | some d => (d :: (spanDigits radix s).1, (spanDigits radix s).2)
      | none => ([], c :: s)

/-- `u32::from_str`: an optional plus, then digits only. -/
def parseU32 (s : Text) : Option ℕ :=
  let digits := match s with
    | '+' :: t => t
    | _ => s
  match spanDigits 10 digits with
  | ([], _) => none
  | (ds, []) => if fromDigits 10 ds < 2 ^ 32 then some (fromDigits 10 ds) else none
  | (_, _ :: _) => none

/-- A reader of `core::net::parser`. -/
abbrev Reader (α : Type) := Text → Option (α × Text)

/-- `read_given_char`. -/
def readChar (c : Char) : Text → Option Text
  | [] => none
  | d :: s => if d = c then some s else none

/-- `read_number`, for a type that ends at `limit`. -/
def readNumber (radix maxDigits limit : ℕ) (allowZeroPrefix : Bool) : Reader ℕ := fun s =>
  let (ds, rest) := spanDigits radix s
  if ds = [] ∨ maxDigits < ds.length then none
  else if !allowZeroPrefix ∧ ds.head? = some 0 ∧ 1 < ds.length then none
  else if fromDigits radix ds < limit then some (fromDigits radix ds, rest)
  else none

/-- `read_separator`: the separator stands before every item but the first. -/
def readSeparator {α : Type} (sep : Char) (index : ℕ) (inner : Reader α) : Reader α := fun s =>
  if index = 0 then inner s else (readChar sep s).bind inner

/-- `Ipv4Addr`, by octets. -/
structure Ipv4Addr where
  o0 : ℕ
  o1 : ℕ
  o2 : ℕ
  o3 : ℕ
  deriving DecidableEq

/-- `read_ipv4_addr`. -/
def readIpv4 : Reader Ipv4Addr := fun s => do
  let octet := readNumber 10 3 256 false
  let (o0, s) ← readSeparator '.' 0 octet s
  let (o1, s) ← readSeparator '.' 1 octet s
  let (o2, s) ← readSeparator '.' 2 octet s
  let (o3, s) ← readSeparator '.' 3 octet s
  some (⟨o0, o1, o2, o3⟩, s)

/-- `parse_with`: nothing may be left over. -/
def parseWith {α : Type} (reader : Reader α) (s : Text) : Option α :=
  match reader s with
  | some (a, []) => some a
  | _ => none

/-- `Ipv4Addr::from_str`. -/
def parseIpv4 (s : Text) : Option Ipv4Addr :=
  if 15 < s.length then none else parseWith readIpv4 s

namespace Ipv4Addr

/-- `u32::from`: the address in host order. -/
def toU32 (a : Ipv4Addr) : UInt32 :=
  UInt32.ofNat (((a.o0 * 256 + a.o1) * 256 + a.o2) * 256 + a.o3)

/-- `is_loopback`. -/
def isLoopback (a : Ipv4Addr) : Bool := a.o0 = 127

/-- `is_private`. -/
def isPrivate (a : Ipv4Addr) : Bool :=
  a.o0 = 10 || (a.o0 = 172 && 16 ≤ a.o1 && a.o1 ≤ 31) || (a.o0 = 192 && a.o1 = 168)

/-- `is_link_local`. -/
def isLinkLocal (a : Ipv4Addr) : Bool := a.o0 = 169 && a.o1 = 254

/-- `is_broadcast`. -/
def isBroadcast (a : Ipv4Addr) : Bool := a = ⟨255, 255, 255, 255⟩

/-- `is_multicast`. -/
def isMulticast (a : Ipv4Addr) : Bool := 224 ≤ a.o0 && a.o0 ≤ 239

/-- `is_unspecified`. -/
def isUnspecified (a : Ipv4Addr) : Bool := a = ⟨0, 0, 0, 0⟩

end Ipv4Addr

/-- `read_groups`, after `i` groups and with room for `left` more; the last two
may be written as an IPv4 address. The flag says that they were. -/
def readGroups : (left i : ℕ) → Text → List ℕ × Bool × Text
  | 0, _, s => ([], false, s)
  | left + 1, i, s =>
      match if 0 < left then readSeparator ':' i readIpv4 s else none with
      | some (a, rest) => ([a.o0 * 256 + a.o1, a.o2 * 256 + a.o3], true, rest)
      | none =>
          match readSeparator ':' i (readNumber 16 4 65536 true) s with
          | some (g, rest) =>
              let more := readGroups left (i + 1) rest
              (g :: more.1, more.2.1, more.2.2)
          | none => ([], false, s)

/-- `read_ipv6_addr`: eight groups, or two runs of groups around `::`. -/
def readIpv6 : Reader (List ℕ) := fun s =>
  let (head, headIpv4, rest) := readGroups 8 0 s
  if head.length = 8 then some (head, rest)
  else if headIpv4 then none
  else do
    let rest ← readChar ':' rest
    let rest ← readChar ':' rest
    let (tail, _, rest) := readGroups (8 - (head.length + 1)) 0 rest
    some (head ++ List.replicate (8 - head.length - tail.length) 0 ++ tail, rest)

/-- `Ipv6Addr::from_str`, by segments. -/
def parseIpv6 (s : Text) : Option (List ℕ) := parseWith readIpv6 s

/-- `to_ipv4_mapped`. -/
def toIpv4Mapped : List ℕ → Option Ipv4Addr
  | [0, 0, 0, 0, 0, 0xffff, ab, cd] => some ⟨ab / 256, ab % 256, cd / 256, cd % 256⟩
  | _ => none

/-- `is_valid_ipv4_cidr` of `config.rs`. -/
def isValidIpv4Cidr (s : Text) : Bool :=
  match Text.splitOnce '/' s with
  | none => false
  | some (addr, len) =>
      (parseIpv4 (Text.trim addr)).isSome && (parseU32 (Text.trim len)).any fun n => n ≤ 32

example : parseIpv4 "127.0.0.1" = some ⟨127, 0, 0, 1⟩ := by decide

end Net

end Kernelradar
