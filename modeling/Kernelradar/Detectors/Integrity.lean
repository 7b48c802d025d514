import Kernelradar.Library.Bytes
import Kernelradar.Library.Text

/-!
`integrity.rs` and the build script of the detectors: the two hand-written copies of
SHA-256, the table of hashes made at build time, and the check at load time.
-/

namespace Kernelradar

open Library

/-- `u32::rotate_right`. -/
def rotateRight (x : UInt32) (n : ℕ) : UInt32 := ⟨x.toBitVec.rotateRight n⟩

/-- `u32::from_be_bytes`. -/
def fromBeBytes (b : Vector UInt8 4) : UInt32 := UInt32.ofNat (beNat b.toList)

/-- `u32::to_be_bytes`. -/
def toBeBytes (x : UInt32) : Vector UInt8 4 := ⟨(beBytes 4 x.toNat).toArray, by simp⟩

namespace Sha

/-- The local variables `a` to `hh`. -/
structure Working where
  a : UInt32
  b : UInt32
  c : UInt32
  d : UInt32
  e : UInt32
  f : UInt32
  g : UInt32
  hh : UInt32

/-- The local variables as a chunk begins. -/
def Working.ofHash (h : Vector UInt32 8) : Working where
  a := h[0]
  b := h[1]
  c := h[2]
  d := h[3]
  e := h[4]
  f := h[5]
  g := h[6]
  hh := h[7]

/-- The first loop of a chunk, with what it reads into `w[i]`. -/
def load (word : Vector UInt8 64 → (i : ℕ) → i < 16 → UInt32) (chunk : Vector UInt8 64) :
    Vector UInt32 64 :=
  Nat.fold 16 (fun i hi w => w.set i (word chunk i hi)) (Vector.replicate 64 0)

/-- The body of the second loop. -/
def expandStep (i : ℕ) (hlow : 16 ≤ i) (hi : i < 64) (w : Vector UInt32 64) : Vector UInt32 64 :=
  let s0 := rotateRight w[i - 15] 7 ^^^ rotateRight w[i - 15] 18 ^^^ w[i - 15] >>> 3
  let s1 := rotateRight w[i - 2] 17 ^^^ rotateRight w[i - 2] 19 ^^^ w[i - 2] >>> 10
  w.set i (w[i - 16] + s0 + w[i - 7] + s1)

/-- The second loop, for `i` from 16 on. -/
def expand (w : Vector UInt32 64) : Vector UInt32 64 :=
  Nat.fold 48 (fun j _ w => expandStep (16 + j) (by omega) (by omega) w) w

/-- The body of the third loop. -/
def round (k w : UInt32) (v : Working) : Working :=
  let s1 := rotateRight v.e 6 ^^^ rotateRight v.e 11 ^^^ rotateRight v.e 25
  let ch := v.e &&& v.f ^^^ ~~~v.e &&& v.g
  let t1 := v.hh + s1 + ch + k + w
  let s0 := rotateRight v.a 2 ^^^ rotateRight v.a 13 ^^^ rotateRight v.a 22
  let mj := v.a &&& v.b ^^^ v.a &&& v.c ^^^ v.b &&& v.c
  let t2 := s0 + mj
  { hh := v.g, g := v.f, f := v.e, e := v.d + t1, d := v.c, c := v.b, b := v.a, a := t1 + t2 }

/-- The body of the loop over the chunks. -/
def chunkStep (k : Vector UInt32 64) (word : Vector UInt8 64 → (i : ℕ) → i < 16 → UInt32)
    (h : Vector UInt32 8) (chunk : Vector UInt8 64) : Vector UInt32 8 :=
  let w := expand (load word chunk)
  let v := Nat.fold 64 (fun i _ v => round k[i] w[i] v) (Working.ofHash h)
  #v[h[0] + v.a, h[1] + v.b, h[2] + v.c, h[3] + v.d, h[4] + v.e, h[5] + v.f, h[6] + v.g,
    h[7] + v.hh]

/-- `while padded.len() % 64 != 56 { padded.push(0); }`. -/
def padZeros (padded : List UInt8) : List UInt8 :=
  if padded.length % 64 ≠ 56 then padZeros (padded ++ [0]) else padded
termination_by (120 - padded.length % 64) % 64
decreasing_by
  rw [List.length_append, List.length_singleton]
  omega

/-- What both copies of `sha256_bytes` do, with their table, their initial hash and
their way to read a word. -/
def bytes (k : Vector UInt32 64) (init : Vector UInt32 8)
    (word : Vector UInt8 64 → (i : ℕ) → i < 16 → UInt32) (data : List UInt8) : Vector UInt8 32 :=
  let bitLen := UInt64.ofNat data.length * 8
  let padded := padZeros (data ++ [0x80]) ++ beBytes 8 bitLen.toNat
  let h := (chunksExact 64 padded).foldl (chunkStep k word) init
  h.flatMap toBeBytes

/-- `format!("{:02x}", b)`. -/
def hexByte (b : UInt8) : Text := [Nat.digitChar (b.toNat / 16), Nat.digitChar (b.toNat % 16)]

/-- What both copies of `sha256_hex` do. -/
def hex (h : Vector UInt8 32) : Text := h.toList.flatMap hexByte

end Sha

/-! ### The build script -/

namespace Build

/-- `K` of the build script. -/
def K : Vector UInt32 64 := #v[
  0x428a2f98, 0x71374491, 0xb5c0fbcf, 0xe9b5dba5, 0x3956c25b, 0x59f111f1, 0x923f82a4, 0xab1c5ed5,
  0xd807aa98, 0x12835b01, 0x243185be, 0x550c7dc3, 0x72be5d74, 0x80deb1fe, 0x9bdc06a7, 0xc19bf174,
  0xe49b69c1, 0xefbe4786, 0x0fc19dc6, 0x240ca1cc, 0x2de92c6f, 0x4a7484aa, 0x5cb0a9dc, 0x76f988da,
  0x983e5152, 0xa831c66d, 0xb00327c8, 0xbf597fc7, 0xc6e00bf3, 0xd5a79147, 0x06ca6351, 0x14292967,
  0x27b70a85, 0x2e1b2138, 0x4d2c6dfc, 0x53380d13, 0x650a7354, 0x766a0abb, 0x81c2c92e, 0x92722c85,
  0xa2bfe8a1, 0xa81a664b, 0xc24b8b70, 0xc76c51a3, 0xd192e819, 0xd6990624, 0xf40e3585, 0x106aa070,
  0x19a4c116, 0x1e376c08, 0x2748774c, 0x34b0bcb5, 0x391c0cb3, 0x4ed8aa4a, 0x5b9cca4f, 0x682e6ff3,
  0x748f82ee, 0x78a5636f, 0x84c87814, 0x8cc70208, 0x90befffa, 0xa4506ceb, 0xbef9a3f7, 0xc67178f2]

/-- The initial value of `h` in the build script. -/
def initial : Vector UInt32 8 := #v[
  0x6a09e667, 0xbb67ae85, 0x3c6ef372, 0xa54ff53a, 0x510e527f, 0x9b05688c, 0x1f83d9ab, 0x5be0cd19]

/-- `w[i]` byte by byte. -/
def word (chunk : Vector UInt8 64) (i : ℕ) (_ : i < 16) : UInt32 :=
  fromBeBytes #v[chunk[i * 4], chunk[i * 4 + 1], chunk[i * 4 + 2], chunk[i * 4 + 3]]

/-- `sha256_bytes` of the build script. -/
def sha256Bytes (data : List UInt8) : Vector UInt8 32 := Sha.bytes K initial word data

/-- `sha256_hex` of the build script. -/
def sha256Hex (data : List UInt8) : Text := Sha.hex (sha256Bytes data)

/-- `names`, the objects that are hashed. -/
def names : List Text :=
  ["privesc", "bpf_loader", "container", "kmod", "fim", "network", "injection", "cred",
    "selfprotect", "enforce_bpf", "enforce_kmod"]

/-- `main`: the table `BPF_HASHES` it writes, with what `fs::read` finds for a name. -/
def bpfHashes (read : Text → Option (List UInt8)) : List (Text × Text) :=
  names.map fun name => (name, match read name with
    | some bytes => sha256Hex bytes
    | none => [])

end Build

/-! ### The check -/

namespace Integrity

/-- `K`. -/
def K : Vector UInt32 64 := #v[
  0x428a2f98, 0x71374491, 0xb5c0fbcf, 0xe9b5dba5, 0x3956c25b, 0x59f111f1, 0x923f82a4, 0xab1c5ed5,
  0xd807aa98, 0x12835b01, 0x243185be, 0x550c7dc3, 0x72be5d74, 0x80deb1fe, 0x9bdc06a7, 0xc19bf174,
  0xe49b69c1, 0xefbe4786, 0x0fc19dc6, 0x240ca1cc, 0x2de92c6f, 0x4a7484aa, 0x5cb0a9dc, 0x76f988da,
  0x983e5152, 0xa831c66d, 0xb00327c8, 0xbf597fc7, 0xc6e00bf3, 0xd5a79147, 0x06ca6351, 0x14292967,
  0x27b70a85, 0x2e1b2138, 0x4d2c6dfc, 0x53380d13, 0x650a7354, 0x766a0abb, 0x81c2c92e, 0x92722c85,
  0xa2bfe8a1, 0xa81a664b, 0xc24b8b70, 0xc76c51a3, 0xd192e819, 0xd6990624, 0xf40e3585, 0x106aa070,
  0x19a4c116, 0x1e376c08, 0x2748774c, 0x34b0bcb5, 0x391c0cb3, 0x4ed8aa4a, 0x5b9cca4f, 0x682e6ff3,
  0x748f82ee, 0x78a5636f, 0x84c87814, 0x8cc70208, 0x90befffa, 0xa4506ceb, 0xbef9a3f7, 0xc67178f2]

/-- The initial value of `h`. -/
def initial : Vector UInt32 8 := #v[
  0x6a09e667, 0xbb67ae85, 0x3c6ef372, 0xa54ff53a, 0x510e527f, 0x9b05688c, 0x1f83d9ab, 0x5be0cd19]

/-- `w[i]` as a slice of four bytes; `try_into` does not fail. -/
def word (chunk : Vector UInt8 64) (i : ℕ) (hi : i < 16) : UInt32 :=
  fromBeBytes ((chunk.extract (i * 4) (i * 4 + 4)).cast (by omega))

/-- `sha256_bytes`. -/
def sha256Bytes (data : List UInt8) : Vector UInt8 32 := Sha.bytes K initial word data

/-- `sha256_hex`. -/
def sha256Hex (data : List UInt8) : Text := Sha.hex (sha256Bytes data)

/-- `expected_hash`. -/
def expectedHash (hashes : List (Text × Text)) (name : Text) : Text :=
  ((hashes.find? fun e => e.1 = name).map Prod.snd).getD []

/-- `IntegrityError`. -/
inductive IntegrityError where
  | mismatch (detector : Text)
  | noBuildHash (detector : Text)
  deriving DecidableEq

/-- The text of an error. -/
def IntegrityError.message : IntegrityError → Text
  | .mismatch detector => "BPF integrity: ".toList ++ detector ++
      " hash mismatch (strict mode); refusing to load".toList
  | .noBuildHash detector => "BPF integrity: ".toList ++ detector ++
      " has no build-time hash (strict mode); refusing to load".toList

/-- `verify`, with the table and `STRICT_MODE`. -/
def verify (hashes : List (Text × Text)) (strict : Bool) (detector : Text) (bytes : List UInt8) :
    Except IntegrityError Unit :=
  let actual := sha256Hex bytes
  let expected := expectedHash hashes detector
  if expected.isEmpty then
    if strict then .error (.noBuildHash detector) else .ok ()
  else if actual ≠ expected then
    if strict then .error (.mismatch detector) else .ok ()
  else .ok ()

end Integrity

end Kernelradar
