import Mathlib.Order.Basic
import Mathlib.Order.Lattice
import Kernelradar.Library.Text

/-!
`kernelradar-core`: `event.rs` and `alert.rs`.

* `Severity`, ordered by its number as in the source;
* `KrEvent`, the mirror of the kernel's `kr_event`, with the two fixed-size
  arrays carrying their length;
* `Alert`, with the detector-specific context as a `Json` object.
-/

namespace Kernelradar

open Library

/-- `Severity` of `event.rs`. -/
inductive Severity where
  | info
  | warning
  | alert
  | critical
  deriving DecidableEq, Repr

namespace Severity

/-- `severity as u8`. -/
def toU8 : Severity → ℕ
  | info => 0
  | warning => 1
  | alert => 2
  | critical => 3

lemma toU8_injective : Function.Injective toU8 := by
  intro a b h
  cases a <;> cases b <;> simp_all [toU8]

instance : LinearOrder Severity := LinearOrder.lift' toU8 toU8_injective

/-- `impl Display for Severity`. -/
def display : Severity → Text
  | info => "INFO"
  | warning => "WARNING"
  | alert => "ALERT"
  | critical => "CRITICAL"

/-- The severity `make_alert` reads off an event's severity byte. -/
def ofU8 (s : UInt8) : Severity :=
  if 3 ≤ s then critical else if 2 ≤ s then alert else if 1 ≤ s then warning else info

end Severity

/-- `KrEvent` of `event.rs`, `struct kr_event` of `events.h`. -/
structure KrEvent where
  timestampNs : UInt64
  pid : UInt32
  tid : UInt32
  uid : UInt32
  gid : UInt32
  comm : Vector UInt8 16
  detectorId : UInt8
  severity : UInt8
  eventType : UInt16
  data : Vector UInt64 4

/-- The part of `serde_json::Value` that alert contexts use. -/
inductive Json where
  | null
  | bool (b : Bool)
  | num (lexeme : Text)
  | str (s : Text)
  | obj (fields : List (Text × Json))

/-- `Option<String>` as JSON. -/
def Json.ofOption : Option Text → Json
  | none => null
  | some s => str s

/-- An unsigned number as JSON. -/
def Json.ofNat (n : ℕ) : Json := num (toString n)

/-- `Alert` of `alert.rs`. -/
structure Alert where
  id : ℕ
  correlationId : Text
  timestamp : ℤ
  severity : Severity
  detector : Text
  eventType : UInt16
  title : Text
  description : Text
  pid : UInt32
  uid : UInt32
  comm : Text
  context : Json

end Kernelradar
