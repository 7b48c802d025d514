import Kernelradar.Detectors.Baseline
import Kernelradar.Detectors.Dedup
import Kernelradar.Detectors.Metrics

/-!
`util.rs`: what all detectors share.

* `commStr`, `readExePathVerified`, `makeAlert`: from a kernel event to an alert;
* `printAlert`: baseline, limiter and counters in the order of the source, and
  the records handed to `emit`: the alert itself and its markers.

The process behind an event (`Proc`) and what `make_alert` reads from its
surroundings (`Stamp`) are arguments.
-/

namespace Kernelradar

open Library

/-- `comm_str`: the bytes before the first NUL, decoded. -/
def commStr (ev : KrEvent) : Text := fromUtf8Lossy (ev.comm.toList.takeWhile (· ≠ 0))

/-- What `/proc/<pid>` shows: `comm`, and the target of `exe`. -/
structure Proc where
  comm : Option Text
  exe : Option Text

/-- `read_exe_path_verified`. -/
def readExePathVerified (p : Proc) (evComm : Text) : Option Text :=
  match p.comm with
  | none => none
  | some now => if Text.trimEndMatches '\n' now ≠ evComm then none else p.exe

/-- What `make_alert` draws: the next `ALERT_ID`, a random UUID and the time. -/
structure Stamp where
  id : ℕ
  correlationId : Text
  timestamp : DateTime

/-- `make_alert`. -/
def makeAlert (stamp : Stamp) (ev : KrEvent) (exe : Option Text) (detector title : Text)
    (context : Json) : Alert where
  id := stamp.id
  correlationId := stamp.correlationId
  timestamp := stamp.timestamp
  severity := Severity.ofU8 ev.severity
  detector := detector
  eventType := ev.eventType
  title := title
  description := exe.elim [] fun e => "exe=" ++ e
  pid := ev.pid
  uid := ev.uid
  comm := commStr ev
  context := context

/-- A decimal number. -/
def decimal (n : ℕ) : Text := (toString n).toList

lemma decimal_eq (n : ℕ) : decimal n = Nat.toDigits 10 n := String.toList_ofList

/-- The marker of `emit_anomaly_marker`. -/
def anomalyMarker {F : Type} [F64 F] (orig : Alert) (stampedAt : DateTime) (z : F) : Alert where
  id := orig.id
  correlationId := orig.correlationId
  timestamp := stampedAt
  severity := .alert
  detector := orig.detector ++ ".anomaly"
  eventType := orig.eventType
  title := "ANOMALY: " ++ orig.detector ++ " " ++ decimal orig.eventType.toNat ++ " by "
    ++ orig.comm ++ " - z=" ++ F64.display1 z ++ "σ"
  description := "rate diverges from learned baseline"
  pid := orig.pid
  uid := orig.uid
  comm := orig.comm
  context := .obj [("anomaly", .bool true), ("z_score", F64.toJson z),
    ("of_alert_id", .ofNat orig.id), ("of_correlation_id", .str orig.correlationId)]

/-- The marker of `emit_burst_marker`. -/
def burstMarker (orig : Alert) (stampedAt : DateTime) : Alert where
  id := orig.id
  correlationId := orig.correlationId
  timestamp := stampedAt
  severity := .critical
  detector := orig.detector ++ ".burst"
  eventType := orig.eventType
  title := "BURST: " ++ orig.detector ++ " " ++ decimal orig.eventType.toNat
    ++ " fired ≥ threshold per second by " ++ orig.comm
  description := "rate-limit burst threshold exceeded"
  pid := orig.pid
  uid := orig.uid
  comm := orig.comm
  context := .obj [("burst", .bool true), ("of_alert_id", .ofNat orig.id),
    ("of_correlation_id", .str orig.correlationId)]

/-- The globals behind `print_alert`. -/
structure Pipeline (F : Type) where
  baseline : Baseline F
  limiter : RateLimiter
  counters : Counters

namespace Pipeline

variable {F : Type} [F64 F]

/-- One call of `print_alert`: the alert, what the baseline and the limiter read
from their surroundings, and the times stamped on the two markers. -/
structure Call where
  alert : Alert
  scored : DateTime
  pairOrder : List Text
  checked : RateLimiter.Moment
  burstAt : DateTime
  anomalyAt : DateTime

/-- The limiter's key of an alert. -/
def keyOf (alert : Alert) : Key := ⟨alert.detector, alert.comm, alert.eventType⟩

/-- The anomaly branch: the marker, where the score is anomalous. -/
def anomalies (c : Call) (z : Option F) : List Alert :=
  z.elim [] fun score => [anomalyMarker c.alert c.anomalyAt score]

/-- The records a decision hands to `emit`, in order. -/
def records (c : Call) (z : Option F) : Decision → List Alert
  | .suppress => anomalies c z
  | .allow => c.alert :: anomalies c z
  | .burst => c.alert :: burstMarker c.alert c.burstAt :: anomalies c z

/-- What a decision does to the counters. -/
def counted (counters : Counters) (alert : Alert) (z : Option F) (d : Decision) : Counters :=
  let counters := match d with
    | .suppress => counters.recordSuppressed alert.detector alert.severity
    | .allow => counters.recordAlert alert.detector alert.severity
    | .burst => (counters.recordAlert alert.detector alert.severity).recordBurst alert.detector
  if z.isSome then counters.recordAnomaly alert.detector else counters

/-- The call of `record_and_score` in `print_alert`. -/
def scoring (c : Call) : Baseline.Call := ⟨c.scored, c.pairOrder, c.alert.detector, c.alert.comm⟩

/-- `print_alert`. A panic of the baseline ends the call before the limiter. -/
def printAlert (p : Pipeline F) (c : Call) : Pipeline F × List Alert :=
  let scored := p.baseline.recordAndScore (scoring c)
  match scored.2 with
  | .panicked => ({ p with baseline := scored.1 }, [])
  | .score z =>
      let checked := p.limiter.check c.checked (keyOf c.alert) c.alert.severity
      (⟨scored.1, checked.1, counted p.counters c.alert z checked.2⟩, records c z checked.2)

/-- The calls as a machine; its outputs are the records. -/
def machine : Machine (Pipeline F) Call (List Alert) where
  step := printAlert
  ok p c := p.baseline.Admissible (scoring c) ∧
    p.limiter.Admissible (.check c.checked (keyOf c.alert) c.alert.severity)

@[simp] lemma machine_step (p : Pipeline F) (c : Call) : machine.step p c = p.printAlert c := rfl

end Pipeline

end Kernelradar
