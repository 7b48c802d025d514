import Mathlib.Tactic.NormNum
import Kernelradar.Core.F64
import Kernelradar.Core.WebhookUrl

/-!
`config.rs`: the configuration, its defaults, loading and validation.

* the `…TomlConfig` sections, each with its `Default`;
* `Config.fromPath`: the three ways loading can fail; the TOML parser is a
  parameter;
* `Config.validate`: the list of issues, in the order of the source, as data
  (`Issue`) with the source's words in `Issue.message`;
* `Config.allowlistFor`.
-/

namespace Kernelradar

open Library

/-- What the regex crate decides: `Regex::new(p).is_ok()`, `RegexSet::new(ps).is_ok()`
and `RegexSet::is_match` of a compiled set. -/
structure RegexCrate where
  compiles : Text → Bool
  setCompiles : List Text → Bool
  isMatch : List Text → Text → Bool

/-- The pattern inside an entry of the form `/p/`:
`e.strip_prefix('/').and_then(|s| s.strip_suffix('/'))`. -/
def regexEntry (e : Text) : Option Text :=
  match e with
  | '/' :: s => Text.stripSuffix s ['/']
  | _ => none

/-- `BTreeMap<String, V>`: the entries in the order of their keys. -/
structure BTreeMap (V : Type) where
  entries : List (Text × V)
  sorted : (entries.map Prod.fst).Pairwise (· < ·)

namespace BTreeMap

/-- The map without entries. -/
def empty {V : Type} : BTreeMap V := ⟨[], List.Pairwise.nil⟩

/-- `get`. -/
def get {V : Type} (m : BTreeMap V) (k : Text) : Option V := m.entries.lookup k

end BTreeMap

/-- `GlobalConfig`. -/
structure GlobalConfig where
  logLevel : Text := "info"
  outputFormat : Text := "auto"

/-- `RateLimitTomlConfig`. -/
structure RateLimitTomlConfig where
  windowSecs : ℕ := 60
  windowMax : UInt32 := 10
  burstThreshold : UInt32 := 100
  burstWindowSecs : ℕ := 1
  backoffInitialSecs : ℕ := 60
  backoffMaxSecs : ℕ := 3600
  keysMax : ℕ := 10000

/-- `BaselineTomlConfig`. -/
structure BaselineTomlConfig (F : Type) [F64 F] where
  enabled : Bool := true
  learningSecs : ℕ := 3600 * 24
  scoreThreshold : F := F64.ofRat 3
  alpha : F := F64.ofRat (1 / 10)
  savePath : Text := "/var/lib/kernelradar/state/baseline.json"
  saveIntervalSecs : ℕ := 300
  pairsMax : ℕ := 10000
  evictAgeHours : ℤ := 24 * 7
  minSamplesForScoring : ℕ := 24

/-- `WebhookTomlConfig`. -/
structure WebhookTomlConfig where
  enabled : Bool := false
  url : Text := []
  timeoutSecs : ℕ := 3
  authToken : Option Text := none
  severityFilterAlertOrHigher : Bool := false
  allowPrivateDestinations : Bool := false

/-- `PromTomlConfig`. -/
structure PromTomlConfig where
  enabled : Bool := false
  listenAddr : Text := "127.0.0.1:9101"

/-- `EnforcementTomlConfig`. -/
structure EnforcementTomlConfig where
  selfprotectEnabled : Bool := false
  bpfEnforceEnabled : Bool := false
  kmodEnforceEnabled : Bool := false
  bpfAllowlist : List Text := ["bpftrace", "falco", "kernelradar"]
  kmodAllowlist : List Text := ["modprobe", "kmod", "insmod", "systemd-udevd"]

/-- `IntegrityTomlConfig`. -/
structure IntegrityTomlConfig where
  strictMode : Bool := true

/-- `NetworkTomlConfig`. -/
structure NetworkTomlConfig where
  destinationCidrAllowlist : List Text := []

/-- `DetectorConfig`. -/
structure DetectorConfig where
  enabled : Bool := true
  allowlist : List Text := []

/-- `Config`; an absent section takes its default. -/
structure Config (F : Type) [F64 F] where
  global : GlobalConfig := {}
  ratelimit : RateLimitTomlConfig := {}
  baseline : BaselineTomlConfig F := {}
  webhook : WebhookTomlConfig := {}
  prometheus : PromTomlConfig := {}
  enforcement : EnforcementTomlConfig := {}
  integrity : IntegrityTomlConfig := {}
  network : NetworkTomlConfig := {}
  detectors : BTreeMap DetectorConfig := BTreeMap.empty

/-- What is found at the path of the configuration. -/
inductive ConfigFile where
  | missing
  | unreadable
  | text (t : Text)

/-- `ConfigError`, by the path it names. -/
inductive ConfigError where
  | notFound (path : Text)
  | io (path : Text)
  | parse (path : Text)
  deriving DecidableEq

/-- One of the issues `Config::validate` reports. -/
inductive Issue (F : Type) where
  | outputFormat (value : Text)
  | webhookUrlEmpty
  | webhookUrl (url : Text) (reason : UrlIssue)
  | listenAddrEmpty
  | logLevel (value : Text)
  | unknownDetector (name : Text)
  | badRegex (detector entry : Text)
  | badCidr (entry : Text)
  | alpha (value : F)
  | scoreThreshold (value : F)
  | learningSecs
  | saveIntervalSecs
  | pairsMax
  | keysMax
  | windowSecs
  | burstWindowSecs
  | timeoutSecs

namespace Config

variable {F : Type} [F64 F]

/-- `known`. -/
def known : List Text :=
  ["privesc", "bpf-loader", "container", "kmod", "fim", "network", "injection", "cred"]

/-- `Config::from_path`. -/
def fromPath (toml : Text → Option (Config F)) (path : Text) :
    ConfigFile → Except ConfigError (Config F)
  | .missing => .error (.notFound path)
  | .unreadable => .error (.io path)
  | .text t =>
      match toml t with
      | some c => .ok c
      | none => .error (.parse path)

/-- `Config::allowlist_for`. -/
def allowlistFor (c : Config F) (detector : Text) (fallback : List Text) : List Text :=
  match c.detectors.get detector with
  | some d => if d.allowlist ≠ [] then d.allowlist else fallback
  | none => fallback

/-- `Config::detector_enabled`. -/
def detectorEnabled (c : Config F) (detector : Text) : Bool :=
  ((c.detectors.get detector).map DetectorConfig.enabled).getD true

/-- The issue of a condition that must not hold. -/
def issueIf (bad : Bool) (issue : Issue F) : List (Issue F) := if bad then [issue] else []

/-- The webhook section of `validate`. -/
def webhookIssues (w : WebhookTomlConfig) : List (Issue F) :=
  if w.enabled then
    if w.url = [] then [.webhookUrlEmpty]
    else if w.allowPrivateDestinations then []
    else (webhookUrlSecurityIssue w.url).elim [] fun reason => [.webhookUrl w.url reason]
  else []

/-- The checks of `Config::validate`, in order, each with the issues it finds. -/
def checks (re : RegexCrate) (c : Config F) : List (List (Issue F)) :=
  [issueIf (c.global.outputFormat ∉
      (["auto", "plain", "json", "journald", "falco"] : List Text))
      (.outputFormat c.global.outputFormat),
    webhookIssues c.webhook,
    issueIf (c.prometheus.enabled && c.prometheus.listenAddr.isEmpty) .listenAddrEmpty,
    issueIf (c.global.logLevel ∉
        (["trace", "debug", "info", "warn", "error", "off"] : List Text)
          ∧ '=' ∉ c.global.logLevel ∧ ',' ∉ c.global.logLevel)
      (.logLevel c.global.logLevel),
    c.detectors.entries.flatMap fun d => issueIf (d.1 ∉ known) (.unknownDetector d.1),
    c.detectors.entries.flatMap fun d => d.2.allowlist.flatMap fun entry =>
      issueIf ((regexEntry entry).any fun rx => !re.compiles rx) (.badRegex d.1 entry),
    c.network.destinationCidrAllowlist.flatMap fun entry =>
      issueIf (!Net.isValidIpv4Cidr entry) (.badCidr entry),
    issueIf (!F64.isFinite c.baseline.alpha || F64.le c.baseline.alpha 0
      || F64.lt 1 c.baseline.alpha) (.alpha c.baseline.alpha),
    issueIf (!F64.isFinite c.baseline.scoreThreshold || F64.le c.baseline.scoreThreshold 0)
      (.scoreThreshold c.baseline.scoreThreshold),
    issueIf (c.baseline.learningSecs = 0) .learningSecs,
    issueIf (c.baseline.saveIntervalSecs = 0) .saveIntervalSecs,
    issueIf (c.baseline.pairsMax = 0) .pairsMax,
    issueIf (c.ratelimit.keysMax = 0) .keysMax,
    issueIf (c.ratelimit.windowSecs = 0) .windowSecs,
    issueIf (c.ratelimit.burstWindowSecs = 0) .burstWindowSecs,
    issueIf (c.webhook.enabled && c.webhook.timeoutSecs = 0) .timeoutSecs]

/-- `Config::validate`. -/
def validate (re : RegexCrate) (c : Config F) : List (Issue F) := (c.checks re).flatten

/-- A valid configuration passes every check. -/
lemma check_of_valid {re : RegexCrate} {c : Config F} (h : c.validate re = [])
    {found : List (Issue F)} (hmem : found ∈ c.checks re) : found = [] :=
  List.flatten_eq_nil_iff.mp h found hmem

omit [F64 F] in
/-- A check that finds nothing. -/
lemma issueIf_eq_nil {bad : Bool} {issue : Issue F} : issueIf bad issue = [] ↔ bad = false := by
  cases bad <;> simp [issueIf]

/-- The defaults pass their own check. -/
lemma validate_default (re : RegexCrate) : ({} : Config ℚ).validate re = [] := by
  have halpha : (10 : ℚ)⁻¹ ≤ 1 := by norm_num
  rw [validate, checks]
  simp [issueIf, webhookIssues, BTreeMap.empty, halpha]

end Config

namespace Issue

variable {F : Type} [F64 F]

/-- The text of an issue; `dbg` is the format `{:?}` of a string, `regexError` the
error of the regex crate on a pattern. -/
def message (dbg : Text → Text) (regexError : Text → Text) : Issue F → Text
  | outputFormat v =>
      "global.output_format = " ++ dbg v ++ " (expected auto|plain|json|journald|falco)"
  | webhookUrlEmpty => "webhook.enabled = true but webhook.url is empty"
  | webhookUrl url reason =>
      "webhook.url " ++ dbg url ++ ": " ++ reason.message dbg
        ++ ". Set webhook.allow_private_destinations = true to override."
  | listenAddrEmpty => "prometheus.enabled = true but listen_addr is empty"
  | logLevel v =>
      "global.log_level = " ++ dbg v
        ++ " (expected trace|debug|info|warn|error|off or a RUST_LOG-style filter)"
  | unknownDetector name =>
      "unknown detector " ++ dbg name ++ " (known: ["
        ++ List.intercalate ", ".toList (Config.known.map dbg) ++ "])"
  | badRegex det entry =>
      "detectors." ++ det ++ ".allowlist: bad regex " ++ dbg entry ++ ": "
        ++ (regexEntry entry).elim [] regexError
  | badCidr entry =>
      "network.destination_cidr_allowlist: invalid CIDR " ++ dbg entry
        ++ " (expected a.b.c.d/N, N in 0..=32)"
  | alpha v =>
      "baseline.alpha = " ++ F64.display v ++ " (expected 0.0 < alpha <= 1.0, finite)"
  | scoreThreshold v =>
      "baseline.score_threshold = " ++ F64.display v ++ " (expected positive finite)"
  | learningSecs => "baseline.learning_secs = 0 (expected > 0)"
  | saveIntervalSecs => "baseline.save_interval_secs = 0 (expected > 0)"
  | pairsMax => "baseline.pairs_max = 0 (cap disabled - expected > 0)"
  | keysMax => "ratelimit.keys_max = 0 (cap disabled - expected > 0)"
  | windowSecs => "ratelimit.window_secs = 0 (expected > 0)"
  | burstWindowSecs => "ratelimit.burst_window_secs = 0 (expected > 0)"
  | timeoutSecs =>
      "webhook.timeout_secs = 0 with enabled = true (would let a slow collector pin "
        ++ "all inflight permits forever)"

end Issue

end Kernelradar
