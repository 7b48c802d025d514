import Kernelradar.Core.Event

/-!
`webhook.rs`: what is POSTed, where to, and what is logged about it.

The three `OnceLock`s are set together by `init`, so one option stands for them.
Nothing but log lines depends on how the POST ends; `submitLog` takes it as an argument.
-/

namespace Kernelradar

open Library

/-- `WebhookConfig`. -/
structure WebhookConfig where
  enabled : Bool
  url : Text
  timeoutSecs : ℕ
  authToken : Option Text
  severityFilterAlertOrHigher : Bool

/-- A request `submit` sends. -/
structure Post where
  url : Text
  authorization : Option Text
  body : Text

namespace WebhookConfig

/-- `init`: the configuration `submit` finds, if any. -/
def init (config : WebhookConfig) : Option WebhookConfig :=
  if !config.enabled || config.url.isEmpty then none else some config

/-- `submit`: `permit` says whether an in-flight permit is free, `payload` is the
serialised alert. -/
def submit (global : Option WebhookConfig) (alert : Alert) (permit : Bool)
    (payload : Option Text) : Option Post :=
  match global with
  | none => none
  | some cfg =>
      if cfg.severityFilterAlertOrHigher ∧ alert.severity.toU8 < Severity.alert.toU8 then none
      else if !permit then none
      else payload.map fun body =>
        { url := cfg.url, authorization := cfg.authToken.map fun t => "Bearer " ++ t, body := body }

/-- A POST goes to the URL of an enabled configuration. -/
lemma url_of_submit {config : WebhookConfig} {alert : Alert} {permit : Bool}
    {payload : Option Text} {post : Post}
    (h : submit config.init alert permit payload = some post) :
    config.enabled = true ∧ config.url ≠ [] ∧ post.url = config.url := by
  rw [init] at h
  split_ifs at h with hoff
  · cases h
  · have hon : config.enabled = true ∧ config.url ≠ [] := by
      simpa [List.isEmpty_iff] using hoff
    unfold submit at h
    dsimp only at h
    split_ifs at h
    obtain ⟨body, -, rfl⟩ := Option.map_eq_some_iff.mp h
    exact ⟨hon.1, hon.2, rfl⟩

end WebhookConfig

/-! ### The log -/

/-- `reqwest::Url`; path, query and fragment are one text. -/
structure Url where
  scheme : Text
  userinfo : Option Text
  host : Option Text
  port : Option ℕ
  tail : Text

namespace Url

/-- A port behind its colon. -/
def colonPort (u : Url) : Text := u.port.elim [] fun p => ':' :: Nat.toDigits 10 p

/-- `Display` of a URL; one without a host has no authority. -/
def display (u : Url) : Text :=
  match u.host with
  | some host =>
      u.scheme ++ ("://" : Text) ++ u.userinfo.elim [] (fun user => user ++ ['@']) ++ host
        ++ u.colonPort ++ u.tail
  | none => u.scheme ++ ':' :: u.tail

end Url

/-- An error of `send`: its text, and whether it has the URL of the request with it. -/
structure SendError where
  text : Text
  withUrl : Bool

/-- How a POST ends. -/
inductive PostOutcome where
  | reply (status : ℕ)
  | failed (error : SendError)

/-- What the log takes from the client: `Url::parse`, the URL of the request that `post` builds
from a URL, and `Display` of a status. -/
structure Reqwest where
  parse : Text → Option Url
  request : Url → Url
  statusText : ℕ → Text

/-- `Display` of an error: the text, and the request URL where the error has it. -/
def Reqwest.errorText (r : Reqwest) (url : Text) (e : SendError) : Text :=
  match r.parse url with
  | some u => if e.withUrl then e.text ++ " for url (" ++ (r.request u).display ++ ")" else e.text
  | none => e.text

/-- A record of `tracing::warn!`. -/
structure LogRecord where
  message : Text
  fields : List (Text × Text)
  deriving DecidableEq

/-- `sanitize_url`. -/
def sanitizeUrl (r : Reqwest) (url : Text) : Text :=
  match r.parse url with
  | some u => u.scheme ++ "://" ++ u.host.getD "?" ++ u.colonPort
  | none => "<malformed>"

/-- What the spawned task logs. -/
def postLog (r : Reqwest) (url : Text) : PostOutcome → List LogRecord
  | .reply status =>
      if 200 ≤ status ∧ status ≤ 299 then []
      else [⟨"webhook: non-2xx response",
        [("status", r.statusText status), ("url", sanitizeUrl r url)]⟩]
  | .failed e =>
      [⟨"webhook: send failed", [("error", r.errorText url e), ("url", sanitizeUrl r url)]⟩]

namespace WebhookConfig

/-- The records of `submit` and of the task it spawns. -/
def submitLog (r : Reqwest) (global : Option WebhookConfig) (alert : Alert) (permit : Bool)
    (payload : Option Text) (outcome : PostOutcome) : List LogRecord :=
  match global with
  | none => []
  | some cfg =>
      if cfg.severityFilterAlertOrHigher ∧ alert.severity.toU8 < Severity.alert.toU8 then []
      else if !permit then
        [⟨"webhook: dropping alert, inflight cap reached (collector slow / unreachable)",
          [("cap", "100")]⟩]
      else
        match payload with
        | none => []
        | some _ => postLog r cfg.url outcome

end WebhookConfig

end Kernelradar
