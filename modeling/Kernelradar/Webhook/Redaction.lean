import Mathlib.Data.List.Basic
import Kernelradar.Detectors.Webhook

/-!
What the log says about the URL of the webhook.

* `sanitizeUrl_congr`: scheme, host and port are all that `sanitize_url` lets through;
* `postLog_eq_iff`: two URLs that share them are told apart by an error that shows the URL of
  the request, and by nothing else;
* `submitLog_eq_iff`: the same of `submit`.
-/

namespace Kernelradar

open Library

/-- The outcome puts the URL of the request into the log. -/
def PostOutcome.ShowsUrl : PostOutcome → Prop
  | .reply _ => False
  | .failed e => e.withUrl = true

namespace Url

/-- Two URLs with the same scheme, host and port. -/
structure SameOrigin (u v : Url) : Prop where
  scheme : u.scheme = v.scheme
  host : u.host = v.host
  port : u.port = v.port

end Url

section TwoUrls

variable {r : Reqwest} {s t : Text} {u v : Url}

/-- Scheme, host and port are all that is let through. -/
lemma sanitizeUrl_congr (hs : r.parse s = some u) (ht : r.parse t = some v)
    (hsame : u.SameOrigin v) : sanitizeUrl r s = sanitizeUrl r t := by
  simp only [sanitizeUrl, hs, ht, Url.colonPort, hsame.scheme, hsame.host, hsame.port]

/-- What an error says of two URLs. -/
lemma errorText_eq_iff (hs : r.parse s = some u) (ht : r.parse t = some v) (e : SendError) :
    r.errorText s e = r.errorText t e ↔
      (e.withUrl = true → (r.request u).display = (r.request v).display) := by
  simp only [Reqwest.errorText, hs, ht]
  split_ifs with hshown
  · rw [List.append_left_inj, List.append_right_inj]
    exact ⟨fun h _ => h, fun h => h hshown⟩
  · exact iff_of_true rfl fun h => absurd h hshown

/-- What the task logs about two URLs of one origin. -/
lemma postLog_eq_iff (hs : r.parse s = some u) (ht : r.parse t = some v)
    (hsame : u.SameOrigin v) (outcome : PostOutcome) : postLog r s outcome = postLog r t outcome ↔
      (outcome.ShowsUrl → (r.request u).display = (r.request v).display) := by
  cases outcome with
  | reply status =>
      rw [postLog, postLog, sanitizeUrl_congr hs ht hsame]
      exact iff_of_true rfl False.elim
  | failed e =>
      rw [PostOutcome.ShowsUrl, ← errorText_eq_iff hs ht e, postLog, postLog,
        sanitizeUrl_congr hs ht hsame]
      simp

end TwoUrls

namespace WebhookConfig

/-- The alert passes the severity filter, a permit is free, and the payload is there. -/
structure Sends (cfg : WebhookConfig) (alert : Alert) (permit : Bool) (payload : Option Text) :
    Prop where
  severity : ¬(cfg.severityFilterAlertOrHigher ∧ alert.severity.toU8 < Severity.alert.toU8)
  permit : permit = true
  payload : payload.isSome = true

/-- **The log and the secrets of a URL.** For two URLs of one origin `submit` logs the same,
whatever stands in their paths, queries and user information, except where the POST ends with
an error that shows the URL of the request and these two URLs differ. -/
theorem submitLog_eq_iff (r : Reqwest) (cfg : WebhookConfig) (alert : Alert) (permit : Bool)
    (payload : Option Text) (outcome : PostOutcome) (s t : Text) (u v : Url)
    (hs : r.parse s = some u) (ht : r.parse t = some v) (hsame : u.SameOrigin v) :
    submitLog r (some { cfg with url := s }) alert permit payload outcome
        = submitLog r (some { cfg with url := t }) alert permit payload outcome ↔
      (cfg.Sends alert permit payload → outcome.ShowsUrl →
        (r.request u).display = (r.request v).display) := by
  simp only [submitLog]
  split_ifs with hseverity hpermit
  · exact iff_of_true rfl fun h => absurd hseverity h.severity
  · exact iff_of_true rfl fun h => by simp [h.permit] at hpermit
  · cases payload with
    | none => exact iff_of_true rfl fun h => nomatch h.payload
    | some body =>
        have hsends : cfg.Sends alert permit (some body) :=
          ⟨hseverity, by simpa using hpermit, rfl⟩
        rw [forall_prop_of_true hsends]
        exact postLog_eq_iff hs ht hsame outcome

/-- A client that reads the URLs of one host, and takes user information out of its requests. -/
def slack : Reqwest where
  parse s := (Text.stripPrefix s "https://hooks.slack.com").bind fun tail =>
    if tail.head? = some '/' then some ⟨"https", none, some "hooks.slack.com", none, tail⟩ else none
  request u := { u with userinfo := none }
  statusText _ := "503 Service Unavailable"

/-- A refusal with 503. -/
theorem submitLog_eq_iff_refused :
    let alert : Alert := ⟨1, "1", 0, .critical, "fim", 1, "write open", [], 7, 0, "cat", .null⟩
    let cfg : WebhookConfig := ⟨true, [], 3, none, false⟩
    submitLog slack (some { cfg with url := "https://hooks.slack.com/T1/SECRET" }) alert true
        (some []) (.reply 503)
      = submitLog slack (some { cfg with url := "https://hooks.slack.com/T2" }) alert true
        (some []) (.reply 503) := by
  intro alert cfg
  exact (submitLog_eq_iff slack cfg alert true (some []) (.reply 503) _ _
    ⟨"https", none, some "hooks.slack.com", none, "/T1/SECRET"⟩
    ⟨"https", none, some "hooks.slack.com", none, "/T2"⟩ rfl rfl ⟨rfl, rfl, rfl⟩).mpr
    fun _ h => False.elim h

/-- A refused connection puts the path into the log. -/
theorem error_shows_path : ¬ ∀ (r : Reqwest) (cfg : WebhookConfig) (alert : Alert) (permit : Bool)
    (payload : Option Text) (outcome : PostOutcome) (s t : Text) (u v : Url),
    r.parse s = some u → r.parse t = some v → u.SameOrigin v →
      submitLog r (some { cfg with url := s }) alert permit payload outcome
        = submitLog r (some { cfg with url := t }) alert permit payload outcome := by
  intro h
  let alert : Alert := ⟨1, "1", 0, .critical, "fim", 1, "write open", [], 7, 0, "cat", .null⟩
  have hsame := h slack ⟨true, [], 3, none, false⟩ alert true (some [])
    (.failed ⟨"error sending request", true⟩) "https://hooks.slack.com/T1/SECRET"
    "https://hooks.slack.com/T2" _ _ rfl rfl ⟨rfl, rfl, rfl⟩
  exact absurd hsame (by decide)

end WebhookConfig

end Kernelradar
