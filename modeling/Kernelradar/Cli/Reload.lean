import Kernelradar.Cli.Daemon

/-!
What can be said of a daemon's settings over its whole run.

* `reload_eq_restart`: reloading is as good as restarting;
* `url_of_valid`, `posts_of_run`: what a valid start-up configuration guarantees
  for the webhook;
* `settings_validated_iff`: the settings come from validated configurations
  exactly when the start-up configuration is valid, which nothing checks;
* `metadata_posted`: a start where it is not.
-/

namespace Kernelradar

open Library

namespace Daemon

variable {F : Type} [F64 F] (setup : Setup F)

/-- **Reloading is restarting**: after any attempts, each finding any file, the
allowlists and the CIDR list are those a fresh start with the last accepted
configuration builds, and an attempt that is not accepted changes nothing. -/
theorem reload_eq_restart (file : ConfigFile) (files : List ConfigFile) :
    let d := (machine setup).after (main setup file) (files.map .sighup)
    d.shared = runDaemon setup
      (files.foldl (fun cfg f => (accepted setup f).getD cfg) (startConfig setup file)) ∧
    ∀ f, accepted setup f = none → (step setup d (.sighup f)).1 = d := by
  intro d
  have hfold : lastAccepted setup (startConfig setup file) (files.map .sighup)
      = files.foldl (fun cfg f => (accepted setup f).getD cfg) (startConfig setup file) :=
    List.foldl_map
  refine ⟨?_, fun f hf => ?_⟩
  · rw [← hfold]
    exact (settings_of_run setup file _).2
  · show ({ d with shared := reload setup d.shared f } : Daemon F) = d
    rw [reload_eq, hf]
    rfl

/-- A validated configuration with an enabled webhook has a URL the guard lets
pass, unless the operator opted out. -/
lemma url_of_valid {re : RegexCrate} {cfg : Config F} (h : cfg.validate re = [])
    (hon : cfg.webhook.enabled = true) (hurl : cfg.webhook.url ≠ []) :
    cfg.webhook.allowPrivateDestinations = true ∨
      webhookUrlSecurityIssue cfg.webhook.url = none := by
  have hwebhook : (Config.webhookIssues cfg.webhook : List (Issue F)) = [] :=
    Config.check_of_valid h (by simp [Config.checks])
  rw [Config.webhookIssues] at hwebhook
  rw [if_pos hon, if_neg hurl] at hwebhook
  cases hallow : cfg.webhook.allowPrivateDestinations with
  | true => exact Or.inl rfl
  | false =>
      rw [hallow] at hwebhook
      cases hissue : webhookUrlSecurityIssue cfg.webhook.url with
      | none => exact Or.inr rfl
      | some reason =>
          rw [hissue] at hwebhook
          cases hwebhook

/-- Whatever a run POSTs goes to the URL of the start-up configuration. -/
lemma posts_of_run (file : ConfigFile) (es : List Event) (post : Post)
    (h : some post ∈ (machine setup).outs (main setup file) es) :
    (startConfig setup file).webhook.enabled = true ∧
      (startConfig setup file).webhook.url ≠ [] ∧
      post.url = (startConfig setup file).webhook.url := by
  let start := startConfig setup file
  -- the abstract daemon sends the same requests and never changes its start
  rw [(implements_after setup (implements_main setup file) es).2] at h
  refine (settings setup).forall_outs (I := fun s => s.started = start)
    (Q := fun out => ∀ post, out = some post → start.webhook.enabled = true ∧
      start.webhook.url ≠ [] ∧ post.url = start.webhook.url) ?_ rfl
    (Machine.valid_of_ok _ (fun _ _ => trivial) es _) _ h post rfl
  rintro s e hs -
  cases e with
  | sighup file => exact ⟨hs, fun _ hpost => by cases hpost⟩
  | alert alert permit payload =>
      refine ⟨hs, fun post hpost => ?_⟩
      rw [← hs]
      exact WebhookConfig.url_of_submit hpost

/-- **Only validated settings**, exactly from a valid start: in every state of a
run the services come from the start-up configuration and the lists from the
last accepted one; all of these are valid in every state exactly when the
start-up configuration is, and then every POST goes to a URL that passes the
guard or that the operator exempted. -/
theorem settings_validated_iff (file : ConfigFile) (es : List Event) :
    (∀ n, ((machine setup).after (main setup file) (es.take n)).services
        = Bootstrap.initRuntimeServices (startConfig setup file) ∧
      ((machine setup).after (main setup file) (es.take n)).shared
        = runDaemon setup (lastAccepted setup (startConfig setup file) (es.take n))) ∧
    ((∀ n, (startConfig setup file).validate setup.re = [] ∧
        (lastAccepted setup (startConfig setup file) (es.take n)).validate setup.re = []) ↔
      (startConfig setup file).validate setup.re = []) ∧
    ((startConfig setup file).validate setup.re = [] →
      ∀ post, some post ∈ (machine setup).outs (main setup file) es →
        (startConfig setup file).webhook.allowPrivateDestinations = true ∨
          webhookUrlSecurityIssue post.url = none) := by
  refine ⟨fun n => settings_of_run setup file _, ⟨fun h => (h 0).1,
    fun h n => ⟨h, validate_lastAccepted setup _ _ h⟩⟩, fun h post hmem => ?_⟩
  obtain ⟨hon, hurl, hpost⟩ := posts_of_run setup file es post hmem
  rw [hpost]
  exact url_of_valid h hon hurl

/-- A configuration file whose webhook points at the cloud metadata service. -/
def metadataToml : Text :=
  "[webhook]\nenabled = true\nurl = \"https://169.254.169.254/hook\"\n"

/-- A start with that file; no pattern is ever asked for. -/
def metadataSetup : Setup ℚ where
  toml t := if t = metadataToml then
      some { webhook := { enabled := true, url := "https://169.254.169.254/hook" } }
    else none
  re := ⟨fun _ => true, fun _ => true, fun _ _ => false⟩
  configPath := "/etc/kernelradar/config.toml"
  allow := ""

/-- The alert handed to the webhook in that start. -/
def metadataAlert : Alert where
  id := 1
  correlationId := "c"
  timestamp := 0
  severity := .critical
  detector := "kmod"
  eventType := 1
  title := "t"
  description := ""
  pid := 1
  uid := 0
  comm := "insmod"
  context := .null

/-- Start-up lets an invalid configuration through: an alert is POSTed to an
address the guard refuses, without the operator's exemption. -/
theorem metadata_posted :
    let cfg := startConfig metadataSetup (.text metadataToml)
    cfg.validate metadataSetup.re ≠ [] ∧ cfg.webhook.allowPrivateDestinations = false ∧
    ∃ post, (machine metadataSetup).outs (main metadataSetup (.text metadataToml))
        [.alert metadataAlert true (some "body")] = [some post] ∧
      webhookUrlSecurityIssue post.url
        = some (.blockedHost "169.254.169.254") := by
  intro cfg
  have hcfg : cfg = { webhook := { enabled := true, url := "https://169.254.169.254/hook" } } := rfl
  have hissue : webhookUrlSecurityIssue "https://169.254.169.254/hook"
      = some (.blockedHost "169.254.169.254") := by decide +kernel
  refine ⟨fun hvalid => ?_, rfl, _, rfl, hissue⟩
  have hguard := url_of_valid hvalid rfl (by rw [hcfg]; decide)
  rw [hcfg, hissue] at hguard
  simp at hguard

end Daemon

end Kernelradar
