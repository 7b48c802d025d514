import Kernelradar.Cli.Bootstrap
import Kernelradar.Detectors.Cidr
import Kernelradar.Library.Machine

/-!
`main.rs`: the `daemon` subcommand and its reloads.

* `main`: the best-effort load, the services and the shared lists;
* `reload`: one pass of the loop in `spawn_sighup_handler`;
* `machine`: the running daemon, with reload attempts and alerts for the webhook
  as events;
* `accepted`, `lastAccepted`: the configuration an attempt brings in, and the
  last one brought in;
* `settings`: what a daemon is for, with the configurations in place of the
  settings; `implements_after`: the daemon refines it;
* `settings_of_run`: the settings in every state of a run.

Output format, log filter, preflight and LSM installation are left out: no
setting below depends on them.
-/

namespace Kernelradar

open Library

/-- What the daemon is given: the parser of its configuration, the regex crate,
and the command line (`--config`, `--allow`). -/
structure Setup (F : Type) [F64 F] where
  toml : Text → Option (Config F)
  re : RegexCrate
  configPath : Text
  allow : Text

/-- The lists shared with the detectors: an allowlist for each name, and the
destination CIDRs. -/
structure Shared where
  allowlists : List (Text × SharedAllowlist)
  cidrs : SharedCidrList

/-- The settings of a running daemon. -/
structure Daemon (F : Type) [F64 F] where
  services : Services F
  shared : Shared

namespace Daemon

variable {F : Type} [F64 F] (setup : Setup F)

/-- `DETECTOR_NAMES`, in the order of the keys of `shared`. -/
def detectorNames : List Text :=
  ["bpf-loader", "container", "cred", "fim", "injection", "kmod", "network", "privesc"]

/-- `parse_allow`. -/
def parseAllow (s : Text) : List Text := (Text.splitOn ',' s).map Text.trim

/-- The lists of `run_daemon`. -/
def runDaemon (cfg : Config F) : Shared where
  allowlists := detectorNames.map fun name =>
    (name, SharedAllowlist.new setup.re (cfg.allowlistFor name (parseAllow setup.allow)))
  cidrs := SharedCidrList.new (Cidr.parseAll cfg.network.destinationCidrAllowlist).1

/-- `Config::from_path(&cli.config).unwrap_or_default()`. -/
def startConfig (file : ConfigFile) : Config F :=
  match Config.fromPath setup.toml setup.configPath file with
  | .ok cfg => cfg
  | .error _ => {}

/-- `main` for the `daemon` subcommand. -/
def main (file : ConfigFile) : Daemon F where
  services := Bootstrap.initRuntimeServices (startConfig setup file)
  shared := runDaemon setup (startConfig setup file)

/-- The replacements of an accepted reload. -/
def replaceAll (shared : Shared) (newCfg : Config F) : Shared where
  allowlists := shared.allowlists.map fun sl =>
    (sl.1, sl.2.replace setup.re (newCfg.allowlistFor sl.1 (parseAllow setup.allow)))
  cidrs := shared.cidrs.replace (Cidr.parseAll newCfg.network.destinationCidrAllowlist).1

/-- One SIGHUP. -/
def reload (shared : Shared) (file : ConfigFile) : Shared :=
  match Config.fromPath setup.toml setup.configPath file with
  | .ok newCfg =>
      let issues := newCfg.validate setup.re
      if ¬issues.isEmpty then shared
      else replaceAll setup shared newCfg
  | .error _ => shared

/-- What happens to a running daemon: a SIGHUP, which finds a file, or an alert
handed to the webhook. -/
inductive Event where
  | sighup (file : ConfigFile)
  | alert (alert : Alert) (permit : Bool) (payload : Option Text)

/-- One event, with the request it sends. -/
def step (d : Daemon F) : Event → Daemon F × Option Post
  | .sighup file => ({ d with shared := reload setup d.shared file }, none)
  | .alert alert permit payload =>
      (d, WebhookConfig.submit d.services.webhook alert permit payload)

/-- The running daemon. -/
def machine : Machine (Daemon F) Event (Option Post) := ⟨step setup, fun _ _ => True⟩

@[simp] lemma machine_step (d : Daemon F) (e : Event) :
    (machine setup).step d e = step setup d e := rfl

/-! ### Where the settings come from -/

/-- The configuration an attempt brings in. -/
def accepted (file : ConfigFile) : Option (Config F) :=
  match Config.fromPath setup.toml setup.configPath file with
  | .ok newCfg => if (newCfg.validate setup.re).isEmpty then some newCfg else none
  | .error _ => none

/-- The configuration in force after an event. -/
def inForce (cfg : Config F) : Event → Config F
  | .sighup file => (accepted setup file).getD cfg
  | .alert _ _ _ => cfg

/-- The last accepted configuration, or the first one. -/
def lastAccepted (cfg : Config F) (es : List Event) : Config F := es.foldl (inForce setup) cfg

/-- What is accepted is valid. -/
lemma validate_of_accepted {file : ConfigFile} {cfg : Config F}
    (h : accepted setup file = some cfg) : cfg.validate setup.re = [] := by
  rw [accepted] at h
  cases hload : Config.fromPath setup.toml setup.configPath file with
  | error e => rw [hload] at h; cases h
  | ok newCfg =>
      rw [hload] at h
      dsimp only at h
      split_ifs at h with hempty
      obtain rfl := Option.some.inj h
      exact List.isEmpty_iff.mp hempty

/-- A reload replaces everything, or nothing. -/
lemma reload_eq (shared : Shared) (file : ConfigFile) :
    reload setup shared file
      = (accepted setup file).elim shared (replaceAll setup shared) := by
  rw [reload, accepted]
  cases Config.fromPath setup.toml setup.configPath file with
  | error e => rfl
  | ok newCfg => by_cases hempty : (newCfg.validate setup.re).isEmpty = true <;> simp [hempty]

/-- Replacing the lists of a daemon gives the lists of a fresh start. -/
lemma replaceAll_runDaemon (cfg newCfg : Config F) :
    replaceAll setup (runDaemon setup cfg) newCfg = runDaemon setup newCfg := by
  refine congrArg₂ Shared.mk ?_ (SharedCidrList.replace_eq_new rfl _)
  rw [runDaemon, List.map_map]
  exact List.map_congr_left fun name _ =>
    congrArg (Prod.mk name) (SharedAllowlist.replace_eq_new rfl _)

/-! ### What a daemon is for -/

/-- The abstract daemon: the configuration it started with and the one in force. -/
structure Settings (F : Type) [F64 F] where
  started : Config F
  current : Config F

/-- One event of the abstract daemon. -/
def Settings.step (s : Settings F) : Event → Settings F × Option Post
  | .sighup file => ({ s with current := (accepted setup file).getD s.current }, none)
  | .alert alert permit payload =>
      (s, WebhookConfig.submit (Bootstrap.webhookConfig s.started.webhook).init alert permit
        payload)

/-- The abstract daemon as a machine. -/
def settings : Machine (Settings F) Event (Option Post) := ⟨Settings.step setup, fun _ _ => True⟩

/-- The services are those of the start, the lists those of a fresh start with
the configuration in force. -/
def Implements (d : Daemon F) (s : Settings F) : Prop :=
  d.services = Bootstrap.initRuntimeServices s.started ∧ d.shared = runDaemon setup s.current

/-- One event of the daemon is one event of the abstract daemon. -/
lemma step_implements {d : Daemon F} {s : Settings F} (h : Implements setup d s) (e : Event) :
    Implements setup (step setup d e).1 (s.step setup e).1 ∧
      (step setup d e).2 = (s.step setup e).2 := by
  obtain ⟨hservices, hshared⟩ := h
  cases e with
  | alert alert permit payload =>
      refine ⟨⟨hservices, hshared⟩, ?_⟩
      show WebhookConfig.submit d.services.webhook alert permit payload = _
      rw [hservices]
      rfl
  | sighup file =>
      refine ⟨⟨hservices, ?_⟩, rfl⟩
      show reload setup d.shared file = runDaemon setup ((accepted setup file).getD s.current)
      rw [reload_eq, hshared]
      cases accepted setup file with
      | none => rfl
      | some newCfg => exact replaceAll_runDaemon setup s.current newCfg

/-- **Refinement**: a run of the daemon is a run of the abstract one, with the
same requests. -/
theorem implements_after {d : Daemon F} {s : Settings F} (h : Implements setup d s)
    (es : List Event) :
    Implements setup ((machine setup).after d es) ((settings setup).after s es) ∧
      (machine setup).outs d es = (settings setup).outs s es := by
  have hvalid : (machine setup).Valid d es := Machine.valid_of_ok _ (fun _ _ => trivial) es d
  have hsim := (machine setup).simulation (N := settings setup) (R := Implements setup) (f := id)
    (fun d s e h _ => step_implements setup h e) h hvalid
  rwa [List.map_id] at hsim

/-- A fresh daemon implements the configuration it loaded. -/
lemma implements_main (file : ConfigFile) :
    Implements setup (main setup file) ⟨startConfig setup file, startConfig setup file⟩ :=
  ⟨rfl, rfl⟩

/-- The abstract daemon keeps its start, and has the last accepted configuration
in force. -/
lemma settings_after (es : List Event) : ∀ s : Settings F,
    (settings setup).after s es = ⟨s.started, lastAccepted setup s.current es⟩ := by
  induction es with
  | nil => exact fun _ => rfl
  | cons e es ih =>
      intro s
      rw [Machine.after_cons, ih]
      cases e <;> rfl

/-- **The settings of a run**: the services are those of the start-up
configuration, the lists those a fresh start with the last accepted one builds. -/
theorem settings_of_run (file : ConfigFile) (es : List Event) :
    ((machine setup).after (main setup file) es).services
        = Bootstrap.initRuntimeServices (startConfig setup file) ∧
      ((machine setup).after (main setup file) es).shared
        = runDaemon setup (lastAccepted setup (startConfig setup file) es) := by
  have hafter := (implements_after setup (implements_main setup file) es).1
  rwa [settings_after] at hafter

/-- From a valid configuration only a valid one comes into force. -/
lemma validate_inForce {cfg : Config F} (h : cfg.validate setup.re = []) (e : Event) :
    (inForce setup cfg e).validate setup.re = [] := by
  cases e with
  | alert alert permit payload => exact h
  | sighup file =>
      rw [inForce]
      cases hacc : accepted setup file with
      | none => exact h
      | some newCfg => exact validate_of_accepted setup hacc

lemma validate_lastAccepted (es : List Event) : ∀ cfg : Config F,
    cfg.validate setup.re = [] → (lastAccepted setup cfg es).validate setup.re = [] := by
  induction es with
  | nil => intro cfg h; exact h
  | cons e es ih => intro cfg h; exact ih (inForce setup cfg e) (validate_inForce setup h e)

end Daemon

end Kernelradar
