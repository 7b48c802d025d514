import Kernelradar.Cli.Daemon
import Kernelradar.Detectors.OpenPath

/-!
A reload among the steps of a handler.

* `Detector`: the detectors of `run_daemon`, each with its `handle`;
* `reloadSteps`: the writes of one pass of the SIGHUP loop, in order;
  `writeAll_reloadSteps`: together they are `reload`;
* `verdicts_of_atomic`, `verdicts_of_network`: what a handler can decide during
  a reload;
* `swap_atomic_iff`: the verdict is that of the old or of the new configuration
  unless the reload hands a connection from the allowlist to the CIDR list.
-/

namespace Kernelradar

open Library

/-- The detectors `run_daemon` spawns. -/
inductive Detector where
  | privesc
  | bpfLoader (selfTgid : UInt32)
  | container
  | kmod
  | fim
  | network
  | injection
  | cred
  deriving DecidableEq

namespace Detector

/-- The key of a detector in `shared`. -/
def name : Detector → Text
  | privesc => "privesc"
  | bpfLoader _ => "bpf-loader"
  | container => "container"
  | kmod => "kmod"
  | fim => "fim"
  | network => "network"
  | injection => "injection"
  | cred => "cred"

/-- The `handle` of a detector. -/
def handle : Detector → RegexCrate → Scene → KrEvent → Reads Held (Option Alert)
  | privesc => PrivEscDetector.handle
  | bpfLoader selfTgid => BpfLoaderDetector.handle selfTgid
  | container => ContainerDetector.handle
  | kmod => KmodDetector.handle
  | fim => FimDetector.handle
  | network => NetworkDetector.handle
  | injection => InjectionDetector.handle
  | cred => CredDetector.handle

lemma name_mem (det : Detector) : det.name ∈ Daemon.detectorNames := by
  cases det <;> (dsimp only [name]; decide)

/-- Every detector but the network one decides on one snapshot at most. -/
lemma handle_atomic {det : Detector} (h : det ≠ network) (re : RegexCrate) (sc : Scene)
    (ev : KrEvent) : det.handle re sc ev = .done none ∨
      ∃ report, det.handle re sc ev = attributed re sc ev report := by
  cases det with
  | network => exact absurd rfl h
  | bpfLoader selfTgid =>
      by_cases hself : ev.pid = selfTgid
      · exact Or.inl (by rw [handle, BpfLoaderDetector.handle, if_pos hself])
      · exact Or.inr ⟨_, by rw [handle, BpfLoaderDetector.handle, if_neg hself]⟩
  | privesc => exact Or.inr ⟨_, by rw [handle, PrivEscDetector.handle]⟩
  | container => exact Or.inr ⟨_, by rw [handle, ContainerDetector.handle]⟩
  | kmod => exact Or.inr ⟨_, by rw [handle, KmodDetector.handle]⟩
  | fim => exact Or.inr ⟨_, by rw [handle, FimDetector.handle, openPathHandle]⟩
  | injection => exact Or.inr ⟨_, by rw [handle, InjectionDetector.handle]⟩
  | cred => exact Or.inr ⟨_, by rw [handle, CredDetector.handle, openPathHandle]⟩

end Detector

namespace Daemon

variable {F : Type} [F64 F] (setup : Setup F)

/-! ### The writes of a reload -/

/-- One turn of the loop over `shared`. -/
def replaceAllowlist (newCfg : Config F) (name : Text) (shared : Shared) : Shared :=
  { shared with allowlists := shared.allowlists.map fun sl =>
      if sl.1 = name then
        (sl.1, sl.2.replace setup.re (newCfg.allowlistFor sl.1 (parseAllow setup.allow)))
      else sl }

/-- The last write. -/
def replaceCidrs (newCfg : Config F) (shared : Shared) : Shared :=
  { shared with
    cidrs := shared.cidrs.replace (Cidr.parseAll newCfg.network.destinationCidrAllowlist).1 }

/-- The writes that bring in a configuration. -/
def replaceSteps (newCfg : Config F) : List (Shared → Shared) :=
  detectorNames.map (replaceAllowlist setup newCfg) ++ [replaceCidrs newCfg]

/-- The writes of one pass of the SIGHUP loop. -/
def reloadSteps (file : ConfigFile) : List (Shared → Shared) :=
  (accepted setup file).elim [] (replaceSteps setup)

/-- The turns of the loop replace the lists they name. -/
lemma writeAll_replaceAllowlist (newCfg : Config F) : ∀ (names : List Text) (shared : Shared),
    writeAll shared (names.map (replaceAllowlist setup newCfg)) =
      { shared with allowlists := shared.allowlists.map fun sl =>
          if sl.1 ∈ names then
            (sl.1, sl.2.replace setup.re (newCfg.allowlistFor sl.1 (parseAllow setup.allow)))
          else sl } := by
  intro names
  induction names with
  | nil =>
      intro shared
      simp
  | cons name names ih =>
      intro shared
      rw [List.map_cons, writeAll_cons, ih]
      simp only [replaceAllowlist, List.map_map, Shared.mk.injEq, and_true]
      refine List.map_congr_left fun sl _ => ?_
      by_cases hname : sl.1 = name
      · simp [hname, SharedAllowlist.replace, RwLock.store_store]
      · simp [hname]

/-- The writes of a reload add up to the reload. -/
lemma writeAll_reloadSteps (cfg : Config F) (file : ConfigFile) :
    writeAll (runDaemon setup cfg) (reloadSteps setup file)
      = runDaemon setup ((accepted setup file).getD cfg) := by
  rw [reloadSteps]
  cases accepted setup file with
  | none => rfl
  | some newCfg =>
      rw [Option.elim_some, Option.getD_some, ← replaceAll_runDaemon setup cfg newCfg, replaceSteps,
        writeAll_append, writeAll_replaceAllowlist]
      simp only [writeAll_cons, writeAll_nil, replaceCidrs, replaceAll, Shared.mk.injEq, and_true]
      refine List.map_congr_left fun sl hsl => if_pos ?_
      obtain ⟨name, hname, rfl⟩ := List.mem_map.mp hsl
      exact hname

/-! ### What a handler sees -/

/-- What a detector got from `shared`; every detector has its key there. -/
def held (det : Detector) (shared : Shared) : Held where
  allowlist := (shared.allowlists.lookup det.name).getD (RwLock.new ⟨[], []⟩)
  cidrs := shared.cidrs

/-- A handler on the daemon's locks. -/
def handling (det : Detector) (sc : Scene) (ev : KrEvent) : Reads Shared (Option Alert) :=
  (det.handle setup.re sc ev).comap (held det)

/-- The verdict under one configuration as a whole: is an alert raised? -/
def verdict (cfg : Config F) (det : Detector) (sc : Scene) (ev : KrEvent) : Bool :=
  ((handling setup det sc ev).run (runDaemon setup cfg)).isSome

/-- The allowlist of a detector lets the process of an event pass. -/
def processListed (cfg : Config F) (det : Detector) (sc : Scene) (ev : KrEvent) : Bool :=
  (CompiledAllowlist.build setup.re (cfg.allowlistFor det.name (parseAllow setup.allow))).isAllowed
    setup.re (commStr ev) (readExePathVerified sc.proc (commStr ev))

/-- The CIDR list lets the destination of an event pass. -/
def destinationListed (cfg : Config F) (ev : KrEvent) : Bool :=
  (Cidr.parseAll cfg.network.destinationCidrAllowlist).1.any fun c =>
    c.contains (NetworkDetector.ipHost ev)

lemma lookup_map {β : Type} (f : Text → β) {k : Text} {ks : List Text} (h : k ∈ ks) :
    (ks.map fun name => (name, f name)).lookup k = some (f k) := by
  induction ks with
  | nil => cases h
  | cons name ks ih =>
      rw [List.map_cons, List.lookup_cons]
      by_cases hk : k = name
      · rw [hk]
        simp
      · rw [beq_false_of_ne hk]
        exact ih (List.mem_of_ne_of_mem hk h)

/-- What a detector holds at a start. -/
lemma held_runDaemon (cfg : Config F) (det : Detector) :
    held det (runDaemon setup cfg) =
      { allowlist := SharedAllowlist.new setup.re
          (cfg.allowlistFor det.name (parseAllow setup.allow))
        cidrs := SharedCidrList.new (Cidr.parseAll cfg.network.destinationCidrAllowlist).1 } := by
  rw [held, runDaemon, lookup_map _ det.name_mem]
  rfl

lemma lookup_replaceAllowlist (newCfg : Config F) (name k : Text) (shared : Shared) :
    (replaceAllowlist setup newCfg name shared).allowlists.lookup k =
      (shared.allowlists.lookup k).map fun l =>
        if k = name then l.replace setup.re (newCfg.allowlistFor k (parseAllow setup.allow))
        else l := by
  obtain ⟨allowlists, cidrs⟩ := shared
  rw [replaceAllowlist]
  dsimp only
  induction allowlists with
  | nil => rfl
  | cons sl allowlists ih =>
      rw [List.map_cons, List.lookup_cons, List.lookup_cons, ih]
      by_cases hk : k = sl.1
      · subst hk
        by_cases hname : sl.1 = name <;> simp [hname]
      · have hhead : (k == sl.1) = false := beq_false_of_ne hk
        by_cases hname : sl.1 = name
        · rw [if_pos hname, hhead]
        · rw [if_neg hname, hhead]

/-- A turn of the loop keeps a detector's allowlist or sets it. -/
lemma allowlist_replaceSteps (newCfg : Config F) (det : Detector) :
    ∀ w ∈ replaceSteps setup newCfg, ∀ shared,
      (held det (w shared)).allowlist = (held det shared).allowlist ∨
        (held det (w shared)).allowlist = (held det (runDaemon setup newCfg)).allowlist := by
  intro w hw shared
  rw [held_runDaemon]
  rcases List.mem_append.mp hw with hloop | hlast
  · obtain ⟨name, -, rfl⟩ := List.mem_map.mp hloop
    simp only [held, lookup_replaceAllowlist]
    cases shared.allowlists.lookup det.name with
    | none => exact Or.inl rfl
    | some l =>
        rw [Option.map_some, Option.getD_some, Option.getD_some]
        split_ifs with hname
        · exact RwLock.store_eq_self_or_new l _
        · exact Or.inl rfl
  · obtain rfl := List.mem_singleton.mp hlast
    exact Or.inl rfl

/-- **During a reload** a detector's allowlist is the old one or the new one. -/
theorem allowlist_during (cfg : Config F) (file : ConfigFile) (det : Detector) (n : ℕ) :
    ∃ c, (c = cfg ∨ c = (accepted setup file).getD cfg) ∧
      (held det (writeAll (runDaemon setup cfg) ((reloadSteps setup file).take n))).allowlist
        = (held det (runDaemon setup c)).allowlist := by
  rw [reloadSteps]
  cases accepted setup file with
  | none =>
      refine ⟨cfg, Or.inl rfl, ?_⟩
      rw [Option.elim_none, List.take_nil]
      rfl
  | some newCfg =>
      have hview : ∀ w ∈ (replaceSteps setup newCfg).take n, ∀ shared, _ := fun w hw =>
        allowlist_replaceSteps setup newCfg det w (List.mem_of_mem_take hw)
      rcases view_writeAll (f := fun shared => (held det shared).allowlist)
        (s := runDaemon setup cfg) hview with hold | hnew
      · exact ⟨cfg, Or.inl rfl, hold⟩
      · exact ⟨newCfg, Or.inr rfl, hnew⟩

/-- Before the last write the CIDR list is the old one. -/
lemma cidrs_during (cfg : Config F) (file : ConfigFile) {n : ℕ}
    (hn : n < (reloadSteps setup file).length) :
    (writeAll (runDaemon setup cfg) ((reloadSteps setup file).take n)).cidrs
      = (runDaemon setup cfg).cidrs := by
  rw [reloadSteps] at hn ⊢
  cases hacc : accepted setup file with
  | none =>
      rw [hacc] at hn
      exact absurd hn (Nat.not_lt_zero n)
  | some newCfg =>
      rw [hacc, Option.elim_some, replaceSteps, List.length_append, List.length_singleton,
        Nat.lt_succ_iff] at hn
      refine keep_writeAll (f := Shared.cidrs) fun w hw shared => ?_
      rw [Option.elim_some, replaceSteps, List.take_append_of_le_length hn] at hw
      obtain ⟨name, -, rfl⟩ := List.mem_map.mp (List.mem_of_mem_take hw)
      rfl

/-! ### Verdicts -/

/-- The verdict of a handler that got as far as the allowlist. -/
lemma run_attributed_of_allowlist {re : RegexCrate} {sc : Scene} {ev : KrEvent}
    {report : Text → Option Text → Option Alert} {held held' : Held}
    (h : held.allowlist = held'.allowlist) :
    (attributed re sc ev report).run held = (attributed re sc ev report).run held' := by
  rw [run_attributed, run_attributed, h]

/-- **One snapshot**: a detector that takes at most one decides as under the old
or as under the new configuration. -/
theorem verdicts_of_atomic {det : Detector} (hdet : det ≠ .network) (cfg : Config F)
    (file : ConfigFile) (sc : Scene) (ev : KrEvent) {a : Option Alert}
    (h : Interleaving (runDaemon setup cfg) (reloadSteps setup file) (handling setup det sc ev) a) :
    ∃ c, (c = cfg ∨ c = (accepted setup file).getD cfg) ∧
      a = (handling setup det sc ev).run (runDaemon setup c) := by
  simp only [handling, Reads.run_comap] at h ⊢
  rcases Detector.handle_atomic hdet setup.re sc ev with hdone | ⟨report, hreport⟩
  · rw [hdone] at h ⊢
    exact ⟨cfg, Or.inl rfl, interleaving_done.mp h⟩
  · rw [hreport] at h ⊢
    obtain ⟨n, -, hrest⟩ := interleaving_read.mp h
    obtain ⟨c, hc, hview⟩ := allowlist_during setup cfg file det n
    refine ⟨c, hc, ?_⟩
    rw [← run_attributed_of_allowlist hview]
    exact interleaving_done.mp hrest

/-- What the network detector decides, from what it finds at its two steps. -/
lemma outcomes_of_network {re : RegexCrate} {sc : Scene} {ev : KrEvent} {s : Shared}
    {ws : List (Shared → Shared)} {a : Option Alert}
    (h : Interleaving s ws ((Detector.network.handle re sc ev).comap (held .network)) a) :
    ∃ n m, n ≤ m ∧ m ≤ ws.length ∧
      a = if (writeAll s (ws.take n)).cidrs.contains (NetworkDetector.ipHost ev) then none
        else (attributed re sc ev (NetworkDetector.report sc ev)).run
          (held .network (writeAll s (ws.take m))) := by
  obtain ⟨n, hn, hrest⟩ := interleaving_read.mp h
  change Interleaving _ _ (Reads.comap _
    (if (writeAll s (ws.take n)).cidrs.contains (NetworkDetector.ipHost ev) then Reads.done none
      else attributed re sc ev (NetworkDetector.report sc ev))) a at hrest
  by_cases hcidr :
      (writeAll s (ws.take n)).cidrs.contains (NetworkDetector.ipHost ev) = true
  · refine ⟨n, n, le_rfl, hn, ?_⟩
    rw [if_pos hcidr, Reads.comap_done, interleaving_done] at hrest
    rw [hrest, if_pos hcidr]
  · rw [if_neg hcidr] at hrest
    obtain ⟨m, hm, hlast⟩ := interleaving_read.mp hrest
    rw [List.length_drop] at hm
    refine ⟨n, n + m, Nat.le_add_right n m, by omega, ?_⟩
    rw [if_neg hcidr, List.take_add, writeAll_append]
    exact interleaving_done.mp hlast

/-- Past the CIDR lookup the allowlist decides. -/
lemma isSome_attributed_network {cfg : Config F} {sc : Scene} {ev : KrEvent} {held' : Held}
    (h : held'.allowlist = (held .network (runDaemon setup cfg)).allowlist) :
    ((attributed setup.re sc ev (NetworkDetector.report sc ev)).run held').isSome
      = !processListed setup cfg .network sc ev := by
  rw [run_attributed_of_allowlist h, held_runDaemon, run_attributed]
  show (if processListed setup cfg .network sc ev then none else _).isSome = _
  cases processListed setup cfg .network sc ev <;> rfl

/-- The verdict of the network detector. -/
lemma verdict_network (cfg : Config F) (sc : Scene) (ev : KrEvent) :
    verdict setup cfg .network sc ev
      = (!destinationListed cfg ev && !processListed setup cfg .network sc ev) := by
  rw [verdict, handling, Reads.run_comap, Detector.handle, NetworkDetector.run_handle]
  show (if destinationListed cfg ev then none else _).isSome = _
  cases destinationListed cfg ev with
  | true => rfl
  | false => exact isSome_attributed_network setup rfl

/-- The one change of settings that a connection can fall through: the old
allowlist lets it pass and the new one does not, the new CIDR list does and the
old one does not. -/
def HandedOver (old new : Config F) (det : Detector) (sc : Scene) (ev : KrEvent) : Prop :=
  det = .network ∧
    (processListed setup old det sc ev = true ∧ processListed setup new det sc ev = false) ∧
    (destinationListed old ev = false ∧ destinationListed new ev = true)

/-- The network detector during a reload: a verdict of neither configuration
needs a connection that is handed over. -/
lemma verdicts_of_network (cfg : Config F) (file : ConfigFile) (sc : Scene) (ev : KrEvent)
    {a : Option Alert}
    (hover : ¬ HandedOver setup cfg ((accepted setup file).getD cfg) .network sc ev)
    (h : Interleaving (runDaemon setup cfg) (reloadSteps setup file)
      (handling setup .network sc ev) a) :
    a.isSome = verdict setup cfg .network sc ev ∨
      a.isSome = verdict setup ((accepted setup file).getD cfg) .network sc ev := by
  obtain ⟨n, m, hnm, hm, ha⟩ := outcomes_of_network h
  rcases Nat.lt_or_ge n (reloadSteps setup file).length with hn | hn
  · -- the CIDR lookup came before the last write
    rw [cidrs_during setup cfg file hn] at ha
    change a = if destinationListed cfg ev then none else _ at ha
    rw [verdict_network, verdict_network]
    obtain ⟨c, hc, hview⟩ := allowlist_during setup cfg file .network m
    have hlast : _ = !processListed setup c .network sc ev :=
      isSome_attributed_network setup hview
    cases hdest : destinationListed cfg ev with
    | true =>
        rw [hdest] at ha
        exact Or.inl (by rw [ha]; rfl)
    | false =>
        rw [hdest, if_neg Bool.false_ne_true] at ha
        rw [ha, hlast]
        rcases hc with rfl | rfl
        · exact Or.inl rfl
        · rw [HandedOver] at hover
          cases hnewDest : destinationListed ((accepted setup file).getD cfg) ev <;>
            cases hnewProc : processListed setup ((accepted setup file).getD cfg) .network sc ev <;>
            cases hproc : processListed setup cfg .network sc ev <;> simp_all
  · -- both steps came after it
    have htake : ∀ k, n ≤ k → (reloadSteps setup file).take k = reloadSteps setup file :=
      fun k hk => List.take_of_length_le (hn.trans hk)
    rw [htake n le_rfl, htake m hnm, writeAll_reloadSteps] at ha
    refine Or.inr ?_
    rw [ha, verdict, handling, Reads.run_comap, Detector.handle, NetworkDetector.run_handle]
    rfl

/-- A connection that is handed over can be reported though both configurations
let it pass: the lookup comes before the reload, the snapshot after it. -/
lemma torn_of_handedOver {cfg : Config F} {file : ConfigFile} {sc : Scene} {ev : KrEvent}
    (hover : HandedOver setup cfg ((accepted setup file).getD cfg) .network sc ev) :
    ∃ a, Interleaving (runDaemon setup cfg) (reloadSteps setup file)
        (handling setup .network sc ev) a ∧ a.isSome = true ∧
      verdict setup cfg .network sc ev = false ∧
      verdict setup ((accepted setup file).getD cfg) .network sc ev = false := by
  obtain ⟨-, ⟨hold, hnew⟩, hdestOld, hdestNew⟩ := hover
  let snapshot := (attributed setup.re sc ev (NetworkDetector.report sc ev)).comap (held .network)
  have hread : Interleaving (runDaemon setup cfg) (reloadSteps setup file)
      (handling setup .network sc ev)
      (snapshot.run (writeAll (runDaemon setup cfg) (reloadSteps setup file))) := by
    refine .read ?_
    show Interleaving _ _ (Reads.comap _ (if destinationListed cfg ev then Reads.done none
      else attributed setup.re sc ev (NetworkDetector.report sc ev))) _
    rw [hdestOld, if_neg Bool.false_ne_true]
    exact interleaving_run_after _ _ snapshot
  refine ⟨_, hread, ?_, ?_, ?_⟩
  · rw [Reads.run_comap, writeAll_reloadSteps, isSome_attributed_network setup rfl, hnew]
    rfl
  · rw [verdict_network, hold, Bool.not_true, Bool.and_false]
  · rw [verdict_network, hdestNew, Bool.not_true, Bool.false_and]

/-- **Swaps are atomic, but for connections handed over.** In every state a run
reaches, among the steps of any reload, a handler's verdict is the one under the
old configuration or the one under the new, exactly unless the detector is the
network one and the reload hands the connection over. -/
theorem swap_atomic_iff (start : ConfigFile) (es : List Event) (file : ConfigFile)
    (det : Detector) (sc : Scene) (ev : KrEvent) :
    let old := lastAccepted setup (startConfig setup start) es
    let new := (accepted setup file).getD old
    (∀ a, Interleaving ((machine setup).after (main setup start) es).shared
        (reloadSteps setup file) (handling setup det sc ev) a →
      a.isSome = verdict setup old det sc ev ∨ a.isSome = verdict setup new det sc ev) ↔
    ¬ HandedOver setup old new det sc ev := by
  intro old new
  rw [(settings_of_run setup start es).2]
  constructor
  · intro h hover
    obtain rfl : det = .network := hover.1
    obtain ⟨a, ha, hraised, hold, hnew⟩ := torn_of_handedOver setup hover
    rcases h a ha with hverdict | hverdict
    · rw [hraised, hold] at hverdict
      cases hverdict
    · rw [hraised, hnew] at hverdict
      cases hverdict
  · intro hover a ha
    by_cases hdet : det = .network
    · subst hdet
      exact verdicts_of_network setup old file sc ev hover ha
    · obtain ⟨c, hc, rfl⟩ := verdicts_of_atomic setup hdet old file sc ev ha
      rcases hc with rfl | rfl
      · exact Or.inl rfl
      · exact Or.inr rfl

/-- A configuration with one allowlist, for the network detector. -/
def networkConfig (allowlist cidrs : List Text) : Config ℚ where
  network := ⟨cidrs⟩
  detectors := ⟨[("network", ⟨true, allowlist⟩)], List.pairwise_singleton _ _⟩

/-- A file that allows `curl`. -/
def curlToml : Text := "[detectors.network]\nallowlist = [\"curl\"]\n"

/-- A file that allows `wget` and a destination. -/
def wgetToml : Text :=
  "[detectors.network]\nallowlist = [\"wget\"]\n"
    ++ "[network]\ndestination_cidr_allowlist = [\"8.8.8.0/24\"]\n"

/-- A daemon that can find these two files. -/
def swapSetup : Setup ℚ where
  toml t :=
    if t = curlToml then some (networkConfig ["curl"] [])
    else if t = wgetToml then some (networkConfig ["wget"] ["8.8.8.0/24"])
    else none
  re := ⟨fun _ => true, fun _ => true, fun _ _ => false⟩
  configPath := "/etc/kernelradar/config.toml"
  allow := ""

/-- `curl` connects to `8.8.8.8:443`. -/
def connectEvent : KrEvent where
  timestampNs := 1
  pid := 100
  tid := 100
  uid := 1000
  gid := 1000
  comm := #v[99, 117, 114, 108, 0, 0, 0, 0, 0, 0, 0, 0, 0, 0, 0, 0]
  detectorId := 6
  severity := 2
  eventType := 1
  data := #v[0x2BB01, 0x08080808, 0, 0]

def connectScene : Scene where
  proc := ⟨some "curl\n", some "/usr/bin/curl"⟩
  stamp := ⟨1, "c", 0⟩

/-- Such a configuration is valid when its entries are. -/
lemma validate_networkConfig (re : RegexCrate) {allowlist cidrs : List Text}
    (hallow : ∀ e ∈ allowlist, regexEntry e = none)
    (hcidrs : ∀ e ∈ cidrs, Net.isValidIpv4Cidr e = true) :
    (networkConfig allowlist cidrs).validate re = [] := by
  have halpha : (10 : ℚ)⁻¹ ≤ 1 := by norm_num
  have hentries : ∀ e ∈ allowlist, (regexEntry e).any (fun rx => !re.compiles rx) = false := by
    intro e he
    rw [hallow e he]
    rfl
  rw [Config.validate, Config.checks]
  simp only [networkConfig, Config.webhookIssues, Config.issueIf]
  simpa [Config.known, halpha] using ⟨hentries, hcidrs⟩

/-- The second file is accepted. -/
lemma accepted_wgetToml :
    accepted swapSetup (.text wgetToml) = some (networkConfig ["wget"] ["8.8.8.0/24"]) := by
  have hne : wgetToml ≠ curlToml := by decide
  have hload : Config.fromPath swapSetup.toml swapSetup.configPath (.text wgetToml)
      = .ok (networkConfig ["wget"] ["8.8.8.0/24"]) := by
    simp only [Config.fromPath, swapSetup, if_neg hne, if_true]
  have hvalid : (networkConfig ["wget"] ["8.8.8.0/24"]).validate swapSetup.re = [] :=
    validate_networkConfig _ (by decide) (by decide)
  rw [accepted, hload]
  dsimp only
  rw [hvalid]
  exact if_pos rfl

/-- A connection both configurations let pass is reported: the CIDR lookup comes
before the reload, the snapshot after it. -/
theorem swap_torn :
    accepted swapSetup (.text wgetToml) = some (networkConfig ["wget"] ["8.8.8.0/24"]) ∧
    ∃ a, Interleaving (main swapSetup (.text curlToml)).shared
        (reloadSteps swapSetup (.text wgetToml))
        (handling swapSetup .network connectScene connectEvent) a ∧
      a.isSome = true ∧
      verdict swapSetup (startConfig swapSetup (.text curlToml)) .network connectScene connectEvent
        = false ∧
      verdict swapSetup (networkConfig ["wget"] ["8.8.8.0/24"]) .network connectScene connectEvent
        = false := by
  have hold : startConfig swapSetup (.text curlToml) = networkConfig ["curl"] [] := by
    simp only [startConfig, Config.fromPath, swapSetup, if_true]
  have hover : HandedOver swapSetup (startConfig swapSetup (.text curlToml))
      ((accepted swapSetup (.text wgetToml)).getD (startConfig swapSetup (.text curlToml)))
      .network connectScene connectEvent := by
    rw [accepted_wgetToml, hold]
    refine ⟨rfl, ⟨?_, ?_⟩, ?_, ?_⟩ <;> decide +kernel
  obtain ⟨a, ha, hraised, hverdictOld, hverdictNew⟩ := torn_of_handedOver swapSetup hover
  rw [accepted_wgetToml] at hverdictNew
  exact ⟨accepted_wgetToml, a, ha, hraised, hverdictOld, hverdictNew⟩

end Daemon

end Kernelradar
