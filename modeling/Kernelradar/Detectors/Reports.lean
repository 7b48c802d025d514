import Kernelradar.Alerts.Output
import Kernelradar.Paths.Spelling
import Kernelradar.Detectors.Selfprotect

/-!
From a call to its alert: the programs of the kernel and the handlers of the daemon, joined.

* `Feed.handle`: the detector behind each ring buffer;
* `Hook.event_common`: what every program stores;
* `Alert.Tells`, `tells_of_outcome`: what every alert says, among the writes of a reload;
* `Hook.Quiet`, `unreported_iff`: the calls that are seen and not reported;
* `Hook.delivered`, `delivered_eq`: what the ring buffer held before does not show.
-/

namespace Kernelradar

open Library Bpf

namespace Feed

/-- The name of the detector that reads the ring buffer. -/
def name : Feed → Text
  | privesc => "privesc"
  | bpfLoader => "bpf-loader"
  | container => "container"
  | kmod => "kmod"
  | fim => "fim"
  | network => "network"
  | injection => "injection"
  | cred => "cred"
  | selfprotect => "selfprotect"

/-- Its `handle`, up to `print_alert`. -/
def handle (selfTgid : UInt32) (re : RegexCrate) (sc : Scene) :
    Feed → KrEvent → Reads Held (Option Alert)
  | privesc, ev => PrivEscDetector.handle re sc ev
  | bpfLoader, ev => BpfLoaderDetector.handle selfTgid re sc ev
  | container, ev => ContainerDetector.handle re sc ev
  | kmod, ev => KmodDetector.handle re sc ev
  | fim, ev => FimDetector.handle re sc ev
  | network, ev => NetworkDetector.handle re sc ev
  | injection, ev => InjectionDetector.handle re sc ev
  | cred, ev => CredDetector.handle re sc ev
  | selfprotect, ev => .done (some (emitSelfprotectAlert sc ev))

end Feed

/-! ### What an alert says -/

/-- What a program stores of the call's task, and of itself. -/
structure KrEvent.Of (ev : KrEvent) (feed : Feed) (task : Task) : Prop where
  pid : ev.pid = (task.pidTgid >>> 32).toUInt32
  uid : ev.uid = task.uidGid.toUInt32
  comm : ev.comm = task.comm
  detectorId : ev.detectorId = feed.detectorId
  severity : 1 ≤ ev.severity

lemma fillCommon_of {stale : KrEvent} {task : Task} (feed : Feed) {severity : UInt8}
    (h : 1 ≤ severity) (eventType : UInt16) (data : Vector UInt64 4) :
    KrEvent.Of { fillCommon stale task feed.detectorId severity eventType with data := data }
      feed task :=
  ⟨rfl, rfl, rfl, rfl, h⟩

namespace Hook

lemma openatEvent_of (feed : Feed) {prog : Program} (hid : prog.detectorId = feed.detectorId)
    {call : OpenAt} {task : Task} {ev : KrEvent} (hev : openatEvent prog call task = some ev) :
    ev.Of feed task := by
  simp only [openatEvent, Option.ite_none_left_eq_some, Option.bind_eq_some_iff,
    Option.some.injEq] at hev
  obtain ⟨-, path, -, -, rfl⟩ := hev
  refine ⟨rfl, rfl, rfl, hid, ?_⟩
  rw [eventOf]
  dsimp only
  split_ifs
  · decide
  · decide

/-- **What every program stores** of the task, and of itself. -/
lemma event_common {h : Hook} {task : Task} {stale ev : KrEvent}
    (hev : h.event task stale = some ev) : ev.Of h.feed task := by
  cases h with
  | setuid args =>
      simp only [event, setuidEvent, Option.ite_none_left_eq_some, Option.some.injEq] at hev
      obtain ⟨-, -, rfl⟩ := hev
      exact fillCommon_of .privesc (by decide) 1 _
  | setgid args =>
      simp only [event, setgidEvent, Option.ite_none_left_eq_some, Option.some.injEq] at hev
      obtain ⟨-, -, rfl⟩ := hev
      exact fillCommon_of .privesc (by decide) 2 _
  | bpf args uattr =>
      simp only [event, bpfLoadEvent, Option.ite_none_left_eq_some, Option.some.injEq] at hev
      obtain ⟨-, rfl⟩ := hev
      exact fillCommon_of .bpfLoader (by decide) 1 _
  | unshare args =>
      simp only [event, unshareEvent, Option.ite_none_left_eq_some, Option.some.injEq] at hev
      obtain ⟨-, rfl⟩ := hev
      exact fillCommon_of .container (by decide) 1 _
  | setns args =>
      obtain rfl := Option.some.inj hev
      exact fillCommon_of .container (by decide) 2 _
  | finitModule args =>
      obtain rfl := Option.some.inj hev
      exact fillCommon_of .kmod (by decide) 1 _
  | initModule =>
      obtain rfl := Option.some.inj hev
      exact fillCommon_of .kmod (by decide) 2 _
  | openat call => exact openatEvent_of .fim rfl hev
  | openatRead call => exact openatEvent_of .cred rfl hev
  | connect call =>
      simp only [event, connectWanted, Option.ite_none_left_eq_some, Option.some.injEq] at hev
      obtain ⟨-, -, -, rfl⟩ := hev
      exact ⟨rfl, rfl, rfl, rfl, UInt8.le_refl _⟩
  | ptrace args =>
      simp only [event, ptraceEvent] at hev
      split_ifs at hev
      · obtain rfl := Option.some.inj hev
        exact fillCommon_of .injection (by decide) 1 _
      · obtain rfl := Option.some.inj hev
        exact fillCommon_of .injection (by decide) 2 _
  | pvmWritev args =>
      obtain rfl := Option.some.inj hev
      exact fillCommon_of .injection (by decide) 3 _
  | taskKill tgid target sig =>
      simp only [event, killEvent, Option.ite_none_right_eq_some, Option.some.injEq] at hev
      obtain ⟨-, rfl⟩ := hev
      exact fillCommon_of .selfprotect (by decide) 1 _

end Hook

/-- What an alert says of the event it is about, beside its title and its context. -/
structure Alert.Tells (a : Alert) (feed : Feed) (sc : Scene) (ev : KrEvent) : Prop where
  id : a.id = sc.stamp.id
  correlationId : a.correlationId = sc.stamp.correlationId
  timestamp : a.timestamp = sc.stamp.timestamp
  detector : a.detector = feed.name
  eventType : a.eventType = ev.eventType
  pid : a.pid = ev.pid
  uid : a.uid = ev.uid
  comm : a.comm = commStr ev
  severity : .warning ≤ a.severity
  exe : a.description = [] ∨ ∃ exe, sc.proc.exe = some exe ∧ a.description = "exe=" ++ exe

lemma Severity.warning_le_ofU8 {s : UInt8} (h : 1 ≤ s) : warning ≤ ofU8 s := by
  rw [ofU8, if_pos h]
  split_ifs
  · decide
  · decide
  · exact le_refl _

/-- The executable of an alert is the one `/proc` shows, or there is none. -/
lemma readExePathVerified_cases (p : Proc) (evComm : Text) :
    readExePathVerified p evComm = none ∨ readExePathVerified p evComm = p.exe := by
  rw [readExePathVerified]
  cases p.comm with
  | none => exact Or.inl rfl
  | some now =>
      dsimp only
      split_ifs
      · exact Or.inl rfl
      · exact Or.inr rfl

section

variable {re : RegexCrate} {sc : Scene} {ev : KrEvent} {feed : Feed}

/-- The outcomes of a handler's common part. -/
lemma all_attributed {P : Option Alert → Prop} (hnone : P none)
    {report : Text → Option Text → Option Alert}
    (hreport : ∀ comm exe, exe = none ∨ exe = sc.proc.exe → P (report comm exe)) :
    (attributed re sc ev report).All P := by
  intro held
  change P (if _ then none else report (commStr ev) (readExePathVerified sc.proc (commStr ev)))
  split_ifs
  · exact hnone
  · exact hreport _ _ (readExePathVerified_cases sc.proc _)

/-- The rules of `fim.rs` and `cred.rs` raise the severity. -/
lemma severity_of_matchPath {path : Text} {r : Rule} (h : FimDetector.matchPath path = some r) :
    1 ≤ r.severity := by
  have htable : ∀ r ∈ FimDetector.sensitiveRules, 1 ≤ r.severity := by decide
  rw [FimDetector.matchPath] at h
  split_ifs at h
  · obtain rfl := Option.some.inj h
    decide
  · exact htable r (List.mem_of_find?_eq_some h)

lemma severity_of_matchCred {path : Text} {r : Rule} (h : CredDetector.matchCred path = some r) :
    1 ≤ r.severity := by
  have htable : ∀ r ∈ CredDetector.credRules, 1 ≤ r.severity := by decide
  rw [CredDetector.matchCred] at h
  split_ifs at h
  · obtain rfl := Option.some.inj h
    decide
  · obtain rfl := Option.some.inj h
    decide
  · exact htable r (List.mem_of_find?_eq_some h)

/-- What a handler can return: nothing, or an alert made of the event, perhaps with another
severity. -/
inductive Made (feed : Feed) (sc : Scene) (ev : KrEvent) : Option Alert → Prop
  | nothing : Made feed sc ev none
  | alert {exe : Option Text} (hexe : exe = none ∨ exe = sc.proc.exe) {severity : UInt8}
      (hsev : 1 ≤ severity) (title : Text) {context : Json} (hcontext : context.Numeric) :
      Made feed sc ev
        (some (makeAlert sc.stamp { ev with severity := severity } exe feed.name title context))

lemma Made.tells {a : Alert} (h : Made feed sc ev (some a)) : a.Tells feed sc ev := by
  cases h with
  | @alert exe hexe severity hsev title context hcontext =>
      refine ⟨rfl, rfl, rfl, rfl, rfl, rfl, rfl, rfl, Severity.warning_le_ofU8 hsev, ?_⟩
      cases exe with
      | none => exact Or.inl rfl
      | some path =>
          have hpath : some path = sc.proc.exe := hexe.resolve_left (Option.some_ne_none path)
          exact Or.inr ⟨path, hpath.symm, rfl⟩

lemma Made.numeric {a : Alert} (h : Made feed sc ev (some a)) : a.Numeric := by
  cases h with
  | alert hexe hsev title hcontext => exact hcontext

/-- A signal's number. -/
@[simp] lemma numeric_signed (n : ℤ) : Json.Numeric (.num (signed n)) := by
  have hdigits := Json.isNumber_decimal n.natAbs
  rw [Json.Numeric, Json.lexemes, List.forall_mem_singleton, signed]
  split_ifs
  · exact hdigits.2
  · exact hdigits.1

lemma made_openPathHandle {table : Text → Option Rule}
    (htable : ∀ {path r}, table path = some r → 1 ≤ r.severity) (hsev : 1 ≤ ev.severity)
    (traversalTitle openTitle : Text) :
    (openPathHandle feed.name traversalTitle openTitle table re sc ev).All (Made feed sc ev) := by
  rw [openPathHandle]
  refine all_attributed .nothing fun comm exe hexe => ?_
  split_ifs
  · exact .alert hexe hsev _ (by simp)
  · cases hrule : table (pathOf ev) with
    | none => exact .nothing
    | some r => exact .alert hexe (htable hrule) _ (by simp)

/-- **The handlers**: what they can return, whatever they read of allowlist and CIDR list. -/
lemma made_handle (selfTgid : UInt32) (re : RegexCrate) (sc : Scene) (feed : Feed)
    (hsev : 1 ≤ ev.severity) : (feed.handle selfTgid re sc ev).All (Made feed sc ev) := by
  cases feed with
  | privesc =>
      rw [Feed.handle, PrivEscDetector.handle]
      refine all_attributed .nothing fun comm exe hexe => .alert hexe hsev _ ?_
      -- the call's name is left as it is: a text with two cases is slow to unfold
      simp only [Json.numeric_obj, List.forall_mem_cons, Json.numeric_str, Json.numeric_ofNat,
        Json.numeric_ofOption, true_and]
      exact fun _ h => absurd h List.not_mem_nil
  | bpfLoader =>
      rw [Feed.handle, BpfLoaderDetector.handle]
      split_ifs
      · exact .nothing
      · exact all_attributed .nothing fun comm exe hexe =>
          .alert hexe hsev _ (by simp)
  | container =>
      rw [Feed.handle, ContainerDetector.handle]
      refine all_attributed .nothing fun comm exe hexe => ?_
      split_ifs
      · exact .alert hexe hsev _ (by simp)
      · exact .alert hexe hsev _ (by simp)
  | kmod =>
      rw [Feed.handle, KmodDetector.handle]
      refine all_attributed .nothing fun comm exe hexe => ?_
      split_ifs
      · exact .alert hexe hsev _ (by simp)
      · exact .alert hexe hsev _ (by simp)
  | fim => exact made_openPathHandle severity_of_matchPath hsev _ _
  | network =>
      intro held
      change Reads.All _ (if _ then _ else _)
      split_ifs
      · exact .nothing
      · refine all_attributed .nothing fun comm exe hexe => ?_
        rw [NetworkDetector.report]
        split_ifs
        · exact .alert hexe (by decide) _ (by simp)
        · exact .alert hexe hsev _ (by simp)
  | injection =>
      rw [Feed.handle, InjectionDetector.handle]
      refine all_attributed .nothing fun comm exe hexe => ?_
      dsimp only
      split_ifs
      · exact .alert hexe hsev _ (by simp)
      · exact .alert hexe hsev _ (by simp)
      · exact .alert hexe hsev _ (by simp)
      · exact .nothing
  | cred => exact made_openPathHandle severity_of_matchCred hsev _ _
  | selfprotect => exact .alert (Or.inr rfl) hsev _ (by simp)

end

/-- **Attribution**: an alert that any program's call leads to names the detector, the process,
the user and the command of the call, and is a warning or more; whatever a reload writes
meanwhile. -/
theorem Hook.tells_of_outcome {h : Hook} {task : Task} {stale ev : KrEvent}
    (hev : h.event task stale = some ev) {selfTgid : UInt32} {re : RegexCrate} {sc : Scene}
    {held : Held} {ws : List (Held → Held)} {a : Alert}
    (hout : Interleaving held ws (h.feed.handle selfTgid re sc ev) (some a)) :
    a.Tells h.feed sc ev ∧ a.pid = (task.pidTgid >>> 32).toUInt32 ∧ a.uid = task.uidGid.toUInt32 ∧
      a.comm = fromUtf8Lossy (task.comm.toList.takeWhile (· ≠ 0)) := by
  have hof := Hook.event_common hev
  have htells : a.Tells h.feed sc ev :=
    ((made_handle selfTgid re sc h.feed hof.severity).of_interleaving hout).tells
  exact ⟨htells, htells.pid.trans hof.pid, htells.uid.trans hof.uid, by
    rw [htells.comm, commStr, hof.comm]⟩

/-- `unshare(CLONE_NEWUSER)` by a command `sh` of user 1000. -/
theorem Hook.tells_of_outcome_unshare : ∃ a : Alert,
    a.detector = "container" ∧ a.pid = 7 ∧ a.uid = 1000 ∧ a.comm = "sh" := by
  let re : RegexCrate := ⟨fun _ => false, fun _ => false, fun _ _ => false⟩
  let sc : Scene := ⟨⟨none, none⟩, ⟨1, "1", 0⟩⟩
  let task : Task :=
    ⟨0x700000008, 1000, 5, #v[115, 104, 0, 0, 0, 0, 0, 0, 0, 0, 0, 0, 0, 0, 0, 0]⟩
  let h : Hook := .unshare #v[0x10000000, 0, 0, 0, 0, 0]
  let held : Held := ⟨SharedAllowlist.new re [], SharedCidrList.new []⟩
  let stale : KrEvent := fillCommon ⟨0, 0, 0, 0, 0, task.comm, 0, 0, 0, #v[0, 0, 0, 0]⟩ task 0 0 0
  have hev : h.event task stale = some (containerEvent stale task 1 0x10000000 0) := rfl
  let prog := h.feed.handle 1 re sc (containerEvent stale task 1 0x10000000 0)
  have hsome : (prog.run held).isSome = true := by decide
  obtain ⟨a, ha⟩ := Option.isSome_iff_exists.mp hsome
  have hout : Interleaving held [] prog (some a) := by
    rw [← ha]
    exact interleaving_run _ _ _
  obtain ⟨htells, hpid, huid, hcomm⟩ := Hook.tells_of_outcome hev hout
  exact ⟨a, htells.detector, hpid.trans (by decide), huid.trans (by decide),
    hcomm.trans (by decide)⟩

/-! ### What is not reported -/

/-- The allowlist suppresses what the process behind the event does. -/
def Held.Allows (held : Held) (re : RegexCrate) (sc : Scene) (comm : Text) : Prop :=
  (held.allowlist.snapshot re).isAllowed re comm (readExePathVerified sc.proc comm) = true

namespace Feed

/-- When a detector says nothing of an event. -/
def Silent (selfTgid : UInt32) (re : RegexCrate) (sc : Scene) (ev : KrEvent) (held : Held) :
    Feed → Prop
  | bpfLoader => ev.pid = selfTgid ∨ held.Allows re sc (commStr ev)
  | fim => held.Allows re sc (commStr ev) ∨
      ev.eventType ≠ 2 ∧ FimDetector.matchPath (pathOf ev) = none
  | cred => held.Allows re sc (commStr ev) ∨
      ev.eventType ≠ 2 ∧ CredDetector.matchCred (pathOf ev) = none
  | network => held.cidrs.contains (NetworkDetector.ipHost ev) = true ∨
      held.Allows re sc (commStr ev)
  | injection => held.Allows re sc (commStr ev) ∨
      ev.eventType ≠ 1 ∧ ev.eventType ≠ 2 ∧ ev.eventType ≠ 3
  | selfprotect => False
  | _ => held.Allows re sc (commStr ev)

section

variable {selfTgid : UInt32} {re : RegexCrate} {sc : Scene} {ev : KrEvent}

/-- A handler whose report may be empty: either it is empty, or only the allowlist
suppresses. -/
lemma blames_attributed {P : Held → Prop} {report : Text → Option Text → Option Alert}
    (hallows : ∀ held, held.Allows re sc (commStr ev) → P held)
    (hreport : (∀ held, P held) ∨ ∀ comm exe, report comm exe ≠ none) :
    (attributed re sc ev report).Blames P (· = none) := by
  intro held
  by_cases h : (held.allowlist.snapshot re).isAllowed re (commStr ev)
      (readExePathVerified sc.proc (commStr ev)) = true
  · exact Or.inl (hallows held h)
  · refine hreport.imp (fun hP => hP held) fun hsome => ?_
    change ¬(if _ then none else report _ _) = none
    rw [if_neg h]
    exact hsome _ _

lemma run_attributed_of_allows {report : Text → Option Text → Option Alert} {held : Held}
    (h : held.Allows re sc (commStr ev)) : (attributed re sc ev report).run held = none := by
  rw [run_attributed]
  exact if_pos h

lemma run_attributed_of_none {report : Text → Option Text → Option Alert}
    (h : ∀ comm exe, report comm exe = none) (held : Held) :
    (attributed re sc ev report).run held = none := by
  rw [run_attributed, h, ite_self]

lemma run_openPathHandle_of_silent {held : Held} {table : Text → Option Rule}
    (h : held.Allows re sc (commStr ev) ∨ ev.eventType ≠ 2 ∧ table (pathOf ev) = none)
    (detector traversalTitle openTitle : Text) :
    (openPathHandle detector traversalTitle openTitle table re sc ev).run held = none := by
  rw [openPathHandle]
  rcases h with hallows | ⟨htype, hrule⟩
  · exact run_attributed_of_allows hallows
  · refine run_attributed_of_none (fun comm exe => ?_) held
    rw [if_neg htype, hrule]
    rfl

/-- A silent state suppresses the event. -/
lemma run_handle_of_silent {held : Held} : ∀ {feed : Feed},
    feed.Silent selfTgid re sc ev held → (feed.handle selfTgid re sc ev).run held = none := by
  intro feed h
  cases feed with
  | bpfLoader =>
      rw [handle, BpfLoaderDetector.handle]
      split_ifs with hself
      · rfl
      · exact run_attributed_of_allows (h.resolve_left hself)
  | network =>
      rw [handle, NetworkDetector.run_handle]
      split_ifs with hcidr
      · rfl
      · exact run_attributed_of_allows (h.resolve_left hcidr)
  | fim => exact run_openPathHandle_of_silent h _ _ _
  | cred => exact run_openPathHandle_of_silent h _ _ _
  | injection =>
      rw [handle, InjectionDetector.handle]
      rcases h with h | ⟨h1, h2, h3⟩
      · exact run_attributed_of_allows h
      · refine run_attributed_of_none (fun comm exe => ?_) held
        dsimp only
        rw [if_neg h1, if_neg h2, if_neg h3]
  | selfprotect => exact h.elim
  | privesc =>
      rw [handle, PrivEscDetector.handle]
      exact run_attributed_of_allows h
  | container =>
      rw [handle, ContainerDetector.handle]
      exact run_attributed_of_allows h
  | kmod =>
      rw [handle, KmodDetector.handle]
      exact run_attributed_of_allows h

/-- The report of an opened path is empty if there is no rule and no traversal. -/
lemma blames_openPathHandle {P : Held → Prop} {table : Text → Option Rule}
    (hallows : ∀ held, held.Allows re sc (commStr ev) → P held)
    (hrule : ev.eventType ≠ 2 ∧ table (pathOf ev) = none → ∀ held, P held)
    (detector traversalTitle openTitle : Text) :
    (openPathHandle detector traversalTitle openTitle table re sc ev).Blames P (· = none) := by
  rw [openPathHandle]
  refine blames_attributed hallows ?_
  by_cases hquiet : ev.eventType ≠ 2 ∧ table (pathOf ev) = none
  · exact Or.inl (hrule hquiet)
  · refine Or.inr fun comm exe => ?_
    split_ifs with htype
    · exact Option.some_ne_none _
    · intro hnone
      exact hquiet ⟨htype, Option.map_eq_none_iff.mp hnone⟩

/-- An event that is not reported is suppressed by a state that is silent. -/
lemma blames_handle (selfTgid : UInt32) (re : RegexCrate) (sc : Scene) (ev : KrEvent) (feed : Feed)
    (hself : feed = .bpfLoader → ev.pid ≠ selfTgid) :
    (feed.handle selfTgid re sc ev).Blames (fun held => feed.Silent selfTgid re sc ev held)
      (· = none) := by
  cases feed with
  | bpfLoader =>
      rw [handle, BpfLoaderDetector.handle, if_neg (hself rfl)]
      exact blames_attributed (fun _ => Or.inr) (Or.inr fun _ _ => Option.some_ne_none _)
  | network =>
      intro held
      change _ ∨ Reads.Blames _ _ (if _ then _ else _)
      split_ifs with hcidr
      · exact Or.inl (Or.inl hcidr)
      · refine Or.inr (blames_attributed (fun _ => Or.inr) (Or.inr fun _ _ => ?_))
        exact Option.some_ne_none _
  | fim => exact blames_openPathHandle (fun _ => Or.inl) (fun h _ => Or.inr h) _ _ _
  | cred => exact blames_openPathHandle (fun _ => Or.inl) (fun h _ => Or.inr h) _ _ _
  | injection =>
      rw [handle, InjectionDetector.handle]
      refine blames_attributed (fun _ => Or.inl) ?_
      by_cases hother : ev.eventType ≠ 1 ∧ ev.eventType ≠ 2 ∧ ev.eventType ≠ 3
      · exact Or.inl fun _ => Or.inr hother
      · refine Or.inr fun comm exe => ?_
        dsimp only
        split_ifs with h1 h2 h3
        · exact Option.some_ne_none _
        · exact Option.some_ne_none _
        · exact Option.some_ne_none _
        · exact absurd ⟨h1, h2, h3⟩ hother
  | selfprotect => exact Option.some_ne_none _
  | privesc =>
      rw [handle, PrivEscDetector.handle]
      exact blames_attributed (fun _ h => h) (Or.inr fun _ _ => Option.some_ne_none _)
  | container =>
      rw [handle, ContainerDetector.handle]
      refine blames_attributed (fun _ h => h) (Or.inr fun _ _ => ?_)
      split_ifs
      · exact Option.some_ne_none _
      · exact Option.some_ne_none _
  | kmod =>
      rw [handle, KmodDetector.handle]
      refine blames_attributed (fun _ h => h) (Or.inr fun _ _ => ?_)
      split_ifs
      · exact Option.some_ne_none _
      · exact Option.some_ne_none _

/-- **Silence**: among the writes of a reload, an event can stay unreported exactly if one of the
states in force meanwhile is silent on it. -/
lemma outcome_none_iff {feed : Feed} {held : Held} {ws : List (Held → Held)} :
    Interleaving held ws (feed.handle selfTgid re sc ev) none ↔
      ∃ n ≤ ws.length, feed.Silent selfTgid re sc ev (writeAll held (ws.take n)) := by
  constructor
  · intro h
    by_cases hself : feed = .bpfLoader ∧ ev.pid = selfTgid
    · obtain ⟨rfl, hself⟩ := hself
      exact ⟨0, Nat.zero_le _, Or.inl hself⟩
    · exact (blames_handle selfTgid re sc ev feed fun hfeed hpid => hself ⟨hfeed, hpid⟩)
        |>.of_interleaving h rfl
  · rintro ⟨n, -, h⟩
    refine interleaving_of_drop n ?_
    rw [← run_handle_of_silent h]
    exact interleaving_run _ _ _

end

end Feed

/-- The command in the format of `comm_str`. -/
def Task.commText (task : Task) : Text := fromUtf8Lossy (task.comm.toList.takeWhile (· ≠ 0))

lemma KrEvent.Of.commStr_eq {ev : KrEvent} {feed : Feed} {task : Task} (h : ev.Of feed task) :
    commStr ev = task.commText := by
  rw [commStr, h.comm, Task.commText]

/-- The destination of a connection, as the program reads it, in host order. -/
def Connect.destination (call : Connect) : UInt32 :=
  NetworkDetector.fromBe32 (UInt32.ofNat (probeReadUser call.uaddr 4 4))

lemma ipHost_of_word (task : Task) (family portBe : UInt16) (addrBe : UInt32) :
    NetworkDetector.ipHost (connectEvent task family portBe addrBe)
      = NetworkDetector.fromBe32 addrBe := by
  have hlow : ((connectEvent task family portBe addrBe).data[1] &&& 0xffffffff).toUInt32
      = addrBe := by
    change (addrBe.toUInt64 &&& 0xffffffff).toUInt32 = _
    rw [UInt64.toUInt32_and, UInt32.toUInt32_toUInt64]
    exact UInt32.and_neg_one
  rw [NetworkDetector.ipHost, hlow]

namespace Hook

/-- No rule of the table is for the path, and the path does not climb. -/
def Unruled (table : Text → Option Rule) (call : OpenAt) : Prop :=
  ∃ path, readUserStr call.path = some path ∧ containsDotdot path 32 = false ∧
    table (fromUtf8Lossy (path.takeWhile (· ≠ 0))) = none

/-- When a call that its program wants stays unreported. -/
def Quiet (selfTgid : UInt32) (re : RegexCrate) (sc : Scene) (task : Task) (held : Held) :
    Hook → Prop
  | bpf _ _ => (task.pidTgid >>> 32).toUInt32 = selfTgid ∨ held.Allows re sc task.commText
  | openat call => held.Allows re sc task.commText ∨ Unruled FimDetector.matchPath call
  | openatRead call => held.Allows re sc task.commText ∨ Unruled CredDetector.matchCred call
  | connect call => held.cidrs.contains call.destination = true ∨
      held.Allows re sc task.commText
  | taskKill _ _ _ => False
  | _ => held.Allows re sc task.commText

section

variable {selfTgid : UInt32} {re : RegexCrate} {sc : Scene} {task : Task} {held : Held}
  {stale ev : KrEvent}

lemma unruled_iff {prog : Program} {call : OpenAt} {table : Text → Option Rule}
    (hev : openatEvent prog call task = some ev) :
    ev.eventType ≠ 2 ∧ table (pathOf ev) = none ↔ Unruled table call := by
  simp only [openatEvent, Option.ite_none_left_eq_some, Option.bind_eq_some_iff,
    Option.some.injEq] at hev
  obtain ⟨-, path, hpath, -, rfl⟩ := hev
  have hlen : path.length = 32 := by
    obtain ⟨bs, -, rfl⟩ := Option.map_eq_some_iff.mp hpath
    exact pathBuffer_length bs
  have htype : (eventOf prog task path).eventType ≠ 2 ↔ containsDotdot path 32 = false := by
    rw [eventOf]
    cases containsDotdot path 32 <;> simp
  rw [htype, pathOf_eventOf hlen, Unruled, hpath]
  simp only [Option.some.injEq, exists_eq_left']

lemma silent_iff {h : Hook} (hev : h.event task stale = some ev) :
    h.feed.Silent selfTgid re sc ev held ↔ h.Quiet selfTgid re sc task held := by
  have hof := event_common hev
  have hcomm := hof.commStr_eq
  cases h with
  | bpf args uattr =>
      dsimp only [feed, Feed.Silent, Quiet]
      rw [hcomm, hof.pid]
  | openat call =>
      dsimp only [feed, Feed.Silent, Quiet]
      rw [hcomm, unruled_iff hev]
  | openatRead call =>
      dsimp only [feed, Feed.Silent, Quiet]
      rw [hcomm, unruled_iff hev]
  | connect call =>
      simp only [event, connectWanted, Option.ite_none_left_eq_some, Option.some.injEq] at hev
      obtain ⟨-, -, -, rfl⟩ := hev
      dsimp only [feed, Feed.Silent, Quiet]
      rw [hcomm, ipHost_of_word, Connect.destination]
  | taskKill tgid target sig => exact Iff.rfl
  | ptrace args =>
      have hknown : ev.eventType = 1 ∨ ev.eventType = 2 := by
        simp only [event, ptraceEvent] at hev
        split_ifs at hev
        · obtain rfl := Option.some.inj hev
          exact Or.inl rfl
        · obtain rfl := Option.some.inj hev
          exact Or.inr rfl
      dsimp only [feed, Feed.Silent, Quiet]
      rw [hcomm]
      refine or_iff_left fun hunknown => ?_
      rcases hknown with htype | htype
      · exact hunknown.1 htype
      · exact hunknown.2.1 htype
  | pvmWritev args =>
      obtain rfl := Option.some.inj hev
      dsimp only [feed, Feed.Silent, Quiet]
      rw [hcomm]
      exact or_iff_left fun hunknown => hunknown.2.2 rfl
  | setuid args =>
      dsimp only [feed, Feed.Silent, Quiet]
      rw [hcomm]
  | setgid args =>
      dsimp only [feed, Feed.Silent, Quiet]
      rw [hcomm]
  | unshare args =>
      dsimp only [feed, Feed.Silent, Quiet]
      rw [hcomm]
  | setns args =>
      dsimp only [feed, Feed.Silent, Quiet]
      rw [hcomm]
  | finitModule args =>
      dsimp only [feed, Feed.Silent, Quiet]
      rw [hcomm]
  | initModule =>
      dsimp only [feed, Feed.Silent, Quiet]
      rw [hcomm]

/-- **No call is lost in a detector**: among the writes of a reload, a call that its program
wants can stay unreported exactly if one of the states in force meanwhile is quiet about it. A
denied signal is always reported. -/
theorem unreported_iff {h : Hook} (hev : h.event task stale = some ev)
    {ws : List (Held → Held)} :
    Interleaving held ws (h.feed.handle selfTgid re sc ev) none ↔
      ∃ n ≤ ws.length, h.Quiet selfTgid re sc task (writeAll held (ws.take n)) := by
  rw [Feed.outcome_none_iff]
  simp only [silent_iff hev]

/-- A connection to `8.8.8.8:53` while a reload puts `8.8.8.0/24` on the list: it can stay
unreported, and without the reload it cannot. -/
theorem unreported_iff_reload :
    let re : RegexCrate := ⟨fun _ => false, fun _ => false, fun _ _ => false⟩
    let sc : Scene := ⟨⟨none, none⟩, ⟨1, "1", 0⟩⟩
    let task : Task := ⟨0x700000007, 0, 5, Vector.replicate 16 0⟩
    let held : Held := ⟨SharedAllowlist.new re ["sshd"], SharedCidrList.new []⟩
    let call : Connect := ⟨sockaddrIn ⟨8, 8, 8, 8⟩ 53 [], 16⟩
    let stale : KrEvent := ⟨0, 0, 0, 0, 0, task.comm, 0, 0, 0, #v[0, 0, 0, 0]⟩
    let reload : Held → Held := fun held =>
      { held with cidrs := held.cidrs.replace (Cidr.parseAll ["8.8.8.0/24"]).1 }
    ∃ ev, (connect call).event task stale = some ev ∧
      Interleaving held [reload] (Feed.network.handle 9 re sc ev) none ∧
      ¬Interleaving held [] (Feed.network.handle 9 re sc ev) none := by
  intro re sc task held call stale reload
  have hwanted : ((connect call).event task stale).isSome = true := by decide
  obtain ⟨ev, hev⟩ := Option.isSome_iff_exists.mp hwanted
  refine ⟨ev, hev, (unreported_iff hev).mpr ⟨1, le_rfl, Or.inl (by decide)⟩, fun h => ?_⟩
  obtain ⟨n, -, hquiet⟩ := (unreported_iff hev).mp h
  rw [List.take_nil] at hquiet
  rcases hquiet with hlisted | hallowed
  · exact absurd hlisted (by decide)
  · rw [Held.Allows] at hallowed
    exact absurd hallowed (by decide)

end

/-! ### What the ring buffer held before -/

/-- What the daemon makes of a call whose program is given the memory `mem` in the ring buffer:
the record is filled in, read and handled. -/
def delivered (selfTgid : UInt32) (re : RegexCrate) (sc : Scene) (task : Task) (h : Hook)
    (mem : List UInt8) : Option (Reads Held (Option Alert)) :=
  (h.event task (KrEvent.readUnaligned mem)).bind fun ev =>
    (KrEvent.parseItem (KrEvent.submitted mem h.fields ev)).map (h.feed.handle selfTgid re sc)

/-- `privesc.rs` does not look at the last two elements of `data`. -/
lemma handle_congr (re : RegexCrate) (sc : Scene) (ev : KrEvent) {data data' : Vector UInt64 4}
    (h : ∀ i : Fin 4, i.val < 2 → data.get i = data'.get i) :
    PrivEscDetector.handle re sc { ev with data := data }
      = PrivEscDetector.handle re sc { ev with data := data' } := by
  have h0 : data[0] = data'[0] := h ⟨0, zero_lt_data⟩ (Nat.succ_pos 1)
  have h1 : data[1] = data'[1] := h ⟨1, one_lt_data⟩ (Nat.lt_succ_self 1)
  rw [PrivEscDetector.handle, PrivEscDetector.handle]
  dsimp only
  rw [h0, h1]
  rfl

/-- So it does not see what `privesc.bpf.c` leaves out. -/
lemma handle_setData (re : RegexCrate) (sc : Scene) (s₁ s₂ : KrEvent) (task : Task)
    (eventType : UInt16) (d0 d1 : UInt64) :
    PrivEscDetector.handle re sc { fillCommon s₁ task 1 2 eventType with
        data := (s₁.data.setIfInBounds 0 d0).setIfInBounds 1 d1 }
      = PrivEscDetector.handle re sc { fillCommon s₂ task 1 2 eventType with
        data := (s₂.data.setIfInBounds 0 d0).setIfInBounds 1 d1 } := by
  refine handle_congr re sc (fillCommon s₁ task 1 2 eventType) fun i hi => ?_
  have hget (v : Vector UInt64 4) : v.get i = v[i.val] := rfl
  rw [hget, hget]
  obtain hzero | hone : i.val = 0 ∨ i.val = 1 := by omega
  · simp [hzero]
  · simp [hone]

/-- The handler's work does not depend on the stale record. -/
lemma map_handle_event (selfTgid : UInt32) (re : RegexCrate) (sc : Scene) (task : Task) (h : Hook)
    (s₁ s₂ : KrEvent) : (h.event task s₁).map (h.feed.handle selfTgid re sc)
      = (h.event task s₂).map (h.feed.handle selfTgid re sc) := by
  cases h with
  | setuid args =>
      rw [event, event, setuidEvent, setuidEvent]
      dsimp only
      split_ifs
      · rfl
      · rfl
      · exact congrArg some (handle_setData re sc s₁ s₂ task 1 _ _)
  | setgid args =>
      rw [event, event, setgidEvent, setgidEvent]
      dsimp only
      split_ifs
      · rfl
      · rfl
      · exact congrArg some (handle_setData re sc s₁ s₂ task 2 _ _)
  | _ => rfl

/-- **No leak**: what the daemon makes of a call does not depend on what the ring buffer held
before, neither between the members of the record nor in those a program leaves out. -/
theorem delivered_eq (selfTgid : UInt32) (re : RegexCrate) (sc : Scene) (task : Task) (h : Hook)
    {mem₁ mem₂ : List UInt8} (h₁ : mem₁.length = structSize KrEvent.members)
    (h₂ : mem₂.length = structSize KrEvent.members) :
    h.delivered selfTgid re sc task mem₁ = h.delivered selfTgid re sc task mem₂ := by
  have hread : ∀ {mem : List UInt8}, mem.length = structSize KrEvent.members →
      h.delivered selfTgid re sc task mem
        = (h.event task (KrEvent.readUnaligned mem)).map (h.feed.handle selfTgid re sc) := by
    intro mem hlen
    rw [delivered]
    cases hev : h.event task (KrEvent.readUnaligned mem) with
    | none => rfl
    | some ev => rw [Option.bind_some, parseItem_submitted hlen hev, Option.map_some]
  rw [hread h₁, hread h₂]
  exact map_handle_event selfTgid re sc task h _ _

/-- `setuid(0)`, into a fresh record and into one full of old bytes. -/
theorem delivered_eq_setuid :
    let re : RegexCrate := ⟨fun _ => false, fun _ => false, fun _ _ => false⟩
    let sc : Scene := ⟨⟨none, none⟩, ⟨1, "1", 0⟩⟩
    let task : Task := ⟨7, 1000, 5, Vector.replicate 16 0⟩
    (setuid (Vector.replicate 6 0)).delivered 1 re sc task (List.replicate 80 0)
      = (setuid (Vector.replicate 6 0)).delivered 1 re sc task (List.replicate 80 0xFF) := by
  intro re sc task
  exact delivered_eq 1 re sc task _ (by decide) (by decide)

end Hook

end Kernelradar
