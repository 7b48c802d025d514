import Kernelradar.Delivery.Stdout
import Kernelradar.Detectors.Webhook
import Kernelradar.Library.Permits

/-!
What the webhook does with what is handed to `emit`.

`submit` takes a permit and spawns a task that POSTs the alert and gives the permit back; alerts
come while tasks are under way, which end in any order.

* `Outbox`, `Outbox.step`: the permits with the requests that hold them, and what `submit` and the
  end of a task do;
* `submit_eq`: the steps are those of `webhook.rs`, the log included;
* `forwarded`: in every run, every record that the configuration wants is POSTed once or is refused
  while a hundred requests are under way.
-/

namespace Kernelradar

open Library

/-- `MAX_INFLIGHT`. -/
def maxInflight : ℕ := 100

/-- The payload of an alert: `serde_json::to_string`. -/
def payload (alert : Alert) : Text := JsonValue.print Json.escape alert.serialize

namespace WebhookConfig

/-- The request that POSTs a payload. -/
def request (cfg : WebhookConfig) (body : Text) : Post :=
  { url := cfg.url, authorization := cfg.authToken.map fun t => "Bearer " ++ t, body := body }

/-- The configuration, if any, lets the alert through. -/
def wants (global : Option WebhookConfig) (alert : Alert) : Bool :=
  global.elim false fun cfg =>
    !decide (cfg.severityFilterAlertOrHigher ∧ alert.severity.toU8 < Severity.alert.toU8)

end WebhookConfig

/-- The configuration that `init` has set, and the requests under way. -/
structure Outbox where
  config : Option WebhookConfig
  inflight : Permits maxInflight Post

namespace Outbox

/-- An alert is submitted, or the task at some place ends. -/
inductive Act where
  | submit (alert : Alert)
  | finish (i : ℕ) (outcome : PostOutcome)

/-- What a step does: nothing, an alert finds no permit, a request is sent, a request has its
outcome. -/
inductive Effect where
  | quiet
  | refused (alert : Alert)
  | sent (alert : Alert) (post : Post)
  | ended (post : Post) (outcome : PostOutcome)

/-- `submit`. -/
def submit (o : Outbox) (alert : Alert) : Outbox × Effect :=
  match o.config with
  | none => (o, .quiet)
  | some cfg =>
      if cfg.severityFilterAlertOrHigher ∧ alert.severity.toU8 < Severity.alert.toU8 then
        (o, .quiet)
      else
        match o.inflight.tryAcquire (cfg.request (payload alert)) with
        | none => (o, .refused alert)
        | some inflight =>
            ({ o with inflight := inflight }, .sent alert (cfg.request (payload alert)))

/-- The task at a place, if there is one, drops its permit. -/
def finish (o : Outbox) (i : ℕ) (outcome : PostOutcome) : Outbox × Effect :=
  match o.inflight.release i with
  | none => (o, .quiet)
  | some (post, inflight) => ({ o with inflight := inflight }, .ended post outcome)

/-- One step. -/
def step (o : Outbox) : Act → Outbox × Effect
  | .submit alert => o.submit alert
  | .finish i outcome => o.finish i outcome

/-- The webhook as a machine; nothing is ever out of place. -/
def machine : Machine Outbox Act Effect := ⟨step, fun _ _ => True⟩

@[simp] lemma machine_step (o : Outbox) (a : Act) : machine.step o a = o.step a := rfl

/-- After `init`. -/
def start (config : WebhookConfig) : Outbox := ⟨config.init, Permits.full maxInflight Post⟩

/-! ### Against `webhook.rs` -/

/-- The request of a step. -/
def Effect.post : Effect → Option Post
  | .sent _ post => some post
  | _ => none

/-- The record of `submit` for an alert it drops. -/
def refusal : LogRecord :=
  ⟨"webhook: dropping alert, inflight cap reached (collector slow / unreachable)",
    [("cap", "100")]⟩

/-- What a step logs. -/
def Effect.log (r : Reqwest) : Effect → List LogRecord
  | .refused _ => [refusal]
  | .ended post outcome => postLog r post.url outcome
  | _ => []

/-- A step of `submit` makes the request of `webhook.rs`, with the permit that is there; what is
logged for it is what this step logs and, where a request was made, the step that ends it. -/
lemma submit_eq (r : Reqwest) (o : Outbox) (alert : Alert) (outcome : PostOutcome) :
    (o.submit alert).2.post = WebhookConfig.submit o.config alert (decide (0 < o.inflight.free))
        (some (payload alert)) ∧
      (o.submit alert).2.log r
          ++ (o.submit alert).2.post.elim [] (fun post => (Effect.ended post outcome).log r)
        = WebhookConfig.submitLog r o.config alert (decide (0 < o.inflight.free))
          (some (payload alert)) outcome := by
  unfold submit WebhookConfig.submit WebhookConfig.submitLog
  cases o.config with
  | none => exact ⟨rfl, rfl⟩
  | some cfg =>
      dsimp only
      rw [← o.inflight.isSome_tryAcquire (cfg.request (payload alert))]
      cases o.inflight.tryAcquire (cfg.request (payload alert)) <;> split_ifs <;>
        first | exact ⟨rfl, rfl⟩ | contradiction

/-! ### A run -/

/-- The alert of a step of `submit`. -/
def offeredStep : Act × Effect → Option Alert
  | (.submit alert, _) => some alert
  | _ => none

/-- The alert that a step POSTs, and the request. -/
def sentStep : Act × Effect → Option (Alert × Post)
  | (_, .sent alert post) => some (alert, post)
  | _ => none

/-- The alert that a step drops. -/
def refusedStep : Act × Effect → Option Alert
  | (_, .refused alert) => some alert
  | _ => none

/-- The request that ends. -/
def endedStep : Act × Effect → Option Post
  | (_, .ended post _) => some post
  | _ => none

/-- The alerts that were submitted. -/
def offered (tr : List (Act × Effect)) : List Alert := tr.filterMap offeredStep

/-- The alerts that were POSTed, with their requests. -/
def sent (tr : List (Act × Effect)) : List (Alert × Post) := tr.filterMap sentStep

/-- The alerts that were dropped at the cap. -/
def refused (tr : List (Act × Effect)) : List Alert := tr.filterMap refusedStep

/-- The requests that have ended. -/
def ended (tr : List (Act × Effect)) : List Post := tr.filterMap endedStep

/-- The webhook against the trace. -/
structure Settled (config : Option WebhookConfig) (tr : List (Act × Effect)) (o : Outbox) :
    Prop where
  stays : o.config = config
  offers : ((offered tr).filter (WebhookConfig.wants config)).Perm
    ((sent tr).map Prod.fst ++ refused tr)
  posts : ((sent tr).map Prod.snd).Perm (ended tr ++ o.inflight.held)
  requests : ∀ x ∈ sent tr, ∃ cfg, config = some cfg ∧ x.2 = cfg.request (payload x.1)

lemma settled_start (config : WebhookConfig) : Settled config.init [] (start config) :=
  ⟨rfl, List.Perm.refl _, List.Perm.refl _, fun _ h => absurd h List.not_mem_nil⟩

variable {config : Option WebhookConfig} {tr : List (Act × Effect)} {o : Outbox}

/-- A step keeps the account if what it takes in is what it gives out. -/
lemma Settled.snoc (h : Settled config tr o) {x : Act × Effect} {o' : Outbox}
    (hstays : o'.config = config)
    (hoffers : (offeredStep x).toList.filter (WebhookConfig.wants config)
      = (sentStep x).toList.map Prod.fst ++ (refusedStep x).toList)
    (hposts : ((sentStep x).toList.map Prod.snd ++ o.inflight.held).Perm
      ((endedStep x).toList ++ o'.inflight.held))
    (hrequests : ∀ y ∈ (sentStep x).toList, ∃ cfg, config = some cfg ∧
      y.2 = cfg.request (payload y.1)) : Settled config (tr ++ [x]) o' := by
  have hsent : sent (tr ++ [x]) = sent tr ++ (sentStep x).toList := filterMap_snoc _ _ _
  refine ⟨hstays, ?_, ?_, ?_⟩
  · rw [hsent, offered, filterMap_snoc, refused, filterMap_snoc, List.filter_append, hoffers,
      List.map_append]
    refine (h.offers.append_right _).trans ?_
    rw [List.append_assoc, List.append_assoc]
    exact (List.perm_append_comm_assoc _ _ _).append_left _
  · rw [hsent, ended, filterMap_snoc, List.map_append, List.append_assoc]
    refine (h.posts.append_right _).trans ?_
    rw [List.append_assoc]
    exact (List.perm_append_comm.trans hposts).append_left _
  · rw [hsent]
    exact List.forall_mem_append.mpr ⟨h.requests, hrequests⟩

/-- What `submit` does: nothing for an alert that is not wanted; at the cap the alert is dropped;
or it is sent. -/
lemma submit_cases (o : Outbox) (alert : Alert) :
    o.submit alert = (o, .quiet) ∧ WebhookConfig.wants o.config alert = false ∨
    WebhookConfig.wants o.config alert = true ∧
      (o.submit alert = (o, .refused alert) ∧ o.inflight.held.length = maxInflight ∨
        ∃ cfg inflight, o.config = some cfg ∧
          inflight.held = o.inflight.held ++ [cfg.request (payload alert)] ∧
          o.submit alert = ({ o with inflight := inflight },
            .sent alert (cfg.request (payload alert)))) := by
  unfold submit
  cases hconfig : o.config with
  | none => exact Or.inl ⟨rfl, rfl⟩
  | some cfg =>
      rw [WebhookConfig.wants, Option.elim_some]
      dsimp only
      split_ifs with hseverity
      · exact Or.inl ⟨rfl, by rw [decide_eq_true hseverity, Bool.not_true]⟩
      · refine Or.inr ⟨by rw [decide_eq_false hseverity, Bool.not_false], ?_⟩
        cases hacquire : o.inflight.tryAcquire (cfg.request (payload alert)) with
        | none => exact Or.inl ⟨rfl, Permits.tryAcquire_eq_none_iff.mp hacquire⟩
        | some inflight =>
            exact Or.inr ⟨cfg, inflight, rfl, Permits.held_tryAcquire hacquire, rfl⟩

/-- One step keeps the account. -/
lemma Settled.next (h : Settled config tr o) (a : Act) :
    Settled config (tr ++ [(a, (o.step a).2)]) (o.step a).1 := by
  cases a with
  | submit alert =>
      have hwants := o.submit_cases alert
      rw [h.stays] at hwants
      rw [step]
      rcases hwants with ⟨hsubmit, hno⟩ |
        ⟨hyes, ⟨hsubmit, -⟩ | ⟨cfg, inflight, hcfg, hheld, hsubmit⟩⟩
      · rw [hsubmit]
        refine h.snoc h.stays ?_ (List.Perm.refl _) (fun _ hy => absurd hy List.not_mem_nil)
        simp [offeredStep, sentStep, refusedStep, hno]
      · rw [hsubmit]
        refine h.snoc h.stays ?_ (List.Perm.refl _) (fun _ hy => absurd hy List.not_mem_nil)
        simp [offeredStep, sentStep, refusedStep, hyes]
      · rw [hsubmit]
        refine h.snoc rfl ?_ ?_ fun y hy => ⟨cfg, hcfg, ?_⟩
        · simp [offeredStep, sentStep, refusedStep, hyes]
        · rw [hheld]
          exact List.perm_append_comm
        · rw [List.mem_singleton.mp hy]
  | finish i outcome =>
      rw [step, finish]
      cases hrelease : o.inflight.release i with
      | none =>
          exact h.snoc h.stays rfl (List.Perm.refl _) fun _ hy => absurd hy List.not_mem_nil
      | some x =>
          exact h.snoc h.stays rfl (Permits.perm_release hrelease)
            fun _ hy => absurd hy List.not_mem_nil

/-- The account after a run. -/
lemma settled (config : WebhookConfig) (ops : List Act) :
    Settled config.init (machine.trace (start config) ops) (machine.after (start config) ops) :=
  machine.history (P := Settled config.init) (settled_start config) (fun _ _ a h _ => h.next a)
    (machine.valid_of_ok (fun _ _ => trivial) ops _)

/-- An alert is dropped only while all permits are held. -/
lemma cap_of_refused {o : Outbox} {a : Act} {alert : Alert} (h : (o.step a).2 = .refused alert) :
    o.inflight.held.length = maxInflight := by
  cases a with
  | submit b =>
      rw [step] at h
      rcases o.submit_cases b with ⟨hsubmit, -⟩ | ⟨-, ⟨-, hcap⟩ | ⟨cfg, inflight, -, -, hsubmit⟩⟩
      · rw [hsubmit] at h
        cases h
      · exact hcap
      · rw [hsubmit] at h
        cases h
  | finish i outcome =>
      rw [step, finish] at h
      cases hrelease : o.inflight.release i with
      | none =>
          rw [hrelease] at h
          cases h
      | some x =>
          rw [hrelease] at h
          cases h

end Outbox

namespace Delivery

variable {F : Type} [F64 F] {n : ℕ}

/-- **The webhook**: in every run, and whatever becomes of the requests, a record that was handed
to `emit` and is wanted is POSTed once or dropped, and it is dropped only while a hundred requests
are under way; a request is under way or has ended, and never more than a hundred are under way;
each goes where the configuration says, and its body reads back to the record. -/
theorem forwarded (config : WebhookConfig) {p : Pipeline F} {acts : List (Act n)}
    (hrun : machine.Valid (start p) acts) (hscore : ∀ z : F, (F64.toJson z).Numeric)
    {ops : List Outbox.Act}
    (hoffered : (Outbox.offered (Outbox.machine.trace (Outbox.start config) ops)).Perm
      (emitted (machine.trace (start p) acts))) :
    let tr := Outbox.machine.trace (Outbox.start config) ops
    let o := Outbox.machine.after (Outbox.start config) ops
    ((emitted (machine.trace (start p) acts)).filter (WebhookConfig.wants config.init)).Perm
        ((Outbox.sent tr).map Prod.fst ++ Outbox.refused tr) ∧
      Outbox.machine.Along (fun o a => ∀ alert, (o.step a).2 = .refused alert →
        o.inflight.held.length = maxInflight) (Outbox.start config) ops ∧
      ((Outbox.sent tr).map Prod.snd).Perm (Outbox.ended tr ++ o.inflight.held) ∧
      o.inflight.held.length ≤ maxInflight ∧
      ∀ x ∈ Outbox.sent tr, config.enabled = true ∧ x.2.url = config.url ∧
        x.2.authorization = config.authToken.map (("Bearer " : Text) ++ ·) ∧
        JsonValue.read x.2.body = some x.1.serialize := by
  intro tr o
  have h := Outbox.settled config ops
  have hoffers := (hoffered.filter _).symm.trans h.offers
  refine ⟨hoffers, ?_, h.posts, o.inflight.length_held_le, fun x hx => ?_⟩
  · have hvalid := Outbox.machine.valid_of_ok (fun _ _ => trivial) ops (Outbox.start config)
    exact Machine.Along.imp _ (I := fun _ => True) (fun _ _ _ _ => trivial)
      (fun _ _ _ _ _ hrefused => Outbox.cap_of_refused hrefused) trivial hvalid
  · obtain ⟨cfg, hcfg, hpost⟩ := h.requests x hx
    have hmem : x.1 ∈ emitted (machine.trace (start p) acts) :=
      List.mem_of_mem_filter (hoffers.mem_iff.mpr
        (List.mem_append_left _ (List.mem_map_of_mem hx)))
    have hnumeric := numeric_emitted hrun hscore x.1 hmem
    rw [WebhookConfig.init] at hcfg
    split_ifs at hcfg with hoff
    obtain rfl := Option.some.inj hcfg
    have hon : config.enabled = true := by
      rw [Bool.or_eq_true, not_or] at hoff
      simpa using hoff.1
    rw [hpost]
    exact ⟨hon, rfl, rfl, JsonValue.read_print Json.spelling_escape hnumeric.serialize⟩

/-- Two calls of `setuid(0)` by a command with a line feed in its name, sent and answered. -/
theorem forwarded_setuid : ∃ (alert : Alert) (post : Post), alert.comm = "a\nb" ∧
    post.url = "https://h/" ∧ JsonValue.read post.body = some alert.serialize := by
  obtain ⟨score, acts, a, b, hscore, hrun, hall, hcomm, -⟩ := exists_emitted
  let config : WebhookConfig := ⟨true, "https://h/", 3, none, false⟩
  let ops : List Outbox.Act :=
    [.submit a, .submit b, .finish 0 (.reply 200), .finish 0 (.reply 200)]
  have hoffered : (Outbox.offered (Outbox.machine.trace (Outbox.start config) ops)).Perm
      (emitted (machine.trace (start (Pipeline.System.fresh : Pipeline ℚ)) acts)) :=
    List.Perm.of_eq hall.symm
  have hsent : (a, config.request (payload a))
      ∈ Outbox.sent (Outbox.machine.trace (Outbox.start config) ops) := List.mem_cons_self ..
  obtain ⟨-, -, -, -, hposts⟩ := forwarded config hrun hscore hoffered
  obtain ⟨-, hurl, -, hbody⟩ := hposts _ hsent
  exact ⟨a, config.request (payload a), hcomm, hurl, hbody⟩

end Delivery

end Kernelradar
