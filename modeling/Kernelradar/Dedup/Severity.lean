import Kernelradar.Dedup.Backoff

/-!
Severities under one key.

The limiter counts the checks of a key whatever their severity, so that alerts of
a low severity can use up what one of a high severity needs.

* `used`, `counted`: what the answers so far show of the two windows;
  `Accounts`: the entry counts just that;
* `suppress_iff`: when a check is suppressed;
* `atLeast`: the checks without those of a lower severity; `Synced`: the same
  sliding window in the run with them and in the run without them;
* `masked_iff`: what is emitted without the lower severities is suppressed only
  by a full window, and never one that they had no part in;
* `warnings_mask`: a flood of warnings masks a critical alert.
-/

namespace Kernelradar

open Library

namespace RateLimiter

/-- How many checks were let through since the sliding window was opened. -/
def used (as : List Answer) : ℕ :=
  as.foldl (fun n a => (if a.reopens then 0 else n) + a.within.toNat) 0

/-- How many checks were counted since the burst window was opened. -/
def counted (as : List Answer) : ℕ :=
  as.foldl (fun n a => min ((if a.restarts then 0 else n) + 1) KeyState.u32Max) 0

/-- The sliding window of a check is used up. -/
def UsedUp (cfg : RateLimitConfig) (as : List Answer) (a : Answer) : Prop :=
  cfg.windowMax ≤ if a.reopens then 0 else used as

instance (cfg : RateLimitConfig) (as : List Answer) (a : Answer) : Decidable (UsedUp cfg as a) :=
  inferInstanceAs (Decidable (cfg.windowMax ≤ _))

/-- The checks without those of a severity lower than `s`. -/
def atLeast (s : Severity) (ps : List Probe) : List Probe := ps.filter fun p => s ≤ p.severity

lemma used_snoc (as : List Answer) (a : Answer) :
    used (as ++ [a]) = (if a.reopens then 0 else used as) + a.within.toNat := List.foldl_concat ..

lemma counted_snoc (as : List Answer) (a : Answer) : counted (as ++ [a])
    = min ((if a.restarts then 0 else counted as) + 1) KeyState.u32Max := List.foldl_concat ..

variable {cfg : RateLimitConfig}

/-- The entry a check works on. -/
def entryFor (o : Option KeyState) (p : Probe) : KeyState :=
  o.getD (KeyState.new p.severity p.born)

/-- The entry counts what the answers show. -/
structure Accounts (cfg : RateLimitConfig) (as : List Answer) (st : KeyState) : Prop where
  window : st.windowCount = used as
  burst : st.burstCount = counted as
  dormant : KeyState.Dormant cfg st

/-- A new entry counts nothing. -/
lemma accounts_new (cfg : RateLimitConfig) (severity : Severity) (born : Instant) :
    Accounts cfg [] (KeyState.new severity born) := ⟨rfl, rfl, Or.inl rfl⟩

/-- One check counts what its answer shows. -/
lemma accounts_check {as : List Answer} {st : KeyState} (h : Accounts cfg as st) (p : Probe) :
    Accounts cfg (as ++ [answerOf cfg st p]) (st.check cfg p.now p.severity).1 := by
  have hquota : (st.check cfg p.now p.severity).1.windowCount
      = (Quota.next cfg.window st.windowQuota (p.now, st.admits cfg p.now p.severity)).used :=
    congrArg Quota.used KeyState.windowQuota_check
  have hroll := congrArg Quota.used (KeyState.windowQuota_rolled cfg p.now p.severity st)
  refine ⟨?_, ?_, KeyState.dormant_check h.dormant⟩
  · rw [hquota, used_snoc, ← h.window, Quota.next]
    dsimp only
    rw [← hroll, KeyState.windowQuota, KeyState.windowCount_rolled, answerOf]
    simp only [decide_eq_true_eq]
  · rw [(KeyState.check_burst cfg p.now p.severity st).2, counted_snoc, ← h.burst, answerOf]
    simp only [decide_eq_true_eq]

/-- Along the run of an entry it counts what its answers show. -/
lemma accounts_after (cfg : RateLimitConfig) (ps : List Probe) (p : Probe) :
    Accounts cfg ((answering cfg).outs none ps)
      (entryFor ((answering cfg).after none ps) p) := by
  have hstart : ∀ p, Accounts cfg (([] : List (Probe × Answer)).map Prod.snd) (entryFor none p) :=
    fun p => accounts_new cfg p.severity p.born
  have hrun := (answering cfg).history
    (P := fun tr o => ∀ p, Accounts cfg (tr.map Prod.snd) (entryFor o p))
    hstart
    (fun tr o q h _ p => by
      rw [List.map_append]
      exact accounts_check (h q) q)
    (answering_valid cfg none ps)
  exact hrun p

/-- **When a check is suppressed**: exactly when its window is used up and it does
not count up to the burst threshold. -/
lemma suppress_iff {as : List Answer} {st : KeyState} (h : Accounts cfg as st) (p : Probe) :
    (answerOf cfg st p).decision = .suppress ↔
      UsedUp cfg as (answerOf cfg st p) ∧
        counted (as ++ [answerOf cfg st p]) ≠ cfg.burstThreshold := by
  have hwithin : KeyState.within cfg p.now (KeyState.rolled cfg p.now p.severity st) = true ↔
      ¬UsedUp cfg as (answerOf cfg st p) := by
    rw [KeyState.within_iff_of_dormant (KeyState.dormant_rolled h.dormant),
      KeyState.windowCount_rolled, h.window, UsedUp, not_le, answerOf]
    simp only [decide_eq_true_eq]
  have htriggered : KeyState.burstTriggered cfg (KeyState.rolled cfg p.now p.severity st) = true ↔
      counted (as ++ [answerOf cfg st p]) = cfg.burstThreshold := by
    rw [KeyState.burstTriggered, decide_eq_true_eq,
      (KeyState.rolled_burst cfg p.now p.severity st).2, counted_snoc, h.burst, answerOf]
    simp only [decide_eq_true_eq]
  show (st.check cfg p.now p.severity).2 = .suppress ↔ _
  rcases KeyState.check_cases cfg p.now p.severity st with ⟨hw, hc⟩ | ⟨-, hb, hc⟩ | ⟨hw, hb, hc⟩
  · have hemits : (st.check cfg p.now p.severity).2 ≠ .suppress := by
      rw [hc]
      dsimp only
      split_ifs <;> exact fun h' => by cases h'
    exact iff_of_false hemits fun h' => hwithin.mp hw h'.1
  · rw [hc]
    exact iff_of_false (fun h' => by cases h') fun h' => h'.2 (htriggered.mp hb)
  · rw [hc]
    refine iff_of_true rfl ⟨by_contra fun h' => ?_, fun h' => ?_⟩
    · rw [hwithin.mpr h'] at hw
      cases hw
    · rw [htriggered.mpr h'] at hb
      cases hb

/-! ### The run without the lower severities -/

/-- Two entries with the same sliding window, whatever their burst windows. -/
structure Synced (cfg : RateLimitConfig) (o o' : Option KeyState) : Prop where
  window : o.map KeyState.windowQuota = o'.map KeyState.windowQuota
  left : ∀ st, o = some st → KeyState.Dormant cfg st
  right : ∀ st, o' = some st → KeyState.Dormant cfg st

/-- Entries with the same sliding window find the same room. -/
lemma admits_of_quota {st st' : KeyState} (hst : KeyState.Dormant cfg st)
    (hst' : KeyState.Dormant cfg st') (h : st.windowQuota = st'.windowQuota) (p : Probe) :
    KeyState.admits cfg p.now p.severity st = KeyState.admits cfg p.now p.severity st' := by
  have hcount : (KeyState.rolled cfg p.now p.severity st).windowCount
      = (KeyState.rolled cfg p.now p.severity st').windowCount := by
    have hroll := KeyState.windowQuota_rolled cfg p.now p.severity st
    rw [h, ← KeyState.windowQuota_rolled cfg p.now p.severity st'] at hroll
    exact congrArg Quota.used hroll
  rw [Bool.eq_iff_iff, KeyState.admits, KeyState.admits,
    KeyState.within_iff_of_dormant (KeyState.dormant_rolled hst),
    KeyState.within_iff_of_dormant (KeyState.dormant_rolled hst'), hcount]

/-- A check that finds no room leaves the sliding window alone. -/
lemma quota_of_refused (hmax : 0 < cfg.windowMax) {st : KeyState}
    (hst : KeyState.Dormant cfg st) {p : Probe}
    (h : KeyState.admits cfg p.now p.severity st = false) :
    (st.check cfg p.now p.severity).1.windowQuota = st.windowQuota := by
  have hopen : ¬cfg.window ≤ (p.now - st.windowStart).toNat := by
    intro hover
    have hempty : KeyState.admits cfg p.now p.severity st = true :=
      within_of_empty hmax hst p (Or.inl (decide_eq_true hover))
    rw [h] at hempty
    cases hempty
  have hroll : Quota.roll cfg.window p.now st.windowQuota = st.windowQuota := if_neg hopen
  rw [KeyState.windowQuota_check, h, Quota.next]
  dsimp only
  rw [hroll]
  rfl

namespace Synced

variable {o o' : Option KeyState}

/-- The entries the next check works on. -/
lemma entry (h : Synced cfg o o') (p : Probe) : KeyState.Dormant cfg (entryFor o p) ∧
    KeyState.Dormant cfg (entryFor o' p) ∧
      (entryFor o p).windowQuota = (entryFor o' p).windowQuota := by
  cases o with
  | none =>
      cases o' with
      | none => exact ⟨Or.inl rfl, Or.inl rfl, rfl⟩
      | some st' => cases h.window
  | some st =>
      cases o' with
      | none => cases h.window
      | some st' => exact ⟨h.left st rfl, h.right st' rfl, Option.some.inj h.window⟩

/-- A check made in both runs. -/
lemma both (h : Synced cfg o o') (p : Probe) :
    Synced cfg (soloStep cfg o p).1 (soloStep cfg o' p).1 := by
  obtain ⟨hst, hst', hquota⟩ := h.entry p
  have hnext : ((entryFor o p).check cfg p.now p.severity).1.windowQuota
      = ((entryFor o' p).check cfg p.now p.severity).1.windowQuota := by
    rw [KeyState.windowQuota_check, KeyState.windowQuota_check, hquota,
      admits_of_quota hst hst' hquota]
  refine ⟨congrArg some hnext, fun st heq => ?_, fun st heq => ?_⟩
  · obtain rfl := Option.some.inj heq
    exact KeyState.dormant_check hst
  · obtain rfl := Option.some.inj heq
    exact KeyState.dormant_check hst'

/-- A check made only in the run with the lower severities, and refused there. -/
lemma extra (hmax : 0 < cfg.windowMax) (h : Synced cfg o o') {p : Probe}
    (hrefused : (answerOf cfg (entryFor o p) p).within = false) :
    Synced cfg (soloStep cfg o p).1 o' := by
  obtain ⟨hst, -, -⟩ := h.entry p
  cases o with
  | none =>
      -- the check that makes an entry is let through
      have hnew := within_of_empty hmax hst p (Or.inr rfl)
      rw [hrefused] at hnew
      cases hnew
  | some st =>
      refine ⟨?_, fun st' heq => ?_, h.right⟩
      · rw [← h.window]
        exact congrArg some (quota_of_refused hmax hst hrefused)
      · obtain rfl := Option.some.inj heq
        exact KeyState.dormant_check hst

/-- As long as no check of a lower severity is let through, the sliding window is
the one of the run without them. -/
lemma after (hmax : 0 < cfg.windowMax) (s : Severity) : ∀ {ps : List Probe}
    {o o' : Option KeyState}, Synced cfg o o' →
    (∀ pa ∈ (answering cfg).trace o ps, pa.1.severity < s → pa.2.within = false) →
    Synced cfg ((answering cfg).after o ps) ((answering cfg).after o' (atLeast s ps)) := by
  intro ps
  induction ps with
  | nil => exact fun h _ => h
  | cons p ps ih =>
      intro o o' h hlow
      rw [Machine.trace_cons, List.forall_mem_cons] at hlow
      obtain ⟨hp, hrest⟩ := hlow
      by_cases hs : s ≤ p.severity
      · have hkeep : atLeast s (p :: ps) = p :: atLeast s ps :=
          List.filter_cons_of_pos (decide_eq_true hs)
        rw [hkeep, Machine.after_cons, Machine.after_cons]
        exact ih (h.both p) hrest
      · have hdrop : atLeast s (p :: ps) = atLeast s ps :=
          List.filter_cons_of_neg (by simpa using hs)
        rw [hdrop, Machine.after_cons]
        exact ih (h.extra hmax (hp (not_le.mp hs))) hrest

end Synced

/-- The answers to a run of an entry that ends with `e`. -/
lemma outs_concat (cfg : RateLimitConfig) (before : List Probe) (e : Probe) :
    (answering cfg).outs none (before ++ [e]) = (answering cfg).outs none before ++
      [answerOf cfg (entryFor ((answering cfg).after none before) e) e] :=
  (answering cfg).outs_append before [e] none

/-- A check under the window limit is not suppressed. -/
lemma not_suppress_of_within {st : KeyState} {p : Probe}
    (h : (answerOf cfg st p).within = true) : (answerOf cfg st p).decision ≠ .suppress := by
  intro hsuppressed
  have hroom : KeyState.admits cfg p.now p.severity st = true := h
  have hdecision : (st.check cfg p.now p.severity).2 = .suppress := hsuppressed
  rcases KeyState.check_cases cfg p.now p.severity st with ⟨-, hc⟩ | ⟨hw, -, -⟩ | ⟨hw, -, -⟩
  · rw [hc] at hdecision
    dsimp only at hdecision
    split_ifs at hdecision
  · rw [KeyState.admits, hw] at hroom
    cases hroom
  · rw [KeyState.admits, hw] at hroom
    cases hroom

/-- What is let through without the lower severities and suppressed with them, was
kept out by one of them that was let through. -/
lemma lower_let_through (cfg : RateLimitConfig) (before : List Probe) (e : Probe)
    (hwithin : (answerOf cfg (entryFor ((answering cfg).after none (atLeast e.severity before)) e)
      e).within = true)
    (hsuppressed : (answerOf cfg (entryFor ((answering cfg).after none before) e) e).decision
      = .suppress) :
    ∃ pa ∈ (answering cfg).trace none before,
      pa.1.severity < e.severity ∧ pa.2.within = true := by
  by_contra hnone
  have hmax : 0 < cfg.windowMax := Nat.zero_lt_of_lt (of_decide_eq_true hwithin).1
  have hlow : ∀ pa ∈ (answering cfg).trace none before,
      pa.1.severity < e.severity → pa.2.within = false := by
    intro pa hpa hlt
    cases hw : pa.2.within with
    | false => rfl
    | true => exact absurd ⟨pa, hpa, hlt, hw⟩ hnone
  -- both runs find the same window
  have hstart : Synced cfg none none := ⟨rfl, nofun, nofun⟩
  obtain ⟨hst, hst', hquota⟩ := (hstart.after hmax e.severity hlow).entry e
  refine not_suppress_of_within ?_ hsuppressed
  exact (admits_of_quota hst hst' hquota e).trans hwithin

/-- **Masking by lower severities**. A run of a limiter and a run without the
checks of a key that come before `e` and have a lower severity:

* `e` is suppressed in the full run exactly if the window it falls in is used up
  and it does not count up to the burst threshold;
* where `e` is let through without the lower severities and suppressed with them,
  one of them was let through. -/
theorem masked_iff {rl rl' : RateLimiter} {cs cs' : List Call} (k : Key)
    (hconfig : rl'.config = rl.config)
    (hkeep : machine.Along (Keeps k) rl cs) (hfirst : rl.state.get k = none)
    (hkeep' : machine.Along (Keeps k) rl' cs') (hfirst' : rl'.state.get k = none)
    (before : List Probe) (e : Probe) (hfull : probes k cs = before ++ [e])
    (hpruned : probes k cs' = atLeast e.severity before ++ [e]) :
    ∃ as a as' a', answers k rl cs = as ++ [a] ∧ answers k rl' cs' = as' ++ [a'] ∧
      as.length = before.length ∧
      (a.decision = .suppress ↔
        UsedUp rl.config as a ∧ counted (as ++ [a]) ≠ rl.config.burstThreshold) ∧
      (a'.within = true → a.decision = .suppress →
        ∃ pb ∈ before.zip as, pb.1.severity < e.severity ∧ pb.2.within = true) := by
  refine ⟨(answering rl.config).outs none before, answerOf rl.config _ e,
    (answering rl.config).outs none (atLeast e.severity before),
    answerOf rl.config
      (entryFor ((answering rl.config).after none (atLeast e.severity before)) e) e,
    ?_, ?_, ?_, suppress_iff (accounts_after rl.config before e) e,
    fun hwithin hsuppressed => ?_⟩
  · rw [answers_eq_of_first hfirst hkeep, hfull, outs_concat]
  · rw [answers_eq_of_first hfirst' hkeep', hpruned, hconfig, outs_concat]
  · exact (answering rl.config).length_outs before none
  · obtain ⟨pa, hpa, hlow⟩ := lower_let_through rl.config before e hwithin hsuppressed
    rw [← Machine.zip_outs] at hpa
    exact ⟨pa, hpa, hlow⟩

/-- A warning, an alert and a critical one, with room for two: the critical one is
suppressed, its window is used up, and a lower severity was let through. -/
theorem masked_iff_three :
    let cfg := { RateLimitConfig.default with windowMax := 2 }
    let a : Key := ⟨"fim", "a", 1⟩
    let cs := [Call.check ⟨0, 0, []⟩ a .warning, .check ⟨1, 1, [a]⟩ a .alert,
      .check ⟨2, 2, [a]⟩ a .critical]
    ∃ as a₁, answers a (new cfg) cs = as ++ [a₁] ∧ UsedUp cfg as a₁ ∧
      ∃ pb ∈ [(⟨0, 0, .warning⟩ : Probe), ⟨1, 1, .alert⟩].zip as,
        pb.1.severity < .critical ∧ pb.2.within = true := by
  intro cfg a cs
  let cs' := [Call.check ⟨2, 2, []⟩ a .critical]
  have hkeep : machine.Along (Keeps a) (new cfg) cs := by decide
  have hkeep' : machine.Along (Keeps a) (new cfg) cs' := by decide
  obtain ⟨as, a₁, as', a₁', has, has', -, hiff, hlower⟩ :=
    masked_iff a rfl hkeep rfl hkeep' rfl [⟨0, 0, .warning⟩, ⟨1, 1, .alert⟩]
      ⟨2, 2, .critical⟩ rfl rfl
  have hlast : ((answers a (new cfg) cs).getLast?).map Answer.decision = some .suppress := by
    decide
  have hlast' : ((answers a (new cfg) cs').getLast?).map Answer.within = some true := by decide
  rw [has, List.getLast?_concat] at hlast
  rw [has', List.getLast?_concat] at hlast'
  have hsuppressed : a₁.decision = .suppress := Option.some.inj hlast
  exact ⟨as, a₁, has, (hiff.mp hsuppressed).1, hlower (Option.some.inj hlast') hsuppressed⟩

/-- Ten warnings of one key, and then a critical alert: alone it is emitted, after
the warnings it is not. -/
theorem warnings_mask :
    ¬ ∀ (cfg : RateLimitConfig) (k : Key) (cs cs' : List Call) (before : List Probe) (e : Probe)
        (as as' : List Answer) (a a' : Answer),
      machine.Valid (new cfg) cs → machine.Along (Keeps k) (new cfg) cs →
      machine.Valid (new cfg) cs' → machine.Along (Keeps k) (new cfg) cs' →
      probes k cs = before ++ [e] → probes k cs' = atLeast e.severity before ++ [e] →
      answers k (new cfg) cs = as ++ [a] → answers k (new cfg) cs' = as' ++ [a'] →
      a'.decision.emits = true → a.decision.emits = true := by
  intro h
  let k : Key := ⟨"network", "nc", 1⟩
  let warning (i : ℕ) (order : List Key) : Call := .check ⟨i, i, order⟩ k .warning
  let cs : List Call := warning 0 [] :: (List.range' 1 9).map (fun i => warning i [k]) ++
    [.check ⟨10, 10, [k]⟩ k .critical]
  let as := answers k (new .default) cs
  have hrun := h .default k cs [.check ⟨10, 10, []⟩ k .critical]
    ((List.range 10).map fun i => ⟨i, i, .warning⟩) ⟨10, 10, .critical⟩ (as.take 10) []
    ⟨10, false, false, true, false, .suppress⟩ ⟨10, false, false, false, true, .allow⟩
    (by decide) (by decide) (by decide) (by decide) rfl rfl (by decide) (by decide) rfl
  cases hrun

end RateLimiter

end Kernelradar
