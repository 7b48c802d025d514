import Kernelradar.Dedup.Eviction

/-!
One key at a time: the part of a limiter run that concerns a single key.

* `probes`, `decisions`: the checks of a key in a run and what they returned;
* `solo`: the machine of one map entry, which knows nothing of other keys;
* `decisions_eq_solo`: as long as the key is not thrown out, the shared limiter
  decides for it as `solo` does. States are compared up to `suppressed`, the
  one field draining resets and no decision reads (`check_forget`).
-/

namespace Kernelradar

open Library

namespace KeyState

/-- The state without its suppression counter. -/
def forget (st : KeyState) : KeyState := { st with suppressed := 0 }

@[simp] lemma forget_forget (st : KeyState) : st.forget.forget = st.forget := rfl

lemma rolled_forget (cfg : RateLimitConfig) (now : Instant) (severity : Severity)
    (st : KeyState) : rolled cfg now severity st.forget = (rolled cfg now severity st).forget := by
  unfold rolled rollWindow rollBurst forget
  dsimp only
  split_ifs <;> rfl

/-- The suppression counter has no influence on a check. -/
lemma check_forget (cfg : RateLimitConfig) (now : Instant) (severity : Severity)
    (st : KeyState) :
    (check cfg now severity st.forget).2 = (check cfg now severity st).2 ∧
      (check cfg now severity st.forget).1.forget = (check cfg now severity st).1.forget := by
  unfold check
  rw [rolled_forget]
  generalize rolled cfg now severity st = r
  dsimp only
  have hwithin : within cfg now r.forget = within cfg now r := rfl
  have hburst : burstTriggered cfg r.forget = burstTriggered cfg r := rfl
  rw [hwithin, hburst]
  cases within cfg now r <;> cases burstTriggered cfg r <;> exact ⟨rfl, rfl⟩

end KeyState

namespace RateLimiter

/-- A check as one key sees it. -/
structure Probe where
  now : Instant
  born : Instant
  severity : Severity
  deriving DecidableEq

/-- The check of `k` a call makes, if it makes one. -/
def probeOf (k : Key) : Call → Option Probe
  | .check m key severity => if key = k then some ⟨m.now, m.born, severity⟩ else none
  | .drain _ => none

/-- The checks of `k` in a run. -/
def probes (k : Key) (cs : List Call) : List Probe := cs.filterMap (probeOf k)

/-- The decision for `k` a call returned, if it was a check of `k`. -/
def decisionOf (k : Key) : Call × Reply → Option Decision
  | (.check _ key _, .decision d) => if key = k then some d else none
  | _ => none

/-- The decisions for `k` along a trace. -/
def decisions (k : Key) (tr : List (Call × Reply)) : List Decision := tr.filterMap (decisionOf k)

/-- A map entry on its own: absent, it is made by the first check. -/
def soloStep (cfg : RateLimitConfig) (o : Option KeyState) (p : Probe) :
    Option KeyState × Decision :=
  let r := (o.getD (KeyState.new p.severity p.born)).check cfg p.now p.severity
  (some r.1, r.2)

/-- The machine of one map entry. -/
def solo (cfg : RateLimitConfig) : Machine (Option KeyState) Probe Decision :=
  ⟨soloStep cfg, fun _ _ => True⟩

@[simp] lemma solo_step (cfg : RateLimitConfig) (o : Option KeyState) (p : Probe) :
    (solo cfg).step o p = soloStep cfg o p := rfl

/-- The call does not throw `k` out. -/
def Keeps (k : Key) (rl : RateLimiter) : Call → Prop
  | .check m key _ => rl.evictee m.order key ≠ some k
  | .drain _ => True

instance (k : Key) (rl : RateLimiter) : ∀ c, Decidable (Keeps k rl c)
  | .check m key _ => inferInstanceAs (Decidable (rl.evictee m.order key ≠ some k))
  | .drain _ => isTrue trivial

/-- The shared map's entry for `k` and a lone one agree up to `suppressed`. -/
def Agrees (k : Key) (rl : RateLimiter) (o : Option KeyState) : Prop :=
  (rl.state.get k).map KeyState.forget = o.map KeyState.forget

/-- Eviction makes room for a key, it never touches that key's own entry. -/
lemma get_evict_self (rl : RateLimiter) (order : List Key) (key : Key) :
    (rl.evict order key).get key = rl.state.get key := by
  rw [evict]
  cases h : rl.evictee order key with
  | none => rfl
  | some v =>
      obtain ⟨-, hkey, hvictim⟩ := evictee_eq_some h
      have hne : key ≠ v := fun hkv => hkey (hkv ▸ victim_mem_dom hvictim)
      exact Table.get_erase_of_ne _ hne

/-- A check of another key leaves a kept entry alone. -/
lemma get_check_of_ne {rl : RateLimiter} {m : Moment} {key k : Key} {severity : Severity}
    (hk : k ≠ key) (hkeep : rl.evictee m.order key ≠ some k) :
    (rl.check m key severity).1.state.get k = rl.state.get k := by
  have htable : (rl.evict m.order key).get k = rl.state.get k := by
    rw [evict]
    cases h : rl.evictee m.order key with
    | none => rfl
    | some v =>
        refine Table.get_erase_of_ne _ fun hkv => hkeep ?_
        rw [h, hkv]
  rw [← htable]
  exact Table.get_insert_of_ne _ _ hk

/-- The check of a key is the check of its entry. -/
lemma check_eq_soloStep (rl : RateLimiter) (m : Moment) (key : Key) (severity : Severity) :
    (rl.check m key severity).1.state.get key
        = (soloStep rl.config (rl.state.get key) ⟨m.now, m.born, severity⟩).1 ∧
      (rl.check m key severity).2
        = (soloStep rl.config (rl.state.get key) ⟨m.now, m.born, severity⟩).2 := by
  rw [← get_evict_self rl m.order key]
  simp [check, soloStep]

/-- A call as the key `k` sees it, with its answer. -/
lemma observe_cases (k : Key) (rl : RateLimiter) (c : Call) :
    (∃ m severity, c = .check m k severity ∧ probeOf k c = some ⟨m.now, m.born, severity⟩ ∧
      decisionOf k (c, (rl.call c).2) = some (rl.check m k severity).2) ∨
    (probeOf k c = none ∧ decisionOf k (c, (rl.call c).2) = none ∧
      ((∃ order, c = .drain order) ∨ ∃ m key severity, key ≠ k ∧ c = .check m key severity)) := by
  cases c with
  | drain order => exact Or.inr ⟨rfl, rfl, Or.inl ⟨order, rfl⟩⟩
  | check m key severity =>
      by_cases hkey : key = k
      · subst hkey
        exact Or.inl ⟨m, severity, rfl, if_pos rfl, if_pos rfl⟩
      · exact Or.inr ⟨if_neg hkey, if_neg hkey, Or.inr ⟨m, key, severity, hkey, rfl⟩⟩

/-- Entries that agree decide alike and still agree afterwards. -/
lemma soloStep_agrees (cfg : RateLimitConfig) {o o' : Option KeyState} (p : Probe)
    (h : o.map KeyState.forget = o'.map KeyState.forget) :
    (soloStep cfg o p).2 = (soloStep cfg o' p).2 ∧
      (soloStep cfg o p).1.map KeyState.forget = (soloStep cfg o' p).1.map KeyState.forget := by
  have hforget : ∀ st st' : KeyState, st.forget = st'.forget →
      (st.check cfg p.now p.severity).2 = (st'.check cfg p.now p.severity).2 ∧
        (st.check cfg p.now p.severity).1.forget = (st'.check cfg p.now p.severity).1.forget := by
    intro st st' hst
    obtain ⟨hd, hs⟩ := KeyState.check_forget cfg p.now p.severity st
    obtain ⟨hd', hs'⟩ := KeyState.check_forget cfg p.now p.severity st'
    rw [hst] at hd hs
    exact ⟨hd.symm.trans hd', hs.symm.trans hs'⟩
  have hget : (o.getD (KeyState.new p.severity p.born)).forget
      = (o'.getD (KeyState.new p.severity p.born)).forget := by
    cases o <;> cases o' <;> simp_all
  obtain ⟨hd, hs⟩ := hforget _ _ hget
  exact ⟨hd, by simp [soloStep, hs]⟩

/-- In a valid run `KeyState::new` reads the clock after `check`. -/
lemma probes_now_le {k : Key} : ∀ {cs : List Call} {rl : RateLimiter},
    machine.Valid rl cs → ∀ p ∈ probes k cs, p.now ≤ p.born := by
  intro cs
  induction cs with
  | nil =>
      intro rl _ p hp
      exact absurd hp (by simp [probes])
  | cons c cs ih =>
      intro rl hvalid p hp
      have hrest := ih hvalid.2 p
      rw [probes, List.filterMap_cons] at hp
      rcases observe_cases k rl c with ⟨m, severity, rfl, hprobe, -⟩ | ⟨hprobe, -, -⟩
      · rw [hprobe] at hp
        rcases List.mem_cons.mp hp with rfl | hp'
        · exact hvalid.1.2
        · exact hrest hp'
      · rw [hprobe] at hp
        exact hrest hp

/-- One call of the shared limiter, seen from a key it keeps: a check of the key
is a step of its entry, anything else changes nothing it can see. -/
lemma call_agrees {k : Key} {rl : RateLimiter} {o : Option KeyState} {c : Call}
    (h : Agrees k rl o) (hkeep : Keeps k rl c) :
    (∃ p, probeOf k c = some p ∧ Agrees k (rl.call c).1 (soloStep rl.config o p).1 ∧
      decisionOf k (c, (rl.call c).2) = some (soloStep rl.config o p).2) ∨
    (probeOf k c = none ∧ Agrees k (rl.call c).1 o ∧ decisionOf k (c, (rl.call c).2) = none) := by
  rcases observe_cases k rl c with ⟨m, severity, rfl, hprobe, hdec⟩ | ⟨hprobe, hdec, hother⟩
  · refine Or.inl ⟨_, hprobe, ?_⟩
    obtain ⟨hget, hd⟩ := check_eq_soloStep rl m k severity
    obtain ⟨hd', hs'⟩ := soloStep_agrees rl.config ⟨m.now, m.born, severity⟩ h
    refine ⟨(congrArg _ hget).trans hs', ?_⟩
    rw [hdec, hd, hd']
  · refine Or.inr ⟨hprobe, ?_, hdec⟩
    rw [Agrees, ← show _ = _ from h]
    rcases hother with ⟨order, rfl⟩ | ⟨m, key, severity, hne, rfl⟩
    · simp only [call, drainSuppressed, Table.get_mapValues, Option.map_map]
      rfl
    · exact congrArg _ (get_check_of_ne (Ne.symm hne) hkeep)

/-- **Projection to one key**: while a key is kept, the shared limiter decides
for it as the machine of its entry alone does. -/
theorem decisions_eq_solo {k : Key} : ∀ {cs : List Call} {rl : RateLimiter} {o : Option KeyState},
    Agrees k rl o → machine.Along (Keeps k) rl cs →
    decisions k (machine.trace rl cs) = (solo rl.config).outs o (probes k cs) ∧
      Agrees k (machine.after rl cs) ((solo rl.config).after o (probes k cs)) := by
  intro cs rl o h hkeep
  have hstep : ∀ (r : RateLimiter) (o : Option KeyState) (c : Call),
      r.config = rl.config ∧ Agrees k r o → Keeps k r c →
      (probeOf k c = none ∧ decisionOf k (c, (r.call c).2) = none ∧
        (r.call c).1.config = rl.config ∧ Agrees k (r.call c).1 o) ∨
      ∃ p, probeOf k c = some p ∧
        decisionOf k (c, (r.call c).2) = some (soloStep rl.config o p).2 ∧
        (r.call c).1.config = rl.config ∧ Agrees k (r.call c).1 (soloStep rl.config o p).1 := by
    rintro r o c ⟨hconfig, hagrees⟩ hkeeps
    have hnext : (r.call c).1.config = rl.config := (call_config r c).trans hconfig
    rw [← hconfig] at hnext ⊢
    rcases call_agrees hagrees hkeeps with ⟨p, hprobe, hagrees', hdec⟩ | ⟨hprobe, hagrees', hdec⟩
    · exact Or.inr ⟨p, hprobe, hdec, hnext, hagrees'⟩
    · exact Or.inl ⟨hprobe, hdec, hnext, hagrees'⟩
  have hrun := machine.projection (N := solo rl.config) (f := probeOf k) (g := decisionOf k)
    (R := fun r o => r.config = rl.config ∧ Agrees k r o) hstep ⟨rfl, h⟩ hkeep
  exact ⟨hrun.2, hrun.1.2⟩

end RateLimiter

end Kernelradar
