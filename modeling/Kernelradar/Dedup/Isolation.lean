import Kernelradar.Dedup.Solo

/-!
Keys do not influence each other while all of them fit under the cap.

* `keeps_of_few_keys`: a run with at most `keys_max` distinct keys never throws
  one out;
* `exists_alone`: a fresh limiter can be fed the checks of one key alone;
* `decisions_isolated`: it then answers them as the shared limiter did,
  whatever else happened in between.
-/

namespace Kernelradar

open Library

namespace RateLimiter

/-- The key a call checks. -/
def keyOf : Call → Option Key
  | .check _ key _ => some key
  | .drain _ => none

/-- The keys a run checks, in order. -/
def keysOf (cs : List Call) : List Key := cs.filterMap keyOf

/-- The run consists of checks of `k`. -/
def OnlyChecks (k : Key) (cs : List Call) : Prop := ∀ c ∈ cs, ∃ m severity, c = .check m k severity

/-- A map inside a set of at most `keys_max` keys has room for each of them. -/
lemma keeps_of_subset {S : Finset Key} {k : Key} : ∀ {cs : List Call} {rl : RateLimiter},
    rl.state.dom ⊆ S → (∀ key ∈ keysOf cs, key ∈ S) → S.card ≤ rl.config.keysMax →
    machine.Along (Keeps k) rl cs
  | [], _, _, _, _ => trivial
  | .drain order :: cs, rl, hdom, hS, hcard => by
      have hdrain : (rl.call (.drain order)).1.state.dom = rl.state.dom := dom_drain rl order
      refine ⟨trivial, keeps_of_subset (S := S) ?_ hS hcard⟩
      rw [machine_step, hdrain]
      exact hdom
  | .check m key severity :: cs, rl, hdom, hS, hcard => by
      have hkey : key ∈ S := hS key (by simp [keysOf, keyOf])
      have hnone : rl.evictee m.order key = none := by
        cases h : rl.evictee m.order key with
        | none => rfl
        | some v =>
            obtain ⟨hcap, hnew, -⟩ := evictee_eq_some h
            have hlt : rl.state.dom.card < S.card :=
              Finset.card_lt_card ⟨hdom, fun hsub => hnew (hsub hkey)⟩
            rw [Table.len] at hcap
            omega
      refine ⟨by simp [Keeps, hnone], keeps_of_subset (S := S) ?_ ?_ ?_⟩
      · rw [machine_step, call, dom_check, hnone]
        exact Finset.insert_subset hkey hdom
      · exact fun j hj => hS j (by simp only [keysOf, List.filterMap_cons, keyOf]
                                   exact List.mem_cons_of_mem _ hj)
      · rw [machine_step, call_config]
        exact hcard

/-- At most `keys_max` distinct keys: nothing is ever thrown out. -/
lemma keeps_of_few_keys {cfg : RateLimitConfig} {cs : List Call} (k : Key)
    (hkeys : (keysOf cs).toFinset.card ≤ cfg.keysMax) :
    machine.Along (Keeps k) (new cfg) cs :=
  keeps_of_subset (S := (keysOf cs).toFinset) (by simp [new])
    (fun _ hj => List.mem_toFinset.mpr hj) hkeys

/-- A key with a check is among the keys of the run. -/
lemma mem_keysOf_of_probes {k : Key} {cs : List Call} (h : probes k cs ≠ []) : k ∈ keysOf cs := by
  obtain ⟨p, hp⟩ := List.exists_mem_of_ne_nil _ h
  obtain ⟨c, hc, hcp⟩ := List.mem_filterMap.mp hp
  refine List.mem_filterMap.mpr ⟨c, hc, ?_⟩
  cases c with
  | drain order => cases hcp
  | check m key severity =>
      simp only [probeOf] at hcp
      split_ifs at hcp with hkey
      rw [keyOf, hkey]

lemma keysOf_of_only {k : Key} {cs : List Call} (h : OnlyChecks k cs) :
    ∀ j ∈ keysOf cs, j = k := by
  intro j hj
  obtain ⟨c, hc, hcj⟩ := List.mem_filterMap.mp hj
  obtain ⟨m, severity, rfl⟩ := h c hc
  exact (Option.some.inj hcj).symm

lemma probes_ne_nil_of_only {k : Key} {cs : List Call} (h : OnlyChecks k cs) (hne : cs ≠ []) :
    probes k cs ≠ [] := by
  obtain ⟨c, hc⟩ := List.exists_mem_of_ne_nil _ hne
  obtain ⟨m, severity, rfl⟩ := h c hc
  intro hnil
  have hmem : (⟨m.now, m.born, severity⟩ : Probe) ∈ probes k cs :=
    List.mem_filterMap.mpr ⟨_, hc, if_pos rfl⟩
  rw [hnil] at hmem
  cases hmem

/-- Any checks of one key can be fed to a limiter alone. -/
lemma exists_alone (k : Key) : ∀ (ps : List Probe) (rl : RateLimiter),
    (∀ p ∈ ps, p.now ≤ p.born) →
    ∃ cs, OnlyChecks k cs ∧ machine.Valid rl cs ∧ probes k cs = ps := by
  intro ps
  induction ps with
  | nil => exact fun _ _ => ⟨[], fun _ h => absurd h (by simp), trivial, rfl⟩
  | cons p ps ih =>
      intro rl hps
      obtain ⟨order, horder⟩ := rl.state.exists_enumerates
      have hrest := fun q hq => hps q (List.mem_cons_of_mem p hq)
      obtain ⟨cs, honly, hvalid, hprobes⟩ :=
        ih (rl.call (.check ⟨p.now, p.born, order⟩ k p.severity)).1 hrest
      refine ⟨.check ⟨p.now, p.born, order⟩ k p.severity :: cs, ?_, ?_, ?_⟩
      · intro c hc
        rcases List.mem_cons.mp hc with rfl | hc'
        · exact ⟨_, _, rfl⟩
        · exact honly c hc'
      · exact ⟨⟨horder, hps p (by simp)⟩, hvalid⟩
      · simp only [probes, List.filterMap_cons, probeOf, if_true]
        exact congrArg _ hprobes

/-- **Isolation**: in a run with at most `keys_max` distinct keys, the decisions
for each key are those a fresh limiter gives when it is fed that key's checks
alone, at the same instants. -/
theorem decisions_isolated (cfg : RateLimitConfig) (cs : List Call) (k : Key)
    (hvalid : machine.Valid (new cfg) cs)
    (hkeys : (keysOf cs).toFinset.card ≤ cfg.keysMax) :
    (∃ alone, OnlyChecks k alone ∧ machine.Valid (new cfg) alone ∧
      probes k alone = probes k cs) ∧
    ∀ alone, OnlyChecks k alone → machine.Valid (new cfg) alone →
      probes k alone = probes k cs →
      decisions k (machine.trace (new cfg) alone) = decisions k (machine.trace (new cfg) cs) := by
  refine ⟨exists_alone k _ _ (probes_now_le hvalid), fun alone honly _ hprobes => ?_⟩
  have hfew : (keysOf alone).toFinset.card ≤ cfg.keysMax := by
    by_cases hnil : alone = []
    · simp [hnil, keysOf]
    · -- the key occurs in the shared run, so there is room for one
      have hmem : k ∈ (keysOf cs).toFinset :=
        List.mem_toFinset.mpr (mem_keysOf_of_probes (hprobes ▸ probes_ne_nil_of_only honly hnil))
      have hone : (keysOf alone).toFinset.card ≤ 1 :=
        Finset.card_le_one.mpr fun a ha b hb =>
          (keysOf_of_only honly a (List.mem_toFinset.mp ha)).trans
            (keysOf_of_only honly b (List.mem_toFinset.mp hb)).symm
      exact hone.trans ((Finset.card_pos.mpr ⟨k, hmem⟩).trans_le hkeys)
  have hagrees : Agrees k (new cfg) none := rfl
  have hshared := decisions_eq_solo hagrees (keeps_of_few_keys k hkeys)
  have halone := decisions_eq_solo hagrees (keeps_of_few_keys k hfew)
  rw [hshared.1, halone.1, hprobes]

/-- Two keys under a cap of two, with a drain in between. -/
theorem decisions_isolated_two :
    let cfg := { RateLimitConfig.default with keysMax := 2, windowMax := 1 }
    let a : Key := ⟨"fim", "a", 1⟩
    let b : Key := ⟨"fim", "b", 1⟩
    let cs := [Call.check ⟨0, 0, []⟩ a .alert, .check ⟨1, 1, [a]⟩ b .alert, .drain [b, a],
      .check ⟨2, 2, [a, b]⟩ a .alert]
    decisions a (machine.trace (new cfg) [.check ⟨0, 0, []⟩ a .alert, .check ⟨2, 2, [a]⟩ a .alert])
      = decisions a (machine.trace (new cfg) cs) := by
  intro cfg a b cs
  refine (decisions_isolated cfg cs a (by decide) (by decide)).2 _ ?_ (by decide) (by decide)
  intro c hc
  rcases List.mem_cons.mp hc with rfl | hc'
  · exact ⟨_, _, rfl⟩
  · exact ⟨_, _, List.mem_singleton.mp hc'⟩

end RateLimiter

end Kernelradar
