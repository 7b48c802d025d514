import Kernelradar.Baseline.Eviction

/-!
What a call leaves of the history of its own pair.

* `Reachable`: the baselines a process can hold, across calls, resets and restarts;
  `lived_of_reachable`: each of their pairs has counted an event and has a first one;
* `spared_iff`: when eviction spares the pair that is about to be recorded;
* `keeps_history_iff`: exactly then the call continues its history;
* `recorded_pair_evicted`: a call that starts it anew.
-/

namespace Kernelradar

open Library

namespace Baseline

variable {F : Type}

section Reach

variable [F64 F]

/-- The baselines a process can hold. -/
inductive Reachable : Baseline F → Prop where
  /-- `Baseline::new`, or a `load_or_default` that finds no baseline. -/
  | start (config : BaselineConfig F) (now : DateTime) : Reachable (new config now)
  | call {b : Baseline F} (c : Call) (hb : Reachable b) (hok : b.Admissible c) :
      Reachable (b.recordAndScore c).1
  | load {b : Baseline F} (config : BaselineConfig F) (now : DateTime) (hb : Reachable b) :
      Reachable (loadOrDefault config now b.save)
  | reset {b : Baseline F} (now : DateTime) (hb : Reachable b) : Reachable (b.reset now)

lemma reachable_after {b : Baseline F} {cs : List Call} (hb : Reachable b)
    (hvalid : machine.Valid b cs) : Reachable (machine.after b cs) :=
  machine.invariant (fun _ c h hok => .call c h hok) hb hvalid

end Reach

/-- The pair has counted an event, and knows its first one. -/
structure Lived (p : PairStats F) : Prop where
  counted : 1 ≤ p.total
  seen : p.firstSeen.isSome

lemma lived_touch (p : PairStats F) (now : DateTime) : Lived (touch p now) := by
  refine ⟨?_, ?_⟩
  · show 1 ≤ min (p.total + 1) (2 ^ 64 - 1)
    omega
  · show (if p.firstSeen.isNone then some now else p.firstSeen).isSome
    cases p.firstSeen <;> rfl

variable [F64 F]

/-- Flushing changes buckets only. -/
lemma Lived.flush {p : PairStats F} (h : Lived p) (alpha : F) (o : Option (Fin 24 × ℕ)) :
    Lived (flush p alpha o) := by
  cases o with
  | none => exact h
  | some x => exact ⟨h.counted, h.seen⟩

/-- Every pair of a reachable baseline has lived. -/
lemma lived_of_reachable {b : Baseline F} (h : Reachable b) :
    ∀ k p, b.pairs.get k = some p → Lived p := by
  induction h with
  | start config now => exact fun _ _ hp => by cases hp
  | reset now hb ih => exact fun _ _ hp => by cases hp
  | load config now hb ih => exact ih
  | @call b c hb hok ih =>
      intro k p hp
      cases hev : b.evict c.now c.order with
      | none =>
          rw [recordAndScore_of_panic hev] at hp
          exact ih k p hp
      | some b' =>
          rw [recordAndScore_of_evict hev] at hp
          by_cases hk : k = key c.detector c.comm
          · subst hk
            obtain rfl := Option.some.inj ((pairs_record_self _ _ _).symm.trans hp)
            exact (lived_touch _ c.now).flush _ _
          · have hold : b'.pairs.get k = some p := (pairs_record_of_ne _ _ hk).symm.trans hp
            exact ih k p ((pairs_evict hev (Table.mem_dom_of_get hold)).symm.trans hold)

/-! ### The pair that is recorded -/

/-- Eviction does not reach the pair of the call: the table is under the cap, or the
pair was seen after the cutoff, and then the staleness pass is enough or enough
pairs are older. -/
def Spared (b : Baseline F) (c : Call) : Prop :=
  b.pairs.len < b.config.pairsMax ∨ ∃ cutoff, b.cutoffAt c.now = some cutoff ∧
    ((b.recent cutoff).card < b.config.pairsMax ∧ key c.detector c.comm ∈ b.recent cutoff ∨
      b.Outlives cutoff c.order (key c.detector c.comm))

omit [F64 F] in
/-- A pair that outlives the fall-through was seen after the cutoff. -/
lemma Outlives.mem_recent {b : Baseline F} {cutoff : DateTime} {order : List Text} {k : Text}
    (h : b.Outlives cutoff order k) : k ∈ b.recent cutoff := by
  obtain ⟨p, t, hp, ht, hlt, -⟩ := h
  exact Baseline.mem_recent.mpr ⟨p, t, hp, ht, hlt⟩

omit [F64 F] in
/-- The call finds its pair in the table left by eviction exactly if it is spared. -/
lemma spared_iff {b : Baseline F} {c : Call} (hok : b.Admissible c)
    (hmem : key c.detector c.comm ∈ b.pairs.dom) :
    (∃ b', b.evict c.now c.order = some b' ∧ key c.detector c.comm ∈ b'.pairs.dom) ↔
      b.Spared c := by
  cases hev : b.evict c.now c.order with
  | none =>
      obtain ⟨hcap, hnone⟩ := evict_eq_none.mp hev
      refine iff_of_false nofun ?_
      rintro (hlt | ⟨cutoff, hsome, -⟩)
      · exact absurd hcap (not_le.mpr hlt)
      · rw [hnone] at hsome
        cases hsome
  | some b' =>
      have hone : (∃ b'', some b' = some b'' ∧ key c.detector c.comm ∈ b''.pairs.dom) ↔
          key c.detector c.comm ∈ b'.pairs.dom :=
        ⟨fun ⟨_, heq, h⟩ => Option.some.inj heq ▸ h, fun h => ⟨b', rfl, h⟩⟩
      rw [hone, Spared]
      rcases evict_spec hev with ⟨hlt, rfl⟩ | ⟨hcap, cutoff, hcutoff, hpass⟩
      · exact iff_of_true hmem (Or.inl hlt)
      · rw [or_iff_right (not_lt.mpr hcap), hcutoff]
        have hany : ∀ P : DateTime → Prop, (∃ x, some cutoff = some x ∧ P x) ↔ P cutoff :=
          fun P => ⟨fun ⟨_, heq, h⟩ => Option.some.inj heq ▸ h, fun h => ⟨cutoff, rfl, h⟩⟩
        rw [hany]
        rcases hpass with ⟨hroom, rfl⟩ | ⟨hfull, rfl⟩
        · -- the staleness pass was enough
          rw [dom_evictStale]
          constructor
          · exact fun h => Or.inl ⟨hroom, h⟩
          · exact fun h => h.elim And.right Outlives.mem_recent
        · rw [mem_dropOldest_evictStale (hok cutoff hcutoff hfull)]
          constructor
          · exact Or.inr
          · exact fun h => h.elim (fun hlt => absurd hlt.1 (not_lt.mpr hfull)) id

/-- The history of pair `k` goes on from `p`: one event more, the same first event, and
every bucket as it was or with one observation more. -/
def KeepsHistory (b : Baseline F) (k : Text) (p : PairStats F) (alpha : F) : Prop :=
  ∃ p', b.pairs.get k = some p' ∧ p'.total = p.total + 1 ∧ p'.firstSeen = p.firstSeen ∧
    ∀ h, p'.buckets h = p.buckets h ∨ ∃ n, p'.buckets h = (p.buckets h).observe n alpha

/-- Recording an event of a pair that has lived. -/
lemma keepsHistory_record {b : Baseline F} {now : DateTime} {k : Text} {p : PairStats F}
    (hp : b.pairs.get k = some p) (hlived : Lived p) (htotal : p.total < 2 ^ 64 - 1) :
    (b.record now k).KeepsHistory k p b.config.alpha := by
  refine ⟨_, pairs_record_self _ _ _, ?_⟩
  rw [hp, Option.getD_some]
  generalize observed ((b.curMinute.get k).getD (curMin now, 0)) (curMin now) = o
  have htouched : (touch p now).total = p.total + 1 := by
    show min (p.total + 1) (2 ^ 64 - 1) = _
    omega
  have hfirst : (touch p now).firstSeen = p.firstSeen := by
    obtain ⟨t, ht⟩ := Option.isSome_iff_exists.mp hlived.seen
    rw [touch, ht]
    rfl
  cases o with
  | none => exact ⟨htouched, hfirst, fun _ => Or.inl rfl⟩
  | some x =>
      refine ⟨htouched, hfirst, fun h => ?_⟩
      by_cases hx : h = x.1
      · subst hx
        exact Or.inr ⟨x.2, Function.update_self _ _ _⟩
      · exact Or.inl (Function.update_of_ne hx _ _)

/-- **The history of the recorded pair**: in a reachable baseline, a call for a pair of
the table continues its history exactly if its total is below the largest `u64` and
eviction spares it. -/
theorem keeps_history_iff {b : Baseline F} (hb : Reachable b) {c : Call} (hok : b.Admissible c)
    {p : PairStats F} (hp : b.pairs.get (key c.detector c.comm) = some p) :
    (b.recordAndScore c).1.KeepsHistory (key c.detector c.comm) p b.config.alpha ↔
      p.total < 2 ^ 64 - 1 ∧ b.Spared c := by
  have hlived : Lived p := lived_of_reachable hb _ p hp
  rw [← spared_iff hok (Table.mem_dom_of_get hp)]
  cases hev : b.evict c.now c.order with
  | none =>
      rw [recordAndScore_of_panic hev]
      refine iff_of_false ?_ fun h => by obtain ⟨-, b', hb', -⟩ := h; cases hb'
      rintro ⟨p', hp', htotal, -⟩
      obtain rfl := Option.some.inj (hp.symm.trans hp')
      omega
  | some b' =>
      have hstep : (b.recordAndScore c).1 = b'.record c.now (key c.detector c.comm) :=
        congrArg Prod.fst (recordAndScore_of_evict hev)
      rw [hstep]
      constructor
      · rintro ⟨p', hp', htotal, -⟩
        have hget := Option.some.inj ((pairs_record_self _ _ _).symm.trans hp')
        have hcount : p'.total = satAdd ((b'.pairs.get (key c.detector c.comm)).getD
            PairStats.empty).total 1 := by
          rw [← hget]
          generalize observed _ _ = o
          cases o <;> rfl
        rw [satAdd] at hcount
        have hin : key c.detector c.comm ∈ b'.pairs.dom := by
          by_contra hnot
          -- a pair made anew has counted one event
          have hnew : (PairStats.empty : PairStats F).total = 0 := rfl
          rw [Table.get_eq_none.mpr hnot, Option.getD_none, hnew] at hcount
          have hone := hlived.counted
          omega
        rw [(pairs_evict hev hin).trans hp, Option.getD_some] at hcount
        exact ⟨by omega, b', rfl, hin⟩
      · rintro ⟨htotal, b'', hb'', hin⟩
        obtain rfl := Option.some.inj hb''
        rw [← evict_config hev]
        exact keepsHistory_record ((pairs_evict hev hin).trans hp) hlived htotal

/-- Two pairs, at a cap of two. -/
def twoPairs : Baseline ℚ :=
  machine.after (new { (BaselineConfig.default : BaselineConfig ℚ) with pairsMax := 2 } 0)
    [⟨10, [], "fim", "a"⟩, ⟨20, [], "fim", "b"⟩]

lemma reachable_twoPairs : Reachable twoPairs := reachable_after (.start _ 0) (by decide)

/-- A call for the newer of two pairs at the cap continues its history. -/
theorem keeps_history_iff_newer :
    let c : Call := ⟨30, [key "fim" "b", key "fim" "a"], "fim", "b"⟩
    ∃ p, twoPairs.pairs.get (key "fim" "b") = some p ∧
      (twoPairs.recordAndScore c).1.KeepsHistory (key "fim" "b") p twoPairs.config.alpha := by
  intro c
  obtain ⟨p, hp⟩ : ∃ p, twoPairs.pairs.get (key "fim" "b") = some p :=
    Option.isSome_iff_exists.mp (by decide)
  have hbefore : (twoPairs.pairs.get (key "fim" "b")).map PairStats.total = some 1 := by decide
  rw [hp, Option.map_some] at hbefore
  have htotal : p.total < 2 ^ 64 - 1 := by
    rw [Option.some.inj hbefore]
    decide
  have hseen : (twoPairs.pairs.get (key "fim" "b")).bind PairStats.lastSeen = some 20 := by decide
  rw [hp, Option.bind_some] at hseen
  have hspared : twoPairs.Spared c :=
    Or.inr ⟨_, rfl, Or.inr ⟨p, 20, hp, hseen, by decide, by decide⟩⟩
  exact ⟨p, hp, (keeps_history_iff reachable_twoPairs (c := c) (by decide) hp).mpr
    ⟨htotal, hspared⟩⟩

/-- A call for the older of two pairs at the cap: nothing has to make room for its
event, and its history is dropped first. -/
theorem recorded_pair_evicted :
    ¬ ∀ (b : Baseline ℚ) (c : Call) (p : PairStats ℚ), Reachable b → b.Admissible c →
      b.pairs.get (key c.detector c.comm) = some p →
      (b.recordAndScore c).1.KeepsHistory (key c.detector c.comm) p b.config.alpha := by
  intro h
  let c : Call := ⟨30, [key "fim" "b", key "fim" "a"], "fim", "a"⟩
  obtain ⟨p, hp⟩ : ∃ p, twoPairs.pairs.get (key "fim" "a") = some p :=
    Option.isSome_iff_exists.mp (by decide)
  obtain ⟨p', hp', htotal, -⟩ := h twoPairs c p reachable_twoPairs (by decide) hp
  have hbefore : (twoPairs.pairs.get (key "fim" "a")).map PairStats.total = some 1 := by decide
  have hafter : ((twoPairs.recordAndScore c).1.pairs.get (key "fim" "a")).map PairStats.total
      = some 1 := by decide
  have hp'' : (twoPairs.recordAndScore c).1.pairs.get (key "fim" "a") = some p' := hp'
  rw [hp, Option.map_some] at hbefore
  rw [hp'', Option.map_some] at hafter
  have hone : p.total = 1 := Option.some.inj hbefore
  have hnext : p'.total = 1 := Option.some.inj hafter
  omega

end Baseline

end Kernelradar
