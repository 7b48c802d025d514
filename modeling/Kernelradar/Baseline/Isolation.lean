import Kernelradar.Baseline.History

/-!
Pairs do not influence each other while the table has room.

* `key_inj`: a key tells its detector and its `comm`, whatever the `comm` contains;
* `solo`: the machine of one pair, which knows nothing of the others;
* `scores_eq_solo`: below the cap the shared baseline keeps a pair, and scores it, as
  `solo` does;
* `pairs_isolated`: two runs with the same calls for a pair agree on it.
-/

namespace Kernelradar

open Library

namespace Baseline

/-- The first bar ends the detector. -/
lemma key_inj {d d' c c' : Text} (hd : '|' ∉ d) (hd' : '|' ∉ d') :
    key d c = key d' c' ↔ d = d' ∧ c = c' := by
  constructor
  · intro h
    have hsplit : Text.splitOnce '|' (key d c) = some (d, c) :=
      Text.splitOnce_eq_some.mpr ⟨rfl, hd⟩
    have hsplit' : Text.splitOnce '|' (key d c) = some (d', c') :=
      Text.splitOnce_eq_some.mpr ⟨h, hd'⟩
    exact Prod.mk.inj (Option.some.inj (hsplit.symm.trans hsplit'))
  · rintro ⟨rfl, rfl⟩
    rfl

variable {F : Type} [F64 F]

/-- What the two tables hold of one pair. -/
structure Pair (F : Type) where
  stats : Option (PairStats F)
  minute : Option (ℤ × ℕ)

/-- The entries of a key. -/
def pair (b : Baseline F) (k : Text) : Pair F := ⟨b.pairs.get k, b.curMinute.get k⟩

/-- A call for the pair, on its own. -/
def soloStep (config : BaselineConfig F) (started : DateTime) (s : Pair F) (now : DateTime) :
    Pair F × Outcome F :=
  let entry := s.minute.getD (curMin now, 0)
  let stats := flush (touch (s.stats.getD PairStats.empty) now) config.alpha
    (observed entry (curMin now))
  let entry := rollOver entry (curMin now)
  (⟨some stats, some entry⟩, (new config started).score now (stats.buckets now.hour) entry.2)

/-- The machine of one pair. -/
def solo (config : BaselineConfig F) (started : DateTime) :
    Machine (Pair F) DateTime (Outcome F) := ⟨soloStep config started, fun _ _ => True⟩

@[simp] lemma solo_step (config : BaselineConfig F) (started : DateTime) (s : Pair F)
    (now : DateTime) : (solo config started).step s now = soloStep config started s now := rfl

/-- When a call is for the pair, and at what time. -/
def callOf (d c : Text) (call : Call) : Option DateTime :=
  if call.detector = d ∧ call.comm = c then some call.now else none

/-- What a call for the pair returned. -/
def scoreFor (d c : Text) (e : Call × Outcome F) : Option (Outcome F) :=
  (callOf d c e.1).map fun _ => e.2

/-- The table has room for one more pair. -/
def BelowCap (b : Baseline F) (_ : Call) : Prop := b.pairs.len < b.config.pairsMax

omit [F64 F] in
instance (b : Baseline F) (c : Call) : Decidable (b.BelowCap c) :=
  inferInstanceAs (Decidable (b.pairs.len < b.config.pairsMax))

/-- Scoring reads the configuration and the start of the baseline. -/
lemma score_congr {b b' : Baseline F} (hconfig : b.config = b'.config)
    (hstarted : b.started = b'.started) (now : DateTime) (bucket : HourBucket F) (count : ℕ) :
    b.score now bucket count = b'.score now bucket count := by
  rw [score, score, learningUntil, learningUntil, hconfig, hstarted]

/-- A call below the cap is a step of its own pair. -/
lemma pair_hit {b : Baseline F} {c : Call} (h : b.BelowCap c) :
    (b.recordAndScore c).1.pair (key c.detector c.comm)
        = (soloStep b.config b.started (b.pair (key c.detector c.comm)) c.now).1 ∧
      (b.recordAndScore c).2
        = (soloStep b.config b.started (b.pair (key c.detector c.comm)) c.now).2 := by
  rw [recordAndScore_of_evict (evict_of_room h _ _)]
  refine ⟨?_, ?_⟩
  · rw [pair, pairs_record_self, curMinute_record_self]
    rfl
  · rw [scoreOf, pairs_record_self, curMinute_record_self]
    exact score_congr rfl rfl _ _ _

/-- And leaves every other pair alone. -/
lemma pair_miss {b : Baseline F} {c : Call} (h : b.BelowCap c) {k : Text}
    (hk : k ≠ key c.detector c.comm) : (b.recordAndScore c).1.pair k = b.pair k := by
  rw [recordAndScore_of_evict (evict_of_room h _ _), pair, pairs_record_of_ne _ _ hk,
    curMinute_record_of_ne _ _ hk, pair]

/-- The pair as it is in the shared baseline. -/
structure Projects (config : BaselineConfig F) (started : DateTime) (k : Text) (b : Baseline F)
    (s : Pair F) : Prop where
  config : b.config = config
  started : b.started = started
  pair : b.pair k = s

/-- A call below the cap, seen from one pair. -/
lemma projects_step {config : BaselineConfig F} {started : DateTime} {d c : Text}
    (hd : '|' ∉ d) {b : Baseline F} {s : Pair F} {call : Call}
    (h : Projects config started (key d c) b s) (hcall : '|' ∉ call.detector)
    (hroom : b.BelowCap call) :
    (callOf d c call = none ∧ scoreFor d c (call, (b.recordAndScore call).2) = none ∧
      Projects config started (key d c) (b.recordAndScore call).1 s) ∨
    ∃ now, callOf d c call = some now ∧
      scoreFor d c (call, (b.recordAndScore call).2) = some (soloStep config started s now).2 ∧
      Projects config started (key d c) (b.recordAndScore call).1
        (soloStep config started s now).1 := by
  obtain ⟨rfl, rfl, rfl⟩ := h
  have hconfig : (b.recordAndScore call).1.config = b.config := recordAndScore_config b call
  have hstarted : (b.recordAndScore call).1.started = b.started := recordAndScore_started b call
  by_cases hfor : call.detector = d ∧ call.comm = c
  · obtain ⟨rfl, rfl⟩ := hfor
    obtain ⟨hpair, hscore⟩ := pair_hit hroom
    have hof : callOf call.detector call.comm call = some call.now := if_pos ⟨rfl, rfl⟩
    refine Or.inr ⟨call.now, hof, ?_, hconfig, hstarted, hpair⟩
    rw [scoreFor, hof, hscore, Option.map_some]
  · have hof : callOf d c call = none := if_neg hfor
    have hkey : key d c ≠ key call.detector call.comm := by
      intro heq
      obtain ⟨hdet, hcomm⟩ := (key_inj hd hcall).mp heq
      exact hfor ⟨hdet.symm, hcomm.symm⟩
    refine Or.inl ⟨hof, ?_, hconfig, hstarted, pair_miss hroom hkey⟩
    rw [scoreFor, hof, Option.map_none]

/-- **Projection to one pair**: below the cap the shared baseline is, for every pair, the
machine of that pair over its own calls. -/
lemma scores_eq_solo {d : Text} (hd : '|' ∉ d) (c : Text) {b : Baseline F} {cs : List Call}
    (hdetectors : ∀ call ∈ cs, '|' ∉ call.detector) (hroom : machine.Along BelowCap b cs) :
    (machine.after b cs).pair (key d c)
        = (solo b.config b.started).after (b.pair (key d c)) (cs.filterMap (callOf d c)) ∧
      (machine.trace b cs).filterMap (scoreFor d c)
        = (solo b.config b.started).outs (b.pair (key d c)) (cs.filterMap (callOf d c)) := by
  have hstart : Projects b.config b.started (key d c) b (b.pair (key d c)) := ⟨rfl, rfl, rfl⟩
  have hrun := machine.projection (N := solo b.config b.started) (g := scoreFor d c)
    (fun _ _ _ h hP => projects_step hd h hP.1 hP.2) hstart
    (Machine.Along.and _ (machine.along_of_forall b hdetectors) hroom)
  exact ⟨hrun.1.pair, hrun.2⟩

/-- **Isolation**: two runs from a fresh baseline that stay below the cap and contain
the same calls, at the same times, for the pair `(d, c)` end with the same statistics of
it and have scored its calls alike, whatever they contain for other pairs. -/
theorem pairs_isolated (config : BaselineConfig F) (started : DateTime) {d : Text}
    (hd : '|' ∉ d) (c : Text) {cs cs' : List Call}
    (hdetectors : ∀ call ∈ cs ++ cs', '|' ∉ call.detector)
    (hroom : machine.Along BelowCap (new config started) cs)
    (hroom' : machine.Along BelowCap (new config started) cs')
    (hsame : cs.filterMap (callOf d c) = cs'.filterMap (callOf d c)) :
    (machine.after (new config started) cs).pairs.get (key d c)
        = (machine.after (new config started) cs').pairs.get (key d c) ∧
      (machine.trace (new config started) cs).filterMap (scoreFor d c)
        = (machine.trace (new config started) cs').filterMap (scoreFor d c) := by
  have hone := scores_eq_solo hd c (fun call hcall => hdetectors call
    (List.mem_append_left cs' hcall)) hroom
  have htwo := scores_eq_solo hd c (fun call hcall => hdetectors call
    (List.mem_append_right cs hcall)) hroom'
  rw [hsame, ← htwo.1, ← htwo.2] at hone
  exact ⟨congrArg Pair.stats hone.1, hone.2⟩

/-- A `comm` that looks like another key, in one of two runs. -/
theorem pairs_isolated_bar :
    let cs : List Call := [⟨10, [], "fim", "cat"⟩, ⟨20, [], "fim", "m|cat"⟩,
      ⟨30, [], "fim", "cat"⟩]
    let cs' : List Call := [⟨10, [], "fim", "cat"⟩, ⟨30, [], "fim", "cat"⟩]
    let b : Baseline ℚ := new .default 0
    (machine.after b cs).pairs.get (key "fim" "cat")
        = (machine.after b cs').pairs.get (key "fim" "cat") ∧
      (machine.trace b cs).filterMap (scoreFor "fim" "cat")
        = (machine.trace b cs').filterMap (scoreFor "fim" "cat") := by
  intro cs cs' b
  exact pairs_isolated .default 0 (by decide) "cat" (by decide) (by decide) (by decide) (by decide)

end Baseline

end Kernelradar
