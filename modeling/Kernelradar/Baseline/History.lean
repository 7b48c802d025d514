import Kernelradar.Detectors.Baseline

/-!
The history behind the buckets.

A bucket keeps averages, not the observations it was fed. `logged` runs the
baseline next to the list of observations every bucket has received since its
pair was last created.

* `logged_base`: the log does not disturb the run;
* `replays_step`, `replays_after`: every bucket is the replay of its log;
* `covered_after`: only tracked pairs have a current minute;
* `View`, `view_step`: what one call does to one pair, given whether eviction
  kept the pair and whether the call is for it.
-/

namespace Kernelradar

open Library

namespace Baseline

variable {F : Type} [F64 F]

/-- What an observation adds to the log of a bucket. -/
def noted (o : Option (Fin 24 × ℕ)) (h : Fin 24) : List ℕ :=
  match o with
  | none => []
  | some (h', n) => if h' = h then [n] else []

/-- The bucket a log of observations builds. -/
def replay (alpha : F) (log : List ℕ) : HourBucket F :=
  log.foldl (fun b n => b.observe n alpha) HourBucket.empty

/-- A baseline with the log of every bucket. -/
structure Logged (F : Type) where
  base : Baseline F
  log : Text → Fin 24 → List ℕ

/-- The observation a call makes for its own pair, once eviction is done. -/
def observation (b : Baseline F) (c : Call) : Option (Fin 24 × ℕ) :=
  observed ((b.curMinute.get (key c.detector c.comm)).getD (curMin c.now, 0)) (curMin c.now)

/-- One call: the log of an evicted pair is gone, the observation of the call is
added to the log of its bucket. -/
def loggedStep (s : Logged F) (c : Call) : Logged F × Outcome F :=
  match s.base.evict c.now c.order with
  | none => (s, .panicked)
  | some b =>
      (⟨(s.base.recordAndScore c).1, fun k h =>
        (if k ∈ b.pairs.dom then s.log k h else []) ++
          if k = key c.detector c.comm then noted (b.observation c) h else []⟩,
        (s.base.recordAndScore c).2)

/-- The baseline with its log as a machine. -/
def logged : Machine (Logged F) Call (Outcome F) :=
  ⟨loggedStep, fun s c => s.base.Admissible c⟩

@[simp] lemma logged_step (s : Logged F) (c : Call) : logged.step s c = loggedStep s c := rfl

/-- A panic leaves the log alone as well. -/
lemma loggedStep_of_panic {s : Logged F} {c : Call} (h : s.base.evict c.now c.order = none) :
    loggedStep s c = (s, .panicked) := by
  rw [loggedStep]
  rw [h]

lemma loggedStep_base (s : Logged F) (c : Call) :
    (loggedStep s c).1.base = (s.base.recordAndScore c).1 := by
  rw [loggedStep, recordAndScore]
  cases s.base.evict c.now c.order <;> rfl

/-- The log does not disturb the run. -/
lemma logged_base (cs : List Call) :
    ∀ s : Logged F, (logged.after s cs).base = machine.after s.base cs := by
  induction cs with
  | nil => intro s; rfl
  | cons c cs ih =>
      intro s
      rw [Machine.after_cons, Machine.after_cons, ih, logged_step, loggedStep_base, machine_step]

lemma record_config (b : Baseline F) (now : DateTime) (k : Text) :
    (b.record now k).config = b.config := rfl

omit [F64 F] in
lemma evict_config {b b' : Baseline F} {now : DateTime} {order : List Text}
    (h : b.evict now order = some b') : b'.config = b.config := by
  rcases evict_cases h with ⟨rfl, -⟩ | ⟨-, cutoff, rfl | rfl⟩ <;> rfl

omit [F64 F] in
lemma evict_started {b b' : Baseline F} {now : DateTime} {order : List Text}
    (h : b.evict now order = some b') : b'.started = b.started := by
  rcases evict_cases h with ⟨rfl, -⟩ | ⟨-, cutoff, rfl | rfl⟩ <;> rfl

omit [F64 F] in
/-- Eviction leaves the start and the configuration alone. -/
lemma learningUntil_evict {b b' : Baseline F} {now : DateTime} {order : List Text}
    (h : b.evict now order = some b') : b'.learningUntil = b.learningUntil := by
  rw [learningUntil, learningUntil, evict_config h, evict_started h]

@[simp] lemma recordAndScore_config (b : Baseline F) (c : Call) :
    (b.recordAndScore c).1.config = b.config := by
  rcases b.recordAndScore_cases c with ⟨-, h⟩ | ⟨b', hev, h⟩
  · rw [h]
  · rw [h, record_config, evict_config hev]

@[simp] lemma recordAndScore_started (b : Baseline F) (c : Call) :
    (b.recordAndScore c).1.started = b.started := by
  rcases b.recordAndScore_cases c with ⟨-, h⟩ | ⟨b', hev, h⟩
  · rw [h]
  · rw [h, ← evict_started hev]
    rfl

lemma logged_config (cs : List Call) :
    ∀ s : Logged F, (logged.after s cs).base.config = s.base.config := by
  induction cs with
  | nil => intro s; rfl
  | cons c cs ih =>
      intro s
      rw [Machine.after_cons, ih, logged_step, loggedStep_base, recordAndScore_config]

/-! ### Eviction, pair by pair -/

/-- Only tracked pairs have a current minute. -/
def Covered (b : Baseline F) : Prop := b.curMinute.dom ⊆ b.pairs.dom

omit [F64 F] in
/-- There are no more minutes than pairs. -/
lemma Covered.len_le {b : Baseline F} (h : b.Covered) : b.curMinute.len ≤ b.pairs.len :=
  Finset.card_le_card h

omit [F64 F] in
lemma covered_new (config : BaselineConfig F) (now : DateTime) : (new config now).Covered :=
  Finset.empty_subset _

omit [F64 F] in
lemma covered_reset (b : Baseline F) (now : DateTime) : (b.reset now).Covered :=
  Finset.empty_subset _

omit [F64 F] in
/-- No minute is in progress after a load. -/
lemma covered_loadOrDefault (config : BaselineConfig F) (now : DateTime) (file : File F) :
    (loadOrDefault config now file).Covered := by
  cases file <;> exact Finset.empty_subset _

omit [F64 F] in
/-- A pair that survives eviction keeps its statistics. -/
lemma pairs_evict {b b' : Baseline F} {now : DateTime} {order : List Text}
    (h : b.evict now order = some b') {k : Text} (hk : k ∈ b'.pairs.dom) :
    b'.pairs.get k = b.pairs.get k := by
  rcases evict_cases h with ⟨rfl, -⟩ | ⟨-, cutoff, rfl | rfl⟩
  · rfl
  · exact Table.get_retain_of_mem hk
  · have hstale : k ∈ (b.evictStale cutoff).pairs.dom := (Table.mem_dom_eraseAll.mp hk).1
    calc _ = (b.evictStale cutoff).pairs.get k := Table.get_eraseAll_of_mem hk
      _ = b.pairs.get k := Table.get_retain_of_mem hstale

omit [F64 F] in
/-- Eviction keeps the minutes of the pairs it keeps, and no others. -/
lemma curMinute_evict {b b' : Baseline F} {now : DateTime} {order : List Text}
    (hb : b.Covered) (h : b.evict now order = some b') (k : Text) :
    b'.curMinute.get k = if k ∈ b'.pairs.dom then b.curMinute.get k else none := by
  have hstale : ∀ cutoff, (b.evictStale cutoff).curMinute.get k
      = if k ∈ (b.evictStale cutoff).pairs.dom then b.curMinute.get k else none := by
    intro cutoff
    show (b.curMinute.get k).filter (fun _ => (b.evictStale cutoff).pairs.contains k) = _
    by_cases hk : k ∈ (b.evictStale cutoff).pairs.dom
    · rw [if_pos hk, Table.contains_iff.mpr hk]
      cases b.curMinute.get k <;> rfl
    · have hcontains : (b.evictStale cutoff).pairs.contains k = false := by
        simpa [Table.contains] using hk
      rw [if_neg hk, hcontains]
      cases b.curMinute.get k <;> rfl
  rcases evict_cases h with ⟨rfl, -⟩ | ⟨-, cutoff, rfl | rfl⟩
  · by_cases hk : k ∈ b'.pairs.dom
    · rw [if_pos hk]
    · rw [if_neg hk]
      exact Table.get_eq_none.mpr fun hmem => hk (hb hmem)
  · exact hstale cutoff
  · show ((b.evictStale cutoff).curMinute.eraseAll _).get k = _
    rw [Table.get_eraseAll, hstale]
    have hdom : k ∈ ((b.evictStale cutoff).dropOldest order).pairs.dom ↔
        k ∈ (b.evictStale cutoff).pairs.dom ∧
          k ∉ (((b.evictStale cutoff).byAge order).take
            (b.evictStale cutoff).targetDrop).map Prod.fst := Table.mem_dom_eraseAll
    by_cases hin : k ∈ (((b.evictStale cutoff).byAge order).take
        (b.evictStale cutoff).targetDrop).map Prod.fst
    · rw [if_pos hin, if_neg fun hk => (hdom.mp hk).2 hin]
    · rw [if_neg hin]
      by_cases hk : k ∈ (b.evictStale cutoff).pairs.dom
      · rw [if_pos hk, if_pos (hdom.mpr ⟨hk, hin⟩)]
      · rw [if_neg hk, if_neg fun h' => hk (hdom.mp h').1]

omit [F64 F] in
lemma covered_evict {b b' : Baseline F} {now : DateTime} {order : List Text} (hb : b.Covered)
    (h : b.evict now order = some b') : b'.Covered := by
  intro k hk
  obtain ⟨v, hv⟩ := Table.exists_get_of_mem hk
  rw [curMinute_evict hb h] at hv
  by_contra hnot
  rw [if_neg hnot] at hv
  cases hv

lemma covered_step {b : Baseline F} (hb : b.Covered) (c : Call) :
    (b.recordAndScore c).1.Covered := by
  rcases b.recordAndScore_cases c with ⟨-, h⟩ | ⟨b', hev, h⟩
  · rw [h]
    exact hb
  · rw [h]
    exact Finset.insert_subset_insert _ (covered_evict hb hev)

lemma covered_after (cs : List Call) : ∀ {b : Baseline F}, b.Covered →
    (machine.after b cs).Covered := by
  induction cs with
  | nil => intro b hb; exact hb
  | cons c cs ih => intro b hb; exact ih (covered_step hb c)

/-- What the table knows of a pair besides its buckets. -/
def seenOf (p : PairStats F) : ℕ × Option DateTime × Option DateTime :=
  (p.total, p.firstSeen, p.lastSeen)

/-- The two tables agree but for their buckets. -/
def SameSeen (b₁ b₂ : Baseline F) : Prop :=
  ∀ k, (b₁.pairs.get k).map seenOf = (b₂.pairs.get k).map seenOf

omit [F64 F] in
lemma SameSeen.dom_eq {b₁ b₂ : Baseline F} (h : SameSeen b₁ b₂) : b₁.pairs.dom = b₂.pairs.dom := by
  ext k
  rw [Table.mem_dom, Table.mem_dom, ← Option.isSome_map (f := seenOf), h k, Option.isSome_map]

omit [F64 F] in
lemma SameSeen.lastSeen_eq {b₁ b₂ : Baseline F} (h : SameSeen b₁ b₂) (k : Text) :
    (b₁.pairs.get k).map PairStats.lastSeen = (b₂.pairs.get k).map PairStats.lastSeen := by
  have hmap := congrArg (Option.map fun x => x.2.2) (h k)
  rwa [Option.map_map, Option.map_map] at hmap

omit [F64 F] in
/-- The staleness pass looks at the dates only. -/
lemma SameSeen.evictStale {b₁ b₂ : Baseline F} (h : SameSeen b₁ b₂) (cutoff : DateTime) :
    SameSeen (b₁.evictStale cutoff) (b₂.evictStale cutoff) := by
  intro k
  show ((b₁.pairs.get k).filter _).map seenOf = ((b₂.pairs.get k).filter _).map seenOf
  have hk := h k
  cases h₁ : b₁.pairs.get k with
  | none =>
      rw [h₁, Option.map_none] at hk
      rw [Option.map_eq_none_iff.mp hk.symm]
  | some p₁ =>
      rw [h₁, Option.map_some] at hk
      obtain ⟨p₂, h₂, heq⟩ := Option.map_eq_some_iff.mp hk.symm
      have hlast : p₂.lastSeen = p₁.lastSeen := congrArg (fun x => x.2.2) heq
      have htest : (p₂.lastSeen.any fun t => cutoff < t)
          = p₁.lastSeen.any fun t => cutoff < t := by rw [hlast]
      rw [h₂, Option.filter_some, Option.filter_some]
      by_cases ht : (p₁.lastSeen.any fun t => cutoff < t) = true
      · rw [if_pos ht, if_pos (htest.trans ht), Option.map_some, Option.map_some, heq]
      · rw [if_neg ht, if_neg fun h' => ht (htest.symm.trans h')]

omit [F64 F] in
/-- The order of age is one of the dates only. -/
lemma SameSeen.byAge {b₁ b₂ : Baseline F} (h : SameSeen b₁ b₂) (order : List Text) :
    b₁.byAge order = b₂.byAge order := by
  have hpoint : ∀ b : Baseline F, ∀ k, ((b.pairs.get k).map fun p => (k, p)).bind
      (fun e => e.2.lastSeen.map fun t => (e.1, t))
      = ((b.pairs.get k).map PairStats.lastSeen).bind fun o => o.map fun t => (k, t) := by
    intro b k
    cases b.pairs.get k <;> rfl
  have hlist : ∀ b : Baseline F, (b.pairs.entries order).filterMap
      (fun e => e.2.lastSeen.map fun t => (e.1, t))
      = order.filterMap fun k => ((b.pairs.get k).map PairStats.lastSeen).bind fun o =>
          o.map fun t => (k, t) := by
    intro b
    rw [Table.entries, List.filterMap_filterMap]
    exact List.filterMap_congr fun k _ => hpoint b k
  simp only [Baseline.byAge]
  rw [hlist, hlist]
  exact congrArg _ (List.filterMap_congr fun k _ => by rw [h.lastSeen_eq])

omit [F64 F] in
/-- The fall-through looks at the dates only. -/
lemma SameSeen.dropOldest {b₁ b₂ : Baseline F} (h : SameSeen b₁ b₂) (order : List Text) :
    SameSeen (b₁.dropOldest order) (b₂.dropOldest order) := by
  have hdrop : b₁.targetDrop = b₂.targetDrop := by
    simp only [targetDrop, Table.len]
    rw [h.dom_eq]
  intro k
  unfold Baseline.dropOldest
  dsimp only
  rw [Table.get_eraseAll, Table.get_eraseAll, h.byAge, hdrop]
  split_ifs
  · rfl
  · exact h k

omit [F64 F] in
/-- Eviction looks at the dates only. -/
lemma SameSeen.evict {b₁ b₂ : Baseline F} (h : SameSeen b₁ b₂) (hconfig : b₁.config = b₂.config)
    (now : DateTime) (order : List Text) :
    (b₁.evict now order = none ∧ b₂.evict now order = none) ∨
    ∃ b₁' b₂', b₁.evict now order = some b₁' ∧ b₂.evict now order = some b₂' ∧
      SameSeen b₁' b₂' := by
  unfold Baseline.evict Table.len
  rw [h.dom_eq, hconfig]
  by_cases hcap : b₂.config.pairsMax ≤ b₂.pairs.dom.card
  · rw [if_pos hcap, if_pos hcap]
    cases hcut : (DateTime.hours b₂.config.evictAgeHours).bind now.sub with
    | none => exact Or.inl ⟨rfl, rfl⟩
    | some cutoff =>
        refine Or.inr ⟨_, _, rfl, rfl, ?_⟩
        have hstale := h.evictStale cutoff
        dsimp only
        rw [evictStale_config, evictStale_config, hstale.dom_eq, hconfig]
        split_ifs
        · exact hstale.dropOldest order
        · exact hstale
  · rw [if_neg hcap, if_neg hcap]
    exact Or.inr ⟨b₁, b₂, rfl, rfl, h⟩

/-! ### One pair -/

/-- What a logged baseline knows of one pair, besides its buckets. -/
structure View where
  seen : Option (ℕ × Option DateTime × Option DateTime)
  minute : Option (ℤ × ℕ)
  log : Fin 24 → List ℕ

/-- The view of a pair. -/
def Logged.view (s : Logged F) (k : Text) : View :=
  ⟨(s.base.pairs.get k).map seenOf, s.base.curMinute.get k, s.log k⟩

namespace View

/-- An unknown pair. -/
def gone : View := ⟨none, none, fun _ => []⟩

/-- `touch`, seen from outside. -/
def touched (now : DateTime) (o : Option (ℕ × Option DateTime × Option DateTime)) :
    ℕ × Option DateTime × Option DateTime :=
  let x := o.getD (0, none, none)
  (satAdd x.1 1, if x.2.1.isNone then some now else x.2.1, some now)

/-- A call for the pair. -/
def hit (now : DateTime) (v : View) : View where
  seen := some (touched now v.seen)
  minute := some (rollOver (v.minute.getD (curMin now, 0)) (curMin now))
  log h := v.log h ++ noted (observed (v.minute.getD (curMin now, 0)) (curMin now)) h

/-- A call: eviction keeps the pair or not, and the call is for it or not. -/
def step (kept isHit : Bool) (now : DateTime) (v : View) : View :=
  let v := if kept then v else gone
  if isHit then v.hit now else v

end View

/-- One call, seen from one pair. -/
lemma view_step {s : Logged F} (hs : s.base.Covered) {c : Call} {b : Baseline F}
    (hev : s.base.evict c.now c.order = some b) (k : Text) :
    (loggedStep s c).1.view k
      = (s.view k).step (decide (k ∈ b.pairs.dom)) (decide (k = key c.detector c.comm)) c.now := by
  have hbase : (s.base.recordAndScore c).1 = b.record c.now (key c.detector c.comm) :=
    congrArg Prod.fst (recordAndScore_of_evict hev)
  have hminute := fun j => curMinute_evict hs hev j
  have hkept : (if decide (k ∈ b.pairs.dom) then s.view k else View.gone)
      = ⟨(b.pairs.get k).map seenOf, b.curMinute.get k,
          if k ∈ b.pairs.dom then s.log k else fun _ => []⟩ := by
    rw [hminute]
    by_cases hk : k ∈ b.pairs.dom
    · simp only [hk, decide_true, if_true]
      rw [pairs_evict hev hk]
      rfl
    · simp only [hk, decide_false, if_false, Bool.false_eq_true]
      rw [Table.get_eq_none.mpr hk]
      rfl
  rw [loggedStep, View.step]
  rw [hev, hkept]
  by_cases hk : k = key c.detector c.comm
  · subst hk
    simp only [Logged.view, hbase, pairs_record_self, curMinute_record_self, View.hit,
      decide_true, if_true]
    congr 1
    · cases hget : b.pairs.get (key c.detector c.comm) with
      | none =>
          simp only [Option.getD_none, Option.map_some, Option.map_none]
          cases hobs : observed ((b.curMinute.get (key c.detector c.comm)).getD (curMin c.now, 0))
            (curMin c.now) <;> rfl
      | some p =>
          simp only [Option.getD_some, Option.map_some]
          cases hobs : observed ((b.curMinute.get (key c.detector c.comm)).getD (curMin c.now, 0))
            (curMin c.now) <;> rfl
    · funext h
      simp only [observation]
      split_ifs <;> rfl
  · simp only [Logged.view, hbase, hk, decide_false, if_false, Bool.false_eq_true]
    rw [pairs_record_of_ne _ _ hk, curMinute_record_of_ne _ _ hk]
    congr 1
    funext h
    rw [List.append_nil]
    split_ifs <;> rfl

/-! ### Buckets and logs -/

/-- Every bucket is the replay of its log, and an unknown pair has none. -/
def Replays (s : Logged F) : Prop :=
  ∀ k, (s.base.pairs.get k = none → s.log k = fun _ => []) ∧
    ∀ p, s.base.pairs.get k = some p → ∀ h, p.buckets h = replay s.base.config.alpha (s.log k h)

/-- Flushing an observation and noting it are the same. -/
lemma flush_replay {p : PairStats F} {alpha : F} {log : Fin 24 → List ℕ}
    (h : ∀ i, p.buckets i = replay alpha (log i)) (o : Option (Fin 24 × ℕ)) (i : Fin 24) :
    (flush p alpha o).buckets i = replay alpha (log i ++ noted o i) := by
  cases o with
  | none => simpa [flush, noted] using h i
  | some x =>
      obtain ⟨j, n⟩ := x
      by_cases hij : i = j
      · subst hij
        simp only [flush, noted, Function.update_self, if_true, h, replay, List.foldl_append]
        rfl
      · simp only [flush, noted, Function.update_of_ne hij, if_neg (Ne.symm hij), List.append_nil]
        exact h i

lemma replays_step {s : Logged F} (hs : Replays s) (c : Call) : Replays (loggedStep s c).1 := by
  rw [loggedStep]
  cases hev : s.base.evict c.now c.order with
  | none => exact hs
  | some b =>
      have hbase : (s.base.recordAndScore c).1 = b.record c.now (key c.detector c.comm) :=
        congrArg Prod.fst (recordAndScore_of_evict hev)
      have halpha : b.config.alpha = s.base.config.alpha := by rw [evict_config hev]
      -- the log left by eviction describes the table left by eviction
      have hkept : ∀ k i, ((b.pairs.get k).getD PairStats.empty).buckets i
          = replay b.config.alpha ((if k ∈ b.pairs.dom then s.log k else fun _ => []) i) := by
        intro k i
        by_cases hk : k ∈ b.pairs.dom
        · obtain ⟨p, hp⟩ := Table.exists_get_of_mem hk
          rw [hp, if_pos hk, halpha]
          exact (hs k).2 p ((pairs_evict hev hk).symm.trans hp) i
        · rw [Table.get_eq_none.mpr hk, if_neg hk]
          rfl
      intro k
      dsimp only
      rw [hbase, record_config]
      by_cases hk : k = key c.detector c.comm
      · subst hk
        rw [pairs_record_self]
        refine ⟨nofun, fun p hp i => ?_⟩
        obtain rfl := Option.some.inj hp
        have hflush := flush_replay (p := touch ((b.pairs.get (key c.detector c.comm)).getD
          PairStats.empty) c.now) (hkept (key c.detector c.comm)) (b.observation c) i
        rw [if_pos rfl]
        refine hflush.trans ?_
        congr 2
        split_ifs <;> rfl
      · rw [pairs_record_of_ne _ _ hk]
        simp only [if_neg hk, List.append_nil]
        refine ⟨fun hnone => ?_, fun p hp i => ?_⟩
        · funext i
          rw [if_neg (Table.get_eq_none.mp hnone)]
        · have hi := hkept k i
          rw [hp] at hi
          refine hi.trans ?_
          congr 1
          split_ifs <;> rfl

lemma replays_after (cs : List Call) : ∀ {s : Logged F}, Replays s →
    Replays (logged.after s cs) := by
  induction cs with
  | nil => intro s hs; exact hs
  | cons c cs ih => intro s hs; exact ih (replays_step hs c)

end Baseline

end Kernelradar
