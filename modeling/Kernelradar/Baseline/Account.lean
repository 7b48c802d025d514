import Kernelradar.Baseline.History

/-!
Where every event of a pair is counted.

`posting` runs the baseline next to the observations every pair has made since it
was last created, each with the minute it counts and the bucket it went to.

* `Post`, `Posted`, `posting`; `posting_logged`: the log of `History` is what the
  posts say;
* `hourOfMinute`: the hour of the day of a minute; `prevHour_eq`, `hour_eq`:
  training and scoring use the bucket of that hour;
* `Balanced`: a pair's total is what its posts count and what the minute in
  progress counts, kept by every call (`balanced_step`);
* `counted_once`: the run.
-/

namespace Kernelradar

open Library

namespace DateTime

/-- The hour of the day of a minute since the epoch. -/
def hourOfMinute (minute : ℤ) : ℤ := minute / 60 % 24

end DateTime

namespace Baseline

variable {F : Type} [F64 F]

/-- An observation: the minute whose events it counts, the bucket it went to, and
the count. -/
structure Post where
  minute : ℤ
  hour : Fin 24
  count : ℕ
  deriving DecidableEq

/-- The observation of a roll-over, with its minute. -/
def postOf (entry : ℤ × ℕ) (minute : ℤ) : Option Post :=
  (observed entry minute).map fun o => ⟨entry.1, o.1, o.2⟩

/-- A baseline with the observations of every pair. -/
structure Posted (F : Type) where
  base : Baseline F
  posts : Text → List Post

/-- One call: the posts of an evicted pair are gone, the observation of the call is
added to those of its pair. -/
def postedStep (s : Posted F) (c : Call) : Posted F × Outcome F :=
  match s.base.evict c.now c.order with
  | none => (s, .panicked)
  | some b =>
      (⟨(s.base.recordAndScore c).1, fun k =>
        (if k ∈ b.pairs.dom then s.posts k else []) ++
          if k = key c.detector c.comm then
            (postOf ((b.curMinute.get k).getD (curMin c.now, 0)) (curMin c.now)).toList
          else []⟩, (s.base.recordAndScore c).2)

/-- The baseline with its posts as a machine. -/
def posting : Machine (Posted F) Call (Outcome F) :=
  ⟨postedStep, fun s c => s.base.Admissible c⟩

@[simp] lemma posting_step (s : Posted F) (c : Call) : posting.step s c = postedStep s c := rfl

/-- What a bucket was fed, by the posts. -/
def fed (posts : List Post) (h : Fin 24) : List ℕ :=
  (posts.filter fun p => p.hour = h).map Post.count

/-- The log of every bucket, by the posts. -/
def Posted.logged (s : Posted F) : Logged F := ⟨s.base, fun k => fed (s.posts k)⟩

lemma fed_append (ps qs : List Post) (h : Fin 24) : fed (ps ++ qs) h = fed ps h ++ fed qs h := by
  rw [fed, List.filter_append, List.map_append, fed, fed]

/-- A post feeds its bucket with what is noted. -/
lemma fed_postOf (entry : ℤ × ℕ) (minute : ℤ) (h : Fin 24) :
    fed (postOf entry minute).toList h = noted (observed entry minute) h := by
  rw [postOf]
  cases observed entry minute with
  | none => rfl
  | some o =>
      show fed [⟨entry.1, o.1, o.2⟩] h = if o.1 = h then [o.2] else []
      rw [fed, List.filter_singleton]
      by_cases ho : o.1 = h
      · simp [ho]
      · simp [ho]

/-- The log of `History` is what the posts say. -/
lemma posting_logged (s : Posted F) (c : Call) :
    (postedStep s c).1.logged = (loggedStep s.logged c).1 := by
  rw [postedStep, loggedStep]
  have hbase : s.logged.base = s.base := rfl
  rw [hbase]
  cases s.base.evict c.now c.order with
  | none => rfl
  | some b =>
      refine congrArg (Logged.mk _) (funext fun k => funext fun h => ?_)
      dsimp only
      rw [fed_append]
      congr 1
      · split_ifs <;> rfl
      · split_ifs with hk
        · rw [fed_postOf, hk, observation]
        · rfl

lemma logged_after (cs : List Call) :
    ∀ s : Posted F, (posting.after s cs).logged = logged.after s.logged cs := by
  induction cs with
  | nil => exact fun _ => rfl
  | cons c cs ih =>
      intro s
      rw [Machine.after_cons, Machine.after_cons, ih, posting_step, logged_step, posting_logged]

/-! ### Minutes and hours -/

/-- Training uses the bucket of the minute's hour. -/
lemma prevHour_eq {minute : ℤ} (h : 0 ≤ minute) :
    ((prevHour minute : ℕ) : ℤ) = DateTime.hourOfMinute minute := by
  rw [prevHour, DateTime.hourOfMinute]
  dsimp only
  rw [Int.tmod_eq_emod_of_nonneg h, Int.tdiv_eq_ediv_of_nonneg (Int.emod_nonneg _ (by decide))]
  have hsmall : minute % (24 * 60) / 60 % 2 ^ 64 = minute % (24 * 60) / 60 := by
    refine Int.emod_eq_of_lt (Int.ediv_nonneg (Int.emod_nonneg _ (by decide)) (by decide)) ?_
    omega
  rw [hsmall]
  omega

/-- So does scoring, at every instant of the minute. -/
lemma hour_eq {now : DateTime} (h : 0 ≤ now) :
    ((now.hour : ℕ) : ℤ) = DateTime.hourOfMinute (curMin now) := by
  have hstamp : 0 ≤ now.timestamp := Int.ediv_nonneg h (by decide)
  rw [DateTime.hour, curMin, DateTime.hourOfMinute, Int.tdiv_eq_ediv_of_nonneg hstamp]
  dsimp only
  omega

lemma curMin_nonneg {now : DateTime} (h : 0 ≤ now) : 0 ≤ curMin now :=
  Int.tdiv_nonneg (Int.ediv_nonneg h (by decide)) (by decide)

/-! ### The balance of a pair -/

/-- What the posts count. -/
def posted (posts : List Post) : ℕ := (posts.map Post.count).sum

lemma posted_append (ps qs : List Post) : posted (ps ++ qs) = posted ps + posted qs := by
  rw [posted, List.map_append, List.sum_append, posted, posted]

/-- A post is in its bucket: the one of the hour of its minute. -/
def Post.Placed (p : Post) : Prop := 0 ≤ p.minute ∧ p.hour = prevHour p.minute

/-- The balance of one pair after `n` calls. -/
structure PairBalanced (n : ℕ) (p : PairStats F) (entry : ℤ × ℕ) (posts : List Post) :
    Prop where
  total : p.total = posted posts + entry.2
  bound : p.total ≤ n
  minute : 0 ≤ entry.1
  placed : ∀ q ∈ posts, q.Placed

/-- Every pair is balanced, and has a minute in progress. -/
def Balanced (n : ℕ) (s : Posted F) : Prop :=
  ∀ k p, s.base.pairs.get k = some p →
    ∃ entry, s.base.curMinute.get k = some entry ∧ PairBalanced n p entry (s.posts k)

/-- A roll-over posts what it takes off the minute in progress, and counts one. -/
lemma posted_rollOver {entry : ℤ × ℕ} {minute : ℤ} (h : entry.2 + 1 < 2 ^ 64) :
    posted (postOf entry minute).toList + (rollOver entry minute).2 = entry.2 + 1 := by
  have hsat : ∀ n, n ≤ entry.2 → satAdd n 1 = n + 1 := by
    intro n hn
    rw [satAdd]
    omega
  rw [postOf, observed, rollOver]
  by_cases hm : entry.1 ≠ minute
  · rw [if_pos hm, if_pos hm, hsat 0 (Nat.zero_le _)]
    rfl
  · rw [if_neg hm, if_neg hm, hsat _ le_rfl]
    exact Nat.zero_add _

/-- The post of a roll-over is in its bucket. -/
lemma placed_postOf {entry : ℤ × ℕ} {minute : ℤ} (h : 0 ≤ entry.1) :
    ∀ q ∈ (postOf entry minute).toList, q.Placed := by
  intro q hq
  rw [postOf, observed] at hq
  split_ifs at hq
  · rw [List.mem_singleton.mp hq]
    exact ⟨h, rfl⟩
  · cases hq

/-- A call for a balanced pair. -/
lemma PairBalanced.hit {n : ℕ} {p : PairStats F} {entry : ℤ × ℕ} {posts : List Post}
    (h : PairBalanced n p entry posts) (hn : n + 1 < 2 ^ 64) {now : DateTime} (hnow : 0 ≤ now)
    (alpha : F) : PairBalanced (n + 1) (flush (touch p now) alpha (observed entry (curMin now)))
      (rollOver entry (curMin now)) (posts ++ (postOf entry (curMin now)).toList) := by
  have htotal : (flush (touch p now) alpha (observed entry (curMin now))).total = p.total + 1 := by
    have hflush : ∀ o, (flush (touch p now) alpha o).total = satAdd p.total 1 := by
      intro o
      cases o <;> rfl
    have hbound := h.bound
    rw [hflush, satAdd]
    omega
  have hentry : entry.2 + 1 < 2 ^ 64 := by
    have hle := h.total
    have hbound := h.bound
    omega
  refine ⟨?_, ?_, ?_, fun q hq => ?_⟩
  · calc (flush (touch p now) alpha (observed entry (curMin now))).total
        = posted posts + (entry.2 + 1) := by rw [htotal, h.total, Nat.add_assoc]
      _ = posted posts + (posted (postOf entry (curMin now)).toList
            + (rollOver entry (curMin now)).2) := by rw [posted_rollOver hentry]
      _ = _ := by rw [posted_append, Nat.add_assoc]
  · rw [htotal]
    exact Nat.succ_le_succ h.bound
  · rw [rollOver]
    dsimp only
    split_ifs
    · exact curMin_nonneg hnow
    · exact h.minute
  · rcases List.mem_append.mp hq with hold | hnew
    · exact h.placed q hold
    · exact placed_postOf h.minute q hnew

/-- A pair that is not there yet is balanced as one without events. -/
lemma pairBalanced_empty (n : ℕ) {minute : ℤ} (h : 0 ≤ minute) :
    PairBalanced n (PairStats.empty : PairStats F) (minute, 0) [] :=
  ⟨rfl, Nat.zero_le n, h, fun _ hq => absurd hq List.not_mem_nil⟩

/-- One call keeps the balance. -/
lemma balanced_step {n : ℕ} {s : Posted F} (hs : Balanced n s) (hcovered : s.base.Covered)
    (hn : n + 1 < 2 ^ 64) {c : Call} (hnow : 0 ≤ c.now) : Balanced (n + 1) (postedStep s c).1 := by
  rw [postedStep]
  cases hev : s.base.evict c.now c.order with
  | none =>
      intro k p hp
      obtain ⟨entry, hentry, h⟩ := hs k p hp
      exact ⟨entry, hentry, h.total, h.bound.trans (Nat.le_succ n), h.minute, h.placed⟩
  | some b =>
      have hbase : (s.base.recordAndScore c).1 = b.record c.now (key c.detector c.comm) :=
        congrArg Prod.fst (recordAndScore_of_evict hev)
      -- what eviction keeps is balanced, what it drops is gone with its minute
      have hkept : ∀ k, k ∈ b.pairs.dom → ∀ p, b.pairs.get k = some p →
          ∃ entry, b.curMinute.get k = some entry ∧ PairBalanced n p entry (s.posts k) := by
        intro k hk p hp
        obtain ⟨entry, hentry, h⟩ := hs k p ((pairs_evict hev hk).symm.trans hp)
        refine ⟨entry, ?_, h⟩
        rw [curMinute_evict hcovered hev, if_pos hk, hentry]
      intro k p hp
      dsimp only at hp ⊢
      rw [hbase] at hp ⊢
      by_cases hk : k = key c.detector c.comm
      · subst hk
        obtain rfl := Option.some.inj ((pairs_record_self _ _ _).symm.trans hp)
        refine ⟨_, curMinute_record_self _ _ _, ?_⟩
        rw [if_pos rfl]
        by_cases hin : key c.detector c.comm ∈ b.pairs.dom
        · obtain ⟨old, hold⟩ := Table.exists_get_of_mem hin
          obtain ⟨entry, hentry, h⟩ := hkept _ hin old hold
          rw [if_pos hin, hold, hentry]
          exact h.hit hn hnow b.config.alpha
        · have hnone : b.curMinute.get (key c.detector c.comm) = none := by
            rw [curMinute_evict hcovered hev, if_neg hin]
          rw [if_neg hin, Table.get_eq_none.mpr hin, hnone]
          exact (pairBalanced_empty n (curMin_nonneg hnow)).hit hn hnow b.config.alpha
      · have hold : b.pairs.get k = some p := (pairs_record_of_ne _ _ hk).symm.trans hp
        have hin : k ∈ b.pairs.dom := Table.mem_dom_of_get hold
        obtain ⟨entry, hentry, h⟩ := hkept k hin p hold
        refine ⟨entry, (curMinute_record_of_ne _ _ hk).trans hentry, ?_⟩
        rw [if_pos hin, if_neg hk, List.append_nil]
        exact ⟨h.total, h.bound.trans (Nat.le_succ n), h.minute, h.placed⟩

lemma postedStep_base (s : Posted F) (c : Call) :
    (postedStep s c).1.base = (s.base.recordAndScore c).1 := by
  rw [postedStep, recordAndScore]
  cases s.base.evict c.now c.order <;> rfl

/-- A run of fewer than `2 ^ 64` calls keeps the balance. -/
lemma balanced_after : ∀ {cs : List Call} {n : ℕ} {s : Posted F}, Balanced n s →
    s.base.Covered → n + cs.length < 2 ^ 64 → (∀ c ∈ cs, 0 ≤ c.now) →
    Balanced (n + cs.length) (posting.after s cs) := by
  intro cs
  induction cs with
  | nil => exact fun hs _ _ _ => hs
  | cons c cs ih =>
      intro n s hs hcovered hlen hnow
      rw [List.length_cons] at hlen ⊢
      have hstep := balanced_step hs hcovered (by omega) (hnow c List.mem_cons_self)
      have hnext : (postedStep s c).1.base.Covered := by
        rw [postedStep_base]
        exact covered_step hcovered c
      have hrest := ih hstep hnext (by omega) fun c' hc' => hnow c' (List.mem_cons_of_mem c hc')
      rw [Machine.after_cons, posting_step, Nat.add_comm cs.length 1, ← Nat.add_assoc]
      exact hrest

/-- Nothing has been counted. -/
def Untouched (b : Baseline F) : Prop := b.pairs = Table.empty ∧ b.curMinute = Table.empty

omit [F64 F] in
lemma untouched_new (config : BaselineConfig F) (now : DateTime) : Untouched (new config now) :=
  ⟨rfl, rfl⟩

omit [F64 F] in
lemma untouched_reset (b : Baseline F) (now : DateTime) : Untouched (b.reset now) := ⟨rfl, rfl⟩

/-- **Every event once, in the right hour.** After fewer than `2 ^ 64` calls on a
fresh or reset baseline, at any times since the epoch and with any evictions, for
every pair in the table: its total is what it observed since it was last created,
and the count of the minute in progress; every bucket is the replay of what was
observed for it; and every count of a minute went to the bucket of that minute's
hour of the day, the one events of the minute are scored with. -/
theorem counted_once (b : Baseline F) (hb : (∃ config started, b = new config started) ∨
      ∃ (before : Baseline F) (now : DateTime), b = before.reset now)
    (cs : List Call) (hlen : cs.length < 2 ^ 64) (hnow : ∀ c ∈ cs, 0 ≤ c.now) :
    let s := posting.after ⟨b, fun _ => []⟩ cs
    s.base = machine.after b cs ∧
    ∀ k p, s.base.pairs.get k = some p →
      (∃ entry, s.base.curMinute.get k = some entry ∧ p.total = posted (s.posts k) + entry.2) ∧
      (∀ h, p.buckets h = replay b.config.alpha (fed (s.posts k) h)) ∧
      ∀ q ∈ s.posts k, ((q.hour : ℕ) : ℤ) = DateTime.hourOfMinute q.minute ∧
        ∀ now : DateTime, 0 ≤ now → curMin now = q.minute → now.hour = q.hour := by
  intro s
  obtain ⟨huntouched, hcovered⟩ : Untouched b ∧ b.Covered := by
    rcases hb with ⟨config, started, rfl⟩ | ⟨before, now, rfl⟩
    · exact ⟨untouched_new config started, covered_new config started⟩
    · exact ⟨untouched_reset before now, covered_reset before now⟩
  have hlogged : s.logged = logged.after ⟨b, fun _ => fed []⟩ cs := logged_after cs _
  have hbase : s.base = machine.after b cs := by
    rw [← logged_base cs ⟨b, fun _ => fed []⟩, ← hlogged]
    rfl
  have hbalanced : Balanced (0 + cs.length) s := by
    refine balanced_after (fun k p hp => ?_) hcovered (by omega) hnow
    rw [huntouched.1] at hp
    cases hp
  have hreplays : Replays s.logged := by
    rw [hlogged]
    refine replays_after cs fun k => ⟨fun _ => rfl, fun p hp => ?_⟩
    rw [huntouched.1] at hp
    cases hp
  have hconfig : s.base.config = b.config := by
    have hrun := logged_config cs ⟨b, fun _ => fed []⟩
    rw [← hlogged] at hrun
    exact hrun
  refine ⟨hbase, fun k p hp => ?_⟩
  obtain ⟨entry, hentry, h⟩ := hbalanced k p hp
  refine ⟨⟨entry, hentry, h.total⟩, fun i => ?_, fun q hq => ?_⟩
  · rw [← hconfig]
    exact (hreplays k).2 p hp i
  · obtain ⟨hminute, hhour⟩ := h.placed q hq
    refine ⟨hhour ▸ prevHour_eq hminute, fun now hepoch hmin => ?_⟩
    have hscored := hour_eq hepoch
    rw [hmin, ← prevHour_eq hminute, ← hhour] at hscored
    exact Fin.ext (Int.ofNat_inj.mp hscored)

/-- Three events of one pair, in the minutes 0, 60 and 0 again. -/
theorem counted_once_three :
    let b : Baseline ℚ := new .default 0
    let cs : List Call := [⟨10 * DateTime.nanos, [], "fim", "cat"⟩,
      ⟨3600 * DateTime.nanos, [], "fim", "cat"⟩, ⟨20 * DateTime.nanos, [], "fim", "cat"⟩]
    let s := posting.after ⟨b, fun _ => []⟩ cs
    s.base = machine.after b cs ∧
    ∀ k p, s.base.pairs.get k = some p →
      (∃ entry, s.base.curMinute.get k = some entry ∧ p.total = posted (s.posts k) + entry.2) ∧
      (∀ h, p.buckets h = replay b.config.alpha (fed (s.posts k) h)) ∧
      ∀ q ∈ s.posts k, ((q.hour : ℕ) : ℤ) = DateTime.hourOfMinute q.minute ∧
        ∀ now : DateTime, 0 ≤ now → curMin now = q.minute → now.hour = q.hour := by
  intro b cs
  exact counted_once b (Or.inl ⟨.default, 0, rfl⟩) cs (by decide) (by decide)

end Baseline

end Kernelradar
