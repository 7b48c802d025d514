import Kernelradar.Alerts.Bound

/-!
A flood of markers.

* `Hot`: a pair whose learned bucket makes every further event of the minute
  anomalous;
* `hot_call`: a call on a hot pair emits a record, whatever the limiter decides,
  and leaves the pair hot;
* `flood`: so `n` calls at one instant emit at least `n` records;
* `markers_unbounded`: with the default configuration there is no bound.
-/

namespace Kernelradar

open Library

namespace Baseline

variable {F : Type} [F64 F]

/-- Warm-up is over, there is room in the table, and from the count `least` on
every event of the pair in this minute reaches the threshold. -/
structure Hot (b : Baseline F) (k : Text) (now : DateTime) (least : ℕ) : Prop where
  room : b.pairs.len < b.config.pairsMax
  learned : ∃ learning, b.learningUntil = some learning ∧ learning ≤ now
  pair : ∃ st, b.pairs.get k = some st ∧
    b.config.minSamplesForScoring ≤ (st.buckets now.hour).samples ∧
    ∀ n, least ≤ n → n < 2 ^ 64 →
      F64.le b.config.scoreThreshold ((st.buckets now.hour).zScore (F64.ofU64 n)) = true
  minute : ∃ n, b.curMinute.get k = some (curMin now, n) ∧ least ≤ n

/-- An event of a hot pair is anomalous and leaves the pair hot. -/
lemma hot_record {b : Baseline F} {c : Call} {least : ℕ}
    (h : b.Hot (key c.detector c.comm) c.now least) (hleast : least < 2 ^ 64) :
    (∃ z, (b.recordAndScore c).2 = .score (some z)) ∧
      (b.recordAndScore c).1.Hot (key c.detector c.comm) c.now least := by
  obtain ⟨hroom, ⟨learning, hlearn, hpast⟩, ⟨st, hget, hsamples, hscore⟩, ⟨n, hminute, hn⟩⟩ := h
  have hev : b.evict c.now c.order = some b := evict_of_room hroom _ _
  have hobs : observed (curMin c.now, n) (curMin c.now) = none := if_neg fun hne => hne rfl
  have hroll : rollOver (curMin c.now, n) (curMin c.now) = (curMin c.now, satAdd n 1) := by
    simp [rollOver]
  have hrecord : b.record c.now (key c.detector c.comm)
      = { b with
          pairs := b.pairs.insert (key c.detector c.comm) (touch st c.now)
          curMinute := b.curMinute.insert (key c.detector c.comm) (curMin c.now, satAdd n 1) } := by
    simp only [record, hget, hminute, Option.getD_some, hobs, hroll, flush]
  have hstep := recordAndScore_of_evict hev
  have hcount : least ≤ satAdd n 1 ∧ satAdd n 1 < 2 ^ 64 := by unfold satAdd; omega
  have hz := hscore (satAdd n 1) hcount.1 hcount.2
  have hmem : key c.detector c.comm ∈ b.pairs.dom := Table.mem_dom_of_get hget
  rw [hstep, hrecord]
  refine ⟨⟨(st.buckets c.now.hour).zScore (F64.ofU64 (satAdd n 1)), ?_⟩, ?_,
    ⟨learning, hlearn, hpast⟩, ⟨touch st c.now, ?_, hsamples, hscore⟩,
    ⟨satAdd n 1, Table.get_insert_self _ _ _, hcount.1⟩⟩
  · rw [scoreOf, score]
    simp only [Table.get_insert_self, Option.getD_some]
    have hlearn' : learningUntil { b with
        pairs := b.pairs.insert (key c.detector c.comm) (touch st c.now)
        curMinute := b.curMinute.insert (key c.detector c.comm) (curMin c.now, satAdd n 1) }
        = some learning := hlearn
    rw [hlearn']
    dsimp only
    rw [if_neg (not_lt.mpr hpast)]
    have hfew : ¬((touch st c.now).buckets c.now.hour).samples < b.config.minSamplesForScoring :=
      not_lt.mpr hsamples
    rw [if_neg hfew]
    have hz' : F64.le b.config.scoreThreshold
      (((touch st c.now).buckets c.now.hour).zScore (F64.ofU64 (satAdd n 1))) = true := hz
    rw [if_pos hz']
    rfl
  · have hlen := Table.len_insert_of_mem (touch st c.now) hmem
    show (b.pairs.insert _ _).len < _
    rw [hlen]
    exact hroom
  · exact Table.get_insert_self _ _ _

end Baseline

namespace Pipeline

variable {F : Type} [F64 F]

/-- A call on a hot pair emits a record, whatever the limiter decides. -/
lemma hot_call {p : Pipeline F} {c : Call} {least : ℕ}
    (h : p.baseline.Hot (Baseline.key c.alert.detector c.alert.comm) c.scored least)
    (hleast : least < 2 ^ 64) :
    0 < (p.printAlert c).2.length ∧
      (p.printAlert c).1.baseline.Hot (Baseline.key c.alert.detector c.alert.comm)
        c.scored least := by
  obtain ⟨⟨z, hz⟩, hhot⟩ := Baseline.hot_record (c := scoring c) h hleast
  have hstep : (p.printAlert c).2
      = records c (some z) (p.limiter.check c.checked (keyOf c.alert) c.alert.severity).2 ∧
      (p.printAlert c).1.baseline = (p.baseline.recordAndScore (scoring c)).1 := by
    rw [printAlert]
    dsimp only
    rw [hz]
    exact ⟨rfl, rfl⟩
  rw [hstep.1, hstep.2]
  refine ⟨?_, hhot⟩
  cases (p.limiter.check c.checked (keyOf c.alert) c.alert.severity).2 <;>
    simp [records, anomalies]

/-- **The flood**: on a hot pair, `n` calls at one instant emit at least `n`
records. -/
theorem flood (alert : Alert) (now : DateTime) (t : Instant) {least : ℕ}
    (hleast : least < 2 ^ 64) : ∀ (n : ℕ) (p : Pipeline F),
    p.baseline.Hot (Baseline.key alert.detector alert.comm) now least →
    ∃ cs : List Call, machine.Valid p cs ∧ (∀ c ∈ cs, c.alert = alert ∧ c.checked.now = t) ∧
      n ≤ (machine.outs p cs).flatten.length := by
  intro n
  induction n with
  | zero => exact fun _ _ => ⟨[], trivial, by simp, Nat.zero_le _⟩
  | succ n ih =>
      intro p h
      obtain ⟨order, horder⟩ := p.limiter.state.exists_enumerates
      obtain ⟨hone, hhot⟩ := hot_call (c := ⟨alert, now, [], ⟨t, t, order⟩, now, now⟩) h hleast
      obtain ⟨cs, hvalid, hsame, hlen⟩ := ih _ hhot
      refine ⟨⟨alert, now, [], ⟨t, t, order⟩, now, now⟩ :: cs, ⟨⟨?_, horder, le_refl t⟩, hvalid⟩,
        ?_, ?_⟩
      · exact Baseline.admissible_of_room h.room _
      · intro c hc
        rcases List.mem_cons.mp hc with rfl | hc'
        · exact ⟨rfl, rfl⟩
        · exact hsame c hc'
      · rw [Machine.outs, Machine.trace_cons, List.map_cons, List.flatten_cons, List.length_append]
        exact (Nat.add_comm n 1).le.trans (Nat.add_le_add hone hlen)

open Bootstrap

/-- A pair that was learned to fire once a minute at every hour, and has fired
ten times in the first minute of the third day. -/
def learnedOnce (k : Text) : Baseline ℚ where
  version := 1
  started := 0
  config := BaselineConfig.default
  pairs := Table.empty.insert k ⟨fun _ => ⟨1, 1, 24⟩, 2890, some 0, some (172800 * DateTime.nanos)⟩
  curMinute := Table.empty.insert k (2880, 10)

/-- With the defaults such a pair is hot. -/
lemma learnedOnce_hot (k : Text) : (learnedOnce k).Hot k (172800 * DateTime.nanos) 10 where
  room := by
    have hlen : (learnedOnce k).pairs.len = 1 :=
      Table.len_insert_of_notMem _ (Finset.notMem_empty k)
    rw [hlen]
    exact (by decide : 1 < 10000)
  learned := by
    have huntil : (Baseline.new (BaselineConfig.default : BaselineConfig ℚ) 0).learningUntil
        = some (86400 * DateTime.nanos) := by decide
    exact ⟨86400 * DateTime.nanos, huntil, by decide⟩
  pair := by
    refine ⟨_, Table.get_insert_self _ _ _, le_refl 24, fun n hn _ => ?_⟩
    have hvar : (⟨1, 1, 24⟩ : HourBucket ℚ).stddev = 1 / 2 := by
      have hsqrt : F64.ratSqrt 0 = 0 := by simp [F64.ratSqrt]
      simp [HourBucket.stddev, HourBucket.var, hsqrt]
    have hcast : (10 : ℚ) ≤ n := by exact_mod_cast hn
    have hz : (3 : ℚ) ≤ (⟨1, 1, 24⟩ : HourBucket ℚ).zScore (F64.ofU64 n) := by
      rw [HourBucket.zScore, hvar, HourBucket.mean, F64.ofU64_rat]
      linarith
    exact decide_eq_true hz
  minute := by
    have hmin : Baseline.curMin (172800 * DateTime.nanos) = 2880 := by decide
    rw [hmin]
    exact ⟨10, Table.get_insert_self _ _ _, le_refl 10⟩

/-- With the default configuration no bound holds: every event of a hot pair is
handed to `emit`, as an alert or as an `ANOMALY` marker. -/
theorem markers_unbounded :
    ¬ ∀ (re : RegexCrate) (cfg : Config ℚ), cfg.validate re = [] → ∀ T : Duration, ∃ bound : ℕ,
      ∀ (p : Pipeline ℚ) (k : Key) (t₀ : Instant) (cs : List Call),
        p.limiter = RateLimiter.new (rateLimitConfig cfg.ratelimit) →
        p.baseline.config = baselineConfig cfg.baseline → machine.Valid p cs →
        (∀ c ∈ cs, keyOf c.alert = k) →
        (∀ c ∈ cs, t₀ ≤ c.checked.now ∧ c.checked.now ≤ t₀ + T) →
        (machine.outs p cs).flatten.length ≤ bound := by
  intro h
  let alert : Alert := ⟨1, "1", 0, .critical, "fim", 1, "write open", [], 7, 0, "cat", .null⟩
  let p : Pipeline ℚ := ⟨learnedOnce (Baseline.key alert.detector alert.comm),
    RateLimiter.new (rateLimitConfig ({} : Config ℚ).ratelimit), Counters.empty⟩
  obtain ⟨bound, hbound⟩ := h ⟨fun _ => true, fun _ => true, fun _ _ => false⟩ {}
    (Config.validate_default _) 0
  obtain ⟨cs, hvalid, hsame, hlen⟩ := flood alert (172800 * DateTime.nanos) 0 (by decide)
    (bound + 1) p (learnedOnce_hot _)
  have hle := hbound p (keyOf alert) 0 cs rfl rfl hvalid (fun c hc => by rw [(hsame c hc).1])
    (fun c hc => by rw [(hsame c hc).2]; exact ⟨le_refl _, le_refl _⟩)
  omega

end Pipeline

end Kernelradar
