import Mathlib.Data.List.Sort
import Kernelradar.Core.F64
import Kernelradar.Library.Table
import Kernelradar.Library.Machine

/-!
`baseline.rs`: the adaptive baseline.

`DateTime<Utc>` is nanoseconds since the epoch in `ℤ`, with the range checks of
`chrono` where the source adds or subtracts; a failed check is a panic. Clock
readings and the order of the `HashMap` iterator come with each call.

* `HourBucket`, `PairStats`, `Baseline`;
* `evict`, `touch`, `rollOver`, `score`: the sections of `record_and_score`,
  and `recordAndScore`, which runs them in order;
* `save`, `loadOrDefault`: what goes through the file, without `cur_minute`;
* `machine`: the calls as a machine.
-/

namespace Kernelradar

open Library

/-- `chrono::DateTime<Utc>`, nanoseconds since the epoch. -/
abbrev DateTime := ℤ

namespace DateTime

/-- Nanoseconds in a second. -/
def nanos : ℤ := 10 ^ 9

/-- `timestamp`: whole seconds since the epoch. -/
def timestamp (t : DateTime) : ℤ := t / nanos

/-- `hour`: the hour of the day. -/
def hour (t : DateTime) : Fin 24 :=
  ⟨(t.timestamp % 86400 / 3600).toNat, by
    have hlt : t.timestamp % 86400 < 86400 := Int.emod_lt_of_pos _ (by decide)
    omega⟩

/-- The dates `chrono` can hold: the years -262143 to 262142. -/
def inRange (t : DateTime) : Bool :=
  -8334601228800 * nanos ≤ t ∧ t < 8210266876800 * nanos

/-- `chrono::Duration::seconds`, which panics beyond `i64::MAX` milliseconds. -/
def seconds (s : ℤ) : Option ℤ :=
  if -9223372036854775 ≤ s ∧ s ≤ 9223372036854775 then some (s * nanos) else none

/-- `chrono::Duration::hours`. -/
def hours (h : ℤ) : Option ℤ := seconds (h * 3600)

/-- `date + duration`, which panics outside the range. -/
def add (t : DateTime) (d : ℤ) : Option DateTime :=
  if inRange (t + d) then some (t + d) else none

/-- `date - duration`, which panics outside the range. -/
def sub (t : DateTime) (d : ℤ) : Option DateTime :=
  if inRange (t - d) then some (t - d) else none

end DateTime

/-- `u64::saturating_add`. -/
def satAdd (a b : ℕ) : ℕ := min (a + b) (2 ^ 64 - 1)

/-- `n as i64` for a `u64`. -/
def asI64 (n : ℕ) : ℤ := if n < 2 ^ 63 then n else n - 2 ^ 64

/-- `BaselineConfig` of `baseline.rs`. -/
structure BaselineConfig (F : Type) where
  learningSecs : ℕ
  scoreThreshold : F
  alpha : F
  savePath : Text
  saveIntervalSecs : ℕ
  pairsMax : ℕ
  evictAgeHours : ℤ
  minSamplesForScoring : ℕ

/-- `impl Default for BaselineConfig`. -/
def BaselineConfig.default {F : Type} [F64 F] : BaselineConfig F where
  learningSecs := 3600 * 24
  scoreThreshold := F64.ofRat 3
  alpha := F64.ofRat (1 / 10)
  savePath := "/var/lib/kernelradar/state/baseline.json"
  saveIntervalSecs := 300
  pairsMax := 10000
  evictAgeHours := 24 * 7
  minSamplesForScoring := 24

/-- `HourBucket`. -/
structure HourBucket (F : Type) where
  sum : F
  sumsq : F
  samples : ℕ

namespace HourBucket

variable {F : Type} [F64 F]

/-- `HourBucket::default`. -/
def empty : HourBucket F := ⟨0, 0, 0⟩

/-- `HourBucket::observe`. -/
def observe (b : HourBucket F) (countInMinute : ℕ) (alpha : F) : HourBucket F where
  sum := alpha * F64.ofU64 countInMinute + (1 - alpha) * b.sum
  sumsq := alpha * F64.ofU64 countInMinute * F64.ofU64 countInMinute + (1 - alpha) * b.sumsq
  samples := satAdd b.samples 1

/-- `HourBucket::mean`. -/
def mean (b : HourBucket F) : F := b.sum

/-- `HourBucket::var`. -/
def var (b : HourBucket F) : F :=
  let v := b.sumsq - b.sum * b.sum
  if F64.lt v 0 then 0 else v

/-- `HourBucket::stddev`. -/
def stddev (b : HourBucket F) : F := F64.max (F64.sqrt b.var) (F64.ofRat (1 / 2))

/-- `HourBucket::z_score`. -/
def zScore (b : HourBucket F) (observed : F) : F := (observed - b.mean) / b.stddev

end HourBucket

/-- `PairStats`. -/
structure PairStats (F : Type) where
  buckets : Fin 24 → HourBucket F
  total : ℕ
  firstSeen : Option DateTime
  lastSeen : Option DateTime

/-- `PairStats::default`. -/
def PairStats.empty {F : Type} [F64 F] : PairStats F := ⟨fun _ => HourBucket.empty, 0, none, none⟩

/-- `Baseline`. -/
structure Baseline (F : Type) where
  version : ℕ
  started : DateTime
  config : BaselineConfig F
  pairs : Table Text (PairStats F)
  curMinute : Table Text (ℤ × ℕ)

/-- What `record_and_score` returns, or that it panics. -/
inductive Outcome (F : Type) where
  | panicked
  | score (z : Option F)

namespace Baseline

/-- One call of `record_and_score`: its arguments, what the clock reads, and the
order in which the iterator yields the pairs. -/
structure Call where
  now : DateTime
  order : List Text
  detector : Text
  comm : Text

variable {F : Type}

/-- `Baseline::new`, at the instant it reads itself. -/
def new (config : BaselineConfig F) (now : DateTime) : Baseline F :=
  ⟨1, now, config, Table.empty, Table.empty⟩

/-- `Baseline::key`. -/
def key (detector comm : Text) : Text := detector ++ '|' :: comm

/-- `cur_min`. -/
def curMin (now : DateTime) : ℤ := Int.tdiv now.timestamp 60

/-- `prev_hour`: the bucket a minute belongs to. -/
def prevHour (minute : ℤ) : Fin 24 :=
  ⟨((minute.tmod (24 * 60)).tdiv 60 % 2 ^ 64 % 24).toNat, by omega⟩

/-- The staleness pass: keep the pairs seen after `cutoff`, and the minutes of
the pairs kept. -/
def evictStale (b : Baseline F) (cutoff : DateTime) : Baseline F :=
  let pairs := b.pairs.retain fun _ p => p.lastSeen.any fun t => cutoff < t
  { b with pairs, curMinute := b.curMinute.retain fun k _ => pairs.contains k }

/-- `target_drop`. -/
def targetDrop (b : Baseline F) : ℕ := min (max (b.pairs.len / 10) 1) b.pairs.len

/-- `by_age`, sorted. -/
def byAge (b : Baseline F) (order : List Text) : List (Text × DateTime) :=
  ((b.pairs.entries order).filterMap fun e => e.2.lastSeen.map fun t => (e.1, t)).insertionSort
    fun x y => x.2 ≤ y.2

/-- The hard fall-through: drop the oldest tenth. -/
def dropOldest (b : Baseline F) (order : List Text) : Baseline F :=
  let victims := ((b.byAge order).take b.targetDrop).map Prod.fst
  { b with pairs := b.pairs.eraseAll victims, curMinute := b.curMinute.eraseAll victims }

/-- The eviction section of `record_and_score`; `none` is a panic of the date
arithmetic. -/
def evict (b : Baseline F) (now : DateTime) (order : List Text) : Option (Baseline F) :=
  if b.config.pairsMax ≤ b.pairs.len then
    ((DateTime.hours b.config.evictAgeHours).bind now.sub).map fun cutoff =>
      let b := b.evictStale cutoff
      if b.config.pairsMax ≤ b.pairs.len then b.dropOldest order else b
  else some b

@[simp] lemma evictStale_config (b : Baseline F) (cutoff : DateTime) :
    (b.evictStale cutoff).config = b.config := rfl

@[simp] lemma dropOldest_config (b : Baseline F) (order : List Text) :
    (b.dropOldest order).config = b.config := rfl

/-- Everything eviction can do: nothing under the cap, otherwise the staleness
pass, and the fall-through if that was not enough. -/
lemma evict_cases {b b' : Baseline F} {now : DateTime} {order : List Text}
    (h : b.evict now order = some b') :
    (b' = b ∧ b.pairs.len < b.config.pairsMax) ∨
    (b.config.pairsMax ≤ b.pairs.len ∧ ∃ cutoff,
      (b' = b.evictStale cutoff ∨ b' = (b.evictStale cutoff).dropOldest order)) := by
  rw [evict] at h
  split_ifs at h with hcap
  · obtain ⟨cutoff, -, rfl⟩ := Option.map_eq_some_iff.mp h
    refine Or.inr ⟨hcap, cutoff, ?_⟩
    dsimp only
    split_ifs
    · exact Or.inr rfl
    · exact Or.inl rfl
  · exact Or.inl ⟨(Option.some.inj h).symm, by omega⟩

/-- One more event on the pair's own counters. -/
def touch (stats : PairStats F) (now : DateTime) : PairStats F :=
  { stats with
    total := satAdd stats.total 1
    firstSeen := if stats.firstSeen.isNone then some now else stats.firstSeen
    lastSeen := some now }

/-- The observation a roll-over makes: the count of a minute that is over, for
the bucket of its hour. -/
def observed (entry : ℤ × ℕ) (minute : ℤ) : Option (Fin 24 × ℕ) :=
  if entry.1 ≠ minute then some (prevHour entry.1, entry.2) else none

variable [F64 F]

/-- Flush an observation into its bucket. -/
def flush (stats : PairStats F) (alpha : F) : Option (Fin 24 × ℕ) → PairStats F
  | none => stats
  | some (h, n) =>
      { stats with buckets := Function.update stats.buckets h ((stats.buckets h).observe n alpha) }

/-- The minute window: roll over if the minute changed, then count. -/
def rollOver (entry : ℤ × ℕ) (minute : ℤ) : ℤ × ℕ :=
  let entry := if entry.1 ≠ minute then (minute, 0) else entry
  (entry.1, satAdd entry.2 1)

/-- `learning_until`; `none` is a panic of the date arithmetic. -/
def learningUntil (b : Baseline F) : Option DateTime :=
  (DateTime.seconds (asI64 b.config.learningSecs)).bind b.started.add

/-- The scoring section of `record_and_score`. -/
def score (b : Baseline F) (now : DateTime) (bucket : HourBucket F) (count : ℕ) : Outcome F :=
  match b.learningUntil with
  | none => .panicked
  | some learning =>
      if now < learning then .score none
      else if bucket.samples < b.config.minSamplesForScoring then .score none
      else
        let z := bucket.zScore (F64.ofU64 count)
        .score (if F64.le b.config.scoreThreshold z then some z else none)

/-- The update of `record_and_score` between eviction and scoring. -/
def record (b : Baseline F) (now : DateTime) (k : Text) : Baseline F :=
  let stats := touch ((b.pairs.get k).getD PairStats.empty) now
  let entry := (b.curMinute.get k).getD (curMin now, 0)
  { b with
    pairs := b.pairs.insert k (flush stats b.config.alpha (observed entry (curMin now)))
    curMinute := b.curMinute.insert k (rollOver entry (curMin now)) }

/-- The scoring of `record_and_score`, read off the updated state. -/
def scoreOf (b : Baseline F) (now : DateTime) (k : Text) : Outcome F :=
  b.score now (((b.pairs.get k).getD PairStats.empty).buckets now.hour)
    ((b.curMinute.get k).getD (curMin now, 0)).2

/-- `Baseline::record_and_score`. -/
def recordAndScore (b : Baseline F) (c : Call) : Baseline F × Outcome F :=
  match b.evict c.now c.order with
  | none => (b, .panicked)
  | some b =>
      let b := b.record c.now (key c.detector c.comm)
      (b, b.scoreOf c.now (key c.detector c.comm))

/-- `in_learning`; `none` is a panic. -/
def inLearning (b : Baseline F) (now : DateTime) : Option Bool :=
  b.learningUntil.map fun learning => now < learning

/-! ### Persistence -/

/-- What `serde` writes: `cur_minute` is skipped. -/
structure Saved (F : Type) where
  version : ℕ
  started : DateTime
  config : BaselineConfig F
  pairs : Table Text (PairStats F)

/-- What is found at `save_path`. -/
inductive File (F : Type) where
  | missing
  | unreadable
  | corrupted
  | baseline (saved : Saved F)

/-- `Baseline::save`, where every file operation succeeds. -/
def save (b : Baseline F) : File F := .baseline ⟨b.version, b.started, b.config, b.pairs⟩

/-- `Baseline::load_or_default`: the configuration is replaced, the skipped
field starts empty. -/
def loadOrDefault (config : BaselineConfig F) (now : DateTime) : File F → Baseline F
  | .missing => new config now
  | .unreadable => new config now
  | .corrupted => new config now
  | .baseline saved => ⟨saved.version, saved.started, config, saved.pairs, Table.empty⟩

/-- `Baseline::reset`. -/
def reset (b : Baseline F) (now : DateTime) : Baseline F :=
  { b with started := now, pairs := Table.empty, curMinute := Table.empty }

/-! ### The machine -/

/-- Where the fall-through lists the pairs, the iterator yields each once. -/
def Admissible (b : Baseline F) (c : Call) : Prop :=
  ∀ cutoff ∈ (DateTime.hours b.config.evictAgeHours).bind c.now.sub,
    b.config.pairsMax ≤ (b.evictStale cutoff).pairs.len →
      (b.evictStale cutoff).pairs.Enumerates c.order

instance (b : Baseline F) (c : Call) : Decidable (b.Admissible c) :=
  inferInstanceAs (Decidable (∀ cutoff ∈ (DateTime.hours b.config.evictAgeHours).bind c.now.sub,
    b.config.pairsMax ≤ (b.evictStale cutoff).pairs.len →
      (b.evictStale cutoff).pairs.Enumerates c.order))

omit [F64 F] in
/-- Below the cap nothing is listed. -/
lemma admissible_of_room {b : Baseline F} (h : b.pairs.len < b.config.pairsMax) (c : Call) :
    b.Admissible c := by
  intro cutoff _ hcap
  have hstale : (b.evictStale cutoff).pairs.len ≤ b.pairs.len := Table.len_retain_le _ _
  exact absurd (hcap.trans hstale) (not_le.mpr h)

/-- The calls of `record_and_score` as a machine. -/
def machine : Machine (Baseline F) Call (Outcome F) := ⟨recordAndScore, Admissible⟩

@[simp] lemma machine_step (b : Baseline F) (c : Call) :
    machine.step b c = b.recordAndScore c := rfl

instance (b : Baseline F) (c : Call) : Decidable (machine.ok b c) :=
  inferInstanceAs (Decidable (b.Admissible c))

omit [F64 F] in
/-- With room in the table nothing is evicted. -/
lemma evict_of_room {b : Baseline F} (h : b.pairs.len < b.config.pairsMax) (now : DateTime)
    (order : List Text) : b.evict now order = some b := if_neg (not_le.mpr h)

section Record

variable (b : Baseline F) (now : DateTime) (k : Text)

@[simp] lemma pairs_record_self : (b.record now k).pairs.get k
    = some (flush (touch ((b.pairs.get k).getD PairStats.empty) now) b.config.alpha
        (observed ((b.curMinute.get k).getD (curMin now, 0)) (curMin now))) :=
  Table.get_insert_self _ _ _

@[simp] lemma curMinute_record_self : (b.record now k).curMinute.get k
    = some (rollOver ((b.curMinute.get k).getD (curMin now, 0)) (curMin now)) :=
  Table.get_insert_self _ _ _

variable {k} in
/-- Recording an event leaves the other pairs alone. -/
lemma pairs_record_of_ne {j : Text} (h : j ≠ k) : (b.record now k).pairs.get j = b.pairs.get j :=
  Table.get_insert_of_ne _ _ h

variable {k} in
lemma curMinute_record_of_ne {j : Text} (h : j ≠ k) :
    (b.record now k).curMinute.get j = b.curMinute.get j := Table.get_insert_of_ne _ _ h

end Record

/-- Where the date arithmetic of eviction panics, nothing has changed. -/
lemma recordAndScore_of_panic {b : Baseline F} {c : Call} (h : b.evict c.now c.order = none) :
    b.recordAndScore c = (b, .panicked) := by
  rw [recordAndScore]
  rw [h]

/-- Once eviction is done, a call records and scores. -/
lemma recordAndScore_of_evict {b b' : Baseline F} {c : Call}
    (h : b.evict c.now c.order = some b') :
    b.recordAndScore c = (b'.record c.now (key c.detector c.comm),
      (b'.record c.now (key c.detector c.comm)).scoreOf c.now (key c.detector c.comm)) := by
  rw [recordAndScore]
  rw [h]

/-- Everything a call can do: panic before it changes anything, or evict and
record. -/
lemma recordAndScore_cases (b : Baseline F) (c : Call) :
    (b.evict c.now c.order = none ∧ b.recordAndScore c = (b, .panicked)) ∨
    ∃ b', b.evict c.now c.order = some b' ∧
      (b.recordAndScore c).1 = b'.record c.now (key c.detector c.comm) := by
  cases hev : b.evict c.now c.order with
  | none => exact Or.inl ⟨rfl, recordAndScore_of_panic hev⟩
  | some b' => exact Or.inr ⟨b', rfl, congrArg Prod.fst (recordAndScore_of_evict hev)⟩

end Baseline

end Kernelradar
