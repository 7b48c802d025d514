import Kernelradar.Baseline.History

/-!
What a restart costs the baseline.

`save` writes everything but the minutes in progress, so a pair may lose the
events of the minute in which the split falls, and nothing else.

* `Misses`: a log without, or with a smaller version of, one observation;
* `Trails`: how a pair of the restarted run is related to the same pair of the
  uninterrupted one, kept by every call (`trails_step`);
* `restart_loses_one_minute`: the run.
-/

namespace Kernelradar

open Library

namespace Baseline

variable {F : Type} [F64 F]

/-- `missing` is `whole`, except that the observation `c` made of events before
the split may be missing, or be short of these events. -/
def Misses (c : ℕ) (whole missing : List ℕ) : Prop :=
  missing = whole ∨
    (∃ pre post, whole = pre ++ c :: post ∧ missing = pre ++ post) ∨
    ∃ pre n post, whole = pre ++ satAdd c n :: post ∧ missing = pre ++ n :: post

/-- The logs of one bucket after a restart: equal, unless the minute in progress
at the split belongs to the bucket. -/
def LogsAgree (pending : Option (ℤ × ℕ)) (h : Fin 24) (whole missing : List ℕ) : Prop :=
  match pending with
  | none => missing = whole
  | some (m, c) => if prevHour m = h then Misses c whole missing else missing = whole

lemma LogsAgree.of_eq {pending : Option (ℤ × ℕ)} {h : Fin 24} {l l' : List ℕ} (heq : l' = l) :
    LogsAgree pending h l l' := by
  cases pending with
  | none => exact heq
  | some p =>
      unfold LogsAgree
      dsimp only
      split_ifs
      · exact Or.inl heq
      · exact heq

/-- What both runs observe later is added to both logs. -/
lemma LogsAgree.append {pending : Option (ℤ × ℕ)} {h : Fin 24} {l l' : List ℕ}
    (hl : LogsAgree pending h l l') (later : List ℕ) :
    LogsAgree pending h (l ++ later) (l' ++ later) := by
  cases pending with
  | none => exact congrArg (· ++ later) hl
  | some p =>
      obtain ⟨m, c⟩ := p
      unfold LogsAgree at hl ⊢
      dsimp only at hl ⊢
      by_cases hm : prevHour m = h
      · rw [if_pos hm] at hl ⊢
        rcases hl with rfl | ⟨pre, post, rfl, rfl⟩ | ⟨pre, n, post, rfl, rfl⟩
        · exact Or.inl rfl
        · exact Or.inr (Or.inl ⟨pre, post ++ later, by simp, by simp⟩)
        · exact Or.inr (Or.inr ⟨pre, n, post ++ later, by simp, by simp⟩)
      · rw [if_neg hm] at hl ⊢
        rw [hl]

/-- How a pair of the restarted run trails the uninterrupted one. Until the
minute in progress at the split is over its counts differ by what was counted
before, from then on nothing differs but one observation. -/
def Trails (pending : Option (ℤ × ℕ)) (u s : View) : Prop :=
  u.seen = s.seen ∧
    ((u.minute = s.minute ∧ ∀ h, LogsAgree pending h (u.log h) (s.log h)) ∨
      ∃ m c, pending = some (m, c) ∧ u.log = s.log ∧
        ((u.minute = some (m, c) ∧ s.minute = none) ∨
          ∃ n, u.minute = some (m, satAdd c n) ∧ s.minute = some (m, n)))

lemma satAdd_assoc (a b c : ℕ) : satAdd (satAdd a b) c = satAdd a (satAdd b c) := by
  simp only [satAdd]
  omega

lemma satAdd_zero_one : satAdd 0 1 = 1 := rfl

/-- A flushed observation that the restarted run misses, or has a smaller
version of. -/
lemma logsAgree_flush {m : ℤ} {c : ℕ} {l : List ℕ} (h : Fin 24) :
    LogsAgree (some (m, c)) h (l ++ noted (some (prevHour m, c)) h) l := by
  unfold LogsAgree noted
  dsimp only
  by_cases hm : prevHour m = h
  · rw [if_pos hm, if_pos hm]
    exact Or.inr (Or.inl ⟨l, [], rfl, by simp⟩)
  · rw [if_neg hm, if_neg hm, List.append_nil]

lemma logsAgree_flush_short {m : ℤ} {c n : ℕ} {l : List ℕ} (h : Fin 24) :
    LogsAgree (some (m, c)) h (l ++ noted (some (prevHour m, satAdd c n)) h)
      (l ++ noted (some (prevHour m, n)) h) := by
  unfold LogsAgree noted
  dsimp only
  by_cases hm : prevHour m = h
  · rw [if_pos hm, if_pos hm, if_pos hm]
    exact Or.inr (Or.inr ⟨l, n, [], rfl, rfl⟩)
  · rw [if_neg hm, if_neg hm, if_neg hm]

/-- A call for the pair, in both runs. -/
lemma trails_hit {pending : Option (ℤ × ℕ)} {u s : View} (h : Trails pending u s)
    (now : DateTime) : Trails pending (u.hit now) (s.hit now) := by
  obtain ⟨hseen, hcases⟩ := h
  refine ⟨by simp only [View.hit, hseen], ?_⟩
  rcases hcases with ⟨hminute, hlogs⟩ | ⟨m, c, rfl, hlog, ⟨hu, hs⟩ | ⟨n, hu, hs⟩⟩
  · refine Or.inl ⟨by simp only [View.hit, hminute], fun i => ?_⟩
    simp only [View.hit, hminute]
    exact (hlogs i).append _
  · -- the first call since the split
    by_cases hm : m = curMin now
    · refine Or.inr ⟨m, c, rfl, ?_, Or.inr ⟨1, ?_, ?_⟩⟩
      · simp [View.hit, hu, hs, hlog, observed, hm, noted]
      · simp [View.hit, hu, rollOver, hm]
      · simp [View.hit, hs, rollOver, hm, satAdd_zero_one]
    · refine Or.inl ⟨?_, fun i => ?_⟩
      · simp [View.hit, hu, hs, rollOver, hm]
      · have hobs : observed (m, c) (curMin now) = some (prevHour m, c) := if_pos hm
        have hnone : observed (curMin now, 0) (curMin now) = none := if_neg fun hne => hne rfl
        simp only [View.hit, hu, hs, Option.getD_some, Option.getD_none, hobs, hnone, hlog]
        rw [show noted none i = [] from rfl, List.append_nil]
        exact logsAgree_flush i
  · by_cases hm : m = curMin now
    · refine Or.inr ⟨m, c, rfl, ?_, Or.inr ⟨satAdd n 1, ?_, ?_⟩⟩
      · simp [View.hit, hu, hs, hlog, observed, hm, noted]
      · simp [View.hit, hu, rollOver, hm, satAdd_assoc]
      · simp [View.hit, hs, rollOver, hm]
    · refine Or.inl ⟨?_, fun i => ?_⟩
      · simp [View.hit, hu, hs, rollOver, hm]
      · have hobs : ∀ x, observed (m, x) (curMin now) = some (prevHour m, x) := fun _ => if_pos hm
        simp only [View.hit, hu, hs, Option.getD_some, hobs, hlog]
        exact logsAgree_flush_short i

/-- One call, whatever it does to the pair, keeps the restarted run behind the
uninterrupted one. -/
lemma trails_step {pending : Option (ℤ × ℕ)} {u s : View} (h : Trails pending u s)
    (kept isHit : Bool) (now : DateTime) :
    Trails pending (u.step kept isHit now) (s.step kept isHit now) := by
  have hgone : Trails pending View.gone View.gone :=
    ⟨rfl, Or.inl ⟨rfl, fun _ => LogsAgree.of_eq rfl⟩⟩
  rw [View.step]
  cases kept <;> cases isHit
  · exact hgone
  · exact trails_hit hgone now
  · exact h
  · exact trails_hit h now

/-- The restarted run trails the uninterrupted one in every pair. -/
structure Behind (pending : Text → Option (ℤ × ℕ)) (u s : Logged F) : Prop where
  config : u.base.config = s.base.config
  coveredLeft : u.base.Covered
  coveredRight : s.base.Covered
  trails : ∀ k, Trails (pending k) (u.view k) (s.view k)

lemma behind_step {pending : Text → Option (ℤ × ℕ)} {u s : Logged F} (h : Behind pending u s)
    (c : Call) : Behind pending (loggedStep u c).1 (loggedStep s c).1 := by
  have hseen : SameSeen u.base s.base := fun k => (h.trails k).1
  refine ⟨?_, ?_, ?_, fun k => ?_⟩
  · rw [loggedStep_base, loggedStep_base, recordAndScore_config, recordAndScore_config, h.config]
  · rw [loggedStep_base]
    exact covered_step h.coveredLeft c
  · rw [loggedStep_base]
    exact covered_step h.coveredRight c
  · rcases hseen.evict h.config c.now c.order with ⟨hu, hs⟩ | ⟨bu, bs, hu, hs, hsame⟩
    · rw [loggedStep_of_panic hu, loggedStep_of_panic hs]
      exact h.trails k
    · rw [view_step h.coveredLeft hu, view_step h.coveredRight hs, hsame.dom_eq]
      exact trails_step (h.trails k) _ _ _

lemma behind_after {pending : Text → Option (ℤ × ℕ)} (cs : List Call) :
    ∀ {u s : Logged F}, Behind pending u s →
      Behind pending (logged.after u cs) (logged.after s cs) := by
  induction cs with
  | nil => intro u s h; exact h
  | cons c cs ih => intro u s h; exact ih (behind_step h c)

/-- A fresh baseline, with nothing observed. -/
def fresh (config : BaselineConfig F) (now : DateTime) : Logged F :=
  ⟨new config now, fun _ _ => []⟩

/-- Shutdown and start-up: what `save` wrote is loaded again. -/
def restart (config : BaselineConfig F) (now : DateTime) (s : Logged F) : Logged F :=
  { s with base := loadOrDefault config now s.base.save }

lemma replays_fresh (config : BaselineConfig F) (now : DateTime) : Replays (fresh config now) :=
  fun _ => ⟨fun _ => rfl, fun _ h => by cases h⟩

lemma replays_restart {config : BaselineConfig F} {now : DateTime} {s : Logged F}
    (hs : Replays s) (hconfig : s.base.config = config) : Replays (restart config now s) := by
  subst hconfig
  exact hs

omit [F64 F] in
/-- Right after the restart. -/
lemma behind_restart {config : BaselineConfig F} {s : Logged F} (now : DateTime)
    (hs : s.base.Covered) (hconfig : s.base.config = config) :
    Behind s.base.curMinute.get s (restart config now s) := by
  refine ⟨hconfig, hs, covered_loadOrDefault config now _, fun k => ⟨rfl, ?_⟩⟩
  cases hpending : s.base.curMinute.get k with
  | none => exact Or.inl ⟨hpending, fun _ => rfl⟩
  | some p => exact Or.inr ⟨p.1, p.2, rfl, rfl, Or.inl ⟨hpending, rfl⟩⟩

/-- **A restart loses at most one minute.** A run split by `save` and
`load_or_default` with the same configuration ends with the same pairs, totals
and dates as the uninterrupted run, and every bucket holds the same
observations in the same order, except for the minute a pair was in when the
run was split: the observation of that minute is missing, or is short of the
events before the split. -/
theorem restart_loses_one_minute (config : BaselineConfig F) (started loaded : DateTime)
    (cs cs' : List Call) :
    let mid := logged.after (fresh config started) cs
    let whole := logged.after (fresh config started) (cs ++ cs')
    let split := logged.after (restart config loaded mid) cs'
    (whole.base = machine.after (new config started) (cs ++ cs') ∧
      split.base = machine.after
        (loadOrDefault config loaded (machine.after (new config started) cs).save) cs') ∧
    (Replays whole ∧ Replays split) ∧
    SameSeen whole.base split.base ∧
    ∀ k h, LogsAgree (mid.base.curMinute.get k) h (whole.log k h) (split.log k h) := by
  intro mid whole split
  have hmid : mid.base = machine.after (new config started) cs := logged_base cs _
  have hconfig : mid.base.config = config := logged_config cs _
  have hcovered : mid.base.Covered := by
    rw [hmid]
    exact covered_after cs (covered_new config started)
  have hwhole : whole = logged.after mid cs' := Machine.after_append _ _ _ _
  have hbehind := behind_after cs' (behind_restart loaded hcovered hconfig)
  have hreplays : Replays mid := replays_after cs (replays_fresh config started)
  rw [← hwhole] at hbehind
  refine ⟨⟨logged_base _ _, ?_⟩, ⟨replays_after _ (replays_fresh _ _),
    replays_after _ (replays_restart hreplays hconfig)⟩, fun k => (hbehind.trails k).1,
    fun k h => ?_⟩
  · rw [← hmid]
    exact logged_base _ _
  · rcases (hbehind.trails k).2 with ⟨-, hlogs⟩ | ⟨-, -, -, hlog, -⟩
    · exact hlogs h
    · exact LogsAgree.of_eq (congrFun hlog h).symm

/-- One event, a restart, and one event a minute later: the uninterrupted run
has observed the first minute, the restarted one has not. -/
theorem restart_forgets_minute :
    ¬ ∀ (config : BaselineConfig ℚ) (started loaded : DateTime) (cs cs' : List Call) (k : Text)
        (h : Fin 24),
      (logged.after (restart config loaded (logged.after (fresh config started) cs)) cs').log k h
        = (logged.after (fresh config started) (cs ++ cs')).log k h := by
  intro h
  have hrun := h BaselineConfig.default 0 (50 * DateTime.nanos)
    [⟨10 * DateTime.nanos, [], "fim", "cat"⟩] [⟨70 * DateTime.nanos, [], "fim", "cat"⟩]
    (key "fim" "cat") 0
  exact absurd hrun (by decide)

end Baseline

end Kernelradar
