import Kernelradar.Dedup.Answers

/-!
What the backoff does to the next emission.

* `Watch`: what an observer of the answers keeps: how many windows in a row were
  over the cap, and when the key was last emitted;
* `HeldBack`: after `k` such windows the next emission comes `delay k` after the
  last one; `Quiet`: no check opens a window earlier than that;
* `Dormant`: the invariant behind the result: an entry counts a backoff step only
  while its window is full, so that no step ever meets an open window;
* `heldBack_iff`: the two are the same, the limiter itself holds nothing back.
-/

namespace Kernelradar

open Library

namespace RateLimiter

/-- The gap asked for after `k` windows over the cap. -/
def delay (cfg : RateLimitConfig) (k : ℕ) : Duration :=
  min (cfg.backoffInitial * 2 ^ (k - 1)) cfg.backoffMax

/-- What the answers so far show: how many windows in a row, up to the one before
the current, had a check suppressed at the cap; whether the current one had; whether
it let a check through; when the key was last emitted. -/
structure Watch where
  closed : ℕ
  exceeded : Bool
  spent : Bool
  last : Option Instant
  deriving DecidableEq

/-- Nothing seen. -/
def Watch.start : Watch := ⟨0, false, false, none⟩

/-- A window is opened: one that was not over the cap ends the row. -/
def Watch.turn (w : Watch) (a : Answer) : Watch :=
  if a.reopens then ⟨if w.exceeded then w.closed + 1 else 0, false, false, w.last⟩ else w

/-- What an answer adds. -/
def Watch.note (w : Watch) (a : Answer) : Watch where
  closed := w.closed
  exceeded := w.exceeded || (a.full && decide (a.decision = .suppress))
  spent := w.spent || a.within
  last := if a.decision.emits then some a.now else w.last

/-- Every answer with what was seen before it, its window included. -/
def watched : Watch → List Answer → List (Watch × Answer)
  | _, [] => []
  | w, a :: as => (w.turn a, a) :: watched ((w.turn a).note a) as

/-- The delay after the windows over the cap has passed since the last emission. -/
def Watch.Rested (cfg : RateLimitConfig) (w : Watch) (a : Answer) : Prop :=
  ∀ e ∈ w.last, e + delay cfg w.closed ≤ a.now

/-- The first emission under the limit after `k ≥ 1` windows over the cap is held
back by `delay k`. -/
def HeldBack (cfg : RateLimitConfig) (as : List Answer) : Prop :=
  ∀ wa ∈ watched .start as, wa.2.within = true → wa.1.spent = false → 1 ≤ wa.1.closed →
    wa.1.Rested cfg wa.2

instance (cfg : RateLimitConfig) (w : Watch) (a : Answer) : Decidable (w.Rested cfg a) :=
  inferInstanceAs (Decidable (∀ e ∈ w.last, e + delay cfg w.closed ≤ a.now))

instance (cfg : RateLimitConfig) (as : List Answer) : Decidable (HeldBack cfg as) :=
  inferInstanceAs (Decidable (∀ wa ∈ watched .start as, _ → _ → _ → _))

/-- No check opens a window after `k ≥ 1` windows over the cap before `delay k` is
over. -/
def Quiet (cfg : RateLimitConfig) (as : List Answer) : Prop :=
  ∀ wa ∈ watched .start as, wa.2.reopens = true → 1 ≤ wa.1.closed → wa.1.Rested cfg wa.2

instance (cfg : RateLimitConfig) (as : List Answer) : Decidable (Quiet cfg as) :=
  inferInstanceAs (Decidable (∀ wa ∈ watched .start as, _ → _ → _))

end RateLimiter

namespace KeyState

variable {cfg : RateLimitConfig} {now : Instant} {severity : Severity} {st : KeyState}

/-- A backoff step is counted only while the window is full. -/
def Dormant (cfg : RateLimitConfig) (st : KeyState) : Prop :=
  st.backoffSteps = 0 ∨ (st.backoffSteps = 1 ∧ cfg.windowMax ≤ st.windowCount)

/-- Bringing an entry up to date takes the step away with the full window. -/
lemma dormant_rolled (h : Dormant cfg st) : Dormant cfg (rolled cfg now severity st) := by
  rw [Dormant] at h
  rw [Dormant, rolled, rollWindow, rollBurst]
  dsimp only
  split_ifs
  · exact Or.inl (by dsimp only; omega)
  · exact h
  · exact Or.inl (by dsimp only; omega)
  · exact h

/-- With no step to meet, the branch is decided by the cap alone. -/
lemma within_iff_of_dormant (h : Dormant cfg st) :
    within cfg now st = true ↔ st.windowCount < cfg.windowMax := by
  rw [within, decide_eq_true_eq]
  constructor
  · exact And.left
  · intro hroom
    refine ⟨hroom, ?_⟩
    rcases h with hzero | ⟨-, hfull⟩
    · rw [requiredGap, if_pos hzero]
      exact Nat.zero_le _
    · exact absurd hroom (not_lt.mpr hfull)

lemma dormant_check (h : Dormant cfg st) : Dormant cfg (check cfg now severity st).1 := by
  have hrolled : Dormant cfg (rolled cfg now severity st) := dormant_rolled h
  have hrefuse : Dormant cfg (refuse cfg (rolled cfg now severity st)) := by
    rw [Dormant, refuse]
    dsimp only
    split_ifs with hfull
    · exact Or.inr ⟨rfl, hfull.1⟩
    · exact hrolled
  rcases check_cases cfg now severity st with ⟨hw, hc⟩ | ⟨-, -, hc⟩ | ⟨-, -, hc⟩
  · rw [hc]
    have hroom := (within_iff_of_dormant hrolled).mp hw
    rcases hrolled with hzero | ⟨-, hfull⟩
    · exact Or.inl hzero
    · exact absurd hroom (not_lt.mpr hfull)
  · rw [hc]
    exact hrefuse
  · rw [hc]
    exact hrefuse

/-- The window's count after an entry was brought up to date. -/
lemma windowCount_rolled (cfg : RateLimitConfig) (now : Instant) (severity : Severity)
    (st : KeyState) : (rolled cfg now severity st).windowCount
      = if cfg.window ≤ now.durationSince st.windowStart then 0 else st.windowCount := by
  rw [rolled, rollWindow, rollBurst]
  dsimp only
  split_ifs <;> rfl

end KeyState

namespace RateLimiter

variable {cfg : RateLimitConfig}

/-- A check that finds an empty window, opened just now or never used, is let
through. -/
lemma within_of_empty {st : KeyState} (hmax : 0 < cfg.windowMax) (hst : KeyState.Dormant cfg st)
    (p : Probe) (hempty : (answerOf cfg st p).reopens = true ∨ st.windowCount = 0) :
    (answerOf cfg st p).within = true := by
  have hcount : (KeyState.rolled cfg p.now p.severity st).windowCount = 0 := by
    rw [KeyState.windowCount_rolled]
    rcases hempty with hopen | hzero
    · rw [if_pos (of_decide_eq_true hopen)]
    · rw [hzero, ite_self]
  refine (KeyState.within_iff_of_dormant (KeyState.dormant_rolled hst)).mpr ?_
  rwa [hcount]

/-- What the observer knows of the entry: the first check of a window is let
through. -/
structure Observes (cfg : RateLimitConfig) (w : Watch) (o : Option KeyState) : Prop where
  absent : o = none → w.closed = 0 ∧ w.exceeded = false
  present : ∀ st, o = some st → KeyState.Dormant cfg st ∧ w.spent = true

lemma Observes.start (cfg : RateLimitConfig) : Observes cfg .start none :=
  ⟨fun _ => ⟨rfl, rfl⟩, fun _ h => absurd h (by simp)⟩

/-- The entry a check works on counts no step for an open window. -/
lemma Observes.dormant {w : Watch} {o : Option KeyState} (h : Observes cfg w o) (p : Probe) :
    KeyState.Dormant cfg (o.getD (KeyState.new p.severity p.born)) := by
  cases o with
  | none => exact Or.inl rfl
  | some st => exact (h.present st rfl).1

/-- One check, for the observer: either it opens a window or the window has
been used, or the key is new; and afterwards the window has been used. -/
lemma Observes.next (hmax : 0 < cfg.windowMax) {w : Watch} {o : Option KeyState}
    (h : Observes cfg w o) (p : Probe) :
    let a := answerOf cfg (o.getD (KeyState.new p.severity p.born)) p
    (a.reopens = true ∧ a.within = true ∧ (w.turn a).spent = false ∨
      a.reopens = false ∧ ((w.turn a).spent = true ∨ (w.turn a).closed = 0)) ∧
    Observes cfg ((w.turn a).note a) (soloStep cfg o p).1 := by
  intro a
  have hused : a.reopens = true ∨ o = none → a.within = true := by
    intro hcase
    refine within_of_empty hmax (h.dormant p) p (hcase.imp_right fun hnone => ?_)
    rw [hnone]
    rfl
  have hspent : ((w.turn a).note a).spent = true := by
    rw [Watch.note, Bool.or_eq_true]
    by_cases hcase : a.reopens = true ∨ o = none
    · exact Or.inr (hused hcase)
    · obtain ⟨hopens, hsome⟩ := not_or.mp hcase
      obtain ⟨st, rfl⟩ := Option.ne_none_iff_exists'.mp hsome
      refine Or.inl ?_
      rw [Watch.turn, if_neg hopens]
      exact (h.present st rfl).2
  refine ⟨?_, fun hnone => absurd hnone (by simp [soloStep]), fun st hst => ⟨?_, hspent⟩⟩
  · cases hopens : a.reopens with
    | true =>
        refine Or.inl ⟨rfl, hused (Or.inl hopens), ?_⟩
        rw [Watch.turn, if_pos hopens]
    | false =>
        refine Or.inr ⟨rfl, ?_⟩
        rw [Watch.turn, if_neg (by rw [hopens]; exact Bool.false_ne_true)]
        cases o with
        | none => exact Or.inr (h.absent rfl).1
        | some st => exact Or.inl (h.present st rfl).2
  · obtain rfl := Option.some.inj hst
    exact KeyState.dormant_check (h.dormant p)

/-- Along the run of an entry, what is held back and what is quiet anyway are the
same. -/
lemma watched_iff (hmax : 0 < cfg.windowMax) : ∀ {ps : List Probe} {w : Watch}
    {o : Option KeyState}, Observes cfg w o →
    ((∀ wa ∈ watched w ((answering cfg).outs o ps), wa.2.within = true → wa.1.spent = false →
        1 ≤ wa.1.closed → wa.1.Rested cfg wa.2) ↔
      ∀ wa ∈ watched w ((answering cfg).outs o ps), wa.2.reopens = true → 1 ≤ wa.1.closed →
        wa.1.Rested cfg wa.2) := by
  intro ps
  induction ps with
  | nil =>
      intro w o _
      simp [watched]
  | cons p ps ih =>
      intro w o h
      obtain ⟨hcase, hnext⟩ := h.next hmax p
      rw [Machine.outs_cons, answering_step, watched, List.forall_mem_cons, List.forall_mem_cons]
      refine and_congr ?_ (ih hnext)
      rcases hcase with ⟨hopens, hwithin, hspent⟩ | ⟨hopens, hspent | hclosed⟩
      · rw [hopens, hwithin, hspent]
        simp only [true_imp_iff]
      · rw [hopens, hspent]
        simp
      · rw [hopens, hclosed]
        simp

lemma mem_of_mem_watched : ∀ {as : List Answer} {w : Watch} {wa : Watch × Answer},
    wa ∈ watched w as → wa.2 ∈ as := by
  intro as
  induction as with
  | nil => exact fun h => absurd h (by simp [watched])
  | cons a as ih =>
      intro w wa h
      rcases List.mem_cons.mp h with rfl | h'
      · exact List.mem_cons_self
      · exact List.mem_cons_of_mem _ (ih h')

/-- Under a cap of zero nothing is let through. -/
lemma within_eq_false (hmax : cfg.windowMax = 0) (ps : List Probe) (o : Option KeyState) :
    ∀ a ∈ (answering cfg).outs o ps, a.within = false := by
  refine Machine.forall_outs _ (I := fun _ => True) (fun o p _ _ => ⟨trivial, ?_⟩) trivial
    (answering_valid cfg o ps)
  refine decide_eq_false fun h => ?_
  rw [hmax] at h
  exact absurd h.1 (Nat.not_lt_zero _)

/-- **The backoff is asleep**: for a kept key, from its first check on, the first
emission after `k` windows over the cap comes `delay k` after the last one exactly
if no check opens a window before that delay is over. -/
theorem heldBack_iff (rl : RateLimiter) (cs : List Call) (k : Key)
    (hkeep : machine.Along (Keeps k) rl cs) (hfirst : rl.state.get k = none) :
    HeldBack rl.config (answers k rl cs) ↔
      rl.config.windowMax = 0 ∨ Quiet rl.config (answers k rl cs) := by
  rw [answers_eq_of_first hfirst hkeep]
  rcases Nat.eq_zero_or_pos rl.config.windowMax with hzero | hmax
  · refine iff_of_true (fun wa hwa hwithin => ?_) (Or.inl hzero)
    rw [within_eq_false hzero _ _ _ (mem_of_mem_watched hwa)] at hwithin
    exact absurd hwithin Bool.false_ne_true
  · rw [or_iff_right hmax.ne']
    exact watched_iff hmax (Observes.start rl.config)

/-- A window over the cap, and the next check after the delay. -/
theorem heldBack_iff_three :
    let cfg := { RateLimitConfig.default with
      windowMax := 1, window := 2, backoffInitial := 3, backoffMax := 8 }
    let a : Key := ⟨"fim", "a", 1⟩
    let cs := [Call.check ⟨0, 0, []⟩ a .alert, .check ⟨1, 1, [a]⟩ a .alert,
      .check ⟨3, 3, [a]⟩ a .alert]
    HeldBack cfg (answers a (new cfg) cs) := by
  intro cfg a cs
  exact (heldBack_iff (new cfg) cs a (by decide) rfl).mpr (Or.inr (by decide))

/-- Nothing is held back: with a cap of two, the key is emitted at 59 s, suppressed
at the cap, and emitted again one second later, in the next window. -/
theorem backoff_ignored :
    ¬ ∀ (cfg : RateLimitConfig) (cs : List Call) (k : Key), machine.Valid (new cfg) cs →
      machine.Along (Keeps k) (new cfg) cs → HeldBack cfg (answers k (new cfg) cs) := by
  intro h
  let a : Key := ⟨"fim", "a", 1⟩
  have hrun := h { RateLimitConfig.default with windowMax := 2 }
    [.check ⟨0, 0, []⟩ a .alert, .check ⟨59000000000, 59000000000, [a]⟩ a .alert,
      .check ⟨59000000000, 59000000000, [a]⟩ a .alert,
      .check ⟨60000000000, 60000000000, [a]⟩ a .alert] a (by decide) (by decide)
  exact absurd hrun (by decide)

end RateLimiter

end Kernelradar
