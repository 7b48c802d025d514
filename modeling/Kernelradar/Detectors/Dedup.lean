import Kernelradar.Core.Event
import Kernelradar.Library.Table
import Kernelradar.Library.Machine

/-!
`dedup.rs`: the rate limiter.

Durations are nanoseconds in `ℕ`, instants nanoseconds in `ℤ`; every clock
reading and the order in which the `HashMap` iterator yields its entries are
part of the event.

* `KeyState.check`: the part of `RateLimiter::check` behind the map entry, cut
  at its own section comments into `rollBurst`, `rollWindow`, `requiredGap`,
  `letPass` and `refuse`; `check_cases` lists what one check can do;
* `RateLimiter.check`: eviction, insertion, then the entry's own check;
* `RateLimiter.drainSuppressed`;
* `limiter`: the two as a machine, whose runs the later modules study.
-/

namespace Kernelradar

open Library

/-- `Instant`, in nanoseconds. -/
abbrev Instant := ℤ

/-- `Duration`, in nanoseconds. -/
abbrev Duration := ℕ

namespace Duration

/-- `Duration::from_secs`. -/
def fromSecs (s : ℕ) : Duration := s * 10 ^ 9

/-- `Duration::MAX`: `u64::MAX` seconds and 999999999 nanoseconds. -/
def max : Duration := (2 ^ 64 - 1) * 10 ^ 9 + 999999999

/-- `Duration::saturating_mul`. -/
def saturatingMul (d : Duration) (n : ℕ) : Duration := min (d * n) max

end Duration

/-- `now.duration_since(earlier)`, zero where `earlier` is later. -/
def Instant.durationSince (now earlier : Instant) : Duration := (now - earlier).toNat

/-- `Key`: detector, comm and event type. -/
structure Key where
  detector : Text
  comm : Text
  eventType : UInt16
  deriving DecidableEq

/-- `RateLimitConfig`. -/
structure RateLimitConfig where
  window : Duration
  windowMax : ℕ
  burstThreshold : ℕ
  burstWindow : Duration
  backoffInitial : Duration
  backoffMax : Duration
  keysMax : ℕ

/-- `impl Default for RateLimitConfig`. -/
def RateLimitConfig.default : RateLimitConfig where
  window := Duration.fromSecs 60
  windowMax := 10
  burstThreshold := 100
  burstWindow := Duration.fromSecs 1
  backoffInitial := Duration.fromSecs 60
  backoffMax := Duration.fromSecs 3600
  keysMax := 10000

/-- `KeyState`. -/
structure KeyState where
  windowStart : Instant
  windowCount : ℕ
  suppressed : ℕ
  allowed : ℕ
  burstStart : Instant
  burstCount : ℕ
  lastEmitted : Instant
  backoffSteps : ℕ
  severitySeen : Severity
  deriving DecidableEq

/-- `Decision`. -/
inductive Decision where
  | allow
  | suppress
  | burst
  deriving DecidableEq, Repr

/-- Whether the alert itself is emitted. -/
def Decision.emits : Decision → Bool
  | allow => true
  | suppress => false
  | burst => true

namespace KeyState

/-- `u32::MAX`, where the burst counter saturates. -/
def u32Max : ℕ := 2 ^ 32 - 1

/-- One more on a `u64` counter. -/
def wrappingSucc (n : ℕ) : ℕ := (n + 1) % 2 ^ 64

/-- `KeyState::new`, at the instant it reads itself. -/
def new (severity : Severity) (now : Instant) : KeyState where
  windowStart := now
  windowCount := 0
  suppressed := 0
  allowed := 0
  burstStart := now
  burstCount := 0
  lastEmitted := now - Duration.fromSecs 86400
  backoffSteps := 0
  severitySeen := severity

variable (cfg : RateLimitConfig) (now : Instant)

/-- The burst window: started afresh when it is over, then one more event
counted. -/
def rollBurst (st : KeyState) : KeyState :=
  let st :=
    if cfg.burstWindow ≤ now.durationSince st.burstStart then
      { st with burstStart := now, burstCount := 0 }
    else st
  { st with burstCount := min (st.burstCount + 1) u32Max }

/-- The sliding window: started afresh when it is over, taking one step off the
backoff. -/
def rollWindow (st : KeyState) : KeyState :=
  if cfg.window ≤ now.durationSince st.windowStart then
    { st with windowStart := now, windowCount := 0, backoffSteps := st.backoffSteps - 1 }
  else st

/-- The state the decision is taken in: severity, burst window and sliding
window brought up to date. -/
def rolled (severity : Severity) (st : KeyState) : KeyState :=
  rollWindow cfg now (rollBurst cfg now { st with severitySeen := max st.severitySeen severity })

/-- `burst_triggered`. -/
def burstTriggered (st : KeyState) : Bool := st.burstCount = cfg.burstThreshold

/-- The gap the backoff asks for since the last emission. -/
def requiredGap (st : KeyState) : Duration :=
  if st.backoffSteps = 0 then 0
  else
    min (Duration.saturatingMul cfg.backoffInitial (2 ^ min (st.backoffSteps - 1) 20))
      cfg.backoffMax

/-- `allowed`: under the window's cap and past the backoff gap. -/
def within (st : KeyState) : Bool :=
  st.windowCount < cfg.windowMax ∧ requiredGap cfg st ≤ now.durationSince st.lastEmitted

/-- The branch under the limit. -/
def letPass (st : KeyState) : KeyState :=
  { st with
    windowCount := st.windowCount + 1
    allowed := wrappingSucc st.allowed
    lastEmitted := now }

/-- The branch over the limit, up to the burst test. -/
def refuse (st : KeyState) : KeyState :=
  { st with
    suppressed := wrappingSucc st.suppressed
    backoffSteps :=
      if cfg.windowMax ≤ st.windowCount ∧ st.backoffSteps = 0 then 1 else st.backoffSteps }

/-- `RateLimiter::check` behind the map entry. -/
def check (severity : Severity) (st : KeyState) : KeyState × Decision :=
  let st := rolled cfg now severity st
  if within cfg now st then
    (letPass now st, if burstTriggered cfg st then .burst else .allow)
  else if burstTriggered cfg st then
    -- force-emit despite the limit, the counters stay as they are
    ({ refuse cfg st with lastEmitted := now }, .burst)
  else (refuse cfg st, .suppress)

/-- Everything one check can do: admitted, forced out as a burst over the limit,
or suppressed. -/
lemma check_cases (severity : Severity) (st : KeyState) :
    (within cfg now (rolled cfg now severity st) = true ∧
      check cfg now severity st = (letPass now (rolled cfg now severity st),
        if burstTriggered cfg (rolled cfg now severity st) then .burst else .allow)) ∨
    (within cfg now (rolled cfg now severity st) = false ∧
      burstTriggered cfg (rolled cfg now severity st) = true ∧
      check cfg now severity st =
        ({ refuse cfg (rolled cfg now severity st) with lastEmitted := now }, .burst)) ∨
    (within cfg now (rolled cfg now severity st) = false ∧
      burstTriggered cfg (rolled cfg now severity st) = false ∧
      check cfg now severity st = (refuse cfg (rolled cfg now severity st), .suppress)) := by
  rw [check]
  cases hw : within cfg now (rolled cfg now severity st)
  · cases hb : burstTriggered cfg (rolled cfg now severity st) <;> simp
  · simp

end KeyState

/-- `RateLimiter`. -/
structure RateLimiter where
  state : Table Key KeyState
  config : RateLimitConfig

namespace RateLimiter

/-- `RateLimiter::new`. -/
def new (config : RateLimitConfig) : RateLimiter := ⟨Table.empty, config⟩

/-- `SAMPLE_K`. -/
def sampleK : ℕ := 8

/-- The entries eviction looks at: the first `SAMPLE_K` the iterator yields. -/
def sample (rl : RateLimiter) (order : List Key) : List (Key × KeyState) :=
  (rl.state.entries order).take sampleK

/-- The key eviction drops: `min_by_key` of `last_emitted` over the sample. -/
def victim (rl : RateLimiter) (order : List Key) : Option Key :=
  ((rl.sample order).minOn? fun e => e.2.lastEmitted).map Prod.fst

/-- The key a check throws out, if any: only a brand-new key evicts, and only at
the cap. -/
def evictee (rl : RateLimiter) (order : List Key) (key : Key) : Option Key :=
  if rl.config.keysMax ≤ rl.state.len ∧ rl.state.contains key = false then rl.victim order
  else none

/-- The map after the eviction step of `check`. -/
def evict (rl : RateLimiter) (order : List Key) (key : Key) : Table Key KeyState :=
  (rl.evictee order key).elim rl.state rl.state.erase

/-- The environment's part of one `check`: the two clock readings, of `check`
itself and of `KeyState::new`, and the order of the iterator. -/
structure Moment where
  now : Instant
  born : Instant
  order : List Key

/-- `RateLimiter::check`. -/
def check (rl : RateLimiter) (m : Moment) (key : Key) (severity : Severity) :
    RateLimiter × Decision :=
  let table := rl.evict m.order key
  let entry := (table.get key).getD (KeyState.new severity m.born)
  let r := entry.check rl.config m.now severity
  ({ rl with state := table.insert key r.1 }, r.2)

/-- `RateLimiter::drain_suppressed`, with the entries in the iterator's order. -/
def drainSuppressed (rl : RateLimiter) (order : List Key) :
    RateLimiter × List (Key × ℕ × Severity) :=
  ({ rl with state := rl.state.mapValues fun st => { st with suppressed := 0 } },
    ((rl.state.entries order).filter fun e => 0 < e.2.suppressed).map fun e =>
      (e.1, e.2.suppressed, e.2.severitySeen))

/-- A call into the limiter. -/
inductive Call where
  | check (m : Moment) (key : Key) (severity : Severity)
  | drain (order : List Key)

/-- What a call returns. -/
inductive Reply where
  | decision (d : Decision)
  | drained (out : List (Key × ℕ × Severity))

/-- One call. -/
def call (rl : RateLimiter) : Call → RateLimiter × Reply
  | .check m key severity => ((rl.check m key severity).1, .decision (rl.check m key severity).2)
  | .drain order => ((rl.drainSuppressed order).1, .drained (rl.drainSuppressed order).2)

/-- The iterator yields every entry once, and `KeyState::new` reads the clock
after `check` did. -/
def Admissible (rl : RateLimiter) : Call → Prop
  | .check m _ _ => rl.state.Enumerates m.order ∧ m.now ≤ m.born
  | .drain order => rl.state.Enumerates order

instance (rl : RateLimiter) : ∀ c, Decidable (rl.Admissible c)
  | .check m _ _ => inferInstanceAs (Decidable (rl.state.Enumerates m.order ∧ m.now ≤ m.born))
  | .drain order => inferInstanceAs (Decidable (rl.state.Enumerates order))

/-- The limiter as a machine over its calls. -/
def machine : Machine RateLimiter Call Reply := ⟨call, Admissible⟩

instance (rl : RateLimiter) (c : Call) : Decidable (machine.ok rl c) :=
  inferInstanceAs (Decidable (rl.Admissible c))

@[simp] lemma machine_step (rl : RateLimiter) (c : Call) : machine.step rl c = rl.call c := rfl

@[simp] lemma machine_ok (rl : RateLimiter) (c : Call) :
    machine.ok rl c = rl.Admissible c := rfl

@[simp] lemma check_config (rl : RateLimiter) (m : Moment) (key : Key) (severity : Severity) :
    (rl.check m key severity).1.config = rl.config := rfl

/-- No call changes the configuration. -/
@[simp] lemma call_config (rl : RateLimiter) (c : Call) : (rl.call c).1.config = rl.config := by
  cases c <;> rfl

lemma after_config (rl : RateLimiter) (cs : List Call) :
    (machine.after rl cs).config = rl.config := by
  induction cs generalizing rl with
  | nil => rfl
  | cons c cs ih => rw [Machine.after_cons, ih, machine_step, call_config]

end RateLimiter

end Kernelradar
