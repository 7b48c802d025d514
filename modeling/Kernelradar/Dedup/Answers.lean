import Kernelradar.Dedup.Rate

/-!
What the checks of one key find and get.

* `Answer`, `answerOf`: a check of an entry, with the windows it finds over, the
  branch it takes and the decision;
* `answers`: the answers to the checks of a key in a run of the limiter;
* `answering`: the machine of one entry with answers as outputs;
  `answers_eq_answering`: while the key is kept, a run shows the same answers.
-/

namespace Kernelradar

open Library

namespace RateLimiter

/-- One answered check: when it came, whether it found the sliding window and the
burst window over and the cap reached, and what it got. -/
structure Answer where
  now : Instant
  reopens : Bool
  restarts : Bool
  full : Bool
  within : Bool
  decision : Decision
  deriving DecidableEq

/-- The answer an entry gives to a check. -/
def answerOf (cfg : RateLimitConfig) (st : KeyState) (p : Probe) : Answer where
  now := p.now
  reopens := cfg.window ≤ p.now.durationSince st.windowStart
  restarts := cfg.burstWindow ≤ p.now.durationSince st.burstStart
  full := cfg.windowMax ≤ (KeyState.rolled cfg p.now p.severity st).windowCount
  within := KeyState.admits cfg p.now p.severity st
  decision := (st.check cfg p.now p.severity).2

/-- The answer a call gets, if it is a check of `k`. -/
def answerTo (k : Key) (rl : RateLimiter) : Call → Option Answer
  | .check m key severity =>
      if key = k then
        some (answerOf rl.config (rl.entryOf m key severity) ⟨m.now, m.born, severity⟩)
      else none
  | .drain _ => none

/-- The answers to the checks of `k` in a run. -/
def answers (k : Key) : RateLimiter → List Call → List Answer
  | _, [] => []
  | rl, c :: cs => (answerTo k rl c).toList ++ answers k (rl.call c).1 cs

/-- The machine of one map entry, with its answers. -/
def answering (cfg : RateLimitConfig) : Machine (Option KeyState) Probe Answer where
  step o p := ((soloStep cfg o p).1, answerOf cfg (o.getD (KeyState.new p.severity p.born)) p)
  ok _ _ := True

@[simp] lemma answering_step (cfg : RateLimitConfig) (o : Option KeyState) (p : Probe) :
    (answering cfg).step o p =
      ((soloStep cfg o p).1, answerOf cfg (o.getD (KeyState.new p.severity p.born)) p) := rfl

lemma answering_valid (cfg : RateLimitConfig) (o : Option KeyState) (ps : List Probe) :
    (answering cfg).Valid o ps := Machine.valid_of_ok _ (fun _ _ => trivial) ps o

/-- The suppression counter has no influence on an answer. -/
lemma answerOf_forget (cfg : RateLimitConfig) (st : KeyState) (p : Probe) :
    answerOf cfg st.forget p = answerOf cfg st p := by
  have hrolled := KeyState.rolled_forget cfg p.now p.severity st
  have hdecision := (KeyState.check_forget cfg p.now p.severity st).1
  rw [answerOf, answerOf, KeyState.admits, KeyState.admits, hrolled, hdecision]
  rfl

/-- Entries that agree up to the suppression counter give the same answer. -/
lemma answerOf_agrees (cfg : RateLimitConfig) {o o' : Option KeyState} (p : Probe)
    (h : o.map KeyState.forget = o'.map KeyState.forget) :
    answerOf cfg (o.getD (KeyState.new p.severity p.born)) p
      = answerOf cfg (o'.getD (KeyState.new p.severity p.born)) p := by
  rw [← answerOf_forget, ← answerOf_forget cfg (o'.getD _)]
  cases o <;> cases o' <;> simp_all

/-- The answer to a check of `k` is the one its entry gives alone. -/
lemma answerTo_eq {k : Key} {rl : RateLimiter} {o : Option KeyState} (h : Agrees k rl o)
    (c : Call) : answerTo k rl c = (probeOf k c).map fun p =>
      answerOf rl.config (o.getD (KeyState.new p.severity p.born)) p := by
  cases c with
  | drain order => rfl
  | check m key severity =>
      rw [answerTo, probeOf]
      split_ifs with hkey
      · subst hkey
        have hanswer := answerOf_agrees rl.config ⟨m.now, m.born, severity⟩ h
        rw [← get_evict_self rl m.order key] at hanswer
        rw [entryOf, hanswer, Option.map_some]
      · rfl

/-- **Projection of the answers**: while a key is kept, its checks find and get
what they would find and get if the entry were alone. -/
theorem answers_eq_answering {k : Key} : ∀ {cs : List Call} {rl : RateLimiter}
    {o : Option KeyState}, Agrees k rl o → machine.Along (Keeps k) rl cs →
    answers k rl cs = (answering rl.config).outs o (probes k cs) := by
  intro cs
  induction cs with
  | nil => exact fun _ _ => rfl
  | cons c cs ih =>
      intro rl o h hkeep
      rw [answers, probes, answerTo_eq h]
      rcases call_agrees h hkeep.1 with ⟨p, hprobe, hagrees, -⟩ | ⟨hprobe, hagrees, -⟩
      · have hrest := ih hagrees hkeep.2
        rw [call_config] at hrest
        rw [List.filterMap_cons_some hprobe, hrest, hprobe, Machine.outs_cons]
        rfl
      · have hrest := ih hagrees hkeep.2
        rw [call_config] at hrest
        rw [List.filterMap_cons_none hprobe, hrest, hprobe]
        rfl

/-- The same from the first check of the key on. -/
lemma answers_eq_of_first {k : Key} {rl : RateLimiter} {cs : List Call}
    (hfirst : rl.state.get k = none) (hkeep : machine.Along (Keeps k) rl cs) :
    answers k rl cs = (answering rl.config).outs none (probes k cs) :=
  answers_eq_answering (by rw [Agrees, hfirst]) hkeep

end RateLimiter

end Kernelradar
