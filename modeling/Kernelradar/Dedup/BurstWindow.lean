import Kernelradar.Dedup.Answers

/-!
When a burst is noticed.

The burst counter of an entry starts again with the first check that finds its
window over, wherever the burst stands.

* `Running`: what the entry knows of a run: the checks its burst window counts,
  the one that opened it first, and that the threshold was answered `Burst`;
* `running_next`, `running_after`: the invariant along a run;
* `burst_answered`: a burst is answered where all its checks are counted by the
  same window;
* `burst_split`: it can be missed otherwise.
-/

namespace Kernelradar

open Library

namespace KeyState

variable {cfg : RateLimitConfig} {now : Instant} {severity : Severity} {st : KeyState}

/-- A check that counts up to the threshold is answered `Burst`, over the limit or
not. -/
lemma check_of_count (h : (check cfg now severity st).1.burstCount = cfg.burstThreshold) :
    (check cfg now severity st).2 = .burst := by
  rcases check_cases cfg now severity st with ⟨-, hc⟩ | ⟨-, -, hc⟩ | ⟨-, hb, hc⟩
  · rw [hc] at h ⊢
    have hb : burstTriggered cfg (rolled cfg now severity st) = true := decide_eq_true h
    rw [if_pos hb]
  · rw [hc]
  · rw [hc] at h
    rw [burstTriggered, decide_eq_false_iff_not] at hb
    exact absurd h hb

end KeyState

/-- An instant less than `n` after another. -/
lemma lt_add_of_toNat_lt {a b : ℤ} {n : ℕ} (h : (a - b).toNat < n) : a < b + n := by
  omega

/-- Counting one more on a saturated count. -/
lemma min_succ_min (n max : ℕ) : min (min (n + 1) max + 1) max = min (n + 1 + 1) max := by
  omega

/-- A count in range is not saturated. -/
lemma min_eq_of_threshold {n threshold max : ℕ} (h : n = threshold) (hmax : threshold ≤ max) :
    min n max = threshold := by
  omega

namespace RateLimiter

variable {cfg : RateLimitConfig}

/-- The checks an entry's burst window counts: all after the one that opened it,
which either found the window before it over or made the entry. -/
structure Window (cfg : RateLimitConfig) (tr : List (Probe × Answer)) (st : KeyState)
    (old : List (Probe × Answer)) (first : Probe × Answer) (more : List (Probe × Answer)) :
    Prop where
  split : tr = old ++ first :: more
  inside : ∀ y ∈ more, y.2.restarts = false ∧ y.2.now < st.burstStart + cfg.burstWindow
  opened : first.2.restarts = true ∧ st.burstStart = first.2.now ∨
    old = [] ∧ st.burstStart = first.1.born
  count : st.burstCount = min (more.length + 1) KeyState.u32Max
  hit : ∀ y, (first :: more)[cfg.burstThreshold - 1]? = some y → y.2.decision = .burst

/-- What the entry of a key knows of its checks so far. -/
def Running (cfg : RateLimitConfig) (tr : List (Probe × Answer)) : Option KeyState → Prop
  | none => tr = []
  | some st => ∃ old first more, Window cfg tr st old first more

section Next

variable {tr : List (Probe × Answer)} {st : KeyState} {p : Probe}

/-- A check opens a window. -/
lemma Window.opening (hpos : 0 < cfg.burstThreshold) (hmax : cfg.burstThreshold ≤ KeyState.u32Max)
    (hopened : (answerOf cfg st p).restarts = true ∧
      (st.check cfg p.now p.severity).1.burstStart = p.now ∨
      tr = [] ∧ (st.check cfg p.now p.severity).1.burstStart = p.born)
    (hcount : (st.check cfg p.now p.severity).1.burstCount = min (0 + 1) KeyState.u32Max) :
    Window cfg (tr ++ [(p, answerOf cfg st p)]) (st.check cfg p.now p.severity).1 tr
      (p, answerOf cfg st p) [] where
  split := rfl
  inside := fun y hy => absurd hy List.not_mem_nil
  opened := hopened
  count := hcount
  hit := by
    -- it hits a threshold of one
    intro y hy
    obtain ⟨hlt, rfl⟩ := List.getElem?_eq_some_iff.mp hy
    rw [List.length_singleton] at hlt
    rw [List.getElem_singleton]
    exact KeyState.check_of_count (hcount.trans (min_eq_of_threshold (by omega) hmax))

/-- A check is counted by the running window. -/
lemma Window.counting (hpos : 0 < cfg.burstThreshold) (hmax : cfg.burstThreshold ≤ KeyState.u32Max)
    {old more : List (Probe × Answer)} {first : Probe × Answer}
    (hw : Window cfg tr st old first more)
    (hover : ¬cfg.burstWindow ≤ p.now.durationSince st.burstStart)
    (hstart : (st.check cfg p.now p.severity).1.burstStart = st.burstStart)
    (hcount : (st.check cfg p.now p.severity).1.burstCount
      = min (st.burstCount + 1) KeyState.u32Max) :
    Window cfg (tr ++ [(p, answerOf cfg st p)]) (st.check cfg p.now p.severity).1 old first
      (more ++ [(p, answerOf cfg st p)]) where
  split := by rw [hw.split, List.append_assoc, List.cons_append]
  inside := by
    intro y hy
    rw [hstart]
    rcases List.mem_append.mp hy with hold | hlast
    · exact hw.inside y hold
    · rw [List.mem_singleton.mp hlast]
      exact ⟨decide_eq_false hover, lt_add_of_toNat_lt (not_le.mp hover)⟩
  opened := by
    rw [hstart]
    exact hw.opened
  count := by rw [hcount, hw.count, List.length_append, List.length_singleton, min_succ_min]
  hit := by
    intro y hy
    rw [← List.cons_append] at hy
    rcases Nat.lt_or_ge (cfg.burstThreshold - 1) (first :: more).length with hlt | hge
    · rw [List.getElem?_append_left hlt] at hy
      exact hw.hit y hy
    · rw [List.getElem?_append_right hge] at hy
      obtain ⟨hlt, rfl⟩ := List.getElem?_eq_some_iff.mp hy
      rw [List.length_singleton, List.length_cons] at hlt
      rw [List.length_cons] at hge
      rw [List.getElem_singleton]
      refine KeyState.check_of_count (hcount.trans ?_)
      rw [hw.count, min_succ_min]
      exact min_eq_of_threshold (by omega) hmax

end Next

/-- One more check: it opens a window or is counted by the running one. -/
lemma running_next (hpos : 0 < cfg.burstThreshold) (hmax : cfg.burstThreshold ≤ KeyState.u32Max)
    {tr : List (Probe × Answer)} {o : Option KeyState} (h : Running cfg tr o) (p : Probe) :
    Running cfg (tr ++ [(p, answerOf cfg (o.getD (KeyState.new p.severity p.born)) p)])
      (soloStep cfg o p).1 := by
  obtain ⟨st, hst⟩ : ∃ st, st = o.getD (KeyState.new p.severity p.born) := ⟨_, rfl⟩
  have hstep : (soloStep cfg o p).1 = some (st.check cfg p.now p.severity).1 := by
    rw [hst]
    rfl
  obtain ⟨hstart, hcount⟩ := KeyState.check_burst cfg p.now p.severity st
  rw [hstep, ← hst]
  by_cases hover : cfg.burstWindow ≤ p.now.durationSince st.burstStart
  · rw [if_pos hover] at hstart hcount
    exact ⟨tr, _, [], .opening hpos hmax (Or.inl ⟨decide_eq_true hover, hstart⟩) hcount⟩
  · rw [if_neg hover] at hstart hcount
    cases o with
    | none =>
        obtain rfl : tr = [] := h
        rw [Option.getD_none] at hst
        rw [hst] at hstart hcount ⊢
        exact ⟨[], _, [], .opening hpos hmax (Or.inr ⟨rfl, hstart⟩) hcount⟩
    | some st' =>
        obtain rfl : st = st' := hst
        obtain ⟨old, first, more, hw⟩ := h
        exact ⟨old, first, _, hw.counting hpos hmax hover hstart hcount⟩

/-- The invariant along the run of an entry. -/
lemma running_after (hpos : 0 < cfg.burstThreshold) (hmax : cfg.burstThreshold ≤ KeyState.u32Max)
    (ps : List Probe) :
    Running cfg ((answering cfg).trace none ps) ((answering cfg).after none ps) :=
  have hstart : Running cfg [] none := rfl
  (answering cfg).history (P := Running cfg) hstart
    (fun _ _ p h _ => running_next hpos hmax h p) (answering_valid cfg none ps)

/-- After a check there is a running window. -/
lemma Running.exists_window {tr : List (Probe × Answer)} {o : Option KeyState}
    (h : Running cfg tr o) (hne : tr ≠ []) :
    ∃ st old first more, Window cfg tr st old first more := by
  cases o with
  | none => exact absurd h hne
  | some st => exact ⟨st, h⟩

/-- A window with fewer checks than the end of a list was opened by one of them,
but not by the first. -/
lemma mem_tail_of_short {α : Type} {old more pre span : List α} {first : α}
    (h : old ++ first :: more = pre ++ span) (hshort : more.length + 1 < span.length) :
    first ∈ span.tail := by
  have hlen : pre.length + span.length = old.length + (more.length + 1) := by
    rw [← List.length_append, ← h, List.length_append, List.length_cons]
  have hget : (pre ++ span)[old.length]? = some first := by
    rw [← h, List.getElem?_append_right (le_refl _), Nat.sub_self, List.getElem?_cons_zero]
  rw [List.getElem?_append_right (by omega)] at hget
  have htail : span.tail[old.length - pre.length - 1]? = some first := by
    rw [List.getElem?_tail, Nat.sub_add_cancel (by omega)]
    exact hget
  exact List.mem_of_getElem? htail

/-- Every answer carries the time of its check. -/
lemma now_of_mem_trace (cfg : RateLimitConfig) (ps : List Probe) : ∀ {o : Option KeyState},
    ∀ z ∈ (answering cfg).trace o ps, z.2.now = z.1.now := by
  induction ps with
  | nil => exact fun _ h => absurd h (by simp)
  | cons p ps ih =>
      intro o z hz
      rcases List.mem_cons.mp hz with rfl | hz'
      · rfl
      · exact ih z hz'

section Span

variable {tr pre span old more : List (Probe × Answer)} {st : KeyState} {first : Probe × Answer}

/-- A window counts the end of a run where no check but the first one restarts the
count. -/
lemma Window.covers (hw : Window cfg tr st old first more) (hsplit : tr = pre ++ span)
    (hone : ∀ a ∈ span.tail, a.2.restarts = false) : span.length ≤ more.length + 1 := by
  by_contra hshort
  rw [not_le] at hshort
  rcases hw.opened with ⟨hrestarts, -⟩ | ⟨rfl, -⟩
  · have hmem := mem_tail_of_short (hw.split.symm.trans hsplit) hshort
    rw [hone _ hmem] at hrestarts
    cases hrestarts
  · have htotal := congrArg List.length (hw.split.symm.trans hsplit)
    rw [List.nil_append, List.length_cons, List.length_append] at htotal
    omega

/-- A window with enough checks has one that hit the threshold: the first of them or
one after it. -/
lemma Window.exists_hit (hpos : 0 < cfg.burstThreshold) (hw : Window cfg tr st old first more)
    (hcounted : cfg.burstThreshold ≤ more.length + 1)
    (hmore : ∀ y ∈ more, first.1.born ≤ y.1.now) :
    ∃ y ∈ first :: more, y.2.decision = .burst ∧
      (y = first ∧ cfg.burstThreshold = 1 ∨ first.1.born ≤ y.1.now) := by
  have hlt : cfg.burstThreshold - 1 < (first :: more).length := by
    rw [List.length_cons]
    omega
  obtain ⟨y, hy⟩ : ∃ y, (first :: more)[cfg.burstThreshold - 1]? = some y :=
    ⟨_, List.getElem?_eq_getElem hlt⟩
  refine ⟨y, List.mem_of_getElem? hy, hw.hit y hy, ?_⟩
  rcases Nat.eq_zero_or_pos (cfg.burstThreshold - 1) with hzero | hsucc
  · rw [hzero, List.getElem?_cons_zero] at hy
    exact Or.inl ⟨(Option.some.inj hy).symm, by omega⟩
  · obtain ⟨n, hn⟩ := Nat.exists_eq_succ_of_ne_zero hsucc.ne'
    rw [hn, List.getElem?_cons_succ] at hy
    exact Or.inr (hmore y (List.mem_of_getElem? hy))

/-- The burst of a span that one window counts, for an entry on its own. -/
lemma burst_of_window (hpos : 0 < cfg.burstThreshold) (hw : Window cfg tr st old first more)
    (hsplit : tr = pre ++ span) (hlen : span.length = cfg.burstThreshold)
    (hnow : ∀ z ∈ tr, z.2.now = z.1.now) (hborn : ∀ z ∈ tr, z.1.now ≤ z.1.born)
    (horder : tr.Pairwise fun x y => x.1.born ≤ y.1.now)
    (hspan : ∀ a ∈ span, ∀ b ∈ span, b.2.now < a.2.now + cfg.burstWindow)
    (hone : ∀ a ∈ span.tail, a.2.restarts = false)
    (hgap : cfg.burstThreshold = 1 → ∀ z ∈ tr.head?, ∀ b ∈ span,
      b.2.now < z.1.now + cfg.burstWindow ∨ z.1.born + cfg.burstWindow ≤ b.2.now) :
    ∃ a ∈ tr, a.2.decision = .burst ∧ ∀ b ∈ span, b.2.now < a.2.now + cfg.burstWindow := by
  have hmem : ∀ z ∈ first :: more, z ∈ tr := by
    intro z hz
    rw [hw.split]
    exact List.mem_append_right old hz
  rw [hw.split, List.pairwise_append, List.pairwise_cons] at horder
  obtain ⟨-, ⟨hmore, -⟩, hold⟩ := horder
  have hcounted : cfg.burstThreshold ≤ more.length + 1 := hlen ▸ hw.covers hsplit hone
  obtain ⟨y, hy, hburst, hfirst⟩ := hw.exists_hit hpos hcounted hmore
  have hyt : y.2.now = y.1.now := hnow y (hmem y hy)
  have hle : first.2.now ≤ y.2.now := by
    rcases hfirst with ⟨rfl, -⟩ | hafter
    · exact le_rfl
    · rw [hnow _ (hmem first List.mem_cons_self), hyt]
      exact (hborn _ (hmem first List.mem_cons_self)).trans hafter
  refine ⟨y, hmem y hy, hburst, fun b hb => ?_⟩
  have hself := hspan b hb b hb
  have hbt : b ∈ tr := by
    rw [hsplit]
    exact List.mem_append_right pre hb
  have hbtr : b ∈ old ++ first :: more := hw.split ▸ hbt
  rcases List.mem_append.mp hbtr with hbold | hbnew
  · -- counted by an earlier window
    have hbefore : b.2.now ≤ y.2.now := by
      rw [hnow b hbt, hyt]
      exact (hborn b hbt).trans (hold b hbold y hy)
    linarith
  · rcases List.mem_cons.mp hbnew with rfl | hbmore
    · linarith
    · have hinside := (hw.inside b hbmore).2
      rcases hw.opened with ⟨-, hstart⟩ | ⟨rfl, hstart⟩
      · linarith
      · rw [hstart] at hinside
        rw [hyt]
        rcases hfirst with ⟨rfl, hthreshold⟩ | hafter
        · have hhead : y ∈ tr.head? := by rw [hw.split]; rfl
          rcases hgap hthreshold y hhead b hb with hbefore | hpast
          · exact hbefore
          · exact absurd hinside (not_lt.mpr hpast)
        · linarith

end Span

/-- **Bursts inside one window**: for a kept key, from its first check on, when
`burst_threshold` checks in a row come within less than `burst_window` and none but
the first of them finds the burst window over, a check less than `burst_window`
before the last is answered `Burst`. A threshold of one also needs that no check
comes when the entry's first window is over by the clock of the check that made the
entry, and not yet by the clock of the entry itself. -/
theorem burst_answered (rl : RateLimiter) (cs : List Call) (k : Key)
    (pre span post : List Answer) (hvalid : machine.Valid rl cs)
    (hkeep : machine.Along (Keeps k) rl cs) (hfirst : rl.state.get k = none)
    (horder : (probes k cs).Pairwise fun p q => p.born ≤ q.now)
    (hsplit : answers k rl cs = pre ++ span ++ post) (hpos : 1 ≤ rl.config.burstThreshold)
    (hmax : rl.config.burstThreshold < 2 ^ 32) (hlen : span.length = rl.config.burstThreshold)
    (hspan : ∀ a ∈ span, ∀ b ∈ span, b.now < a.now + rl.config.burstWindow)
    (hone : ∀ a ∈ span.tail, a.restarts = false)
    (hgap : rl.config.burstThreshold = 1 → ∀ p ∈ (probes k cs).head?, ∀ b ∈ span,
      b.now < p.now + rl.config.burstWindow ∨ p.born + rl.config.burstWindow ≤ b.now) :
    ∃ a ∈ pre ++ span, a.decision = .burst ∧
      ∀ b ∈ span, b.now < a.now + rl.config.burstWindow := by
  rw [answers_eq_of_first hfirst hkeep] at hsplit
  have houts := (answering rl.config).outs_take_of_append hsplit
  have hle : rl.config.burstThreshold ≤ KeyState.u32Max := Nat.le_sub_one_of_lt hmax
  have hrunning := running_after hpos hle ((probes k cs).take (pre ++ span).length)
  have hfst := (answering rl.config).trace_map_fst
    ((probes k cs).take (pre ++ span).length) none
  have hnow := now_of_mem_trace rl.config ((probes k cs).take (pre ++ span).length) (o := none)
  rw [Machine.outs] at houts
  generalize (answering rl.config).trace none ((probes k cs).take (pre ++ span).length) = tr
    at houts hrunning hfst hnow
  obtain ⟨trPre, trSpan, rfl, rfl, rfl⟩ := List.map_eq_append_iff.mp houts
  rw [List.length_map] at hlen
  have hne : trPre ++ trSpan ≠ [] := fun hnil => by
    rw [(List.append_eq_nil_iff.mp hnil).2, List.length_nil] at hlen
    omega
  obtain ⟨st, old, first, more, hw⟩ := hrunning.exists_window hne
  obtain ⟨rest, hrest⟩ : (trPre ++ trSpan).map Prod.fst <+: probes k cs :=
    hfst ▸ List.take_prefix _ _
  have hborn : ∀ z ∈ trPre ++ trSpan, z.1.now ≤ z.1.born := by
    intro z hz
    refine probes_now_le (k := k) hvalid z.1 ?_
    rw [← hrest]
    exact List.mem_append_left _ (List.mem_map_of_mem hz)
  rw [← hrest] at horder hgap
  have htrorder := List.pairwise_map.mp (List.pairwise_append.mp horder).1
  have hhead : ∀ z ∈ (trPre ++ trSpan).head?,
      z.1 ∈ ((trPre ++ trSpan).map Prod.fst ++ rest).head? := by
    intro z hz
    obtain ⟨t, ht⟩ := List.head?_eq_some_iff.mp hz
    rw [ht]
    rfl
  obtain ⟨y, hy, hburst, hlast⟩ := burst_of_window hpos hw rfl hlen hnow hborn htrorder
    (fun a ha b hb => hspan a.2 (List.mem_map_of_mem ha) b.2 (List.mem_map_of_mem hb))
    (fun a ha => hone a.2 (List.map_tail ▸ List.mem_map_of_mem ha))
    (fun h z hz b hb => hgap h z.1 (hhead z hz) b.2 (List.mem_map_of_mem hb))
  refine ⟨y.2, ?_, hburst, fun b hb => ?_⟩
  · rw [← List.map_append]
    exact List.mem_map_of_mem hy
  · obtain ⟨z, hz, rfl⟩ := List.mem_map.mp hb
    exact hlast z hz

/-- Two checks that make a burst. -/
theorem burst_answered_two :
    let cfg := { RateLimitConfig.default with burstThreshold := 2 }
    let a : Key := ⟨"fim", "a", 1⟩
    let cs := [Call.check ⟨0, 0, []⟩ a .alert, .check ⟨1, 1, [a]⟩ a .alert]
    let span := answers a (new cfg) cs
    ∃ x ∈ [] ++ span, x.decision = .burst ∧ ∀ b ∈ span, b.now < x.now + cfg.burstWindow := by
  intro cfg a cs span
  exact burst_answered (new cfg) cs a [] span [] (by decide) (by decide) rfl (by decide)
    (List.append_nil _).symm (by decide) (by decide) (by decide) (by decide) (by decide)
    (by decide)

/-- A burst of three within a fifth of a second goes unnoticed where the window of
the first check is over with the second of them. -/
theorem burst_split :
    ¬ ∀ (cfg : RateLimitConfig) (cs : List Call) (k : Key) (pre span post : List Answer),
      machine.Valid (new cfg) cs → machine.Along (Keeps k) (new cfg) cs →
      ((probes k cs).Pairwise fun p q => p.born ≤ q.now) →
      answers k (new cfg) cs = pre ++ span ++ post → 1 ≤ cfg.burstThreshold →
      span.length = cfg.burstThreshold →
      (∀ a ∈ span, ∀ b ∈ span, b.now < a.now + cfg.burstWindow) →
      ∃ a ∈ pre ++ span, a.decision = .burst ∧ ∀ b ∈ span, b.now < a.now + cfg.burstWindow := by
  intro h
  let cfg := { RateLimitConfig.default with burstThreshold := 3 }
  let a : Key := ⟨"fim", "a", 1⟩
  let cs := [Call.check ⟨0, 0, []⟩ a .alert, .check ⟨900000000, 900000000, [a]⟩ a .alert,
    .check ⟨1000000000, 1000000000, [a]⟩ a .alert, .check ⟨1100000000, 1100000000, [a]⟩ a .alert]
  have hrun := h cfg cs a ((answers a (new cfg) cs).take 1) ((answers a (new cfg) cs).drop 1) []
    (by decide) (by decide) (by decide) (by decide) (by decide) (by decide) (by decide)
  exact absurd hrun (by decide)

end RateLimiter

end Kernelradar
