import Kernelradar.Baseline.History

/-!
`kernelradar baseline reset` next to running daemons.

The file at `save_path` is shared by all processes; every daemon has a copy of its
own in memory. Events are numbered, and every pair is kept with the numbers of the
events it has counted.

* `Sourced`, `Disk`: a baseline in memory and on disk, with its events;
* `counted_after`: the numbers kept with a pair are what its total counts;
* `Host`, `step`: daemons that start, record, save in two steps and stop, and the
  reset, in any order;
* `reset_forgets`: runs in which every reset finds no daemon with statistics;
* `reset_undone`: a run in which one does.
-/

namespace Kernelradar

open Library

namespace Baseline

variable {F : Type}

/-- A baseline with the numbers of the events every pair has counted since it was
last created. -/
structure Sourced (F : Type) where
  base : Baseline F
  sources : Text → List ℕ

/-- What is found at a path, with the same numbers. -/
structure Disk (F : Type) where
  file : File F
  sources : Text → List ℕ

/-- No file. -/
def Disk.none : Disk F := ⟨.missing, fun _ => []⟩

/-- There are statistics of the event. -/
def Sourced.Holds (s : Sourced F) (id : ℕ) : Prop := ∃ k ∈ s.base.pairs.dom, id ∈ s.sources k

/-- There are statistics of the event. -/
def Disk.Holds (d : Disk F) (id : ℕ) : Prop :=
  ∃ saved, d.file = .baseline saved ∧ ∃ k ∈ saved.pairs.dom, id ∈ d.sources k

/-- What `save` writes. -/
def Sourced.save (s : Sourced F) : Disk F := ⟨s.base.save, s.sources⟩

/-- `load_or_default`; the file may be there and not readable. -/
def Disk.load (d : Disk F) (config : BaselineConfig F) (now : DateTime) (readable : Bool) :
    Sourced F :=
  ⟨loadOrDefault config now (if readable then d.file else .unreadable), d.sources⟩

variable [F64 F]

/-- `record_and_score` for the event with number `id`. -/
def Sourced.record (s : Sourced F) (id : ℕ) (c : Call) : Sourced F :=
  match s.base.evict c.now c.order with
  | none => s
  | some b =>
      ⟨(s.base.recordAndScore c).1, fun k =>
        (if k ∈ b.pairs.dom then s.sources k else []) ++
          if k = key c.detector c.comm then [id] else []⟩

/-- Recording an event adds its number, and no other. -/
lemma Sourced.holds_record {s : Sourced F} {id j : ℕ} {c : Call} (h : (s.record id c).Holds j) :
    s.Holds j ∨ j = id := by
  rw [record] at h
  cases hev : s.base.evict c.now c.order with
  | none =>
      rw [hev] at h
      exact Or.inl h
  | some b =>
      rw [hev] at h
      obtain ⟨k, -, hj⟩ := h
      rcases List.mem_append.mp hj with hold | hnew
      · split_ifs at hold with hk
        · have hget := pairs_evict hev hk
          obtain ⟨st, hst⟩ := Table.exists_get_of_mem hk
          exact Or.inl ⟨k, Table.mem_dom_of_get (hget.symm.trans hst), hold⟩
        · cases hold
      · split_ifs at hnew
        · exact Or.inr (List.mem_singleton.mp hnew)
        · cases hnew

omit [F64 F] in
@[simp] lemma Sourced.holds_save (s : Sourced F) (id : ℕ) : s.save.Holds id ↔ s.Holds id := by
  constructor
  · rintro ⟨saved, hsaved, h⟩
    cases hsaved
    exact h
  · exact fun h => ⟨_, rfl, h⟩

omit [F64 F] in
/-- What is loaded: nothing, or the pairs of the file. -/
lemma Disk.load_cases (d : Disk F) (config : BaselineConfig F) (now : DateTime)
    (readable : Bool) : (d.load config now readable).base.pairs = Table.empty ∨
      ∃ saved, d.file = .baseline saved ∧
        (d.load config now readable).base.pairs = saved.pairs := by
  rw [load]
  cases readable with
  | false => exact Or.inl rfl
  | true =>
      cases d.file with
      | missing => exact Or.inl rfl
      | unreadable => exact Or.inl rfl
      | corrupted => exact Or.inl rfl
      | baseline saved => exact Or.inr ⟨saved, rfl, rfl⟩

omit [F64 F] in
lemma Disk.holds_load {d : Disk F} {config : BaselineConfig F} {now : DateTime} {readable : Bool}
    {id : ℕ} (h : (d.load config now readable).Holds id) : d.Holds id := by
  obtain ⟨k, hk, hid⟩ := h
  rcases d.load_cases config now readable with hnone | ⟨saved, hfile, hpairs⟩
  · rw [hnone] at hk
    exact absurd hk (Finset.notMem_empty k)
  · rw [hpairs] at hk
    exact ⟨saved, hfile, k, hk, hid⟩

omit [F64 F] in
lemma Disk.not_holds_none (id : ℕ) : ¬(Disk.none : Disk F).Holds id := by
  rintro ⟨saved, hsaved, -⟩
  cases hsaved

/-- The numbers kept with the pairs are what their totals count. -/
def Counted (pairs : Table Text (PairStats F)) (sources : Text → List ℕ) : Prop :=
  ∀ k st, pairs.get k = some st → st.total = min (sources k).length (2 ^ 64 - 1)

/-- Flushing an observation counts no event. -/
lemma flush_total (stats : PairStats F) (alpha : F) (o : Option (Fin 24 × ℕ)) :
    (flush stats alpha o).total = stats.total := by
  cases o <;> rfl

/-- Recording keeps the count. -/
lemma counted_record {s : Sourced F} (h : Counted s.base.pairs s.sources) (id : ℕ) (c : Call) :
    Counted (s.record id c).base.pairs (s.record id c).sources := by
  rw [Sourced.record]
  cases hev : s.base.evict c.now c.order with
  | none => exact h
  | some b =>
      have hpairs : (s.base.recordAndScore c).1 = b.record c.now (key c.detector c.comm) :=
        congrArg Prod.fst (recordAndScore_of_evict hev)
      intro k st hst
      dsimp only at hst ⊢
      rw [hpairs] at hst
      by_cases hk : k = key c.detector c.comm
      · subst hk
        rw [if_pos rfl, List.length_append, List.length_singleton]
        have hst' := Option.some.inj ((pairs_record_self _ _ _).symm.trans hst)
        rw [← hst', flush_total, touch]
        cases hget : b.pairs.get (key c.detector c.comm) with
        | none =>
            rw [if_neg (Table.get_eq_none.mp hget)]
            rfl
        | some old =>
            have hmem := Table.mem_dom_of_get hget
            have hold := h _ old ((pairs_evict hev hmem).symm.trans hget)
            rw [if_pos hmem, Option.getD_some]
            dsimp only
            rw [hold, satAdd]
            omega
      · rw [if_neg hk, List.append_nil]
        have hold : b.pairs.get k = some st := (pairs_record_of_ne _ _ hk).symm.trans hst
        have hmem := Table.mem_dom_of_get hold
        rw [if_pos hmem]
        exact h k st ((pairs_evict hev hmem).symm.trans hold)

omit [F64 F] in
/-- So does loading. -/
lemma counted_load {d : Disk F} (h : ∀ saved, d.file = .baseline saved →
    Counted saved.pairs d.sources) (config : BaselineConfig F) (now : DateTime) (readable : Bool) :
    Counted (d.load config now readable).base.pairs (d.load config now readable).sources := by
  have hsources : (d.load config now readable).sources = d.sources := rfl
  rw [hsources]
  rcases d.load_cases config now readable with hnone | ⟨saved, hfile, hpairs⟩
  · rw [hnone]
    exact fun _ _ hst => by cases hst
  · rw [hpairs]
    exact h saved hfile

/-- A daemon: its copy of the baseline, and whether it is writing the temporary file
out; the copy is locked meanwhile. -/
structure Daemon (F : Type) where
  memory : Sourced F
  saving : Bool

/-- The daemons of a host, the file they share, its temporary file, the number of
events recorded so far, and how many there were at the last reset. -/
structure Host (F : Type) where
  daemon : ℕ → Option (Daemon F)
  file : Disk F
  tmp : Disk F
  events : ℕ
  since : ℕ

/-- What a process does next. -/
inductive Act (F : Type) where
  /-- `init_with_config`. -/
  | start (i : ℕ) (config : BaselineConfig F) (now : DateTime) (readable : Bool)
  /-- An event is recorded. -/
  | record (i : ℕ) (c : Call)
  /-- The first half of `save`, periodic or final: the temporary file. -/
  | write (i : ℕ)
  /-- The second half of `save`: the file. -/
  | rename (i : ℕ)
  /-- `save` returns an error. -/
  | fail (i : ℕ)
  /-- The process ends. -/
  | stop (i : ℕ)
  /-- `kernelradar baseline reset`, and whether it could remove the file. -/
  | reset (removed : Bool)

/-- The baseline an act loads or saves. -/
inductive Effect (F : Type) where
  | silent
  | loaded (memory : Sourced F)
  | saved (disk : Disk F)

/-- It has statistics of the event. -/
def Effect.Holds : Effect F → ℕ → Prop
  | .silent, _ => False
  | .loaded memory, id => memory.Holds id
  | .saved disk, id => disk.Holds id

namespace Host

/-- Nothing is running, nothing is stored. -/
def empty : Host F := ⟨fun _ => none, Disk.none, Disk.none, 0, 0⟩

/-- Daemon `i` becomes `d`. -/
def set (h : Host F) (i : ℕ) (d : Option (Daemon F)) : Host F :=
  { h with daemon := Function.update h.daemon i d }

/-- One act; an act of a daemon that is not running does nothing. -/
def step (h : Host F) : Act F → Host F × Effect F
  | .start i config now readable =>
      let memory := h.file.load config now readable
      (h.set i (some ⟨memory, false⟩), .loaded memory)
  | .record i c =>
      match h.daemon i with
      | none => (h, .silent)
      | some d =>
          ({ h.set i (some { d with memory := d.memory.record h.events c }) with
              events := h.events + 1 }, .silent)
  | .write i =>
      match h.daemon i with
      | none => (h, .silent)
      | some d =>
          ({ h.set i (some { d with saving := true }) with tmp := d.memory.save }, .silent)
  | .rename i =>
      match h.daemon i, h.tmp.file with
      | none, _ => (h, .silent)
      | some d, .missing => (h.set i (some { d with saving := false }), .silent)
      | some d, _ =>
          ({ h.set i (some { d with saving := false }) with file := h.tmp, tmp := Disk.none },
            .saved h.tmp)
  | .fail i => (h.set i ((h.daemon i).map fun d => { d with saving := false }), .silent)
  | .stop i => (h.set i none, .silent)
  | .reset removed =>
      ({ h with file := if removed then Disk.none else h.file, since := h.events }, .silent)

/-- A daemon starts once, and does not record while it saves. -/
def Admissible (h : Host F) : Act F → Prop
  | .start i _ _ _ => h.daemon i = none
  | .record i c => ∃ d, h.daemon i = some d ∧ d.saving = false ∧ d.memory.base.Admissible c
  | .write i => ∃ d, h.daemon i = some d ∧ d.saving = false
  | .rename i => ∃ d, h.daemon i = some d ∧ d.saving = true
  | .fail i => ∃ d, h.daemon i = some d ∧ d.saving = true
  | .stop i => ∃ d, h.daemon i = some d
  | .reset _ => True

/-- The host as a machine. -/
def machine : Machine (Host F) (Act F) (Effect F) := ⟨step, Admissible⟩

@[simp] lemma machine_step (h : Host F) (a : Act F) : machine.step h a = h.step a := rfl

/-- In memory, in the file and in the temporary file the totals count the events. -/
structure AllCounted (h : Host F) : Prop where
  memory : ∀ i d, h.daemon i = some d → Counted d.memory.base.pairs d.memory.sources
  file : ∀ saved, h.file.file = .baseline saved → Counted saved.pairs h.file.sources
  tmp : ∀ saved, h.tmp.file = .baseline saved → Counted saved.pairs h.tmp.sources

/-- What an act loads or saves has no statistics of events from before the last reset. -/
def Forgotten (h : Host F) (a : Act F) : Prop := ∀ id, (h.step a).2.Holds id → h.since ≤ id

/-- A reset finds no daemon with statistics, in memory or on their way to the file, and
leaves no file with statistics. -/
def Quiet (h : Host F) : Act F → Prop
  | .reset removed =>
      (∀ i d, h.daemon i = some d → ∀ id, ¬d.memory.Holds id ∧
        (d.saving = true → ¬h.tmp.Holds id)) ∧
        (removed = false → ∀ id, ¬h.file.Holds id)
  | _ => True

/-- Nothing that can still be loaded or saved is older than the last reset. -/
structure Clean (h : Host F) : Prop where
  counted : h.since ≤ h.events
  memory : ∀ i d, h.daemon i = some d → ∀ id, d.memory.Holds id → h.since ≤ id
  file : ∀ id, h.file.Holds id → h.since ≤ id
  tmp : ∀ i d, h.daemon i = some d → d.saving = true → ∀ id, h.tmp.Holds id → h.since ≤ id

omit [F64 F] in
lemma daemon_set {h : Host F} {i j : ℕ} {o : Option (Daemon F)} {d : Daemon F}
    (hd : (h.set i o).daemon j = some d) : o = some d ∨ h.daemon j = some d := by
  rw [set] at hd
  dsimp only at hd
  rw [Function.update_apply] at hd
  split_ifs at hd
  · exact Or.inl hd
  · exact Or.inr hd

/-- Daemon `i` after a save. -/
def saved (h : Host F) (i : ℕ) (d : Daemon F) : Host F := h.set i (some { d with saving := false })

/-- The second half of a save moves the temporary file, if it is still there. -/
lemma rename_cases {h : Host F} {i : ℕ} {d : Daemon F} (hi : h.daemon i = some d) :
    h.step (.rename i) = (h.saved i d, .silent) ∨
      h.step (.rename i)
        = ({ h.saved i d with file := h.tmp, tmp := Disk.none }, .saved h.tmp) := by
  rw [step, hi]
  cases h.tmp.file with
  | missing => exact Or.inl rfl
  | unreadable => exact Or.inr rfl
  | corrupted => exact Or.inr rfl
  | baseline saved => exact Or.inr rfl

/-- Every act keeps the count. -/
lemma allCounted_step {h : Host F} (hcounted : AllCounted h) (a : Act F) :
    AllCounted (h.step a).1 := by
  have hset : ∀ i o, (∀ d, o = some d → Counted d.memory.base.pairs d.memory.sources) →
      AllCounted (h.set i o) := fun i o ho =>
    ⟨fun j d hd => (daemon_set hd).elim (ho d) (hcounted.memory j d), hcounted.file,
      hcounted.tmp⟩
  cases a with
  | start i config now readable =>
      refine hset i _ fun d hd => ?_
      cases hd
      exact counted_load hcounted.file config now readable
  | record i c =>
      rw [step]
      cases hi : h.daemon i with
      | none => exact hcounted
      | some d =>
          have hnext := hset i (some { d with memory := d.memory.record h.events c })
            fun d' hd' => by
              cases hd'
              exact counted_record (hcounted.memory i d hi) h.events c
          exact ⟨hnext.memory, hnext.file, hnext.tmp⟩
  | write i =>
      rw [step]
      cases hi : h.daemon i with
      | none => exact hcounted
      | some d =>
          have hnext := hset i (some { d with saving := true }) fun d' hd' => by
            cases hd'
            exact hcounted.memory i d hi
          refine ⟨hnext.memory, hnext.file, fun saved hsaved => ?_⟩
          cases hsaved
          exact hcounted.memory i d hi
  | rename i =>
      cases hi : h.daemon i with
      | none =>
          rw [step, hi]
          exact hcounted
      | some d =>
          have hnext : AllCounted (h.saved i d) := hset i _ fun d' hd' => by
            cases hd'
            exact hcounted.memory i d hi
          rcases rename_cases hi with heq | heq
          · rw [heq]
            exact hnext
          · rw [heq]
            exact ⟨hnext.memory, hcounted.tmp, nofun⟩
  | fail i =>
      refine hset i _ fun d' hd' => ?_
      obtain ⟨d, hi, rfl⟩ := Option.map_eq_some_iff.mp hd'
      exact hcounted.memory i d hi
  | stop i => exact hset i none nofun
  | reset removed =>
      cases removed with
      | true => exact ⟨hcounted.memory, nofun, hcounted.tmp⟩
      | false => exact ⟨hcounted.memory, hcounted.file, hcounted.tmp⟩

/-- **The numbers are the statistics**: after any run, the total of every pair, in
memory or in a file, counts the events kept with it. -/
theorem counted_after {acts : List (Act F)} (hrun : machine.Valid (empty : Host F) acts) :
    AllCounted (machine.after (empty : Host F) acts) :=
  machine.invariant (I := AllCounted) (fun _ a h _ => allCounted_step h a)
    ⟨nofun, nofun, nofun⟩ hrun

omit [F64 F] in
/-- Changing a daemon whose copy is not older than the last reset. -/
lemma Clean.set {h : Host F} (hclean : Clean h) (i : ℕ) {o : Option (Daemon F)}
    (hmemory : ∀ d, o = some d → ∀ id, d.memory.Holds id → h.since ≤ id)
    (htmp : ∀ d, o = some d → d.saving = true → ∀ id, h.tmp.Holds id → h.since ≤ id) :
    Clean (h.set i o) where
  counted := hclean.counted
  memory := fun j d hd id hid => (daemon_set hd).elim (fun ho => hmemory d ho id hid)
    fun hj => hclean.memory j d hj id hid
  file := hclean.file
  tmp := fun j d hd hsaving id hid => (daemon_set hd).elim
    (fun ho => htmp d ho hsaving id hid) fun hj => hclean.tmp j d hj hsaving id hid

omit [F64 F] in
/-- After a save, done or failed, nothing of it is left to be moved. -/
lemma Clean.saved {h : Host F} (hclean : Clean h) {i : ℕ} {d : Daemon F}
    (hi : h.daemon i = some d) : Clean (h.saved i d) := by
  refine hclean.set i (fun d' hd' => ?_) fun d' hd' hsaving => ?_
  · cases hd'
    exact hclean.memory i d hi
  · cases hd'
    cases hsaving

/-- Every act keeps the host clean, a quiet reset included. -/
lemma clean_step {h : Host F} (hclean : Clean h) {a : Act F} (hok : Admissible h a)
    (hquiet : Quiet h a) : Clean (h.step a).1 := by
  cases a with
  | start i config now readable =>
      refine hclean.set i (fun d hd id hid => ?_) fun d hd hsaving => ?_
      · cases hd
        exact hclean.file id (Disk.holds_load hid)
      · cases hd
        cases hsaving
  | record i c =>
      obtain ⟨d, hi, hidle, -⟩ := hok
      have hset : Clean (h.set i (some { d with memory := d.memory.record h.events c })) := by
        refine hclean.set i (fun d' hd' id hid => ?_) fun d' hd' hsaving => ?_
        · cases hd'
          rcases Sourced.holds_record hid with hold | rfl
          · exact hclean.memory i d hi id hold
          · exact hclean.counted
        · cases hd'
          exact hclean.tmp i d hi hsaving
      rw [step, hi]
      exact ⟨hclean.counted.trans (Nat.le_succ _), hset.memory, hset.file, hset.tmp⟩
  | write i =>
      obtain ⟨d, hi, hidle⟩ := hok
      have hmemory := hclean.memory i d hi
      rw [step, hi]
      refine ⟨hclean.counted, fun j d' hd' => ?_, hclean.file, fun _ _ _ _ id hid => ?_⟩
      · rcases daemon_set hd' with hd' | hd'
        · cases hd'
          exact hmemory
        · exact hclean.memory j d' hd'
      · exact hmemory id (d.memory.holds_save id |>.mp hid)
  | rename i =>
      obtain ⟨d, hi, hsaving⟩ := hok
      have hset := hclean.saved hi
      rcases rename_cases hi with heq | heq
      · rw [heq]
        exact hset
      · rw [heq]
        exact ⟨hset.counted, hset.memory, hclean.tmp i d hi hsaving,
          fun _ _ _ _ id hid => absurd hid (Disk.not_holds_none id)⟩
  | fail i =>
      obtain ⟨d, hi, -⟩ := hok
      rw [step, hi]
      exact hclean.saved hi
  | stop i => exact hclean.set i nofun nofun
  | reset removed =>
      obtain ⟨hmemory, hfile⟩ := hquiet
      refine ⟨le_refl _, fun i d hd id hid => absurd hid (hmemory i d hd id).1, fun id hid => ?_,
        fun i d hd hsaving id hid => absurd hid ((hmemory i d hd id).2 hsaving)⟩
      cases removed with
      | true => exact absurd hid (Disk.not_holds_none id)
      | false => exact absurd hid (hfile rfl id)

/-- What a clean host loads or saves is not older than the last reset. -/
lemma forgotten_of_clean {h : Host F} (hclean : Clean h) {a : Act F} (hok : Admissible h a) :
    Forgotten h a := by
  intro id hid
  cases a with
  | start i config now readable => exact hclean.file id (Disk.holds_load hid)
  | rename i =>
      obtain ⟨d, hi, hsaving⟩ := hok
      rcases rename_cases hi with heq | heq
      · rw [heq] at hid
        exact hid.elim
      · rw [heq] at hid
        exact hclean.tmp i d hi hsaving id hid
  | record i c =>
      obtain ⟨d, hi, -⟩ := hok
      rw [step, hi] at hid
      exact hid.elim
  | write i =>
      obtain ⟨d, hi, -⟩ := hok
      rw [step, hi] at hid
      exact hid.elim
  | fail i => exact hid.elim
  | stop i => exact hid.elim
  | reset removed => exact hid.elim

omit [F64 F] in
/-- At the start there is nothing to forget. -/
lemma clean_empty : Clean (empty : Host F) where
  counted := le_refl 0
  memory := nofun
  file := fun id _ => Nat.zero_le id
  tmp := nofun

/-- **A quiet reset forgets.** In every run of any number of daemons whose resets are
quiet, nothing that is loaded or saved after a reset has statistics of an event from
before it. -/
theorem reset_forgets (acts : List (Act F)) (hrun : machine.Valid (empty : Host F) acts)
    (hquiet : machine.Along Quiet (empty : Host F) acts) :
    machine.Along Forgotten (empty : Host F) acts := by
  refine Machine.Along.imp machine (I := Clean) ?_ ?_ clean_empty (hrun.and machine hquiet)
  · exact fun h a hclean ⟨hok, hq⟩ => clean_step hclean hok hq
  · exact fun h a hclean ⟨hok, _⟩ => forgotten_of_clean hclean hok

/-- A daemon that records one event, which is saved. -/
def learned (c : Call) : List (Act ℚ) :=
  [.start 0 BaselineConfig.default 0 true, .record 0 c, .write 0, .rename 0]

lemma valid_learned (c : Call) : machine.Valid empty (learned c) :=
  ⟨rfl, ⟨_, rfl, rfl, Baseline.admissible_of_room (by decide) c⟩, ⟨_, rfl, rfl⟩, ⟨_, rfl, rfl⟩,
    trivial⟩

/-- The daemon is stopped before the reset and started again after it. -/
theorem reset_forgets_stopped :
    let c : Call := ⟨10 * DateTime.nanos, [], "fim", "cat"⟩
    machine.Along Forgotten empty (learned c ++
      [.stop 0, .reset true, .start 0 BaselineConfig.default 0 true]) := by
  intro c
  have hrun : machine.Valid empty (learned c ++
      [.stop 0, .reset true, .start 0 BaselineConfig.default 0 true]) :=
    (machine.along_append _ _ _ _).mpr ⟨valid_learned c, ⟨_, rfl⟩, trivial, rfl, trivial⟩
  refine reset_forgets _ hrun ((machine.along_append _ _ _ _).mpr
    ⟨⟨trivial, trivial, trivial, trivial, trivial⟩, trivial, ⟨?_, nofun⟩, trivial, trivial⟩)
  -- the only daemon is gone
  intro i d hd
  by_cases hi : i = 0
  · subst hi
    cases hd
  · have hnone : (machine.after empty (learned c)).daemon i = none :=
      (Function.update_of_ne hi _ _).trans <| (Function.update_of_ne hi _ _).trans <|
        (Function.update_of_ne hi _ _).trans (Function.update_of_ne hi _ _)
    have hstopped : (machine.step (machine.after empty (learned c)) (.stop 0)).1.daemon i = none :=
      (Function.update_of_ne hi _ _).trans hnone
    rw [hstopped] at hd
    cases hd

/-- A daemon that keeps running has a copy of its own, and saves it after the reset. -/
theorem reset_undone :
    ¬∀ acts : List (Act ℚ), machine.Valid empty acts → machine.Along Forgotten empty acts := by
  intro h
  let c : Call := ⟨10 * DateTime.nanos, [], "fim", "cat"⟩
  have hrun : machine.Valid empty (learned c ++ [.reset true, .write 0, .rename 0]) :=
    (machine.along_append _ _ _ _).mpr
      ⟨valid_learned c, trivial, ⟨_, rfl, rfl⟩, ⟨_, rfl, rfl⟩, trivial⟩
  have hlast := ((machine.along_append _ _ _ _).mp (h _ hrun)).2.2.2.1
  have hsaved := hlast 0 ⟨_, rfl, key "fim" "cat", by decide, by decide⟩
  cases hsaved

end Host

end Baseline

end Kernelradar
