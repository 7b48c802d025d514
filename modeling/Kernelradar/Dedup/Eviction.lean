import Kernelradar.Detectors.Dedup

/-!
The cap of the rate limiter's map.

* `victim_spec`, `exists_victim`: what `min_by_key` over the sample picks, and
  that it picks something whenever the map is not empty;
* `evictee_cases`: when a check throws a key out;
* `dom_check`, `len_check_le`: the map after one check;
* `len_after_le`: the cap along every run;
* `entries_call`, `entries_after`: what holds of every entry;
* `check_evicts_sampled_lru`: cap, presence and approximate LRU together.
-/

namespace Kernelradar

open Library

namespace RateLimiter

variable {rl : RateLimiter} {order : List Key} {key v : Key}

/-- The victim is a sampled entry that was emitted no later than the others of
the sample. -/
lemma victim_spec (h : rl.victim order = some v) :
    ∃ st, (v, st) ∈ rl.sample order ∧ rl.state.get v = some st ∧
      ∀ e ∈ rl.sample order, st.lastEmitted ≤ e.2.lastEmitted := by
  obtain ⟨⟨v', st⟩, hmin, rfl⟩ := Option.map_eq_some_iff.mp h
  have hmem : (v', st) ∈ rl.sample order := List.minOn?_mem hmin
  refine ⟨st, hmem, (Table.mem_entries.mp (List.mem_of_mem_take hmem)).2, fun e he => ?_⟩
  have hle := List.apply_get_minOn?_le_of_mem (f := fun e : Key × KeyState => e.2.lastEmitted) he
  simpa only [hmin, Option.get_some] using hle

lemma victim_mem_dom (h : rl.victim order = some v) : v ∈ rl.state.dom := by
  obtain ⟨st, -, hget, -⟩ := victim_spec h
  exact Table.mem_dom_of_get hget

/-- A map with an entry has a victim. -/
lemma exists_victim (horder : rl.state.Enumerates order) (hlen : 0 < rl.state.len) :
    ∃ v, rl.victim order = some v := by
  obtain ⟨k, hk⟩ := Finset.card_pos.mp hlen
  have hne : rl.sample order ≠ [] := by
    cases order with
    | nil => exact absurd ((horder.mem_iff k).mpr hk) (by simp)
    | cons j order =>
        obtain ⟨st, hst⟩ := Table.exists_get_of_mem ((horder.mem_iff j).mp (by simp))
        simp [sample, Table.entries, hst, sampleK]
  obtain ⟨e, hmin⟩ := Option.isSome_iff_exists.mp
    (List.isSome_minOn?_iff (f := fun e : Key × KeyState => e.2.lastEmitted).mpr hne)
  exact ⟨e.1, by rw [victim, hmin]; rfl⟩

/-- A map no larger than the sample is sampled whole. -/
lemma sample_eq_entries (horder : rl.state.Enumerates order) (hlen : rl.state.len ≤ sampleK) :
    rl.sample order = rl.state.entries order := by
  have hle : (rl.state.entries order).length ≤ sampleK :=
    (List.length_filterMap_le _ _).trans (horder.length_eq ▸ hlen)
  exact List.take_of_length_le hle

/-- A key is thrown out only for a brand-new one, only at the cap. -/
lemma evictee_eq_some (h : rl.evictee order key = some v) :
    rl.config.keysMax ≤ rl.state.len ∧ key ∉ rl.state.dom ∧ rl.victim order = some v := by
  rw [evictee] at h
  split_ifs at h with hc
  refine ⟨hc.1, fun hmem => ?_, h⟩
  rw [Table.contains_iff.mpr hmem] at hc
  exact absurd hc.2 (by simp)

/-- What the eviction step of a check does: a known key or room under the cap
leave the map alone, otherwise one victim goes. -/
lemma evictee_cases (horder : rl.state.Enumerates order) :
    (rl.evictee order key = none ∧
      (key ∈ rl.state.dom ∨ rl.state.len < rl.config.keysMax ∨ rl.state.len = 0)) ∨
    (∃ v, rl.evictee order key = some v ∧ rl.config.keysMax ≤ rl.state.len ∧
      key ∉ rl.state.dom ∧ rl.victim order = some v) := by
  cases h : rl.evictee order key with
  | some v => exact Or.inr ⟨v, rfl, evictee_eq_some h⟩
  | none =>
      refine Or.inl ⟨rfl, ?_⟩
      by_cases hkey : key ∈ rl.state.dom
      · exact Or.inl hkey
      by_cases hroom : rl.state.len < rl.config.keysMax
      · exact Or.inr (Or.inl hroom)
      by_cases hzero : rl.state.len = 0
      · exact Or.inr (Or.inr hzero)
      · exfalso
        obtain ⟨v, hv⟩ := exists_victim horder (Nat.pos_of_ne_zero hzero)
        have hcontains : rl.state.contains key = false := by simpa [Table.contains] using hkey
        rw [evictee, if_pos ⟨by omega, hcontains⟩, hv] at h
        cases h

/-- The keys after a check. -/
lemma dom_check (rl : RateLimiter) (m : Moment) (key : Key) (severity : Severity) :
    (rl.check m key severity).1.state.dom =
      insert key ((rl.evictee m.order key).elim rl.state.dom rl.state.dom.erase) := by
  rw [check, Table.dom_insert, evict]
  cases rl.evictee m.order key <;> rfl

lemma key_mem_dom_check (rl : RateLimiter) (m : Moment) (key : Key) (severity : Severity) :
    key ∈ (rl.check m key severity).1.state.dom := by
  rw [dom_check]
  exact Finset.mem_insert_self key _

/-- What a check takes out of the map is its evictee. -/
lemma mem_dom_check_of_ne {m : Moment} {severity : Severity} {k : Key} (hk : k ∈ rl.state.dom)
    (hne : rl.evictee m.order key ≠ some k) : k ∈ (rl.check m key severity).1.state.dom := by
  rw [dom_check]
  refine Finset.mem_insert_of_mem ?_
  cases h : rl.evictee m.order key with
  | none => exact hk
  | some v => exact Finset.mem_erase.mpr ⟨fun hkv => hne (by rw [h, hkv]), hk⟩

/-- One check keeps the map within its cap. -/
lemma len_check_le {m : Moment} {severity : Severity} (horder : rl.state.Enumerates m.order)
    (hcap : rl.state.len ≤ max rl.config.keysMax 1) :
    (rl.check m key severity).1.state.len ≤ max rl.config.keysMax 1 := by
  rw [Table.len, dom_check]
  have hevict : (rl.evictee m.order key = none ∧ _) ∨ _ := evictee_cases horder
  rcases hevict with ⟨hnone, hroom⟩ | ⟨v, hsome, -, hkey, hvictim⟩
  · rw [hnone]
    rcases hroom with hmem | hlt | hzero
    · exact (Finset.card_insert_of_mem hmem).trans_le hcap
    · refine (Finset.card_insert_le _ _).trans ?_
      show rl.state.len + 1 ≤ _
      omega
    · refine (Finset.card_insert_le _ _).trans ?_
      show rl.state.len + 1 ≤ _
      omega
  · rw [hsome]
    have hlen := Table.len_erase_of_mem (victim_mem_dom hvictim)
    refine (Finset.card_insert_le _ _).trans ?_
    show (rl.state.erase v).len + 1 ≤ _
    omega

/-- Draining leaves the keys alone. -/
@[simp] lemma dom_drain (rl : RateLimiter) (order : List Key) :
    (rl.drainSuppressed order).1.state.dom = rl.state.dom := rfl

/-- The entry a check of `key` works on. -/
def entryOf (rl : RateLimiter) (m : Moment) (key : Key) (severity : Severity) : KeyState :=
  ((rl.evict m.order key).get key).getD (KeyState.new severity m.born)

lemma get_of_get_evict {order : List Key} {k : Key} {st : KeyState}
    (h : (rl.evict order key).get k = some st) : rl.state.get k = some st := by
  rw [evict] at h
  cases hev : rl.evictee order key with
  | none => rwa [hev] at h
  | some v => rw [hev] at h; exact Table.get_of_get_erase h

/-- **The entry rule**: what fresh entries have and checks and drains preserve
holds of every entry. -/
theorem entries_call {P : KeyState → Prop} {rl : RateLimiter}
    (hnew : ∀ severity t, P (KeyState.new severity t))
    (hcheck : ∀ now severity st, P st → P (st.check rl.config now severity).1)
    (hdrain : ∀ st, P st → P { st with suppressed := 0 })
    (h : ∀ k st, rl.state.get k = some st → P st) (c : Call) :
    ∀ k st, (rl.call c).1.state.get k = some st → P st := by
  intro k st hget
  cases c with
  | drain order =>
      simp only [call, drainSuppressed, Table.get_mapValues, Option.map_eq_some_iff] at hget
      obtain ⟨st', hst', rfl⟩ := hget
      exact hdrain st' (h k st' hst')
  | check m key severity =>
      change ((rl.evict m.order key).insert key
        ((rl.entryOf m key severity).check rl.config m.now severity).1).get k = some st at hget
      by_cases hk : k = key
      · subst hk
        rw [Table.get_insert_self] at hget
        obtain rfl := Option.some.inj hget
        refine hcheck _ _ _ ?_
        rw [entryOf]
        cases hfound : (rl.evict m.order k).get k with
        | none => exact hnew _ _
        | some st => exact h k st (get_of_get_evict hfound)
      · rw [Table.get_insert_of_ne _ _ hk] at hget
        exact h k st (get_of_get_evict hget)

/-- The entry rule over a run. -/
theorem entries_after {P : KeyState → Prop} {cfg : RateLimitConfig}
    (hnew : ∀ severity t, P (KeyState.new severity t))
    (hcheck : ∀ now severity st, P st → P (st.check cfg now severity).1)
    (hdrain : ∀ st, P st → P { st with suppressed := 0 }) :
    ∀ (cs : List Call) {rl : RateLimiter}, rl.config = cfg →
      (∀ k st, rl.state.get k = some st → P st) →
      ∀ k st, (machine.after rl cs).state.get k = some st → P st := by
  intro cs
  induction cs with
  | nil => exact fun _ h => h
  | cons c cs ih =>
      intro rl hconfig h
      subst hconfig
      exact ih (call_config rl c) (entries_call hnew hcheck hdrain h c)

/-- **The cap**: the map of a limiter never holds more than `keys_max` entries,
one where `keys_max` is zero. -/
theorem len_after_le (cfg : RateLimitConfig) {cs : List Call}
    (hvalid : machine.Valid (new cfg) cs) :
    (machine.after (new cfg) cs).state.len ≤ max cfg.keysMax 1 := by
  have hinv : (machine.after (new cfg) cs).config = cfg ∧
      (machine.after (new cfg) cs).state.len ≤ max cfg.keysMax 1 := by
    refine machine.invariant (I := fun rl => rl.config = cfg ∧ rl.state.len ≤ max cfg.keysMax 1)
      ?_ ⟨rfl, by simp [new]⟩ hvalid
    rintro rl c ⟨rfl, hlen⟩ hok
    refine ⟨call_config rl c, ?_⟩
    cases c with
    | check m key severity => exact len_check_le hok.1 hlen
    | drain order => exact hlen
  exact hinv.2

/-- **The map under churn.** After any run, one more check leaves at most
`max keys_max 1` entries with its own key among them; a known key takes nothing
out, a new one at most one entry, and that one was emitted no later than the
others of the sample, hence no later than all others while the sample is the
whole map. -/
theorem check_evicts_sampled_lru (cfg : RateLimitConfig) (cs : List Call) (m : Moment)
    (key : Key) (severity : Severity)
    (hvalid : machine.Valid (new cfg) (cs ++ [.check m key severity])) :
    let rl := machine.after (new cfg) cs
    let rl' := machine.after (new cfg) (cs ++ [.check m key severity])
    rl'.state.len ≤ max cfg.keysMax 1 ∧
    key ∈ rl'.state.dom ∧
    (rl.state.dom \ rl'.state.dom).card ≤ 1 ∧
    (key ∈ rl.state.dom → rl.state.dom ⊆ rl'.state.dom) ∧
    ∀ v ∈ rl.state.dom \ rl'.state.dom, ∃ st, rl.state.get v = some st ∧
      (v, st) ∈ rl.sample m.order ∧
      (∀ e ∈ rl.sample m.order, st.lastEmitted ≤ e.2.lastEmitted) ∧
      (rl.state.len ≤ sampleK →
        ∀ k st', rl.state.get k = some st' → st.lastEmitted ≤ st'.lastEmitted) := by
  intro rl rl'
  have hcap : rl'.state.len ≤ max cfg.keysMax 1 := len_after_le cfg hvalid
  obtain ⟨-, ⟨horder, -⟩, -⟩ := (machine.along_append _ _ _ _).mp hvalid
  have hrl' : rl' = (rl.check m key severity).1 := by
    show machine.after (new cfg) (cs ++ [.check m key severity]) = _
    rw [Machine.after_append]
    rfl
  have hgone : ∀ v ∈ rl.state.dom \ rl'.state.dom, rl.evictee m.order key = some v := by
    intro v hv
    obtain ⟨hin, hout⟩ := Finset.mem_sdiff.mp hv
    by_contra hne
    exact hout (hrl' ▸ mem_dom_check_of_ne hin hne)
  refine ⟨hcap, hrl' ▸ key_mem_dom_check rl m key severity, ?_, ?_, ?_⟩
  · refine Finset.card_le_one.mpr fun a ha b hb => ?_
    exact Option.some.inj ((hgone a ha).symm.trans (hgone b hb))
  · intro hkey v hv
    by_contra hout
    exact (evictee_eq_some (hgone v (Finset.mem_sdiff.mpr ⟨hv, hout⟩))).2.1 hkey
  · intro v hv
    obtain ⟨-, -, hvictim⟩ := evictee_eq_some (hgone v hv)
    obtain ⟨st, hsample, hget, hmin⟩ := victim_spec hvictim
    refine ⟨st, hget, hsample, hmin, fun hlen k st' hk => hmin (k, st') ?_⟩
    rw [sample_eq_entries horder hlen]
    exact Table.mem_entries.mpr ⟨(horder.mem_iff k).mpr (Table.mem_dom_of_get hk), hk⟩

/-- Two names under a cap of one: the second check throws the first key out. -/
theorem check_evicts_sampled_lru_churn :
    let cfg := { RateLimitConfig.default with keysMax := 1 }
    let a : Key := ⟨"fim", "a", 1⟩
    let b : Key := ⟨"fim", "b", 1⟩
    let cs := [Call.check ⟨0, 0, []⟩ a .alert]
    let rl := machine.after (new cfg) cs
    let rl' := machine.after (new cfg) (cs ++ [.check ⟨1, 1, [a]⟩ b .alert])
    rl'.state.len ≤ 1 ∧ b ∈ rl'.state.dom ∧ (rl.state.dom \ rl'.state.dom).card ≤ 1 ∧
      a ∈ rl.state.dom \ rl'.state.dom := by
  intro cfg a b cs rl rl'
  have h := check_evicts_sampled_lru cfg cs ⟨1, 1, [a]⟩ b .alert (by decide)
  exact ⟨h.1, h.2.1, h.2.2.1, by decide⟩

end RateLimiter

end Kernelradar
