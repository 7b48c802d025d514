import Kernelradar.Library.Ranking
import Kernelradar.Baseline.History

/-!
What eviction drops and what it keeps.

* `evict_spec`: everything eviction can do, with the cutoff it works with;
* `recent`, `seenAfter`, `Outlives`: the pairs seen after the cutoff, and whether
  one of them is spared by the fall-through; `mem_evict_iff`, `len_dropOldest`:
  who stays, and how many;
* `evicts_oldest_first`: what is dropped was seen no later than what is kept;
* `cap_iff`: a run keeps to the cap exactly if its first call finds room.
-/

namespace Kernelradar

open Library

namespace Baseline

variable {F : Type}

/-- The cutoff of the staleness pass, where the dates allow it. -/
def cutoffAt (b : Baseline F) (now : DateTime) : Option DateTime :=
  (DateTime.hours b.config.evictAgeHours).bind now.sub

/-- Everything eviction can do: nothing under the cap, otherwise the staleness
pass, and the fall-through exactly if that was not enough. -/
lemma evict_spec {b b' : Baseline F} {now : DateTime} {order : List Text}
    (h : b.evict now order = some b') :
    (b.pairs.len < b.config.pairsMax ∧ b' = b) ∨
    (b.config.pairsMax ≤ b.pairs.len ∧ ∃ cutoff, b.cutoffAt now = some cutoff ∧
      ((b.evictStale cutoff).pairs.len < b.config.pairsMax ∧ b' = b.evictStale cutoff ∨
        b.config.pairsMax ≤ (b.evictStale cutoff).pairs.len ∧
          b' = (b.evictStale cutoff).dropOldest order)) := by
  rw [evict] at h
  split_ifs at h with hcap
  · obtain ⟨cutoff, hcutoff, rfl⟩ := Option.map_eq_some_iff.mp h
    refine Or.inr ⟨hcap, cutoff, hcutoff, ?_⟩
    dsimp only
    rw [evictStale_config]
    split_ifs with hfull
    · exact Or.inr ⟨hfull, rfl⟩
    · exact Or.inl ⟨not_le.mp hfull, rfl⟩
  · exact Or.inl ⟨not_le.mp hcap, (Option.some.inj h).symm⟩

/-- Eviction fails where it needs a cutoff and there is none. -/
lemma evict_eq_none {b : Baseline F} {now : DateTime} {order : List Text} :
    b.evict now order = none ↔ b.config.pairsMax ≤ b.pairs.len ∧ b.cutoffAt now = none := by
  rw [evict]
  split_ifs with hcap
  · rw [Option.map_eq_none_iff]
    exact (and_iff_right hcap).symm
  · exact iff_of_false (by simp) fun h => hcap h.1

/-! ### The staleness pass -/

/-- The pairs seen after the cutoff. -/
def recent (b : Baseline F) (cutoff : DateTime) : Finset Text :=
  b.pairs.dom.filter fun k => (b.pairs.get k).any fun p => p.lastSeen.any fun t => cutoff < t

lemma dom_evictStale (b : Baseline F) (cutoff : DateTime) :
    (b.evictStale cutoff).pairs.dom = b.recent cutoff := rfl

lemma len_evictStale (b : Baseline F) (cutoff : DateTime) :
    (b.evictStale cutoff).pairs.len = (b.recent cutoff).card := rfl

lemma mem_recent {b : Baseline F} {cutoff : DateTime} {k : Text} : k ∈ b.recent cutoff ↔
    ∃ p t, b.pairs.get k = some p ∧ p.lastSeen = some t ∧ cutoff < t := by
  rw [← dom_evictStale, evictStale, Table.mem_dom_retain]
  constructor
  · rintro ⟨p, hp, hseen⟩
    cases ht : p.lastSeen with
    | none =>
        rw [ht] at hseen
        cases hseen
    | some t =>
        rw [ht] at hseen
        exact ⟨p, t, hp, ht, of_decide_eq_true hseen⟩
  · rintro ⟨p, t, hp, ht, hlt⟩
    refine ⟨p, hp, ?_⟩
    rw [ht]
    exact decide_eq_true hlt

/-! ### The fall-through -/

/-- `by_age` before it is sorted. -/
def ages (b : Baseline F) (order : List Text) : List (Text × DateTime) :=
  (b.pairs.entries order).filterMap fun e => e.2.lastSeen.map fun t => (e.1, t)

lemma byAge_eq (b : Baseline F) (order : List Text) :
    b.byAge order = (b.ages order).insertionSort fun x y => x.2 ≤ y.2 := rfl

lemma mem_ages {b : Baseline F} {order : List Text} {k : Text} {t : DateTime} :
    (k, t) ∈ b.ages order ↔
      k ∈ order ∧ ∃ p, b.pairs.get k = some p ∧ p.lastSeen = some t := by
  rw [ages, List.mem_filterMap]
  constructor
  · rintro ⟨⟨j, p⟩, hmem, heq⟩
    obtain ⟨hj, hp⟩ := Table.mem_entries.mp hmem
    obtain ⟨t', ht, h⟩ := Option.map_eq_some_iff.mp heq
    cases h
    exact ⟨hj, p, hp, ht⟩
  · rintro ⟨hk, p, hp, ht⟩
    refine ⟨(k, p), Table.mem_entries.mpr ⟨hk, hp⟩, ?_⟩
    rw [ht]
    rfl

/-- The keys come in the order of the iterator. -/
lemma ages_keys (b : Baseline F) (order : List Text) :
    ((b.ages order).map Prod.fst).Sublist order := by
  have hpoint : ∀ k : Text,
      (((b.pairs.get k).map fun p => (k, p)).bind fun e : Text × PairStats F =>
        e.2.lastSeen.map fun t => (e.1, t)).map Prod.fst
        = if ((b.pairs.get k).bind PairStats.lastSeen).isSome then some k else none := by
    intro k
    cases b.pairs.get k with
    | none => rfl
    | some p =>
        show ((p.lastSeen.map fun t => (k, t)).map Prod.fst) = _
        rw [Option.bind_some]
        cases p.lastSeen <;> rfl
  have hlist : (b.ages order).map Prod.fst
      = order.filter fun k => ((b.pairs.get k).bind PairStats.lastSeen).isSome := by
    rw [ages, Table.entries, List.filterMap_filterMap, List.map_filterMap]
    rw [← List.filterMap_eq_filter]
    refine List.filterMap_congr fun k _ => ?_
    rw [hpoint, Option.guard]
  rw [hlist]
  exact List.filter_sublist

lemma ages_nodup {b : Baseline F} {order : List Text} (h : order.Nodup) :
    ((b.ages order).map Prod.fst).Nodup := (b.ages_keys order).nodup h

/-- The keys the fall-through drops. -/
def victims (b : Baseline F) (order : List Text) : List Text :=
  ((b.byAge order).take b.targetDrop).map Prod.fst

lemma mem_dropOldest {b : Baseline F} {order : List Text} {k : Text} :
    k ∈ (b.dropOldest order).pairs.dom ↔ k ∈ b.pairs.dom ∧ k ∉ b.victims order :=
  Table.mem_dom_eraseAll

lemma victims_nodup {b : Baseline F} {order : List Text} (h : order.Nodup) :
    (b.victims order).Nodup := by
  have hperm : ((b.byAge order).map Prod.fst).Nodup :=
    (((b.ages order).perm_insertionSort _).map Prod.fst).nodup_iff.mpr (ages_nodup h)
  exact ((List.take_sublist _ _).map Prod.fst).nodup hperm

/-- A pair is dropped exactly if too few pairs are older. -/
lemma mem_victims {b : Baseline F} {order : List Text} (horder : order.Nodup) {k : Text}
    {t : DateTime} (h : (k, t) ∈ b.ages order) :
    k ∈ b.victims order ↔ ahead Prod.snd (k, t) (b.ages order) < b.targetDrop := by
  have hnodup : (b.ages order).Nodup := (ages_nodup horder).of_map
  rw [← mem_take_insertionSort (f := Prod.snd) hnodup h, victims, byAge_eq]
  constructor
  · intro hk
    obtain ⟨⟨j, t'⟩, hmem, rfl⟩ := List.mem_map.mp hk
    have hin : (j, t') ∈ b.ages order := (List.mem_insertionSort _).mp (List.mem_of_mem_take hmem)
    obtain ⟨-, p, hp, ht⟩ := mem_ages.mp h
    obtain ⟨-, p', hp', ht'⟩ := mem_ages.mp hin
    rw [hp] at hp'
    obtain rfl := Option.some.inj hp'
    rw [ht] at ht'
    obtain rfl := Option.some.inj ht'
    exact hmem
  · exact fun hmem => List.mem_map_of_mem hmem

/-- Every pair has been seen. -/
def AllSeen (b : Baseline F) : Prop := ∀ k ∈ b.pairs.dom, ∃ p t, b.pairs.get k = some p ∧
  p.lastSeen = some t

lemma allSeen_evictStale (b : Baseline F) (cutoff : DateTime) : (b.evictStale cutoff).AllSeen := by
  intro k hk
  obtain ⟨p, t, hp, ht, -⟩ := mem_recent.mp hk
  exact ⟨p, t, (Table.get_retain_of_mem hk).trans hp, ht⟩

lemma length_ages {b : Baseline F} {order : List Text} (hseen : b.AllSeen)
    (horder : b.pairs.Enumerates order) : (b.ages order).length = b.pairs.len := by
  have hkeys : b.pairs.Enumerates ((b.ages order).map Prod.fst) := by
    refine ⟨ages_nodup horder.nodup, fun k => ?_⟩
    constructor
    · intro hk
      exact (horder.mem_iff k).mp ((b.ages_keys order).subset hk)
    · intro hk
      obtain ⟨p, t, hp, ht⟩ := hseen k hk
      have hmem : (k, t) ∈ b.ages order := mem_ages.mpr ⟨(horder.mem_iff k).mpr hk, p, hp, ht⟩
      exact List.mem_map_of_mem hmem
  rw [← hkeys.length_eq, List.length_map]

/-- How many pairs the fall-through leaves. -/
lemma len_dropOldest {b : Baseline F} {order : List Text} (hseen : b.AllSeen)
    (horder : b.pairs.Enumerates order) :
    (b.dropOldest order).pairs.len + b.targetDrop = b.pairs.len := by
  have hdrop : b.targetDrop ≤ b.pairs.len := min_le_right _ _
  have hlen : (b.victims order).length = b.targetDrop := by
    rw [victims, List.length_map, List.length_take, byAge_eq, List.length_insertionSort,
      length_ages hseen horder]
    exact min_eq_left hdrop
  have hmem : ∀ k ∈ b.victims order, k ∈ b.pairs.dom := by
    intro k hk
    obtain ⟨e, he, rfl⟩ := List.mem_map.mp hk
    have hin : e ∈ b.ages order := (List.mem_insertionSort _).mp (List.mem_of_mem_take he)
    exact (horder.mem_iff e.1).mp (mem_ages.mp hin).1
  rw [← hlen]
  exact Table.len_eraseAll (b.victims order) (victims_nodup horder.nodup) hmem

/-- The pairs seen after the cutoff, in the order of the iterator, and when. -/
def seenAfter (b : Baseline F) (cutoff : DateTime) (order : List Text) : List (Text × DateTime) :=
  (b.ages order).filter fun e => cutoff < e.2

lemma ages_evictStale (b : Baseline F) (cutoff : DateTime) (order : List Text) :
    (b.evictStale cutoff).ages order = b.seenAfter cutoff order := by
  rw [seenAfter, ages, ages, Table.entries, Table.entries, List.filterMap_filterMap,
    List.filterMap_filterMap, List.filter_filterMap]
  refine List.filterMap_congr fun k _ => ?_
  show (((b.pairs.get k).filter fun p => p.lastSeen.any fun t => cutoff < t).map _).bind _ = _
  cases b.pairs.get k with
  | none => rfl
  | some p =>
      cases ht : p.lastSeen with
      | none => simp [Option.filter_some, ht]
      | some t => by_cases hlt : cutoff < t <;> simp [Option.filter_some, ht, hlt]

/-- A tenth, and at least one. -/
def tenth (n : ℕ) : ℕ := max (n / 10) 1

lemma tenth_le {n : ℕ} (h : 0 < n) : tenth n ≤ n := by
  rw [tenth]
  omega

lemma targetDrop_eq {b : Baseline F} (h : 0 < b.pairs.len) : b.targetDrop = tenth b.pairs.len :=
  min_eq_left (tenth_le h)

/-- The pair was seen after the cutoff, and enough of the pairs seen after it are
older for the fall-through to spare this one. -/
def Outlives (b : Baseline F) (cutoff : DateTime) (order : List Text) (k : Text) : Prop :=
  ∃ p t, b.pairs.get k = some p ∧ p.lastSeen = some t ∧ cutoff < t ∧
    tenth (b.recent cutoff).card ≤ ahead Prod.snd (k, t) (b.seenAfter cutoff order)

/-- Who survives both passes. -/
lemma mem_dropOldest_evictStale {b : Baseline F} {cutoff : DateTime} {order : List Text}
    (horder : (b.evictStale cutoff).pairs.Enumerates order) {k : Text} :
    k ∈ ((b.evictStale cutoff).dropOldest order).pairs.dom ↔ b.Outlives cutoff order k := by
  rw [mem_dropOldest, dom_evictStale]
  have hone : ∀ {p : PairStats F} {t : DateTime}, b.pairs.get k = some p → p.lastSeen = some t →
      cutoff < t → (k ∉ (b.evictStale cutoff).victims order ↔
        tenth (b.recent cutoff).card ≤ ahead Prod.snd (k, t) (b.seenAfter cutoff order)) := by
    intro p t hp ht hlt
    have hk : k ∈ b.recent cutoff := mem_recent.mpr ⟨p, t, hp, ht, hlt⟩
    have hmem : (k, t) ∈ (b.evictStale cutoff).ages order :=
      mem_ages.mpr ⟨(horder.mem_iff k).mpr hk, p, (Table.get_retain_of_mem hk).trans hp, ht⟩
    rw [mem_victims horder.nodup hmem, ages_evictStale, not_lt,
      targetDrop_eq (Finset.card_pos.mpr ⟨k, hk⟩), len_evictStale]
  constructor
  · rintro ⟨hk, hspared⟩
    obtain ⟨p, t, hp, ht, hlt⟩ := mem_recent.mp hk
    exact ⟨p, t, hp, ht, hlt, (hone hp ht hlt).mp hspared⟩
  · rintro ⟨p, t, hp, ht, hlt, hahead⟩
    exact ⟨mem_recent.mpr ⟨p, t, hp, ht, hlt⟩, (hone hp ht hlt).mpr hahead⟩

/-! ### Oldest first -/

/-- Seen no later, where what was never seen counts as older than everything. -/
def NoLater : Option DateTime → Option DateTime → Prop
  | none, _ => True
  | some _, none => False
  | some t, some t' => t ≤ t'

instance : ∀ o o', Decidable (NoLater o o')
  | none, _ => isTrue trivial
  | some _, none => isFalse id
  | some t, some t' => inferInstanceAs (Decidable (t ≤ t'))

/-- The staleness pass drops what was seen before the cutoff, or never. -/
lemma noLater_of_stale {b : Baseline F} {cutoff : DateTime} {r : Text} {pr : PairStats F}
    (hr : b.pairs.get r = some pr) (hgone : r ∉ b.recent cutoff) {t : DateTime}
    (ht : cutoff < t) : NoLater pr.lastSeen (some t) := by
  cases htr : pr.lastSeen with
  | none => trivial
  | some tr =>
      have hle : tr ≤ cutoff := not_lt.mp fun hlt => hgone (mem_recent.mpr ⟨pr, tr, hr, htr, hlt⟩)
      exact hle.trans ht.le

/-- The fall-through drops the oldest. -/
lemma noLater_of_victim {b : Baseline F} {order : List Text} {r k : Text} {pr pk : PairStats F}
    {t : DateTime} (hr : b.pairs.get r = some pr) (hvictim : r ∈ b.victims order)
    (hk : b.pairs.get k = some pk) (ht : pk.lastSeen = some t) (hspared : k ∉ b.victims order)
    (horder : b.pairs.Enumerates order) : NoLater pr.lastSeen (some t) := by
  obtain ⟨⟨j, tr⟩, htaken, rfl⟩ := List.mem_map.mp hvictim
  have hin : (j, tr) ∈ b.ages order := (List.mem_insertionSort _).mp (List.mem_of_mem_take htaken)
  obtain ⟨-, p, hp, htr⟩ := mem_ages.mp hin
  have hsame : pr = p := Option.some.inj (hr.symm.trans hp)
  have hkin : (k, t) ∈ b.byAge order := (List.mem_insertionSort _).mpr <|
    mem_ages.mpr ⟨(horder.mem_iff k).mpr (Table.mem_dom_of_get hk), pk, hk, ht⟩
  rw [← List.take_append_drop b.targetDrop (b.byAge order)] at hkin
  rcases List.mem_append.mp hkin with htake | hleft
  · exact absurd (List.mem_map_of_mem htake) hspared
  · have hsorted : (b.byAge order).Pairwise fun x y => x.2 ≤ y.2 :=
      (b.ages order).pairwise_insertionSort fun x y => x.2 ≤ y.2
    rw [hsame, htr]
    exact le_of_mem_take_of_mem_drop (f := Prod.snd) hsorted htaken hleft

/-- **Oldest first**: whatever the two passes of a call drop was seen no later than
anything they keep. -/
theorem evicts_oldest_first [F64 F] {b b' : Baseline F} {c : Call} (hok : b.Admissible c)
    (hev : b.evict c.now c.order = some b') {r k : Text} {pr pk : PairStats F}
    (hr : b.pairs.get r = some pr) (hgone : b'.pairs.get r = none)
    (hk : b'.pairs.get k = some pk) :
    (b.recordAndScore c).1 = b'.record c.now (key c.detector c.comm) ∧
      b.pairs.get k = some pk ∧ NoLater pr.lastSeen pk.lastSeen := by
  have hrecord : (b.recordAndScore c).1 = b'.record c.now (key c.detector c.comm) :=
    congrArg Prod.fst (recordAndScore_of_evict hev)
  have hkept : b.pairs.get k = some pk :=
    (pairs_evict hev (Table.mem_dom_of_get hk)).symm.trans hk
  refine ⟨hrecord, hkept, ?_⟩
  rcases evict_spec hev with ⟨-, rfl⟩ | ⟨-, cutoff, hcutoff, ⟨-, rfl⟩ | ⟨hfull, rfl⟩⟩
  · rw [hr] at hgone
    cases hgone
  · obtain ⟨p, t, hp, ht, hlt⟩ := mem_recent.mp (Table.mem_dom_of_get hk)
    have hsame : pk = p := Option.some.inj (hkept.symm.trans hp)
    rw [hsame, ht]
    exact noLater_of_stale hr (Table.get_eq_none.mp hgone) hlt
  · have horder := hok cutoff hcutoff hfull
    obtain ⟨hkstale, hspared⟩ := mem_dropOldest.mp (Table.mem_dom_of_get hk)
    obtain ⟨p, t, hp, ht, hlt⟩ := mem_recent.mp hkstale
    have hsame : pk = p := Option.some.inj (hkept.symm.trans hp)
    rw [hsame, ht]
    by_cases hrstale : r ∈ b.recent cutoff
    · have hvictim : r ∈ (b.evictStale cutoff).victims c.order := by
        by_contra hnot
        exact Table.get_eq_none.mp hgone (mem_dropOldest.mpr ⟨hrstale, hnot⟩)
      exact noLater_of_victim ((Table.get_retain_of_mem hrstale).trans hr) hvictim
        ((Table.get_retain_of_mem hkstale).trans hp) ht hspared horder
    · exact noLater_of_stale hr hrstale hlt

/-- Three pairs under a cap of two: the third call drops the first pair. -/
theorem evicts_oldest_first_two :
    let config := { (BaselineConfig.default : BaselineConfig ℚ) with pairsMax := 2 }
    let b := machine.after (new config 0) [⟨10, [], "fim", "a"⟩, ⟨20, [], "fim", "b"⟩]
    let c : Call := ⟨30, [key "fim" "b", key "fim" "a"], "fim", "c"⟩
    let b' := (b.evictStale (30 - 168 * 3600 * DateTime.nanos)).dropOldest c.order
    ∃ pk, (b.recordAndScore c).1 = b'.record c.now (key "fim" "c") ∧
      b.pairs.get (key "fim" "b") = some pk ∧ NoLater (some 10) pk.lastSeen := by
  intro config b c b'
  have hok : b.Admissible c := by
    intro cutoff hcutoff _
    cases hcutoff
    decide
  have hgone : b'.pairs.get (key "fim" "a") = none := Option.isNone_iff_eq_none.mp (by decide)
  obtain ⟨pr, hpr⟩ : ∃ pr, b.pairs.get (key "fim" "a") = some pr :=
    Option.isSome_iff_exists.mp (by decide)
  obtain ⟨pk, hpk⟩ : ∃ pk, b'.pairs.get (key "fim" "b") = some pk :=
    Option.isSome_iff_exists.mp (by decide)
  have hseen : pr.lastSeen = some 10 := by
    have hget : (b.pairs.get (key "fim" "a")).map PairStats.lastSeen = some (some 10) := by decide
    rw [hpr] at hget
    exact Option.some.inj hget
  have hfirst := evicts_oldest_first hok rfl hpr hgone hpk
  rw [hseen] at hfirst
  exact ⟨pk, hfirst⟩

/-! ### The cap -/

/-- The call finds room: the table is within the cap, or the passes leave fewer
pairs than the cap, or as many and the recorded one among them. -/
def Room (b : Baseline F) (c : Call) : Prop :=
  b.pairs.len ≤ b.config.pairsMax ∨ ∃ cutoff, b.cutoffAt c.now = some cutoff ∧
    ((b.recent cutoff).card - tenth (b.recent cutoff).card < b.config.pairsMax ∨
      (b.recent cutoff).card - tenth (b.recent cutoff).card = b.config.pairsMax ∧
        b.Outlives cutoff c.order (key c.detector c.comm))

section Cap

variable [F64 F]

/-- The pairs after a call has recorded its event. -/
lemma len_record_le {b : Baseline F} {now : DateTime} {k : Text} {n : ℕ} :
    (b.record now k).pairs.len ≤ n ↔
      b.pairs.len < n ∨ b.pairs.len = n ∧ k ∈ b.pairs.dom := by
  rw [record]
  by_cases hk : k ∈ b.pairs.dom
  · rw [Table.len_insert_of_mem _ hk]
    constructor
    · exact fun h => (Nat.lt_or_eq_of_le h).imp_right fun heq => ⟨heq, hk⟩
    · exact fun h => h.elim le_of_lt fun heq => heq.1.le
  · rw [Table.len_insert_of_notMem _ hk]
    constructor
    · exact fun h => Or.inl h
    · exact fun h => h.elim id fun heq => absurd heq.2 hk

/-- A call keeps to the cap exactly if it finds room. -/
lemma len_step_iff {b : Baseline F} (hpos : 1 ≤ b.config.pairsMax) {c : Call}
    (hok : b.Admissible c) :
    (b.recordAndScore c).1.pairs.len ≤ b.config.pairsMax ↔ b.Room c := by
  rcases b.recordAndScore_cases c with ⟨hnone, h⟩ | ⟨b', hev, h⟩
  · obtain ⟨-, hcutoff⟩ := evict_eq_none.mp hnone
    rw [h, Room, hcutoff]
    constructor
    · exact Or.inl
    · rintro (hle | ⟨cutoff, hsome, -⟩)
      · exact hle
      · cases hsome
  · rw [h, len_record_le]
    rcases evict_spec hev with ⟨hroom, rfl⟩ | ⟨hcap, cutoff, hcutoff, ⟨hstale, rfl⟩ | ⟨hfull, rfl⟩⟩
    · exact iff_of_true (Or.inl hroom) (Or.inl hroom.le)
    · refine iff_of_true (Or.inl hstale) (Or.inr ⟨cutoff, hcutoff, Or.inl ?_⟩)
      exact (Nat.sub_le _ _).trans_lt hstale
    · have horder := hok cutoff hcutoff hfull
      have hpairs : 0 < (b.recent cutoff).card := Nat.lt_of_lt_of_le hpos hfull
      have hlen : ((b.evictStale cutoff).dropOldest c.order).pairs.len
          = (b.recent cutoff).card - tenth (b.recent cutoff).card := by
        have hsum := len_dropOldest (b.allSeen_evictStale cutoff) horder
        rw [targetDrop_eq (b := b.evictStale cutoff) hpairs, len_evictStale] at hsum
        omega
      rw [hlen, mem_dropOldest_evictStale horder, Room, hcutoff]
      constructor
      · exact fun hroom => Or.inr ⟨cutoff, rfl, hroom⟩
      · rintro (hle | ⟨cutoff', hsome, hroom⟩)
        · -- a table at the cap loses at least one pair
          have hrecent : (b.recent cutoff).card ≤ b.pairs.len := Table.len_retain_le _ _
          have hdrop : 1 ≤ tenth (b.recent cutoff).card := le_max_right _ _
          exact Or.inl (by omega)
        · obtain rfl := Option.some.inj hsome
          exact hroom

/-- Within the cap every call finds room, so a run stays within it. -/
lemma len_after_le : ∀ {cs : List Call} {b : Baseline F}, 1 ≤ b.config.pairsMax →
    machine.Valid b cs → b.pairs.len ≤ b.config.pairsMax →
    ∀ n, (machine.after b (cs.take n)).pairs.len ≤ b.config.pairsMax := by
  intro cs
  induction cs with
  | nil =>
      intro b _ _ hlen n
      rw [List.take_nil]
      exact hlen
  | cons c cs ih =>
      intro b hpos hvalid hlen n
      cases n with
      | zero => exact hlen
      | succ n =>
          have hconfig : (b.recordAndScore c).1.config = b.config := recordAndScore_config b c
          have hnext := (len_step_iff hpos hvalid.1).mpr (Or.inl hlen)
          rw [← hconfig] at hpos hnext
          have hrest := ih hpos hvalid.2 hnext n
          rw [List.take_succ_cons, Machine.after_cons, machine_step, ← hconfig]
          exact hrest

/-- **The cap**: from whatever `load_or_default` finds at `save_path`, and under any
configuration with `pairs_max ≥ 1`, a run has at most `pairs_max` pairs after every
call exactly if its first call finds room. -/
theorem cap_iff (config : BaselineConfig F) (hpos : 1 ≤ config.pairsMax) (loaded : DateTime)
    (file : File F) (cs : List Call)
    (hvalid : machine.Valid (loadOrDefault config loaded file) cs) :
    (∀ n, 1 ≤ n → n ≤ cs.length →
      (machine.after (loadOrDefault config loaded file) (cs.take n)).pairs.len
        ≤ config.pairsMax) ↔
      ∀ c ∈ cs.head?, (loadOrDefault config loaded file).Room c := by
  have hconfig : (loadOrDefault config loaded file).config = config := by
    cases file <;> rfl
  generalize loadOrDefault config loaded file = b at hvalid hconfig ⊢
  subst hconfig
  cases cs with
  | nil => exact iff_of_true (fun n hn hle => absurd (hn.trans hle) (by simp)) (by simp)
  | cons c cs =>
      have hone := len_step_iff hpos hvalid.1
      constructor
      · rintro h c' hc'
        obtain rfl := Option.some.inj hc'
        exact hone.mp (h 1 le_rfl (by simp))
      · intro h n hn _
        obtain ⟨n, rfl⟩ := Nat.exists_eq_add_of_le' hn
        have hnext := hone.mpr (h c rfl)
        have hsame : (b.recordAndScore c).1.config = b.config := recordAndScore_config b c
        rw [← hsame] at hpos hnext ⊢
        exact len_after_le hpos hvalid.2 hnext n

end Cap

/-- Two pairs under a cap of two, and a third one. -/
theorem cap_iff_two :
    let config := { (BaselineConfig.default : BaselineConfig ℚ) with pairsMax := 2 }
    let b := loadOrDefault config 0 .missing
    let cs : List Call := [⟨10, [], "fim", "a"⟩, ⟨20, [], "fim", "b"⟩,
      ⟨30, [key "fim" "b", key "fim" "a"], "fim", "c"⟩]
    ∀ n, 1 ≤ n → n ≤ cs.length → (machine.after b (cs.take n)).pairs.len ≤ 2 := by
  intro config b cs
  refine (cap_iff config (by decide) 0 .missing cs (by decide)).mpr fun c hc => ?_
  obtain rfl := Option.some.inj hc
  exact Or.inl (by decide)

/-- A file with three pairs, and a cap lowered to one: the call drops one pair, adds
its own, and leaves three. -/
theorem lowered_cap_exceeded :
    ¬ ∀ (earlier config : BaselineConfig ℚ) (started loaded : DateTime) (before cs : List Call),
      1 ≤ config.pairsMax → machine.Valid (new earlier started) before →
      machine.Valid (loadOrDefault config loaded (machine.after (new earlier started) before).save)
        cs →
      ∀ n, 1 ≤ n → n ≤ cs.length →
        (machine.after (loadOrDefault config loaded
          (machine.after (new earlier started) before).save) (cs.take n)).pairs.len
            ≤ config.pairsMax := by
  intro h
  have hrun := h .default { (BaselineConfig.default : BaselineConfig ℚ) with pairsMax := 1 } 0 35
    [⟨10, [], "fim", "a"⟩, ⟨20, [], "fim", "b"⟩, ⟨30, [], "fim", "c"⟩]
    [⟨40, [key "fim" "c", key "fim" "a", key "fim" "b"], "fim", "d"⟩] (by decide) (by decide)
    (by decide) 1 le_rfl (by decide)
  exact absurd hrun (by decide)

end Baseline

end Kernelradar
