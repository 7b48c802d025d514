import Kernelradar.Delivery.Numbers

/-!
What `emit` prints, in the formats for programs; the log lines of the daemon are not part of it.

* `all_emitted`: what holds of what the detectors make, and passes to the markers, holds of every
  record;
* `stdout_read`: in every run, what is printed is read back line by line.
-/

namespace Kernelradar

open Library

/-- The markers can be printed if the alert can, and its score. -/
lemma Pipeline.numeric_records {F : Type} [F64 F] (hscore : ∀ z : F, (F64.toJson z).Numeric)
    {c : Call} {z : Option F} {d : Decision} (h : c.alert.Numeric) :
    ∀ r ∈ records c z d, r.Numeric := by
  have hanomaly : ∀ r ∈ anomalies c z, r.Numeric := by
    intro r hr
    cases z with
    | none => cases hr
    | some score =>
        obtain rfl := List.mem_singleton.mp hr
        rw [Alert.Numeric, anomalyMarker]
        simp [hscore]
  have hburst : (burstMarker c.alert c.burstAt).Numeric := by
    rw [Alert.Numeric, burstMarker]
    simp
  cases d with
  | suppress => exact hanomaly
  | allow => exact List.forall_mem_cons.mpr ⟨h, hanomaly⟩
  | burst => exact List.forall_mem_cons.mpr ⟨h, List.forall_mem_cons.mpr ⟨hburst, hanomaly⟩⟩

namespace Delivery

variable {F : Type} [F64 F] {n : ℕ}

/-- What is known of the records, emitted or left, if it is known of what the detectors make. -/
structure Kept (P : Alert → Prop) (tr : List (Act n × Effect)) (d : Delivery F n) : Prop where
  readable : d.Readable
  sane : d.Sane
  pending : ∀ f a, d.pending f = some a → P a
  records : ∀ r ∈ (emitted tr : Multiset Alert) + d.lefts, P r

/-- **The rule for records**: what holds of every alert a detector can make, and passes from an
alert to its records, holds of every record of a run. -/
lemma all_emitted {P : Alert → Prop}
    (hmade : ∀ f ev alertId a, Called f ev → Outcome f ev alertId (some a) → P a)
    (hrecords : ∀ (c : Pipeline.Call) (z : Option F) (d : Decision), P c.alert →
      ∀ r ∈ Pipeline.records c z d, P r)
    {p : Pipeline F} {acts : List (Act n)} (hrun : machine.Valid (start p) acts) :
    ∀ r ∈ emitted (machine.trace (start p) acts), P r := by
  have hzero : Kept P [] (start p : Delivery F n) := by
    refine ⟨readable_start p, sane_start p, fun _ _ h => (nomatch h), ?_⟩
    rw [lefts_start, add_zero]
    exact fun _ h => absurd h (Multiset.notMem_zero _)
  have hkept := machine.history hzero (fun tr d a h hok => ?_) hrun
  · exact fun r hr => hkept.records r (Multiset.mem_add.mpr (Or.inl (Multiset.mem_coe.mpr hr)))
  have hreadable := h.readable.step a hok
  have hsane := h.sane.step h.readable a hok
  rw [machine_step]
  rcases pending_step h.sane a hok with hkeeps | ⟨g, alert, hmakes⟩ | ⟨g, c, z, dec, hdecides⟩
  · refine ⟨hreadable, hsane, fun f b hb => h.pending f b (hkeeps.pending f b hb), ?_⟩
    rw [emitted_snoc, ← Multiset.coe_add, add_assoc, hkeeps.lefts]
    exact h.records
  · refine ⟨hreadable, hsane, fun f b hb => ?_, ?_⟩
    · rcases hmakes.pending f b hb with ⟨-, rfl⟩ | hold
      · obtain ⟨ev, hcalled, houtcome⟩ := hmakes.outcome
        exact hmade g ev _ b hcalled houtcome
      · exact h.pending f b hold
    · rw [emitted_snoc, hmakes.emitted, hmakes.lefts, List.append_nil]
      exact h.records
  · refine ⟨hreadable, hsane, fun f b hb => h.pending f b (hdecides.pending f b hb).2, ?_⟩
    rw [emitted_snoc, hdecides.emitted, hdecides.lefts, List.append_nil, ← add_assoc]
    intro r hr
    rcases Multiset.mem_add.mp hr with hr | hr
    · exact h.records r hr
    · exact hrecords c z dec (h.pending g c.alert hdecides.unsent) r (Multiset.mem_coe.mp hr)

/-- Every record can be printed, if scores can. -/
lemma numeric_emitted {p : Pipeline F} {acts : List (Act n)}
    (hrun : machine.Valid (start p) acts) (hscore : ∀ z : F, (F64.toJson z).Numeric) :
    ∀ r ∈ emitted (machine.trace (start p) acts), r.Numeric := by
  refine all_emitted (fun f ev alertId a hcalled hout => ?_)
    (fun c z d => Pipeline.numeric_records hscore) hrun
  obtain ⟨hook, task, stale, rfl, hev⟩ := hcalled
  obtain ⟨selfTgid, re, sc, held, ws, -, hhandled⟩ := hout
  exact ((made_handle selfTgid re sc hook.feed
    (Hook.event_common hev).severity).of_interleaving hhandled).numeric

/-- **The output is read back**: in every run, whatever processes call themselves and whichever
paths they open, each record that was handed to `emit` is one line of what `emit` prints, in the
format of `serde_json` as in that of Falco, and a reader of the lines gets the records, in the
order in which they came out. -/
theorem stdout_read {p : Pipeline F} {acts : List (Act n)} (hrun : machine.Valid (start p) acts)
    (hscore : ∀ z : F, (F64.toJson z).Numeric) (hostname : Text) {printed : List Alert}
    (hprinted : printed.Perm (emitted (machine.trace (start p) acts))) :
    (Text.lines (stdout hostname .json printed)).map JsonValue.read
        = printed.map (fun a => some a.serialize) ∧
      (Text.lines (stdout hostname .falco printed)).map JsonValue.read
        = printed.map (fun a => some (a.falco hostname)) := by
  exact lines_emitted hostname fun a ha => numeric_emitted hrun hscore a (hprinted.mem_iff.mp ha)

/-- A run that emits two alerts of a command with a line feed in its name. -/
lemma exists_emitted : ∃ (score : F64 ℚ) (acts : List (Act 1)) (a b : Alert),
    (∀ z : ℚ, (score.toJson z).Numeric) ∧
      machine.Valid (start (Pipeline.System.fresh : Pipeline ℚ)) acts ∧
      emitted (machine.trace (start (Pipeline.System.fresh : Pipeline ℚ)) acts) = [a, b] ∧
      a.comm = "a\nb" ∧ b.comm = "a\nb" := by
  -- no score is printed in the run
  let score : F64 ℚ := { (inferInstance : F64 ℚ) with toJson := fun _ => .null }
  have hscore : ∀ z : ℚ, (score.toJson z).Numeric := fun _ => Json.numeric_ofOption none
  obtain ⟨acts, a, b, i, j, hrun, htrace, -, hboth⟩ := exists_twice
  exact ⟨score, acts, a.alert, b.alert, hscore, hrun, emitted_twice htrace,
    (hboth a (by simp)).2.1, (hboth b (by simp)).2.1⟩

/-- Two calls of `setuid(0)` by a command with a line feed in its name. -/
theorem stdout_read_setuid : ∃ a b : Alert, a.comm = "a\nb" ∧ b.comm = "a\nb" ∧
    (Text.lines (stdout "host" .json [a, b])).map JsonValue.read
      = [some a.serialize, some b.serialize] := by
  obtain ⟨score, acts, a, b, hscore, hrun, hall, ha, hb⟩ := exists_emitted
  exact ⟨a, b, ha, hb, (stdout_read hrun hscore "host" (List.Perm.of_eq hall.symm)).1⟩

end Delivery

end Kernelradar
