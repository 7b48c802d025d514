import Kernelradar.Baseline.History

/-!
Only tracked pairs have a minute in progress, whatever is called.

* `Kept`, `Op`, `kept`: a baseline and the file it is saved in, under all its functions;
* `covered_keptStep`: what each of them does to the two tables;
* `minutes_covered`: the result for every run.
-/

namespace Kernelradar

open Library

namespace Baseline

variable {F : Type} [F64 F]

/-- A baseline and what is found at its `save_path`. -/
structure Kept (F : Type) where
  base : Baseline F
  file : File F

/-- A call of one of the functions of the baseline, or somebody else's change of the file. A
`save` may fail. -/
inductive Op (F : Type) where
  | record (c : Call)
  | reset (now : DateTime)
  | save (ok : Bool)
  | loadOrDefault (config : BaselineConfig F) (now : DateTime)
  | replace (file : File F)

/-- One call. The order of the iterator in a `record` is any list. -/
def keptStep (s : Kept F) : Op F → Kept F × Option (Outcome F)
  | .record c => ({ s with base := (s.base.recordAndScore c).1 }, (s.base.recordAndScore c).2)
  | .reset now => ({ s with base := s.base.reset now }, none)
  | .save ok => (if ok then { s with file := s.base.save } else s, none)
  | .loadOrDefault config now => ({ s with base := loadOrDefault config now s.file }, none)
  | .replace file => ({ s with file := file }, none)

/-- All calls as a machine. -/
def kept : Machine (Kept F) (Op F) (Option (Outcome F)) := ⟨keptStep, fun _ _ => True⟩

/-- Every call keeps the minutes within the pairs. -/
lemma covered_keptStep {s : Kept F} (h : s.base.Covered) (op : Op F) :
    (keptStep s op).1.base.Covered := by
  cases op with
  | record c => exact covered_step h c
  | reset now => exact covered_reset s.base now
  | save ok =>
      rw [keptStep]
      split_ifs <;> exact h
  | loadOrDefault config now => exact covered_loadOrDefault config now s.file
  | replace file => exact h

/-- **Minutes in progress**: in every run of calls, whatever they evict and whatever is found
in the file, every pair with a minute in progress is tracked; so there are no more minutes
than pairs. -/
theorem minutes_covered (config : BaselineConfig F) (now : DateTime) (file : File F)
    (ops : List (Op F)) :
    let b := (kept.after ⟨new config now, file⟩ ops).base
    (∀ k ∈ b.curMinute.dom, k ∈ b.pairs.dom) ∧ b.curMinute.len ≤ b.pairs.len := by
  intro b
  have hcovered : b.Covered :=
    kept.invariant (I := fun s => s.base.Covered) (fun _ op h _ => covered_keptStep h op)
      (covered_new config now) (kept.valid_of_ok (fun _ _ => trivial) ops _)
  exact ⟨fun _ hk => hcovered hk, hcovered.len_le⟩

end Baseline

end Kernelradar
