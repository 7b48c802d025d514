import Kernelradar.Paths.Spelling

/-!
What the two probes decide on a path of any length.

* `deliveredPath`: what a detector is told of a path;
* `prefilters_pass`: a path with a rule passes the prefix test;
* `climbs_iff`: where `contains_dotdot` finds the `..` components, and the longer name
  it takes for one.
-/

namespace Kernelradar

open Library

/-- The text a detector reads in the event of a path. -/
def deliveredPath (prog : Bpf.Program) (task : Task) (path : List UInt8) : Text :=
  pathOf (Bpf.eventOf prog task (Bpf.pathBuffer path))

lemma deliveredPath_eq (prog : Bpf.Program) (task : Task) (path : List UInt8) :
    deliveredPath prog task path = fromUtf8Lossy ((Bpf.pathBuffer path).takeWhile (· ≠ 0)) :=
  pathOf_eventOf (Bpf.pathBuffer_length path)

/-- **The prefix tests** let every path through that has a rule: what the probe reads passes
the test if the table has a rule for what the detector is told. -/
theorem prefilters_pass (prog : Bpf.Program) (task : Task) (path : List UInt8) :
    ((FimDetector.matchPath (deliveredPath prog task path)).isSome →
      Bpf.isSensitivePrefix (Bpf.pathBuffer path) = true) ∧
    ((CredDetector.matchCred (deliveredPath prog task path)).isSome →
      Bpf.isCredCandidate (Bpf.pathBuffer path) = true) := by
  rw [deliveredPath_eq]
  have hprefix := List.takeWhile_prefix (l := Bpf.pathBuffer path) (p := fun b => decide (b ≠ 0))
  exact ⟨isSensitivePrefix_of_matchPath hprefix, isCredCandidate_of_matchCred hprefix⟩

/-- A key in a home directory, with a name that is cut off. -/
theorem prefilters_pass_key :
    let path := asciiBytes "/home/al/.ssh/id_rsa_of_the_other_host"
    Bpf.isSensitivePrefix (Bpf.pathBuffer path) = true ∧
      Bpf.isCredCandidate (Bpf.pathBuffer path) = true := by
  intro path
  have h := fun prog => prefilters_pass prog ⟨1, 1, 5, Vector.replicate 16 0⟩ path
  exact ⟨(h Bpf.fim).1 (by decide), (h Bpf.cred).2 (by decide)⟩

/-! ### The traversal heuristic -/

namespace Bpf

/-- A test for letters within the part of the path that is read. -/
lemma spells_take {n i : ℕ} {s : Text} (h : i + s.length ≤ n) (path : List UInt8) :
    spells (path.take n) i s = spells path i s := by
  have hlen : (asciiBytes s).length = s.length := List.length_map _
  rw [Bool.eq_iff_iff, spells, spells, List.isPrefixOf_iff_prefix, List.isPrefixOf_iff_prefix,
    List.drop_take, List.prefix_take_iff, hlen]
  exact and_iff_left (by omega)

lemma isExempt_take (path : List UInt8) : isExempt (path.take 31) = isExempt path := by
  simp (disch := decide) only [isExempt, exemptDirs, List.any_cons, List.any_nil, spells_take]

/-- What `contains_dotdot` finds in a path of any length. -/
lemma containsDotdot_pathBuffer {path : List UInt8} (h0 : (0 : UInt8) ∉ path) :
    containsDotdot (pathBuffer path) 32 = true ↔ isExempt path = false ∧
      (Path.Within slash [dot, dot] 31 path ∨ Path.CutShort slash [dot, dot] 31 path) := by
  have hfree : (0 : UInt8) ∉ path.take 31 := fun h => h0 (List.mem_of_mem_take h)
  rw [pathBuffer, containsDotdot_padTo (List.length_take_le _ _) hfree, isExempt_take,
    Path.occurs_take_iff (by decide)]

end Bpf

/-- **The traversal heuristic.** Both copies of `contains_dotdot` stay in the buffer and
compute the same. On a path outside the exempt directories they find the `..` components
whose dots are among the first 31 bytes, unless the 31 bytes end in the slash and the dots
of a longer name and there is no such component before it. -/
theorem climbs_iff (path : List UInt8) (h0 : (0 : UInt8) ∉ path)
    (hexempt : Bpf.isExempt path = false) :
    (∀ buf : List UInt8, buf.length = 32 → ∃ found, Bpf.Fim.containsDotdot buf 32 = some found ∧
      Bpf.Cred.containsDotdot buf 32 = some found) ∧
    ((Bpf.Fim.containsDotdot (Bpf.pathBuffer path) 32 = some true ↔
        Path.Within slash [dot, dot] 31 path) ↔
      (Path.CutShort slash [dot, dot] 31 path → Path.Within slash [dot, dot] 31 path)) := by
  refine ⟨fun buf hlen => ⟨_, Bpf.scanAt_eq hlen⟩, ?_⟩
  rw [(Bpf.scanAt_eq (Bpf.pathBuffer_length path)).1, Option.some.injEq,
    Bpf.containsDotdot_pathBuffer h0, hexempt, eq_self, true_and]
  tauto

/-- A path that climbs out of a home directory. -/
theorem climbs_iff_home :
    let path := asciiBytes "/home/al/../../etc/cron.d/evil-and-long"
    Bpf.Fim.containsDotdot (Bpf.pathBuffer path) 32 = some true := by
  intro path
  have hwithin : Path.Within slash [dot, dot] 31 path :=
    ⟨[[], asciiBytes "home", asciiBytes "al"],
      [[dot, dot], asciiBytes "etc", asciiBytes "cron.d", asciiBytes "evil-and-long"],
      by decide, by decide, by decide⟩
  exact ((climbs_iff path (by decide) (by decide)).2.mpr fun _ => hwithin).mpr hwithin

/-- The cut makes `..cache` look like `..`. -/
theorem cut_name_fires :
    let path := asciiBytes "/home/aaaaaaaaaaaaaaaaaaaaaa/..cache"
    (0 : UInt8) ∉ path ∧ Bpf.isExempt path = false ∧ [dot, dot] ∉ path.splitOn slash ∧
      Bpf.Fim.containsDotdot (Bpf.pathBuffer path) 32 = some true ∧
      ¬Path.Within slash [dot, dot] 31 path := by
  intro path
  have hnone : [dot, dot] ∉ path.splitOn slash := by decide
  refine ⟨by decide, by decide, hnone, by decide, ?_⟩
  rintro ⟨front, back, hsplit, -⟩
  rw [hsplit] at hnone
  exact hnone (List.mem_append_right _ List.mem_cons_self)

end Kernelradar
