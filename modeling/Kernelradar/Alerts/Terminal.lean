import Kernelradar.Alerts.Plain

/-!
What the sanitiser leaves of the characters that cannot be seen.

* `Invisible`: the general categories Cc, Cf, Zl and Zp of Unicode;
* `missed`: the format characters that `is_safe_for_tty` does not list;
  `isSafeForTty_iff`: it lists all the others, and nothing else;
* `clean_sanitizeForTty_iff`: when a sanitised text is clean.
-/

namespace Kernelradar

open Library

/-- A code point in one of some ranges. -/
def inRanges (ranges : List (ℕ × ℕ)) (n : ℕ) : Bool := ranges.any fun r => r.1 ≤ n && n ≤ r.2

/-- The general category Cf, as of version 15. -/
def formatRanges : List (ℕ × ℕ) :=
  [(0xAD, 0xAD), (0x600, 0x605), (0x61C, 0x61C), (0x6DD, 0x6DD), (0x70F, 0x70F), (0x890, 0x891),
    (0x8E2, 0x8E2), (0x180E, 0x180E), (0x200B, 0x200F), (0x202A, 0x202E), (0x2060, 0x2064),
    (0x2066, 0x206F), (0xFEFF, 0xFEFF), (0xFFF9, 0xFFFB), (0x110BD, 0x110BD), (0x110CD, 0x110CD),
    (0x13430, 0x1343F), (0x1BCA0, 0x1BCA3), (0x1D173, 0x1D17A), (0xE0001, 0xE0001),
    (0xE0020, 0xE007F)]

/-- The general categories Cc, Cf, Zl (U+2028) and Zp (U+2029). -/
def Invisible (c : Char) : Prop :=
  isControl c = true ∨ inRanges formatRanges c.toNat = true ∨ c.toNat = 0x2028 ∨ c.toNat = 0x2029

/-- The format characters that `is_safe_for_tty` does not list: the soft hyphen, the
Arabic letter mark and number signs, the Mongolian vowel separator, the deprecated
format characters, and the format characters of the supplementary planes. -/
def missedRanges : List (ℕ × ℕ) :=
  [(0xAD, 0xAD), (0x600, 0x605), (0x61C, 0x61C), (0x6DD, 0x6DD), (0x70F, 0x70F), (0x890, 0x891),
    (0x8E2, 0x8E2), (0x180E, 0x180E), (0x206A, 0x206F), (0x110BD, 0x110BD), (0x110CD, 0x110CD),
    (0x13430, 0x1343F), (0x1BCA0, 0x1BCA3), (0x1D173, 0x1D17A), (0xE0001, 0xE0001),
    (0xE0020, 0xE007F)]

/-- No character is invisible. -/
def Clean (s : Text) : Prop := ∀ c ∈ s, ¬Invisible c

lemma inRanges_iff {ranges : List (ℕ × ℕ)} {n : ℕ} :
    inRanges ranges n = true ↔ ∃ r ∈ ranges, r.1 ≤ n ∧ n ≤ r.2 := by
  simp only [inRanges, List.any_eq_true, Bool.and_eq_true, decide_eq_true_eq]

/-- **The whitelist**: what is visible, and what was missed. -/
lemma isSafeForTty_iff (c : Char) : isSafeForTty c = true ↔
    ¬Invisible c ∨ inRanges missedRanges c.toNat = true := by
  simp only [isSafeForTty, isControl, Invisible, inRanges, formatRanges, missedRanges,
    List.any_cons, List.any_nil, Bool.or_eq_true, Bool.and_eq_true, decide_eq_true_eq,
    Bool.false_eq_true, or_false]
  generalize c.toNat = n
  split_ifs with hcontrol
  · refine iff_of_false id ?_
    omega
  · simp only [Bool.not_eq_true', Bool.or_eq_false_iff, Bool.and_eq_false_iff,
      decide_eq_false_iff_not]
    omega

/-- Printable ASCII is visible. -/
lemma not_invisible_of_ascii {c : Char} (h : 0x20 ≤ c.toNat ∧ c.toNat < 0x7F) :
    ¬Invisible c := by
  simp only [Invisible, isControl, inRanges, formatRanges, List.any_cons, List.any_nil,
    Bool.or_eq_true, Bool.and_eq_true, decide_eq_true_eq, Bool.false_eq_true, or_false]
  omega

/-- The missed characters are invisible. -/
lemma invisible_of_missed {c : Char} (h : inRanges missedRanges c.toNat = true) :
    Invisible c := by
  obtain ⟨r, hr, hle⟩ := inRanges_iff.mp h
  have hformat : ∃ r' ∈ formatRanges, r'.1 ≤ r.1 ∧ r.2 ≤ r'.2 :=
    (by decide : ∀ r ∈ missedRanges, ∃ r' ∈ formatRanges, r'.1 ≤ r.1 ∧ r.2 ≤ r'.2) r hr
  obtain ⟨r', hr', hlo, hhi⟩ := hformat
  exact Or.inr (Or.inl (inRanges_iff.mpr ⟨r', hr', hlo.trans hle.1, hle.2.trans hhi⟩))

/-- A text of safe characters is written as it is. -/
lemma sanitizeForTty_of_safe {s : Text} (h : Safe s) : sanitizeForTty s = s := by
  have hone : ∀ ch ∈ s, sanitizeChar ch = [ch] := by
    intro ch hch
    rw [sanitizeChar, h ch hch, Bool.or_true, if_pos rfl]
  rw [sanitizeForTty, List.flatMap_congr hone]
  exact List.flatMap_singleton' s

/-- **The sanitiser** keeps a clean text as it is, and makes a text clean exactly if none
of the missed characters is in it. -/
theorem clean_sanitizeForTty_iff (s : Text) :
    (Clean (sanitizeForTty s) ∧ (Clean s → sanitizeForTty s = s)) ↔
      ∀ c ∈ s, inRanges missedRanges c.toNat = false := by
  have hkept : Clean s → sanitizeForTty s = s := fun h =>
    sanitizeForTty_of_safe fun c hc => (isSafeForTty_iff c).mpr (Or.inl (h c hc))
  constructor
  · rintro ⟨hclean, -⟩ c hc
    rw [Bool.eq_false_iff]
    intro hmissed
    have hsafe : isSafeForTty c = true := (isSafeForTty_iff c).mpr (Or.inr hmissed)
    have hmem : c ∈ sanitizeForTty s := by
      refine List.mem_flatMap.mpr ⟨c, hc, ?_⟩
      rw [sanitizeChar, hsafe, Bool.or_true, if_pos rfl]
      exact List.mem_singleton_self c
    exact hclean c hmem (invisible_of_missed hmissed)
  · intro hnone
    refine ⟨fun c hc => ?_, hkept⟩
    obtain ⟨ch, hch, hc⟩ := List.mem_flatMap.mp hc
    rcases mem_sanitizeChar hc with ⟨rfl, hsafe⟩ | hascii
    · refine ((isSafeForTty_iff c).mp hsafe).resolve_right ?_
      rw [hnone c hch]
      exact Bool.false_ne_true
    · exact not_invisible_of_ascii hascii

/-- The Arabic letter mark, which turns the writing direction, goes through. -/
theorem letter_mark_kept : ¬ ∀ s : Text,
    Clean (sanitizeForTty s) ∧ (Clean s → sanitizeForTty s = s) := by
  intro h
  have hclean := (h "a\u061Cb").1
  have hmark : Char.ofNat 0x61C ∈ sanitizeForTty "a\u061Cb" := by decide
  exact hclean _ hmark (Or.inr (Or.inl (by decide)))

end Kernelradar
