import Mathlib.Tactic.IntervalCases
import Kernelradar.Alerts.Plain

/-!
The timestamps of the records, as `chrono` writes them for programs.

* `rfc3339`: the format of `Serialize` and of `to_rfc3339`;
* `yearOf`, `daysBefore`, `civil_spec`: the calendar counts every day once;
* `civil_injective`, `rfc3339_injective`: the text determines the instant.
-/

namespace Kernelradar

open Library

/-! ### Padded numbers -/

lemma padded_injective {w m n : ℕ} (h : padded w (decimal m) = padded w (decimal n)) : m = n := by
  have hvalue (k : ℕ) : Nat.ofDigitChars 10 (padded w (decimal k)) 0 = k := by
    rw [padded, List.leftpad, Nat.ofDigitChars_append, Nat.ofDigitChars_replicate_zero,
      Nat.mul_zero, decimal_eq, Nat.ofDigitChars_ten_toDigits]
  rw [← hvalue m, h, hvalue]

/-- A number of at most `w` digits is padded to `w` characters. -/
lemma length_padded {w n : ℕ} (hw : 0 < w) (h : n < 10 ^ w) :
    (padded w (decimal n)).length = w := by
  have hdigits : (decimal n).length ≤ w := by
    rw [decimal_eq]
    exact Nat.length_toDigits_le_iff (by decide) hw |>.mpr h
  rw [padded, List.length_leftpad]
  exact max_eq_left hdigits

lemma isDigit_of_mem_padded {w n : ℕ} {c : Char} (hc : c ∈ padded w (decimal n)) :
    c.isDigit = true := by
  rw [padded, List.leftpad, decimal_eq] at hc
  rcases List.mem_append.mp hc with hzero | hdigit
  · rw [List.eq_of_mem_replicate hzero]
    rfl
  · exact Nat.isDigit_of_mem_toDigits (by decide) (by decide) hdigit

namespace DateTime

/-! ### The calendar -/

/-- The year of a day in its era. -/
def yearOf (doe : ℕ) : ℕ := (doe - doe / 1460 + doe / 36524 - doe / 146096) / 365

/-- The days of an era before a year of it. -/
def daysBefore (yoe : ℕ) : ℕ := 365 * yoe + yoe / 4 - yoe / 100

/-- The leap days seen through the days are those seen through the years. -/
lemma yearOf_quarter {doe : ℕ} (h : doe < 146096) :
    yearOf doe / 4 ≤ doe / 1460 ∧ doe / 1460 ≤ yearOf doe / 4 + 1 := by
  have hc : doe / 36524 ≤ 3 := by omega
  have hf : doe / 146096 = 0 := by omega
  have hg : doe / 36524 ≤ doe / 1460 := by omega
  rw [yearOf, hf]
  generalize doe / 36524 = c at *
  omega

lemma yearOf_century {doe : ℕ} (h : doe < 146096) : yearOf doe / 100 = doe / 36524 := by
  have hc : doe / 36524 ≤ 3 := by omega
  have hf : doe / 146096 = 0 := by omega
  have hlow := Nat.div_mul_le_self doe 36524
  have hhigh := Nat.lt_mul_div_succ doe (Nat.succ_pos 36523)
  have hg := Nat.div_mul_le_self doe 1460
  have hg' := Nat.lt_mul_div_succ doe (Nat.succ_pos 1459)
  rw [yearOf, hf]
  generalize doe / 36524 = c at *
  generalize doe / 1460 = g at *
  interval_cases c <;> omega

/-- A day is in its year. -/
lemma daysBefore_yearOf {doe : ℕ} (h : doe < 146097) :
    daysBefore (yearOf doe) ≤ doe ∧ doe ≤ daysBefore (yearOf doe) + 365 := by
  obtain hlt | rfl : doe < 146096 ∨ doe = 146096 := by omega
  · have hquarter := yearOf_quarter hlt
    have hcentury := yearOf_century hlt
    have hf : doe / 146096 = 0 := by omega
    have hg : doe / 1460 ≤ doe := Nat.div_le_self _ _
    have hlow : 365 * yearOf doe ≤ doe - doe / 1460 + doe / 36524 := by
      rw [yearOf, hf]
      omega
    have hhigh : doe - doe / 1460 + doe / 36524 < 365 * yearOf doe + 365 := by
      rw [yearOf, hf]
      omega
    rw [daysBefore, hcentury]
    generalize yearOf doe = y at *
    generalize doe / 36524 = c at *
    generalize doe / 1460 = g at *
    omega
  · decide

/-- What the calendar makes of a day: its era, the year of the era, the day of the year and the
month, counted from March. -/
lemma civil_spec (days : ℤ) : ∃ (era : ℤ) (yoe doy mp : ℕ), yoe < 400 ∧ doy ≤ 365 ∧
    mp = (5 * doy + 2) / 153 ∧ days + 719468 = era * 146097 + daysBefore yoe + doy ∧
    civil days = (yoe + era * 400 + (if (if mp < 10 then mp + 3 else mp - 9) ≤ 2 then 1 else 0),
      if mp < 10 then mp + 3 else mp - 9, doy - (153 * mp + 2) / 5 + 1) := by
  have hdoe : ((days + 719468) % 146097).toNat < 146097 := by omega
  obtain ⟨hbefore, hafter⟩ := daysBefore_yearOf hdoe
  refine ⟨(days + 719468) / 146097, yearOf ((days + 719468) % 146097).toNat,
    ((days + 719468) % 146097).toNat - daysBefore (yearOf ((days + 719468) % 146097).toNat), _,
    ?_, by omega, rfl, ?_, rfl⟩
  · rw [yearOf]
    omega
  · omega

/-- **The calendar** gives every day a date of its own. -/
theorem civil_injective : Function.Injective civil := by
  intro a b hab
  obtain ⟨era, yoe, doy, mp, hyoe, hdoy, hmp, ha, hcivil⟩ := civil_spec a
  obtain ⟨era', yoe', doy', mp', hyoe', hdoy', hmp', hb, hcivil'⟩ := civil_spec b
  rw [hcivil, hcivil', Prod.mk.injEq, Prod.mk.injEq] at hab
  obtain ⟨hyear, hmonth, hday⟩ := hab
  have hmp_eq : mp = mp' := by
    split_ifs at hmonth <;> omega
  subst hmp_eq
  have hdoy_eq : doy = doy' := by omega
  have hyear_eq : (yoe : ℤ) + era * 400 = yoe' + era' * 400 := add_right_cancel hyear
  have hera : era = era' := by omega
  have hyoe_eq : yoe = yoe' := by omega
  subst hdoy_eq hera hyoe_eq
  omega

/-- The bounds of month and day. -/
lemma civil_lt (days : ℤ) : (civil days).2.1 < 100 ∧ (civil days).2.2 < 100 := by
  obtain ⟨era, yoe, doy, mp, hyoe, hdoy, hmp, -, hcivil⟩ := civil_spec days
  rw [hcivil]
  refine ⟨?_, ?_⟩
  · dsimp only
    split_ifs <;> omega
  · dsimp only
    omega

/-! ### The text -/

/-- `SecondsFormat::AutoSi`: as many digits as the fraction of the second needs. -/
def autoSi (nano : ℕ) : Text :=
  if nano = 0 then []
  else if nano % 1000000 = 0 then '.' :: padded 3 (decimal (nano / 1000000))
  else if nano % 1000 = 0 then '.' :: padded 6 (decimal (nano / 1000))
  else '.' :: padded 9 (decimal nano)

/-- Two digits. -/
def two (n : ℕ) : Text := padded 2 (decimal n)

/-- `write_rfc3339`; `zone` is how UTC is written. -/
def rfc3339 (zone : Text) (t : DateTime) : Text :=
  let secs := t.timestamp
  let (y, m, d) := civil (secs / 86400)
  let second := (secs % 86400).toNat
  formatYear y ++ ("-" ++ two m ++ "-" ++ two d) ++ 'T' :: (two (second / 3600) ++ ":"
    ++ two (second / 60 % 60) ++ ":" ++ two (second % 60) ++ autoSi (t % nanos).toNat ++ zone)

example : rfc3339 "Z" 1709210096789000000 = ("2024-02-29T12:34:56.789Z" : Text) := by decide

/-- The fraction in three, six or nine digits. -/
lemma autoSi_cases {nano : ℕ} (h : nano < 10 ^ 9) : nano = 0 ∧ autoSi nano = [] ∨
    ∃ w ∈ [3, 6, 9], ∃ q < 10 ^ w, nano = 10 ^ (9 - w) * q ∧
      autoSi nano = '.' :: padded w (decimal q) := by
  rw [autoSi]
  split_ifs with hzero hmillis hmicros
  · exact Or.inl ⟨hzero, rfl⟩
  · exact Or.inr ⟨3, by decide, nano / 1000000, by omega, by omega, rfl⟩
  · exact Or.inr ⟨6, by decide, nano / 1000, by omega, by omega, rfl⟩
  · exact Or.inr ⟨9, by decide, nano, h, by omega, rfl⟩

lemma autoSi_injective {m n : ℕ} (hm : m < 10 ^ 9) (hn : n < 10 ^ 9)
    (h : autoSi m = autoSi n) : m = n := by
  have hpos : ∀ w ∈ [3, 6, 9], 0 < w := by decide
  rcases autoSi_cases hm with ⟨rfl, hm'⟩ | ⟨w, hw, q, hq, rfl, hm'⟩
  · rcases autoSi_cases hn with ⟨rfl, -⟩ | ⟨w', -, q', -, -, hn'⟩
    · rfl
    · rw [hm', hn'] at h
      cases h
  · rcases autoSi_cases hn with ⟨-, hn'⟩ | ⟨w', hw', q', hq', rfl, hn'⟩
    · rw [hm', hn'] at h
      cases h
    · rw [hm', hn', List.cons.injEq] at h
      have hlength := congrArg List.length h.2
      rw [length_padded (hpos w hw) hq, length_padded (hpos w' hw') hq'] at hlength
      subst hlength
      rw [padded_injective h.2]

/-- A year below 0 or above 9999 has a sign. -/
lemma formatYear_cases (y : ℤ) : 0 ≤ y ∧ formatYear y = padded 4 (decimal y.toNat) ∨
    y < 0 ∧ formatYear y = '-' :: padded 4 (decimal y.natAbs) ∨
    0 ≤ y ∧ formatYear y = '+' :: padded 4 (decimal y.natAbs) := by
  rw [formatYear]
  split_ifs with hfour hneg
  · exact Or.inl ⟨hfour.1, rfl⟩
  · exact Or.inr (Or.inl ⟨hneg, rfl⟩)
  · exact Or.inr (Or.inr ⟨not_lt.mp hneg, rfl⟩)

lemma formatYear_injective : Function.Injective formatYear := by
  have hhead {c : Char} (hc : c.isDigit = false) {m n : ℕ} :
      padded 4 (decimal m) ≠ c :: padded 4 (decimal n) := by
    intro heq
    have hdigit := isDigit_of_mem_padded (heq ▸ List.mem_cons_self : c ∈ padded 4 (decimal m))
    rw [hc] at hdigit
    cases hdigit
  have hminus : ('-').isDigit = false := by decide
  have hplus : ('+').isDigit = false := by decide
  intro y y' h
  rcases formatYear_cases y with ⟨hy, heq⟩ | ⟨hy, heq⟩ | ⟨hy, heq⟩
  · rcases formatYear_cases y' with ⟨hy', heq'⟩ | ⟨-, heq'⟩ | ⟨-, heq'⟩
    · rw [heq, heq'] at h
      have hnat := padded_injective h
      omega
    · exact absurd (heq.symm.trans (h.trans heq')) (hhead hminus)
    · exact absurd (heq.symm.trans (h.trans heq')) (hhead hplus)
  · rcases formatYear_cases y' with ⟨-, heq'⟩ | ⟨hy', heq'⟩ | ⟨-, heq'⟩
    · exact absurd (heq'.symm.trans (h.symm.trans heq)) (hhead hminus)
    · rw [heq, heq', List.cons.injEq] at h
      have hnat := padded_injective h.2
      omega
    · rw [heq, heq', List.cons.injEq] at h
      exact absurd h.1 (by decide)
  · rcases formatYear_cases y' with ⟨-, heq'⟩ | ⟨-, heq'⟩ | ⟨hy', heq'⟩
    · exact absurd (heq'.symm.trans (h.symm.trans heq)) (hhead hplus)
    · rw [heq, heq', List.cons.injEq] at h
      exact absurd h.1 (by decide)
    · rw [heq, heq', List.cons.injEq] at h
      have hnat := padded_injective h.2
      omega

lemma length_two {n : ℕ} (h : n < 100) : (two n).length = 2 := length_padded (by decide) h

/-- No `T` stands in a date. -/
lemma notMem_date (y : ℤ) (m d : ℕ) : 'T' ∉ formatYear y ++ ("-" ++ two m ++ "-" ++ two d) := by
  have hpadded (w n : ℕ) : 'T' ∉ padded w (decimal n) := fun h =>
    absurd (isDigit_of_mem_padded h) (by decide)
  have hdash : 'T' ∉ "-".toList := by decide
  have hyear : 'T' ∉ formatYear y := by
    rcases formatYear_cases y with ⟨-, heq⟩ | ⟨-, heq⟩ | ⟨-, heq⟩
    · rw [heq]
      exact hpadded 4 _
    · rw [heq, List.mem_cons, not_or]
      exact ⟨by decide, hpadded 4 _⟩
    · rw [heq, List.mem_cons, not_or]
      exact ⟨by decide, hpadded 4 _⟩
  simp only [List.mem_append, not_or]
  exact ⟨hyear, ⟨⟨hdash, hpadded 2 m⟩, hdash⟩, hpadded 2 d⟩

/-- Two digits, then something else. -/
lemma two_append_inj {m n : ℕ} (hm : m < 100) (hn : n < 100) {s t : Text}
    (h : two m ++ s = two n ++ t) : m = n ∧ s = t := by
  obtain ⟨htwo, hrest⟩ := List.append_inj h ((length_two hm).trans (length_two hn).symm)
  exact ⟨padded_injective htwo, hrest⟩

/-- A time of the day determines its second. -/
lemma clock_injective {a b : ℕ} (ha : a < 86400) (hb : b < 86400) {s t : Text}
    (h : two (a / 3600) ++ ":" ++ two (a / 60 % 60) ++ ":" ++ two (a % 60) ++ s
      = two (b / 3600) ++ ":" ++ two (b / 60 % 60) ++ ":" ++ two (b % 60) ++ t) :
    a = b ∧ s = t := by
  simp only [List.append_assoc] at h
  obtain ⟨hhour, h⟩ := two_append_inj (by omega) (by omega) h
  obtain ⟨hminute, h⟩ := two_append_inj (by omega) (by omega) (List.append_cancel_left h)
  obtain ⟨hsecond, h⟩ := two_append_inj (by omega) (by omega) (List.append_cancel_left h)
  exact ⟨by omega, h⟩

/-- A date determines its day. -/
lemma date_injective {a b : ℤ}
    (h : formatYear (civil a).1 ++ ("-" ++ two (civil a).2.1 ++ "-" ++ two (civil a).2.2)
      = formatYear (civil b).1 ++ ("-" ++ two (civil b).2.1 ++ "-" ++ two (civil b).2.2)) :
    a = b := by
  obtain ⟨hm, hd⟩ := civil_lt a
  obtain ⟨hm', hd'⟩ := civil_lt b
  obtain ⟨hyear, h⟩ := List.append_inj' h (by
    simp only [List.length_append, length_two, hm, hd, hm', hd'])
  simp only [List.append_assoc] at h
  obtain ⟨hmonth, h⟩ := two_append_inj hm hm' (List.append_cancel_left h)
  have hday := padded_injective (List.append_cancel_left h)
  exact civil_injective (Prod.ext (formatYear_injective hyear) (Prod.ext hmonth hday))

/-- **The text of an instant** determines it, down to the nanosecond. -/
theorem rfc3339_injective (zone : Text) : Function.Injective (rfc3339 zone) := by
  intro t u h
  have hsplit {a b c d : Text} (ha : 'T' ∉ a) (hc : 'T' ∉ c)
      (heq : a ++ 'T' :: b = c ++ 'T' :: d) : a = c ∧ b = d := by
    have hleft : Text.splitOnce 'T' (a ++ 'T' :: b) = some (a, b) :=
      Text.splitOnce_eq_some.mpr ⟨rfl, ha⟩
    rw [heq, Text.splitOnce_eq_some.mpr ⟨rfl, hc⟩, Option.some.injEq, Prod.mk.injEq] at hleft
    exact ⟨hleft.1.symm, hleft.2.symm⟩
  simp only [rfc3339] at h
  obtain ⟨hdate, hclock⟩ := hsplit (notMem_date _ _ _) (notMem_date _ _ _) h
  simp only [List.append_assoc _ (autoSi _) zone] at hclock
  have hday := date_injective hdate
  obtain ⟨hsecond, hfraction⟩ := clock_injective (by omega) (by omega) hclock
  have hnano := autoSi_injective (by rw [nanos]; omega) (by rw [nanos]; omega)
    (List.append_cancel_right hfraction)
  have hsame (a b : ℤ) (h₁ : a / 10 ^ 9 / 86400 = b / 10 ^ 9 / 86400)
      (h₂ : (a / 10 ^ 9 % 86400).toNat = (b / 10 ^ 9 % 86400).toNat)
      (h₃ : (a % 10 ^ 9).toNat = (b % 10 ^ 9).toNat) : a = b := by omega
  exact hsame t u hday hsecond hnano

end DateTime

end Kernelradar
