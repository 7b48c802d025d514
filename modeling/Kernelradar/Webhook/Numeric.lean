import Kernelradar.Webhook.Literals

/-!
Numeric hosts: the addresses `inet_aton` reads, against the recognisers of the guard.

* `inetAton`: what the C library makes of a host, a definition of its own;
* `shortcut_of_single`: one part alone is a shortcut;
* `numeric_refused_iff`: the guard refuses a blocked address exactly in one part, or in
  dotted decimal.
-/

namespace Kernelradar

open Library Net

/-! ### `inet_aton` -/

/-- A number under a radix, digits only. -/
def readDigits (radix : ℕ) (s : Text) : Option ℕ :=
  if s ≠ [] ∧ ∀ c ∈ s, (toDigit radix c).isSome = true then
    some (fromDigits radix (s.filterMap (toDigit radix)))
  else none

/-- One part: hexadecimal behind `0x`, octal behind a zero, decimal otherwise. -/
def inetPart (s : Text) : Option ℕ :=
  match (Text.stripPrefix s "0x").or (Text.stripPrefix s "0X") with
  | some rest => readDigits 16 rest
  | none => if s.head? = some '0' then readDigits 8 s else readDigits 10 s

/-- The address `inet_aton` reads: one to four parts, the last of which fills the bytes that
are left. -/
def inetAton (h : Text) : Option ℕ :=
  match (Text.splitOn '.' h).map inetPart with
  | [some d] => if d < 2 ^ 32 then some d else none
  | [some a, some d] => if a < 256 ∧ d < 2 ^ 24 then some (a * 2 ^ 24 + d) else none
  | [some a, some b, some d] =>
      if a < 256 ∧ b < 256 ∧ d < 2 ^ 16 then some ((a * 256 + b) * 2 ^ 16 + d) else none
  | [some a, some b, some c, some d] =>
      if a < 256 ∧ b < 256 ∧ c < 256 ∧ d < 256 then some (((a * 256 + b) * 256 + c) * 256 + d)
      else none
  | _ => none

lemma readDigits_spec {radix n : ℕ} {s : Text} (h : readDigits radix s = some n) :
    Digits radix s := by
  rw [readDigits] at h
  split_ifs at h with hdigits
  exact hdigits

lemma numeric_digits {radix : ℕ} {s : Text} (hr : radix ≤ 16) (h : Digits radix s) :
    s ≠ [] ∧ ∀ c ∈ s, NumericChar c :=
  ⟨h.1, fun c hc => Or.inr (Or.inr (Or.inr (toDigit_mono hr (h.2 c hc))))⟩

/-- A part has digits, and perhaps the letter of its radix. -/
lemma inetPart_spec {s : Text} {n : ℕ} (h : inetPart s = some n) :
    s ≠ [] ∧ ∀ c ∈ s, NumericChar c := by
  rw [inetPart] at h
  cases hstrip : (Text.stripPrefix s "0x").or (Text.stripPrefix s "0X") with
  | some rest =>
      rw [hstrip] at h
      have hrest := (numeric_digits (le_refl 16) (readDigits_spec h)).2
      rcases Option.or_eq_some_iff.mp hstrip with hs | ⟨-, hs⟩
      all_goals
        rw [Text.stripPrefix_eq_some.mp hs]
        exact ⟨by simp, List.forall_mem_append.mpr ⟨by decide, hrest⟩⟩
  | none =>
      rw [hstrip] at h
      dsimp only at h
      split_ifs at h
      · exact numeric_digits (by omega) (readDigits_spec h)
      · exact numeric_digits (by omega) (readDigits_spec h)

/-- Every part is a number. -/
lemma inetAton_parts {h : Text} {n : ℕ} (hn : inetAton h = some n) :
    ∀ part ∈ Text.splitOn '.' h, ∃ d, inetPart part = some d := by
  have hall : ∀ o ∈ (Text.splitOn '.' h).map inetPart, ∃ d, o = some d := by
    rw [inetAton] at hn
    split at hn <;> rename_i heq
    · rw [heq]
      simp
    · rw [heq]
      simp
    · rw [heq]
      simp
    · rw [heq]
      simp
    · cases hn
  exact fun part hpart => hall _ (List.mem_map_of_mem hpart)

/-- A host that is read has digits, dots and the letter of a radix, and does not end with a
dot. -/
lemma inetAton_spec {h : Text} {n : ℕ} (hn : inetAton h = some n) :
    h ≠ [] ∧ h.getLast? ≠ some '.' ∧ ∀ c ∈ h, NumericChar c := by
  have hparts := inetAton_parts hn
  have hempty : [] ∉ Text.splitOn '.' h := by
    intro hmem
    obtain ⟨d, hd⟩ := hparts [] hmem
    cases hd
  refine ⟨?_, ?_, fun c hc => ?_⟩
  · rintro rfl
    exact hempty (List.mem_singleton_self _)
  · intro hlast
    obtain ⟨t, rfl⟩ := List.getLast?_eq_some_iff.mp hlast
    refine hempty ?_
    rw [Text.splitOn, List.splitOn_append_cons_self]
    exact List.mem_append_right _ (List.mem_singleton_self _)
  · rcases Text.mem_splitOn hc with hdot | ⟨part, hpart, hmem⟩
    · exact Or.inl hdot
    · obtain ⟨d, hd⟩ := hparts part hpart
      exact (inetPart_spec hd).2 c hmem

/-- Decimal digits do not start like a hexadecimal number. -/
lemma stripPrefix_hex_eq_none {s : Text} (h : ∀ c ∈ s, (toDigit 10 c).isSome = true) :
    (Text.stripPrefix s "0x").or (Text.stripPrefix s "0X") = none := by
  have hstrip : ∀ c : Char, c = 'x' ∨ c = 'X' → Text.stripPrefix s ['0', c] = none := by
    rintro c hc
    rw [Option.eq_none_iff_forall_ne_some]
    intro rest hrest
    have hsome := h c (by rw [Text.stripPrefix_eq_some.mp hrest]; simp)
    rcases hc with rfl | rfl <;> exact absurd hsome (by decide)
  exact Option.or_eq_none_iff.mpr ⟨hstrip 'x' (Or.inl rfl), hstrip 'X' (Or.inr rfl)⟩

/-- A number in decimal, without leading zeros, is read back. -/
lemma inetPart_toDigits (n : ℕ) : inetPart (Nat.toDigits 10 n) = some n := by
  obtain ⟨hne, hdigits⟩ := digits_toDigits n
  obtain ⟨ds, hmap, hvalue, -, hzero⟩ := toDigits_spec n
  have hread : readDigits 10 (Nat.toDigits 10 n) = some n := by
    have hds : (Nat.toDigits 10 n).filterMap (toDigit 10) = ds :=
      calc (Nat.toDigits 10 n).filterMap (toDigit 10)
          = ((Nat.toDigits 10 n).map (toDigit 10)).filterMap id := by
            rw [List.filterMap_map, Function.id_comp]
        _ = ds := by rw [hmap, List.filterMap_map, Function.id_comp, List.filterMap_some]
    rw [readDigits, if_pos ⟨hne, hdigits⟩, hds, hvalue]
  rw [inetPart, stripPrefix_hex_eq_none hdigits]
  dsimp only
  split_ifs with h0
  · -- a leading zero stands alone
    obtain ⟨c, cs, hcs⟩ := List.exists_cons_of_ne_nil hne
    rw [hcs] at h0 hmap ⊢
    obtain rfl : c = '0' := Option.some.inj h0
    obtain ⟨d, ds, rfl, hd, htail⟩ := List.map_eq_cons_iff.mp hmap.symm
    obtain rfl : d = 0 := Option.some.inj hd
    obtain rfl := List.length_eq_zero_iff.mp (Nat.succ.inj (hzero rfl))
    obtain rfl := List.map_eq_nil_iff.mp htail.symm
    rw [← hvalue]
    rfl
  · exact hread

/-- Dotted decimal is read as the address. -/
lemma inetAton_dotted {a : Ipv4Addr} (h : a.Octets) : inetAton a.dotted = some a.number := by
  have hdot : ∀ n, '.' ∉ Nat.toDigits 10 n := fun n hmem =>
    absurd ((digits_toDigits n).2 _ hmem) (by decide)
  have hsplit : Text.splitOn '.' a.dotted = [Nat.toDigits 10 a.o0, Nat.toDigits 10 a.o1,
      Nat.toDigits 10 a.o2, Nat.toDigits 10 a.o3] := by
    rw [Text.splitOn, Ipv4Addr.dotted, List.splitOn_append_cons_self_of_not_mem (hdot _),
      List.splitOn_append_cons_self_of_not_mem (hdot _),
      List.splitOn_append_cons_self_of_not_mem (hdot _), List.splitOn_eq_singleton (hdot _)]
  rw [inetAton, hsplit]
  simp only [List.map_cons, List.map_nil, inetPart_toDigits]
  exact if_pos h

/-! ### The guard -/

/-- Digits alone are a shortcut. -/
lemma shortcut_of_digits {host : Text} (h : Digits 10 host) :
    hostIsInetAtonShortcut host = true := by
  have hdot : '.' ∉ host := fun hmem => absurd (h.2 _ hmem) (by decide)
  rw [hostIsInetAtonShortcut, if_neg h.1, stripPrefix_hex_eq_none h.2]
  dsimp only
  rw [if_neg hdot, List.all_eq_true]
  exact h.2

/-- A single number is a shortcut, in whatever radix. -/
lemma shortcut_of_single {h : Text} {n : ℕ} (hn : inetAton h = some n) (hdot : '.' ∉ h) :
    hostIsInetAtonShortcut (Text.toAsciiLowercase h) = true := by
  have hsingle : h ∈ Text.splitOn '.' h := by
    rw [Text.splitOn, List.splitOn_eq_singleton hdot]
    exact List.mem_singleton_self h
  obtain ⟨d, hd⟩ := inetAton_parts hn h hsingle
  rw [inetPart] at hd
  cases hstrip : (Text.stripPrefix h "0x").or (Text.stripPrefix h "0X") with
  | some rest =>
      rw [hstrip] at hd
      have hrest := (readDigits_spec hd).lower
      have hlower : Text.toAsciiLowercase h = '0' :: 'x' :: Text.toAsciiLowercase rest := by
        rcases Option.or_eq_some_iff.mp hstrip with hs | ⟨-, hs⟩
        all_goals
          rw [Text.stripPrefix_eq_some.mp hs]
          rfl
      have hshortcut : hostIsInetAtonShortcut ('0' :: 'x' :: Text.toAsciiLowercase rest)
          = (!(Text.toAsciiLowercase rest).isEmpty &&
            (Text.toAsciiLowercase rest).all fun c => (toDigit 16 c).isSome) := rfl
      rw [hlower, hshortcut, Bool.and_eq_true, List.all_eq_true]
      exact ⟨by simpa using hrest.1, hrest.2⟩
  | none =>
      rw [hstrip] at hd
      dsimp only at hd
      have hdigits : Digits 10 h := by
        split_ifs at hd
        · have h8 := readDigits_spec hd
          exact ⟨h8.1, fun c hc => toDigit_mono (by decide) (h8.2 c hc)⟩
        · exact readDigits_spec hd
      exact shortcut_of_digits hdigits.lower

/-- A dotted quad in lower case. -/
lemma lower_eq_dotted {h : Text} {a : Ipv4Addr} (hlower : Text.toAsciiLowercase h = a.dotted) :
    h = a.dotted := by
  refine Text.eq_of_toAsciiLowercase hlower fun c hc => ?_
  rcases mem_dotted hc with rfl | ⟨k, hk, rfl⟩
  · decide
  · rw [Nat.toNat_digitChar_of_lt_ten hk]
    omega

lemma NumericChar.lower {c : Char} (h : NumericChar c) : NumericChar (Text.lowerChar c) := by
  rcases h with rfl | rfl | rfl | hdigit
  · exact Or.inl rfl
  · exact Or.inr (Or.inl rfl)
  · exact Or.inr (Or.inl rfl)
  · rw [← toDigit_lowerChar] at hdigit
    exact Or.inr (Or.inr (Or.inr hdigit))

/-- A name of the list is an address, or has a letter or sign that no numeric host has. -/
lemma blockedHostnames_numeric : ∀ host ∈ blockedHostnames, (parseIpv4 host).isSome = true ∨
    ¬∀ c ∈ host, NumericChar c := by decide

/-- A host with dots and numbers is judged as a dotted quad, or not at all. -/
lemma hostIssue_numeric {host : Text} (hdot : '.' ∈ host)
    (hchars : ∀ c ∈ host, NumericChar c) :
    (hostIssue host).isSome = true ↔ ∃ a, parseIpv4 host = some a ∧ Blocked a.number := by
  cases hparse : parseIpv4 host with
  | some a =>
      obtain ⟨hoctets, rfl⟩ := parseIpv4_iff.mp hparse
      rw [hostIssue_dotted hoctets]
      simp
  | none =>
      have hpercent : '%' ∉ host := fun hmem => absurd (hchars _ hmem) (by decide)
      have hcolon : ':' ∉ host := fun hmem => absurd (hchars _ hmem) (by decide)
      have hlist : host ∉ blockedHostnames := by
        intro hmem
        rcases blockedHostnames_numeric host hmem with hsome | hnot
        · rw [hparse] at hsome
          cases hsome
        · exact hnot hchars
      have hv6 : parseIpv6 host = none := by
        rw [Option.eq_none_iff_forall_ne_some]
        exact fun v hv => hcolon (parseIpv6_spec hv).2.1
      rw [hostIssue, not_shortcut hdot (by decide) rfl, if_neg Bool.false_ne_true, if_neg hpercent,
        if_neg hlist, hparse, hv6]
      simp

/-- **Numeric hosts.** Of the hosts that `inet_aton` reads as an address of the networks, the
guard refuses the numbers without dots and the addresses in dotted decimal, and no others. -/
theorem numeric_refused_iff (h : Text) (n : ℕ) (hn : inetAton h = some n) (hblocked : Blocked n) :
    (webhookUrlSecurityIssue ("https://" ++ h ++ "/")).isSome = true ↔
      '.' ∉ h ∨ ∃ a : Ipv4Addr, a.Octets ∧ h = a.dotted := by
  let u : Https := ⟨"https", none, none, "/", rfl, nofun, nofun, by decide⟩
  obtain ⟨hne, hlast, hspec⟩ := inetAton_spec hn
  have hchars : ∀ c ∈ Text.toAsciiLowercase h, NumericChar c := by
    intro c hc
    obtain ⟨d, hd, rfl⟩ := Text.mem_toAsciiLowercase.mp hc
    exact (hspec d hd).lower
  have hne' : Text.toAsciiLowercase h ≠ [] := fun hnil => hne (List.map_eq_nil_iff.mp hnil)
  have hhost : hostOf (u.lower.afterScheme (Text.toAsciiLowercase h))
      = Text.toAsciiLowercase h := by
    rw [u.lower.hostOf_bare hchars hne']
    refine Text.trimEndMatches_eq_self fun hdot => hlast ?_
    rw [Text.toAsciiLowercase, List.getLast?_map] at hdot
    obtain ⟨d, hd, hlower⟩ := Option.map_eq_some_iff.mp hdot
    rw [hd, (Text.lowerChar_eq_iff (Or.inl (by decide))).mp hlower]
  have hurl : "https://" ++ h ++ "/" = u.url h := by
    simp [u, Https.url, Https.afterScheme, Https.user, Https.colonPort]
  rw [hurl, webhookUrlSecurityIssue_https (u.lower_url h), hhost]
  by_cases hdot : '.' ∈ h
  · have hdot' : '.' ∈ Text.toAsciiLowercase h :=
      (Text.mem_toAsciiLowercase_iff (Or.inl (by decide))).mpr hdot
    rw [hostIssue_numeric hdot' hchars, or_iff_right (not_not.mpr hdot)]
    constructor
    · rintro ⟨a, ha, -⟩
      obtain ⟨hoctets, hlower⟩ := parseIpv4_iff.mp ha
      exact ⟨a, hoctets, lower_eq_dotted hlower⟩
    · rintro ⟨a, hoctets, rfl⟩
      obtain rfl : a.number = n := Option.some.inj ((inetAton_dotted hoctets).symm.trans hn)
      exact ⟨a, parseIpv4_iff.mpr ⟨hoctets, lower_dotted a⟩, hblocked⟩
  · rw [hostIssue, shortcut_of_single hn hdot, if_pos rfl]
    exact iff_of_true rfl (Or.inl hdot)

/-- The integer form of `127.0.0.1`. -/
theorem numeric_refused_integer :
    (webhookUrlSecurityIssue ("https://" ++ ("2130706433" : Text) ++ "/")).isSome = true :=
  (numeric_refused_iff "2130706433" 2130706433 (by decide)
    ⟨(⟨127, 0, 0, 0⟩, 8), by decide, by decide⟩).mpr (Or.inl (by decide))

/-- `127.1` is let through. -/
theorem short_form_allowed : ¬ ∀ (h : Text) (n : ℕ), inetAton h = some n → Blocked n →
    (webhookUrlSecurityIssue ("https://" ++ h ++ "/")).isSome = true := by
  intro hall
  have hsome := hall "127.1" 2130706433 (by decide) ⟨(⟨127, 0, 0, 0⟩, 8), by decide, by decide⟩
  exact absurd hsome (by decide)

end Kernelradar
