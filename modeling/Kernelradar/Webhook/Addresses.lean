import Mathlib.Data.List.Induction
import Kernelradar.Core.WebhookUrl
import Kernelradar.Library.Bytes

/-!
What the address parsers of the standard library accept, and which addresses the guard
refuses.

* `readNumber_octet_iff`, `parseIpv4_iff`: an IPv4 address is four numbers in decimal,
  without leading zeros;
* `Ipv4Addr.Blocked`, `ipv4SecurityIssue_isSome`: the networks of `ipv4_security_issue`.
-/

namespace Kernelradar

open Library

namespace Net

/-! ### Digits -/

lemma char_le_iff {c d : Char} : c ≤ d ↔ c.toNat ≤ d.toNat := UInt32.le_iff_toNat_le

/-- A digit in either case. -/
lemma toDigit_lowerChar (radix : ℕ) (c : Char) :
    toDigit radix (Text.lowerChar c) = toDigit radix c := by
  simp only [toDigit, char_le_iff, Char.reduceToNat, Text.toNat_lowerChar]
  by_cases hupper : 65 ≤ c.toNat ∧ c.toNat ≤ 90
  · have hvalue : c.toNat + 32 - 97 + 10 = c.toNat - 65 + 10 := by omega
    have hlow : 97 ≤ c.toNat + 32 ∧ c.toNat + 32 ≤ 122 := by omega
    have hdigit : ¬(48 ≤ c.toNat ∧ c.toNat ≤ 57) := by omega
    have hdigit' : ¬(48 ≤ c.toNat + 32 ∧ c.toNat + 32 ≤ 57) := by omega
    have hletter : ¬(97 ≤ c.toNat ∧ c.toNat ≤ 122) := by omega
    simp only [if_pos hupper, if_pos hlow, if_neg hdigit, if_neg hdigit', if_neg hletter, hvalue]
  · rw [if_neg hupper]

/-- A decimal digit is written as itself. -/
lemma toDigit_ten_iff {c : Char} {d : ℕ} :
    toDigit 10 c = some d ↔ d < 10 ∧ c = Nat.digitChar d := by
  simp only [toDigit, char_le_iff, Char.reduceToNat]
  constructor
  · intro h
    split_ifs at h with hdigit hlt
    · obtain rfl := Option.some.inj h
      refine ⟨hlt, Char.toNat_inj.mp ?_⟩
      rw [Nat.toNat_digitChar_of_lt_ten hlt]
      omega
    all_goals omega
  · rintro ⟨hd, rfl⟩
    have hrange : 48 ≤ 48 + d ∧ 48 + d ≤ 57 := by omega
    rw [Nat.toNat_digitChar_of_lt_ten hd, if_pos hrange, Nat.add_sub_cancel_left, if_pos hd]

/-- No digit at the front. -/
def NoDigit (radix : ℕ) (s : Text) : Prop := ∀ c ∈ s.head?, toDigit radix c = none

lemma spanDigits_append {radix : ℕ} {rest : Text} (hrest : NoDigit radix rest) : ∀ {cs : Text}
    {ds : List ℕ}, cs.map (toDigit radix) = ds.map some →
    spanDigits radix (cs ++ rest) = (ds, rest) := by
  intro cs
  induction cs with
  | nil =>
      intro ds h
      obtain rfl := List.map_eq_nil_iff.mp h.symm
      cases rest with
      | nil => rfl
      | cons c rest => rw [List.nil_append, spanDigits, hrest c rfl]
  | cons c cs ih =>
      intro ds h
      obtain ⟨d, ds, rfl, hd, hds⟩ := List.map_eq_cons_iff.mp h.symm
      rw [List.cons_append, spanDigits, ← hd, ih hds.symm]

/-- What `spanDigits` takes are digits, and none is left at the front. -/
lemma spanDigits_spec (radix : ℕ) (s : Text) : ∃ cs, s = cs ++ (spanDigits radix s).2 ∧
    cs.map (toDigit radix) = (spanDigits radix s).1.map some ∧
    NoDigit radix (spanDigits radix s).2 := by
  induction s with
  | nil => exact ⟨[], rfl, rfl, nofun⟩
  | cons c s ih =>
      obtain ⟨cs, hs, hds, hrest⟩ := ih
      rw [spanDigits]
      cases hc : toDigit radix c with
      | none => exact ⟨[], rfl, rfl, fun d hd => (Option.some.inj hd) ▸ hc⟩
      | some d =>
          refine ⟨c :: cs, ?_, ?_, hrest⟩
          · rw [List.cons_append, ← hs]
          · rw [List.map_cons, List.map_cons, hc, hds]

lemma fromDigits_concat (radix : ℕ) (ds : List ℕ) (d : ℕ) :
    fromDigits radix (ds ++ [d]) = fromDigits radix ds * radix + d := by
  rw [fromDigits, fromDigits, List.foldl_append]
  rfl

/-- A number without leading zeros is written with its own digits. -/
lemma toDigits_fromDigits {ds : List ℕ} (hlt : ∀ d ∈ ds, d < 10) (hne : ds ≠ [])
    (hzero : ds.head? = some 0 → ds.length = 1) :
    Nat.toDigits 10 (fromDigits 10 ds) = ds.map Nat.digitChar ∧
      (ds.head? ≠ some 0 → 0 < fromDigits 10 ds) := by
  induction ds using List.reverseRecOn with
  | nil => exact absurd rfl hne
  | append_singleton ds d ih =>
      have hd : d < 10 := hlt d (List.mem_append_right _ (List.mem_singleton_self d))
      rw [fromDigits_concat]
      cases ds with
      | nil =>
          have hvalue : fromDigits 10 [] * 10 + d = d := by simp [fromDigits]
          rw [hvalue]
          refine ⟨Nat.toDigits_of_lt_base hd, fun h => Nat.pos_of_ne_zero fun h0 => h ?_⟩
          rw [h0]
          rfl
      | cons e ds =>
          have he : (e :: ds ++ [d]).head? = some e := rfl
          have hnonzero : e ≠ 0 := by
            rintro rfl
            have hone := hzero he
            simp at hone
          obtain ⟨hdigits, hpos⟩ := ih (fun x hx => hlt x (List.mem_append_left _ hx)) (by simp)
            fun h => absurd (Option.some.inj h) hnonzero
          have hinit : 0 < fromDigits 10 (e :: ds) :=
            hpos fun h => hnonzero (Option.some.inj h)
          refine ⟨?_, fun _ => by omega⟩
          rw [Nat.toDigits_of_base_le (by decide) (by omega)]
          have hdiv : (fromDigits 10 (e :: ds) * 10 + d) / 10 = fromDigits 10 (e :: ds) := by omega
          have hmod : (fromDigits 10 (e :: ds) * 10 + d) % 10 = d := by omega
          rw [hdiv, hmod, hdigits, List.map_append]
          rfl

/-- The digits of a number, read back. -/
lemma toDigits_spec (n : ℕ) : ∃ ds : List ℕ, (Nat.toDigits 10 n).map (toDigit 10) = ds.map some ∧
    fromDigits 10 ds = n ∧ ds ≠ [] ∧ (ds.head? = some 0 → ds.length = 1) := by
  induction n using Nat.strongRecOn with
  | ind n ih =>
      by_cases hn : n < 10
      · refine ⟨[n], ?_, by simp [fromDigits], by simp, fun _ => rfl⟩
        rw [Nat.toDigits_of_lt_base hn, List.map_singleton, List.map_singleton,
          toDigit_ten_iff.mpr ⟨hn, rfl⟩]
      · have hle : 10 ≤ n := not_lt.mp hn
        obtain ⟨ds, hmap, hvalue, hne, hzero⟩ := ih (n / 10) (by omega)
        refine ⟨ds ++ [n % 10], ?_, ?_, by simp, ?_⟩
        · rw [Nat.toDigits_of_base_le (by decide) hle, List.map_append, hmap, List.map_append,
            List.map_singleton, List.map_singleton,
            toDigit_ten_iff.mpr ⟨Nat.mod_lt _ (by decide), rfl⟩]
        · rw [fromDigits_concat, hvalue]
          omega
        · intro h
          cases ds with
          | nil => exact absurd rfl hne
          | cons d ds =>
              -- a leading zero would make the quotient zero
              have hd : d = 0 := Option.some.inj h
              have hlen := hzero (by rw [hd]; rfl)
              obtain rfl := List.length_eq_zero_iff.mp (Nat.succ.inj hlen)
              rw [hd] at hvalue
              simp [fromDigits] at hvalue
              omega

/-- A `u32` in decimal is read back. -/
lemma parseU32_toDigits {n : ℕ} (hn : n < 2 ^ 32) : parseU32 (Nat.toDigits 10 n) = some n := by
  obtain ⟨ds, hmap, hvalue, hne, -⟩ := toDigits_spec n
  have hspan : spanDigits 10 (Nat.toDigits 10 n) = (ds, []) := by
    have hend : NoDigit 10 [] := nofun
    rw [← List.append_nil (Nat.toDigits 10 n)]
    exact spanDigits_append hend hmap
  have hplus : ∀ t, Nat.toDigits 10 n ≠ '+' :: t := by
    intro t ht
    have hhead := (congrArg (List.map (toDigit 10)) ht).symm.trans hmap
    obtain ⟨d, _, _, hd, -⟩ := List.map_eq_cons_iff.mp hhead.symm
    have hnone : toDigit 10 '+' = none := by decide
    rw [hnone] at hd
    cases hd
  rw [parseU32, hspan]
  · cases ds with
    | nil => exact absurd rfl hne
    | cons d ds =>
        dsimp only
        rw [hvalue, if_pos hn]
  · exact hplus

/-! ### IPv4 addresses -/

lemma readChar_eq_some {c : Char} {s t : Text} : readChar c s = some t ↔ s = c :: t := by
  cases s with
  | nil => exact ⟨nofun, nofun⟩
  | cons d s =>
      rw [readChar, List.cons.injEq]
      constructor
      · intro h
        split_ifs at h with hdc
        exact ⟨hdc, Option.some.inj h⟩
      · rintro ⟨rfl, rfl⟩
        exact if_pos rfl

/-- Characters that are read as decimal digits are these digits. -/
lemma digitChars_of_map {cs : Text} {ds : List ℕ} (h : cs.map (toDigit 10) = ds.map some) :
    cs = ds.map Nat.digitChar ∧ ∀ d ∈ ds, d < 10 := by
  induction cs generalizing ds with
  | nil =>
      obtain rfl := List.map_eq_nil_iff.mp h.symm
      exact ⟨rfl, fun _ hd => by cases hd⟩
  | cons c cs ih =>
      cases ds with
      | nil => cases h
      | cons d ds =>
          obtain ⟨hhead, htail⟩ := List.cons.inj h
          obtain ⟨hd, hc⟩ := toDigit_ten_iff.mp hhead
          obtain ⟨hcs, hds⟩ := ih htail
          rw [hcs, hc, List.map_cons]
          exact ⟨rfl, List.forall_mem_cons.mpr ⟨hd, hds⟩⟩

/-- An octet in decimal. -/
lemma readNumber_octet_iff {s rest : Text} {n : ℕ} :
    readNumber 10 3 256 false s = some (n, rest) ↔
      n < 256 ∧ s = Nat.toDigits 10 n ++ rest ∧ NoDigit 10 rest := by
  constructor
  · intro h
    obtain ⟨cs, hs, hmap, hrest⟩ := spanDigits_spec 10 s
    rw [readNumber] at h
    generalize (spanDigits 10 s) = span at h hs hmap hrest
    obtain ⟨ds, rest'⟩ := span
    dsimp only at h hs hmap hrest
    split_ifs at h with hlen hzero hlt
    obtain ⟨rfl, rfl⟩ := Prod.mk.inj (Option.some.inj h)
    rw [not_or] at hlen
    obtain ⟨hcs, hdigit⟩ := digitChars_of_map hmap
    have hhead : ds.head? = some 0 → ds.length = 1 := by
      intro h0
      have hpos := List.length_pos_iff_ne_nil.mpr hlen.1
      have hle : ¬1 < ds.length := fun h1 => hzero ⟨rfl, h0, h1⟩
      omega
    refine ⟨hlt, ?_, hrest⟩
    rw [(toDigits_fromDigits hdigit hlen.1 hhead).1, ← hcs]
    exact hs
  · rintro ⟨hlt, rfl, hrest⟩
    obtain ⟨ds, hmap, hvalue, hne, hzero⟩ := toDigits_spec n
    have hlen : ds.length ≤ 3 := by
      have hdigits : (Nat.toDigits 10 n).length ≤ 3 :=
        (Nat.length_toDigits_le_iff (by decide) (by decide)).mpr (by omega)
      have hsame := congrArg List.length hmap
      rw [List.length_map, List.length_map] at hsame
      omega
    rw [readNumber, spanDigits_append hrest hmap]
    dsimp only
    rw [if_neg (not_or.mpr ⟨hne, not_lt.mpr hlen⟩), if_neg, hvalue, if_pos hlt]
    rintro ⟨-, h0, h1⟩
    have hone := hzero h0
    omega

/-- A further octet, behind its dot. -/
lemma readSeparator_octet_iff {s rest : Text} {n i : ℕ} :
    readSeparator '.' (i + 1) (readNumber 10 3 256 false) s = some (n, rest) ↔
      n < 256 ∧ s = '.' :: (Nat.toDigits 10 n ++ rest) ∧ NoDigit 10 rest := by
  rw [readSeparator, if_neg (Nat.succ_ne_zero i), Option.bind_eq_some_iff]
  constructor
  · rintro ⟨t, ht, hn⟩
    obtain ⟨hlt, rfl, hrest⟩ := readNumber_octet_iff.mp hn
    exact ⟨hlt, readChar_eq_some.mp ht, hrest⟩
  · rintro ⟨hlt, rfl, hrest⟩
    exact ⟨_, readChar_eq_some.mpr rfl, readNumber_octet_iff.mpr ⟨hlt, rfl, hrest⟩⟩

namespace Ipv4Addr

/-- Each of the four is an octet. -/
def Octets (a : Ipv4Addr) : Prop := a.o0 < 256 ∧ a.o1 < 256 ∧ a.o2 < 256 ∧ a.o3 < 256

/-- Dotted decimal. -/
def dotted (a : Ipv4Addr) : Text :=
  Nat.toDigits 10 a.o0 ++ '.' :: (Nat.toDigits 10 a.o1 ++ '.' :: (Nat.toDigits 10 a.o2
    ++ '.' :: Nat.toDigits 10 a.o3))

end Ipv4Addr

lemma readIpv4_iff {s rest : Text} {a : Ipv4Addr} : readIpv4 s = some (a, rest) ↔
    a.Octets ∧ s = a.dotted ++ rest ∧ NoDigit 10 rest := by
  have hdot : ∀ t : Text, NoDigit 10 ('.' :: t) := fun t c hc =>
    (Option.some.inj hc) ▸ (by decide : toDigit 10 '.' = none)
  simp only [readIpv4, Option.bind_eq_bind, Option.bind_eq_some_iff, Prod.exists,
    readSeparator_octet_iff, Option.some.injEq, Prod.mk.injEq]
  constructor
  · rintro ⟨o0, s1, h0, o1, s2, ⟨h1, rfl, -⟩, o2, s3, ⟨h2, rfl, -⟩, o3, s4, ⟨h3, rfl, h4⟩, rfl, rfl⟩
    obtain ⟨hlt, rfl, -⟩ := readNumber_octet_iff.mp h0
    refine ⟨⟨hlt, h1, h2, h3⟩, ?_, h4⟩
    simp only [Ipv4Addr.dotted, List.append_assoc, List.cons_append]
  · rintro ⟨⟨h0, h1, h2, h3⟩, rfl, hrest⟩
    refine ⟨a.o0, _, readNumber_octet_iff.mpr ⟨h0, ?_, hdot _⟩, a.o1, _, ⟨h1, rfl, hdot _⟩, a.o2, _,
      ⟨h2, rfl, hdot _⟩, a.o3, rest, ⟨h3, rfl, hrest⟩, rfl, rfl⟩
    simp only [Ipv4Addr.dotted, List.append_assoc, List.cons_append]

/-- **IPv4 addresses** are written in dotted decimal, and in no other way. -/
theorem parseIpv4_iff {s : Text} {a : Ipv4Addr} :
    parseIpv4 s = some a ↔ a.Octets ∧ s = a.dotted := by
  have hparse : parseWith readIpv4 s = some a ↔ a.Octets ∧ s = a.dotted := by
    rw [parseWith]
    constructor
    · intro h
      split at h
      · rename_i b hb
        obtain rfl := Option.some.inj h
        obtain ⟨hoctets, hs, -⟩ := readIpv4_iff.mp hb
        exact ⟨hoctets, by rw [hs, List.append_nil]⟩
      · cases h
    · rintro ⟨hoctets, hs⟩
      have hread : readIpv4 s = some (a, []) :=
        readIpv4_iff.mpr ⟨hoctets, by rw [hs, List.append_nil], nofun⟩
      rw [hread]
  rw [parseIpv4]
  split_ifs with hlong
  · refine iff_of_false nofun ?_
    rintro ⟨⟨h0, h1, h2, h3⟩, rfl⟩
    have hlen : ∀ n < 256, (Nat.toDigits 10 n).length ≤ 3 := fun n hn =>
      (Nat.length_toDigits_le_iff (by decide) (by decide)).mpr (by omega)
    have l0 := hlen _ h0
    have l1 := hlen _ h1
    have l2 := hlen _ h2
    have l3 := hlen _ h3
    simp only [Ipv4Addr.dotted, List.length_append, List.length_cons] at hlong
    omega
  · exact hparse

/-! ### Networks -/

/-- The address as a number. -/
def Ipv4Addr.number (a : Ipv4Addr) : ℕ := ((a.o0 * 256 + a.o1) * 256 + a.o2) * 256 + a.o3

/-- Loopback, the private networks, link-local, shared address space, this network,
broadcast and multicast. -/
def blockedNets : List (Ipv4Addr × ℕ) :=
  [(⟨127, 0, 0, 0⟩, 8), (⟨10, 0, 0, 0⟩, 8), (⟨172, 16, 0, 0⟩, 12), (⟨192, 168, 0, 0⟩, 16),
    (⟨169, 254, 0, 0⟩, 16), (⟨100, 64, 0, 0⟩, 10), (⟨0, 0, 0, 0⟩, 8),
    (⟨255, 255, 255, 255⟩, 32), (⟨224, 0, 0, 0⟩, 4)]

/-- An address of one of the networks: it agrees in the leading bits. -/
def Blocked (n : ℕ) : Prop :=
  ∃ net ∈ blockedNets, n / 2 ^ (32 - net.2) = net.1.number / 2 ^ (32 - net.2)

/-- A chain of checks finds something where one of them does. -/
lemma isSome_ite {α : Type} {q : Prop} [Decidable q] {x : α} {o : Option α} :
    (if q then some x else o).isSome = true ↔ q ∨ o.isSome = true := by
  by_cases hq : q <;> simp [hq]

/-- **The networks** of `ipv4_security_issue`. -/
lemma ipv4SecurityIssue_isSome {a : Ipv4Addr} (h : a.Octets) :
    (ipv4SecurityIssue a).isSome = true ↔ Blocked a.number := by
  obtain ⟨o0, o1, o2, o3⟩ := a
  obtain ⟨h0, h1, h2, h3⟩ := h
  dsimp only at h0 h1 h2 h3
  have hcgnat : o1 &&& 0xc0 = 0x40 ↔ 64 ≤ o1 ∧ o1 ≤ 127 := by
    have hmask : o1 &&& 0xc0 = o1 / 64 % 4 * 64 := and_mask o1 6 2
    rw [hmask]
    omega
  have hrest : (o0 = 0 ∨ (o0 = 255 ∧ o1 = 255 ∧ o2 = 255 ∧ o3 = 255) ∨ (224 ≤ o0 ∧ o0 ≤ 239) ∨
      (o0 = 0 ∧ o1 = 0 ∧ o2 = 0 ∧ o3 = 0)) ↔
      (o0 = 0 ∨ (o0 = 255 ∧ o1 = 255 ∧ o2 = 255 ∧ o3 = 255) ∨ (224 ≤ o0 ∧ o0 ≤ 239)) := by omega
  have hguard : (ipv4SecurityIssue ⟨o0, o1, o2, o3⟩).isSome = true ↔
      o0 = 127 ∨ o0 = 10 ∨ (o0 = 172 ∧ 16 ≤ o1 ∧ o1 ≤ 31) ∨ (o0 = 192 ∧ o1 = 168) ∨
        (o0 = 169 ∧ o1 = 254) ∨ (o0 = 100 ∧ 64 ≤ o1 ∧ o1 ≤ 127) ∨ o0 = 0 ∨
        (o0 = 255 ∧ o1 = 255 ∧ o2 = 255 ∧ o3 = 255) ∨ (224 ≤ o0 ∧ o0 ≤ 239) := by
    simp only [ipv4SecurityIssue, Ipv4Addr.isLoopback, Ipv4Addr.isPrivate, Ipv4Addr.isLinkLocal,
      Ipv4Addr.isBroadcast, Ipv4Addr.isMulticast, Ipv4Addr.isUnspecified, hcgnat,
      Ipv4Addr.mk.injEq, Bool.or_eq_true, Bool.and_eq_true, decide_eq_true_eq, isSome_ite,
      Option.isSome_none, Bool.false_eq_true, or_false, or_assoc, and_assoc, hrest]
  -- the leading bits, network by network
  generalize hn : (Ipv4Addr.mk o0 o1 o2 o3).number = n
  rw [Ipv4Addr.number] at hn
  dsimp only at hn
  have hlead8 : ∀ k, n / 2 ^ 24 = k ↔ o0 = k := fun k => by omega
  have hlead16 : ∀ j k, k < 256 → (n / 2 ^ 16 = j * 256 + k ↔ o0 = j ∧ o1 = k) :=
    fun j k hk => by omega
  rw [hguard]
  simp only [Blocked, blockedNets, List.mem_cons, List.not_mem_nil, or_false, exists_eq_or_imp,
    exists_eq_left]
  refine or_congr (hlead8 127).symm (or_congr (hlead8 10).symm (or_congr ?_
    (or_congr (hlead16 192 168 (by decide)).symm (or_congr (hlead16 169 254 (by decide)).symm
      (or_congr ?_ (or_congr (hlead8 0).symm (or_congr ?_ ?_)))))))
  · have hnet : (Ipv4Addr.mk 172 16 0 0).number / 2 ^ (32 - 12) = 172 * 16 + 1 := by decide
    rw [hnet]
    omega
  · have hnet : (Ipv4Addr.mk 100 64 0 0).number / 2 ^ (32 - 10) = 100 * 4 + 1 := by decide
    rw [hnet]
    omega
  · have hnet : (Ipv4Addr.mk 255 255 255 255).number / 2 ^ (32 - 32) = 4294967295 := by decide
    rw [hnet]
    omega
  · have hnet : (Ipv4Addr.mk 224 0 0 0).number / 2 ^ (32 - 4) = 14 := by decide
    rw [hnet]
    omega

end Net

end Kernelradar
