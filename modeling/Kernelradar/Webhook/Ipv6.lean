import Kernelradar.Webhook.Addresses

/-!
What the IPv6 parser of the standard library accepts, and which addresses the guard refuses.

* `Digits`, `Taken`, `parseIpv6_spec`: what stands in the text of an address;
* `CaseFree`, `parseIpv6_lower`: an address in any letter case;
* `Blocked6`, `ipv6SecurityIssue_isSome`: the networks of the IPv6 checks.
-/

namespace Kernelradar

open Library

namespace Net

/-! ### What the readers take -/

/-- At least one digit, and nothing else. -/
def Digits (radix : ℕ) (s : Text) : Prop := s ≠ [] ∧ ∀ c ∈ s, (toDigit radix c).isSome = true

/-- Digits, colons and dots, with no dot at the end. -/
def Taken (s : Text) : Prop :=
  (∀ c ∈ s, c = ':' ∨ c = '.' ∨ (toDigit 16 c).isSome = true) ∧ s.getLast? ≠ some '.'

lemma isSome_of_map_eq {radix : ℕ} {cs : Text} {ds : List ℕ}
    (h : cs.map (toDigit radix) = ds.map some) {c : Char} (hc : c ∈ cs) :
    (toDigit radix c).isSome = true := by
  have hmem : toDigit radix c ∈ ds.map some := h ▸ List.mem_map_of_mem hc
  obtain ⟨d, -, hd⟩ := List.mem_map.mp hmem
  rw [← hd]
  rfl

lemma digits_toDigits (n : ℕ) : Digits 10 (Nat.toDigits 10 n) := by
  obtain ⟨ds, hmap, -, hne, -⟩ := toDigits_spec n
  refine ⟨?_, fun c hc => isSome_of_map_eq hmap hc⟩
  intro hnil
  rw [hnil] at hmap
  exact hne (List.map_eq_nil_iff.mp hmap.symm)

/-- A digit is one under every larger radix. -/
lemma toDigit_mono {radix radix' : ℕ} (hr : radix ≤ radix') {c : Char}
    (h : (toDigit radix c).isSome = true) : (toDigit radix' c).isSome = true := by
  simp only [toDigit] at h ⊢
  split_ifs at h ⊢ <;> first | rfl | omega

lemma Digits.hex {s : Text} (h : Digits 10 s) : Digits 16 s :=
  ⟨h.1, fun c hc => toDigit_mono (by decide) (h.2 c hc)⟩

lemma Taken.notMem {s : Text} (h : Taken s) {c : Char}
    (hc : ¬(c = ':' ∨ c = '.' ∨ (toDigit 16 c).isSome = true)) : c ∉ s :=
  fun hmem => hc (h.1 c hmem)

lemma taken_nil : Taken [] := ⟨nofun, nofun⟩

lemma taken_colon : Taken [':'] := ⟨fun _ hc => Or.inl (List.mem_singleton.mp hc), by simp⟩

lemma Taken.append {s t : Text} (hs : Taken s) (ht : Taken t) : Taken (s ++ t) := by
  refine ⟨fun c hc => (List.mem_append.mp hc).elim (hs.1 c) (ht.1 c), ?_⟩
  rw [List.getLast?_append]
  cases hlast : t.getLast? with
  | none => exact hs.2
  | some c => exact fun h => ht.2 (hlast.trans h)

lemma Digits.taken {s : Text} (h : Digits 16 s) : Taken s := by
  refine ⟨fun c hc => Or.inr (Or.inr (h.2 c hc)), fun hlast => ?_⟩
  have hdot := h.2 '.' (List.mem_of_getLast? hlast)
  exact absurd hdot (by decide)

/-- Digits behind a dot. -/
lemma Digits.taken_dot {s : Text} (h : Digits 16 s) : Taken ('.' :: s) := by
  refine ⟨List.forall_mem_cons.mpr ⟨Or.inr (Or.inl rfl), h.taken.1⟩, ?_⟩
  rw [List.getLast?_cons_of_ne_nil h.1]
  exact h.taken.2

lemma taken_dotted (a : Ipv4Addr) : Taken a.dotted := by
  have htake := fun n => (digits_toDigits n).hex
  exact (htake _).taken.append ((htake _).taken_dot.append
    ((htake _).taken_dot.append (htake _).taken_dot))

lemma readNumber_spec {radix maxDigits limit n : ℕ} {zero : Bool} {s rest : Text}
    (h : readNumber radix maxDigits limit zero s = some (n, rest)) :
    n < limit ∧ ∃ cs, s = cs ++ rest ∧ Digits radix cs := by
  obtain ⟨cs, hs, hmap, -⟩ := spanDigits_spec radix s
  rw [readNumber] at h
  dsimp only at h
  split_ifs at h with hlen hzero hlt
  obtain ⟨rfl, rfl⟩ := Prod.mk.inj (Option.some.inj h)
  refine ⟨hlt, cs, hs, ?_, fun c hc => isSome_of_map_eq hmap hc⟩
  rintro rfl
  exact hlen (Or.inl (List.map_eq_nil_iff.mp hmap.symm))

/-- The separator stands before every item but the first. -/
lemma readSeparator_spec {α : Type} {sep : Char} {i : ℕ} {inner : Reader α} {s : Text}
    {q : α × Text} (h : readSeparator sep i inner s = some q) :
    ∃ front t, s = front ++ t ∧ inner t = some q ∧ front = if i = 0 then [] else [sep] := by
  rw [readSeparator] at h
  split_ifs at h with hi
  · exact ⟨[], s, rfl, h, (if_pos hi).symm⟩
  · obtain ⟨t, ht, hq⟩ := Option.bind_eq_some_iff.mp h
    exact ⟨[sep], t, readChar_eq_some.mp ht, hq, (if_neg hi).symm⟩

/-- What `readGroups` takes: groups of sixteen bits. A colon is among it where a group was not
the first, or where there is more than an IPv4 address. -/
lemma readGroups_spec : ∀ (left i : ℕ) (s : Text), ∃ cs, s = cs ++ (readGroups left i s).2.2 ∧
    Taken cs ∧ (readGroups left i s).1.length ≤ left ∧
    (∀ g ∈ (readGroups left i s).1, g < 65536) ∧
    (i ≠ 0 ∧ (readGroups left i s).1 ≠ [] ∨ 2 < (readGroups left i s).1.length → ':' ∈ cs)
  | 0, _, _ => ⟨[], rfl, taken_nil, Nat.le_refl 0, nofun, by simp [readGroups]⟩
  | left + 1, i, s => by
      have hfront : ∀ front : Text, front = (if i = 0 then [] else [':']) →
          Taken front ∧ (i ≠ 0 → ':' ∈ front) := by
        rintro _ rfl
        by_cases hi : i = 0
        · exact ⟨by rw [if_pos hi]; exact taken_nil, fun h => absurd hi h⟩
        · rw [if_neg hi]
          exact ⟨taken_colon, fun _ => List.mem_singleton_self _⟩
      rw [readGroups]
      split
      · -- the last two groups, as an IPv4 address
        rename_i a rest hv4
        split_ifs at hv4 with hleft
        obtain ⟨front, t, rfl, ht, hsep⟩ := readSeparator_spec hv4
        obtain ⟨⟨h0, h1, h2, h3⟩, rfl, -⟩ := readIpv4_iff.mp ht
        obtain ⟨htaken, hcolon⟩ := hfront front hsep
        refine ⟨front ++ a.dotted, (List.append_assoc ..).symm, htaken.append (taken_dotted a),
          Nat.succ_le_succ hleft, ?_, ?_⟩
        · simp only [List.forall_mem_cons, List.not_mem_nil, false_imp_iff, implies_true, and_true]
          omega
        · rintro (⟨hi, -⟩ | hlong)
          · exact List.mem_append_left _ (hcolon hi)
          · exact absurd hlong (lt_irrefl 2)
      · split
        · -- one group, and the ones behind it
          rename_i g rest hg
          obtain ⟨front, t, rfl, ht, hsep⟩ := readSeparator_spec hg
          obtain ⟨hlt, cs, rfl, hcs⟩ := readNumber_spec ht
          obtain ⟨htaken, hcolon⟩ := hfront front hsep
          obtain ⟨ds, hrest, hds, hlen, hgroups, hmore⟩ := readGroups_spec left (i + 1) rest
          refine ⟨front ++ (cs ++ ds), ?_, htaken.append (hcs.taken.append hds),
            Nat.succ_le_succ hlen, List.forall_mem_cons.mpr ⟨hlt, hgroups⟩, ?_⟩
          · simp only [List.append_assoc]
            rw [← hrest]
          · rintro (⟨hi, -⟩ | hlong)
            · exact List.mem_append_left _ (hcolon hi)
            · rw [List.length_cons] at hlong
              have hne : (readGroups left (i + 1) rest).1 ≠ [] :=
                List.ne_nil_of_length_pos (by omega)
              exact List.mem_append_right _
                (List.mem_append_right _ (hmore (Or.inl ⟨Nat.succ_ne_zero i, hne⟩)))
        · exact ⟨[], rfl, taken_nil, Nat.zero_le _, nofun, by simp⟩

/-- **IPv6 addresses** are eight groups; their texts have colons, and no other characters than
digits, colons and dots. -/
lemma parseIpv6_spec {s : Text} {v : List ℕ} (h : parseIpv6 s = some v) :
    Taken s ∧ ':' ∈ s ∧ v.length = 8 ∧ ∀ g ∈ v, g < 65536 := by
  have hread : readIpv6 s = some (v, []) := by
    rw [parseIpv6, parseWith] at h
    split at h
    · rename_i w hw
      rw [hw, Option.some.inj h]
    · cases h
  obtain ⟨cs, hs, htaken, hlen, hgroups, hcolon⟩ := readGroups_spec 8 0 s
  simp only [readIpv6] at hread
  generalize readGroups 8 0 s = head at hread hs hlen hgroups hcolon
  obtain ⟨gs, headIpv4, rest⟩ := head
  dsimp only at hread hs hlen hgroups hcolon
  split_ifs at hread with hfull
  · obtain ⟨rfl, rfl⟩ := Prod.mk.inj (Option.some.inj hread)
    rw [List.append_nil] at hs
    exact ⟨hs ▸ htaken, hs ▸ hcolon (Or.inr (by omega)), hfull, hgroups⟩
  · -- two runs around a double colon
    simp only [Option.bind_eq_bind, Option.bind_eq_some_iff] at hread
    obtain ⟨t, ht, t', ht', hread⟩ := hread
    obtain ⟨ds, htail, hds, hlen', hgroups', -⟩ := readGroups_spec (8 - (gs.length + 1)) 0 t'
    obtain ⟨rfl, hrest⟩ := Prod.mk.inj (Option.some.inj hread)
    rw [readChar_eq_some.mp ht, readChar_eq_some.mp ht', htail, hrest, List.append_nil] at hs
    have hsplit : s = cs ++ ([':'] ++ ([':'] ++ ds)) := hs
    refine ⟨?_, ?_, ?_, ?_⟩
    · rw [hsplit]
      exact htaken.append (taken_colon.append (taken_colon.append hds))
    · rw [hsplit]
      simp
    · simp only [List.length_append, List.length_replicate]
      omega
    · intro g hg
      rcases List.mem_append.mp hg with hg | hg
      · rcases List.mem_append.mp hg with hg | hg
        · exact hgroups g hg
        · rw [List.eq_of_mem_replicate hg]
          decide
      · exact hgroups' g hg

/-! ### Letter case -/

/-- Digits in lower case. -/
lemma Digits.lower {radix : ℕ} {s : Text} (h : Digits radix s) :
    Digits radix (Text.toAsciiLowercase s) := by
  refine ⟨fun hnil => h.1 (List.map_eq_nil_iff.mp hnil), fun c hc => ?_⟩
  obtain ⟨d, hd, rfl⟩ := Text.mem_toAsciiLowercase.mp hc
  rw [toDigit_lowerChar]
  exact h.2 d hd

/-- A reader that takes no notice of the letter case. -/
def CaseFree {α : Type} (r : Reader α) : Prop :=
  ∀ s, r (Text.toAsciiLowercase s) = (r s).map fun q => (q.1, Text.toAsciiLowercase q.2)

lemma spanDigits_lower (radix : ℕ) (s : Text) : spanDigits radix (Text.toAsciiLowercase s)
    = ((spanDigits radix s).1, Text.toAsciiLowercase (spanDigits radix s).2) := by
  induction s with
  | nil => rfl
  | cons c s ih =>
      rw [Text.toAsciiLowercase_cons, spanDigits, spanDigits, toDigit_lowerChar]
      cases toDigit radix c with
      | none => rfl
      | some d => rw [ih]

lemma caseFree_readNumber (radix maxDigits limit : ℕ) (zero : Bool) :
    CaseFree (readNumber radix maxDigits limit zero) := by
  intro s
  simp only [readNumber, spanDigits_lower]
  split_ifs <;> rfl

/-- A separator is no letter. -/
lemma readChar_lower (sep : Char) (hsep : sep.toNat < 65) (s : Text) :
    readChar sep (Text.toAsciiLowercase s) = (readChar sep s).map Text.toAsciiLowercase := by
  cases s with
  | nil => rfl
  | cons d s =>
      rw [Text.toAsciiLowercase_cons, readChar, readChar]
      simp only [Text.lowerChar_eq_iff (Or.inl hsep)]
      split_ifs <;> rfl

lemma CaseFree.bind {α β : Type} {r : Reader α} {f : α → Reader β} (hr : CaseFree r)
    (hf : ∀ a, CaseFree (f a)) : CaseFree fun s => (r s).bind fun q => f q.1 q.2 := by
  intro s
  dsimp only
  rw [hr s]
  cases r s with
  | none => rfl
  | some q => exact hf q.1 q.2

lemma caseFree_readSeparator {α : Type} (sep : Char) (hsep : sep.toNat < 65) (i : ℕ)
    {inner : Reader α} (hinner : CaseFree inner) : CaseFree (readSeparator sep i inner) := by
  intro s
  rw [readSeparator, readSeparator, readChar_lower sep hsep]
  split_ifs
  · exact hinner s
  · cases readChar sep s with
    | none => rfl
    | some t => exact hinner t

lemma caseFree_readIpv4 : CaseFree readIpv4 := by
  have hoctet := fun i => caseFree_readSeparator '.' (by decide) i
    (caseFree_readNumber 10 3 256 false)
  have hend : ∀ a : Ipv4Addr, CaseFree fun s => some (a, s) := fun _ _ => rfl
  exact (hoctet 0).bind fun o0 => (hoctet 1).bind fun o1 => (hoctet 2).bind fun o2 =>
    (hoctet 3).bind fun o3 => hend ⟨o0, o1, o2, o3⟩

lemma readGroups_lower : ∀ (left i : ℕ) (s : Text),
    readGroups left i (Text.toAsciiLowercase s) = ((readGroups left i s).1,
      (readGroups left i s).2.1, Text.toAsciiLowercase (readGroups left i s).2.2)
  | 0, _, _ => rfl
  | left + 1, i, s => by
      have hv4 := caseFree_readSeparator ':' (by decide) i caseFree_readIpv4 s
      have hgroup := caseFree_readSeparator ':' (by decide) i
        (caseFree_readNumber 16 4 65536 true) s
      have hv4' : (if 0 < left then readSeparator ':' i readIpv4 (Text.toAsciiLowercase s)
          else none) = (if 0 < left then readSeparator ':' i readIpv4 s else none).map
            fun q => (q.1, Text.toAsciiLowercase q.2) := by
        rw [hv4]
        split_ifs <;> rfl
      rw [readGroups, readGroups, hv4', hgroup]
      cases (if 0 < left then readSeparator ':' i readIpv4 s else none) with
      | some q => rfl
      | none =>
          cases readSeparator ':' i (readNumber 16 4 65536 true) s with
          | none => rfl
          | some q =>
              simp only [Option.map_none, Option.map_some]
              rw [readGroups_lower left (i + 1) q.2]

/-- An address in lower case. -/
lemma parseIpv6_lower (s : Text) : parseIpv6 (Text.toAsciiLowercase s) = parseIpv6 s := by
  have hcolon : ':'.toNat < 65 := by decide
  have hread : CaseFree readIpv6 := by
    intro t
    simp only [readIpv6, readGroups_lower, readChar_lower ':' hcolon]
    split_ifs
    · rfl
    · rfl
    · cases readChar ':' (readGroups 8 0 t).2.2 with
      | none => rfl
      | some t' =>
          simp only [Option.map_some, Option.bind_eq_bind, Option.bind_some,
            readChar_lower ':' hcolon]
          cases readChar ':' t' with
          | none => rfl
          | some t'' =>
              simp only [Option.map_some, Option.bind_some, readGroups_lower]
  rw [parseIpv6, parseIpv6, parseWith, parseWith, hread s]
  rcases readIpv6 s with _ | ⟨v, _ | ⟨c, rest⟩⟩ <;> rfl

/-! ### Networks -/

/-- Loopback, unspecified, multicast, link-local and unique-local addresses. -/
def blocked6Nets : List (List ℕ × ℕ) :=
  [([0, 0, 0, 0, 0, 0, 0, 1], 128), ([0, 0, 0, 0, 0, 0, 0, 0], 128),
    ([0xff00, 0, 0, 0, 0, 0, 0, 0], 8), ([0xfe80, 0, 0, 0, 0, 0, 0, 0], 10),
    ([0xfc00, 0, 0, 0, 0, 0, 0, 0], 7)]

/-- An IPv6 address of one of the networks, or an IPv4 address of one mapped into IPv6. -/
def Blocked6 (n : ℕ) : Prop :=
  (n / 2 ^ 32 = 0xffff ∧ Blocked (n % 2 ^ 32)) ∨ ∃ net ∈ blocked6Nets,
    n / 2 ^ (128 - net.2) = fromDigits 65536 net.1 / 2 ^ (128 - net.2)

lemma toIpv4Mapped_eq (g0 g1 g2 g3 g4 g5 g6 g7 : ℕ) :
    toIpv4Mapped [g0, g1, g2, g3, g4, g5, g6, g7]
      = if g0 = 0 ∧ g1 = 0 ∧ g2 = 0 ∧ g3 = 0 ∧ g4 = 0 ∧ g5 = 0xffff then
          some ⟨g6 / 256, g6 % 256, g7 / 256, g7 % 256⟩
        else none := by
  split_ifs with h
  · obtain ⟨rfl, rfl, rfl, rfl, rfl, rfl⟩ := h
    rfl
  · rw [toIpv4Mapped]
    intro ab cd heq
    simp only [List.cons.injEq] at heq
    exact h ⟨heq.1, heq.2.1, heq.2.2.1, heq.2.2.2.1, heq.2.2.2.2.1, heq.2.2.2.2.2.1⟩

/-- Eight groups. -/
lemma exists_groups {v : List ℕ} (hlen : v.length = 8) :
    ∃ g0 g1 g2 g3 g4 g5 g6 g7, v = [g0, g1, g2, g3, g4, g5, g6, g7] := by
  rcases v with _ | ⟨g0, _ | ⟨g1, _ | ⟨g2, _ | ⟨g3, _ | ⟨g4, _ | ⟨g5, _ | ⟨g6, _ | ⟨g7, v⟩⟩⟩⟩⟩⟩⟩⟩
    <;> simp_all

/-- The three masks of the first group, as the leading bits they leave. -/
lemma masks_iff {g : ℕ} (h : g < 65536) : (g &&& 0xff00 = 0xff00 ↔ g / 256 = 255) ∧
    (g &&& 0xffc0 = 0xfe80 ↔ g / 64 = 1018) ∧ (g &&& 0xfe00 = 0xfc00 ↔ g / 512 = 126) := by
  have hff00 : g &&& 0xff00 = g / 256 % 256 * 256 := and_mask g 8 8
  have hffc0 : g &&& 0xffc0 = g / 64 % 1024 * 64 := and_mask g 6 10
  have hfe00 : g &&& 0xfe00 = g / 512 % 128 * 512 := and_mask g 9 7
  rw [hff00, hffc0, hfe00]
  omega

/-- The check of the IPv4 address that is mapped into the groups. -/
lemma mapped_isSome (g0 g1 g2 g3 g4 g5 : ℕ) {g6 g7 : ℕ} (h6 : g6 < 65536) (h7 : g7 < 65536) :
    ((toIpv4Mapped [g0, g1, g2, g3, g4, g5, g6, g7]).bind ipv4SecurityIssue).isSome = true ↔
      (g0 = 0 ∧ g1 = 0 ∧ g2 = 0 ∧ g3 = 0 ∧ g4 = 0 ∧ g5 = 0xffff) ∧
        Blocked (g6 * 65536 + g7) := by
  rw [toIpv4Mapped_eq]
  split_ifs with h
  · have hnumber : (Ipv4Addr.mk (g6 / 256) (g6 % 256) (g7 / 256) (g7 % 256)).number
        = g6 * 65536 + g7 := by
      simp only [Ipv4Addr.number]
      omega
    have hoctets : (Ipv4Addr.mk (g6 / 256) (g6 % 256) (g7 / 256) (g7 % 256)).Octets := by
      simp only [Ipv4Addr.Octets]
      omega
    rw [Option.bind_some, ipv4SecurityIssue_isSome hoctets, hnumber]
    exact (and_iff_right h).symm
  · exact iff_of_false Bool.false_ne_true fun hand => h hand.1

/-- The checks, group by group. -/
lemma issue_groups_isSome {g0 g1 g2 g3 g4 g5 g6 g7 : ℕ} (h0 : g0 < 65536) (h6 : g6 < 65536)
    (h7 : g7 < 65536) : (ipv6SecurityIssue [g0, g1, g2, g3, g4, g5, g6, g7]).isSome = true ↔
      ((g0 = 0 ∧ g1 = 0 ∧ g2 = 0 ∧ g3 = 0 ∧ g4 = 0 ∧ g5 = 0xffff) ∧
        Blocked (g6 * 65536 + g7)) ∨
      [g0, g1, g2, g3, g4, g5, g6, g7] = [0, 0, 0, 0, 0, 0, 0, 1] ∨
      [g0, g1, g2, g3, g4, g5, g6, g7] = [0, 0, 0, 0, 0, 0, 0, 0] ∨ g0 / 256 = 255 ∨
        g0 / 64 = 1018 ∨ g0 / 512 = 126 := by
  rw [← mapped_isSome g0 g1 g2 g3 g4 g5 h6 h7]
  simp only [ipv6SecurityIssue, List.headD_cons, masks_iff h0]
  cases (toIpv4Mapped [g0, g1, g2, g3, g4, g5, g6, g7]).bind ipv4SecurityIssue with
  | some reason => exact iff_of_true rfl (Or.inl rfl)
  | none =>
      simp only [isSome_ite, Option.isSome_none, Bool.false_eq_true, or_false, false_or, or_assoc]
      rfl

/-- **The networks** of the IPv6 checks. -/
lemma ipv6SecurityIssue_isSome {v : List ℕ} (hlen : v.length = 8) (hlt : ∀ g ∈ v, g < 65536) :
    (ipv6SecurityIssue v).isSome = true ↔ Blocked6 (fromDigits 65536 v) := by
  obtain ⟨g0, g1, g2, g3, g4, g5, g6, g7, rfl⟩ := exists_groups hlen
  simp only [List.forall_mem_cons, List.not_mem_nil, false_imp_iff, implies_true, and_true] at hlt
  obtain ⟨h0, -, -, -, -, -, h6, h7⟩ := id hlt
  -- the leading bits, network by network
  generalize hn : fromDigits 65536 [g0, g1, g2, g3, g4, g5, g6, g7] = n
  simp only [fromDigits, List.foldl_cons, List.foldl_nil] at hn
  have hlead : n / 2 ^ 112 = g0 := by omega
  rw [issue_groups_isSome h0 h6 h7]
  simp only [Blocked6, blocked6Nets, List.mem_cons, List.not_mem_nil, or_false, exists_eq_or_imp,
    exists_eq_left]
  refine or_congr (and_congr ?_ ?_) (or_congr ?_ (or_congr ?_ (or_congr ?_ (or_congr ?_ ?_))))
  · omega
  · have hlow : n % 2 ^ 32 = g6 * 65536 + g7 := by omega
    rw [hlow]
  · have hnet : fromDigits 65536 [0, 0, 0, 0, 0, 0, 0, 1] / 2 ^ (128 - 128) = 1 := by decide
    rw [hnet]
    simp only [List.cons.injEq, and_true]
    omega
  · have hnet : fromDigits 65536 [0, 0, 0, 0, 0, 0, 0, 0] / 2 ^ (128 - 128) = 0 := by decide
    rw [hnet]
    simp only [List.cons.injEq, and_true]
    omega
  · have hnet : fromDigits 65536 [0xff00, 0, 0, 0, 0, 0, 0, 0] / 2 ^ (128 - 8) = 255 := by decide
    rw [hnet]
    omega
  · have hnet : fromDigits 65536 [0xfe80, 0, 0, 0, 0, 0, 0, 0] / 2 ^ (128 - 10) = 1018 := by decide
    rw [hnet]
    omega
  · have hnet : fromDigits 65536 [0xfc00, 0, 0, 0, 0, 0, 0, 0] / 2 ^ (128 - 7) = 126 := by decide
    rw [hnet]
    omega

end Net

end Kernelradar
