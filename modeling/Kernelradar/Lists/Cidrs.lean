import Kernelradar.Detectors.Cidr

/-!
The destination CIDRs against the check of the configuration.

* `parse_isSome`: the parser and the check accept the same strings;
* `Denotes`: the address and the length that a string stands for;
* `contains_parseAll`: what a parsed list contains, and how many strings it skips.
-/

namespace Kernelradar

open Library

namespace Cidr

/-- `addr/N`, each of the two trimmed, with a length of at most 32. -/
def Denotes (s : Text) (addr : Net.Ipv4Addr) (len : ℕ) : Prop :=
  ∃ addrS lenS, s = addrS ++ '/' :: lenS ∧ '/' ∉ addrS ∧
    Net.parseIpv4 (Text.trim addrS) = some addr ∧ Net.parseU32 (Text.trim lenS) = some len ∧
    len ≤ 32

/-- The check accepts what stands for an address and a length. -/
lemma isValid_iff {s : Text} : Net.isValidIpv4Cidr s = true ↔ ∃ addr len, Denotes s addr len := by
  rw [Net.isValidIpv4Cidr]
  constructor
  · intro h
    cases hsplit : Text.splitOnce '/' s with
    | none =>
        rw [hsplit] at h
        cases h
    | some q =>
        obtain ⟨addrS, lenS⟩ := q
        rw [hsplit] at h
        obtain ⟨haddr, hlen⟩ := Bool.and_eq_true_iff.mp h
        obtain ⟨addr, haddr⟩ := Option.isSome_iff_exists.mp haddr
        obtain ⟨len, hlen, hle⟩ := (Option.any_eq_true _ _).mp hlen
        obtain ⟨hs, hnot⟩ := Text.splitOnce_eq_some.mp hsplit
        exact ⟨addr, len, addrS, lenS, hs, hnot, haddr, hlen, of_decide_eq_true hle⟩
  · rintro ⟨addr, len, addrS, lenS, hs, hnot, haddr, hlen, hle⟩
    rw [Text.splitOnce_eq_some.mpr ⟨hs, hnot⟩]
    dsimp only
    rw [haddr, hlen, Option.isSome_some, Option.any_some, decide_eq_true hle, Bool.and_self]

/-- The parser makes of a string the CIDR that it stands for. -/
lemma parse_eq_some {s : Text} {c : Cidr} : parse s = some c ↔ ∃ addr len, Denotes s addr len ∧
    c = ⟨addr.toU32 &&& maskOf len, maskOf len⟩ := by
  rw [parse]
  constructor
  · intro h
    obtain ⟨⟨addrS, lenS⟩, hsplit, h⟩ := Option.bind_eq_some_iff.mp h
    obtain ⟨addr, haddr, h⟩ := Option.bind_eq_some_iff.mp h
    obtain ⟨len, hlen, h⟩ := Option.bind_eq_some_iff.mp h
    obtain ⟨hs, hnot⟩ := Text.splitOnce_eq_some.mp hsplit
    split_ifs at h with hle
    exact ⟨addr, len, ⟨addrS, lenS, hs, hnot, haddr, hlen, not_lt.mp hle⟩,
      (Option.some.inj h).symm⟩
  · rintro ⟨addr, len, ⟨addrS, lenS, hs, hnot, haddr, hlen, hle⟩, rfl⟩
    rw [Text.splitOnce_eq_some.mpr ⟨hs, hnot⟩]
    simp only [Option.bind_eq_bind, Option.bind_some, haddr, hlen, if_neg (not_lt.mpr hle)]

/-- **One language**: the parser accepts what the check accepts. -/
lemma parse_isSome (s : Text) : (parse s).isSome = Net.isValidIpv4Cidr s := by
  rw [Bool.eq_iff_iff, isValid_iff, Option.isSome_iff_exists]
  constructor
  · rintro ⟨c, hc⟩
    obtain ⟨addr, len, hs, -⟩ := parse_eq_some.mp hc
    exact ⟨addr, len, hs⟩
  · rintro ⟨addr, len, hs⟩
    exact ⟨_, parse_eq_some.mpr ⟨addr, len, hs, rfl⟩⟩

/-- The strings that are skipped are those that the check rejects. -/
lemma skipped_eq (items : List Text) :
    (parseAll items).2 = items.countP fun s => !Net.isValidIpv4Cidr s := by
  rw [parseAll]
  refine List.countP_congr fun s _ => ?_
  rw [← parse_isSome, Option.not_isSome]

/-- **Destinations.** A parsed list contains an address exactly if one of its strings,
accepted by the check of the configuration, agrees with it in as many leading bits as
the string says; as many strings are skipped as the check rejects, none of those of a
valid configuration. -/
theorem contains_parseAll {F : Type} [F64 F] (items : List Text) (a : UInt32) :
    ((SharedCidrList.new (parseAll items).1).contains a = true ↔
      ∃ s ∈ items, Net.isValidIpv4Cidr s = true ∧ ∃ addr len, Denotes s addr len ∧
        a.toNat / 2 ^ (32 - len) = addr.toU32.toNat / 2 ^ (32 - len)) ∧
    (parseAll items).2 = items.countP (fun s => !Net.isValidIpv4Cidr s) ∧
    ∀ (re : RegexCrate) (cfg : Config F), cfg.validate re = [] →
      (parseAll cfg.network.destinationCidrAllowlist).2 = 0 := by
  refine ⟨?_, skipped_eq items, fun re cfg hvalid => ?_⟩
  · rw [SharedCidrList.contains_new, List.any_eq_true]
    constructor
    · rintro ⟨c, hc, hcontains⟩
      obtain ⟨s, hs, hparse⟩ := List.mem_filterMap.mp hc
      obtain ⟨addr, len, hdenotes, rfl⟩ := parse_eq_some.mp hparse
      have hle : len ≤ 32 := hdenotes.choose_spec.choose_spec.2.2.2.2
      exact ⟨s, hs, isValid_iff.mpr ⟨addr, len, hdenotes⟩, addr, len, hdenotes,
        (contains_iff hle _ _).mp hcontains⟩
    · rintro ⟨s, hs, -, addr, len, hdenotes, hagree⟩
      have hle : len ≤ 32 := hdenotes.choose_spec.choose_spec.2.2.2.2
      exact ⟨_, List.mem_filterMap.mpr ⟨s, hs, parse_eq_some.mpr ⟨addr, len, hdenotes, rfl⟩⟩,
        (contains_iff hle _ _).mpr hagree⟩
  · rw [skipped_eq, List.countP_eq_zero]
    intro s hs
    have hcheck : (cfg.network.destinationCidrAllowlist.flatMap fun entry =>
        Config.issueIf (F := F) (!Net.isValidIpv4Cidr entry) (.badCidr entry)) = [] :=
      Config.check_of_valid hvalid (by simp [Config.checks])
    rw [Config.issueIf_eq_nil.mp (List.flatMap_eq_nil_iff.mp hcheck s hs)]
    exact Bool.false_ne_true

/-- `10.0.0.1`, of `10.0.0.0/8` and a string that is no CIDR; and the default configuration. -/
theorem contains_parseAll_two :
    (∃ s ∈ (["10.0.0.0/8", "garbage"] : List Text), Net.isValidIpv4Cidr s = true ∧
      ∃ addr len, Denotes s addr len ∧
        (167772161 : UInt32).toNat / 2 ^ (32 - len) = addr.toU32.toNat / 2 ^ (32 - len)) ∧
    (parseAll ["10.0.0.0/8", "garbage"]).2 = 1 ∧
    (parseAll ({} : Config ℚ).network.destinationCidrAllowlist).2 = 0 := by
  obtain ⟨hcontains, hskipped, hvalid⟩ :=
    contains_parseAll (F := ℚ) ["10.0.0.0/8", "garbage"] 167772161
  exact ⟨hcontains.mp (by decide), hskipped.trans (by decide),
    hvalid ⟨fun _ => true, fun _ => true, fun _ _ => false⟩ {} (Config.validate_default _)⟩

end Cidr

end Kernelradar
