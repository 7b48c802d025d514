import Kernelradar.Webhook.Ipv6

/-!
What the guard does with a URL whose host is an address.

* `hostIssue_dotted`, `hostIssue_ipv6`: the checks on a host that is an address;
* `Https`, `Https.url`: a URL with user information, a port and a tail around its host;
  `Https.hostOf_bare`, `Https.hostOf_bracketed`: the host the guard takes from it;
* `issue_literal`: the guard refuses exactly the addresses of the networks.
-/

namespace Kernelradar

open Library Net

/-! ### The checks on an address -/

/-- A dotted quad has digits and dots. -/
lemma mem_dotted {a : Ipv4Addr} {c : Char} (h : c ∈ a.dotted) :
    c = '.' ∨ ∃ d < 10, c = Nat.digitChar d := by
  have hnumber : ∀ n, c ∈ Nat.toDigits 10 n → ∃ d < 10, c = Nat.digitChar d := fun n hc => by
    obtain ⟨d, hd⟩ := Option.isSome_iff_exists.mp ((digits_toDigits n).2 c hc)
    exact ⟨d, toDigit_ten_iff.mp hd⟩
  simp only [Ipv4Addr.dotted, List.mem_append, List.mem_cons] at h
  rcases h with h | h | h | h | h | h | h
  all_goals first | exact Or.inl h | exact Or.inr (hnumber _ h)

/-- A character of a numeric host: a dot, a digit, or the letter of a radix. -/
def NumericChar (c : Char) : Prop :=
  c = '.' ∨ c = 'x' ∨ c = 'X' ∨ (toDigit 16 c).isSome = true

instance decidableNumericChar (c : Char) : Decidable (NumericChar c) :=
  inferInstanceAs (Decidable (_ ∨ _ ∨ _ ∨ _))

lemma NumericChar.ne {c d : Char} (hc : NumericChar c) (hd : ¬NumericChar d) : c ≠ d := by
  rintro rfl
  exact hd hc

lemma numeric_dotted {a : Ipv4Addr} {c : Char} (h : c ∈ a.dotted) : NumericChar c := by
  rcases mem_dotted h with rfl | ⟨d, hd⟩
  · exact Or.inl rfl
  · have hdigit : (toDigit 10 c).isSome = true := by
      rw [toDigit_ten_iff.mpr hd]
      rfl
    exact Or.inr (Or.inr (Or.inr (toDigit_mono (by decide) hdigit)))

lemma lower_dotted (a : Ipv4Addr) : Text.toAsciiLowercase a.dotted = a.dotted := by
  have hdigits : ∀ d < 10, Text.lowerChar (Nat.digitChar d) = Nat.digitChar d := by decide
  refine (List.map_congr_left fun c hc => ?_).trans (List.map_id _)
  rcases mem_dotted hc with rfl | ⟨d, hd, rfl⟩
  · rfl
  · exact hdigits d hd

lemma dot_mem_dotted (a : Ipv4Addr) : '.' ∈ a.dotted :=
  List.mem_append_right _ List.mem_cons_self

/-- A host with a character that is no digit is no `inet_aton` shortcut. -/
lemma not_shortcut {host : Text} {c : Char} (hc : c ∈ host) (hx : c ≠ 'x' ∧ c ≠ 'X')
    (hdigit : toDigit 16 c = none) : hostIsInetAtonShortcut host = false := by
  have hzero : c ≠ '0' := by
    rintro rfl
    cases hdigit
  rw [hostIsInetAtonShortcut, if_neg (List.ne_nil_of_mem hc)]
  cases hstrip : (Text.stripPrefix host "0x").or (Text.stripPrefix host "0X") with
  | some rest =>
      have hrest : c ∈ rest := by
        rcases Option.or_eq_some_iff.mp hstrip with h | ⟨-, h⟩
        all_goals
          rw [Text.stripPrefix_eq_some.mp h] at hc
          simpa [hzero, hx.1, hx.2] using hc
      have hall : (rest.all fun d => (toDigit 16 d).isSome) = false :=
        List.all_eq_false.mpr ⟨c, hrest, by simp [hdigit]⟩
      dsimp only
      rw [hall, Bool.and_false]
  | none =>
      dsimp only
      split_ifs with hdot
      · rfl
      · refine List.all_eq_false.mpr ⟨c, hc, fun h => ?_⟩
        have hsome := toDigit_mono (by decide : 10 ≤ 16) h
        rw [hdigit] at hsome
        cases hsome

/-- An address on the list of names is one of the networks as well. -/
lemma blockedHostnames_ipv4 : ∀ host ∈ blockedHostnames,
    (parseIpv4 host).all (fun a => (ipv4SecurityIssue a).isSome) = true := by decide

lemma hostIssue_dotted {a : Ipv4Addr} (h : a.Octets) :
    (hostIssue a.dotted).isSome = true ↔ Blocked a.number := by
  have hpercent : '%' ∉ a.dotted := fun hmem => absurd (numeric_dotted hmem) (by decide)
  have hparse : parseIpv4 a.dotted = some a := parseIpv4_iff.mpr ⟨h, rfl⟩
  rw [hostIssue, not_shortcut (dot_mem_dotted a) (by decide) rfl, if_neg Bool.false_ne_true,
    if_neg hpercent]
  split_ifs with hlist
  · have hissue := blockedHostnames_ipv4 _ hlist
    rw [hparse] at hissue
    exact iff_of_true rfl ((ipv4SecurityIssue_isSome h).mp hissue)
  · rw [hparse]
    dsimp only
    rw [Option.isSome_map]
    exact ipv4SecurityIssue_isSome h

/-- A host with a colon is judged as an IPv6 address. -/
lemma hostIssue_of_colon {host : Text} (hcolon : ':' ∈ host) (hpercent : '%' ∉ host) :
    hostIssue host = (parseIpv6 host).bind ipv6SecurityIssue := by
  have hlist : host ∉ blockedHostnames := fun hmem =>
    (by decide : ∀ name ∈ blockedHostnames, ':' ∉ name) host hmem hcolon
  have hv4 : parseIpv4 host = none := by
    rw [Option.eq_none_iff_forall_ne_some]
    rintro a ha
    obtain ⟨-, rfl⟩ := parseIpv4_iff.mp ha
    exact absurd (numeric_dotted hcolon) (by decide)
  rw [hostIssue, not_shortcut hcolon (by decide) rfl, if_neg Bool.false_ne_true, if_neg hpercent,
    if_neg hlist, hv4]

lemma hostIssue_ipv6 {s : Text} {v : List ℕ} (h : parseIpv6 s = some v) :
    (hostIssue s).isSome = true ↔ Blocked6 (fromDigits 65536 v) := by
  obtain ⟨htaken, hcolon, hlen, hlt⟩ := parseIpv6_spec h
  have hpercent : '%' ∉ s := htaken.notMem (by decide)
  rw [hostIssue_of_colon hcolon hpercent, h]
  exact ipv6SecurityIssue_isSome hlen hlt

/-! ### The host of a URL -/

/-- The end of the authority. -/
def Ends (c : Char) : Prop := c = '/' ∨ c = '?' ∨ c = '#'

instance (c : Char) : Decidable (Ends c) := inferInstanceAs (Decidable (_ ∨ _ ∨ _))

/-- A URL around its host: the scheme, user information, a port, and a path, query or
fragment. -/
structure Https where
  scheme : Text
  userinfo : Option Text
  port : Option Text
  rest : Text
  https : Text.toAsciiLowercase scheme = "https"
  userinfo_free : ∀ user ∈ userinfo, ∀ c ∈ user, ¬Ends c
  port_free : ∀ p ∈ port, ∀ c ∈ p, ¬Ends c ∧ c ≠ '@'
  rest_ends : ∀ c ∈ rest.head?, Ends c

/-- A separator is no letter. -/
lemma ends_lowerChar (c : Char) : Ends (Text.lowerChar c) ↔ Ends c := by
  have hlower := fun d hd => @Text.lowerChar_eq_iff c d (Or.inl hd)
  rw [Ends, Ends, hlower '/' (by decide), hlower '?' (by decide), hlower '#' (by decide)]

/-- What the guard takes for host and port. -/
def authorityHost (afterScheme : Text) : Text :=
  Text.afterLast '@' (Text.before (fun c => c = '/' || c = '?' || c = '#') afterScheme)

/-- The host without brackets and port. -/
def bareHost (host : Text) : Text :=
  match Text.stripPrefix host ['['] with
  | some stripped => Text.before (· = ']') stripped
  | none => Text.before (· = ':') host

lemma hostOf_eq (afterScheme : Text) :
    hostOf afterScheme = Text.trimEndMatches '.' (bareHost (authorityHost afterScheme)) := rfl

/-- The separators, as the guard tests for them. -/
lemma ends_eq (c : Char) : (c = '/' || c = '?' || c = '#') = decide (Ends c) := by
  rw [Bool.eq_iff_iff, decide_eq_true_eq]
  simp only [Bool.or_eq_true, decide_eq_true_eq, Ends, or_assoc]

/-- An https URL is judged by its host. -/
lemma webhookUrlSecurityIssue_https {url afterScheme : Text}
    (h : Text.toAsciiLowercase url = "https://" ++ afterScheme) :
    webhookUrlSecurityIssue url = hostIssue (hostOf afterScheme) := by
  have hfind : findPattern "://" ("https://" ++ afterScheme)
      = some (("https" : Text), afterScheme) := rfl
  rw [webhookUrlSecurityIssue, h, hfind]
  rfl

namespace Https

/-- User information in front of its at sign. -/
def user (u : Https) : Text := u.userinfo.elim [] fun user => user ++ ['@']

/-- The port behind its colon. -/
def colonPort (u : Https) : Text := u.port.elim [] fun p => ':' :: p

/-- What comes after the scheme. -/
def afterScheme (u : Https) (host : Text) : Text := u.user ++ (host ++ u.colonPort) ++ u.rest

/-- The URL with a host in it. -/
def url (u : Https) (host : Text) : Text := u.scheme ++ (("://" : Text) ++ u.afterScheme host)

/-- The URL in lower case. -/
def lower (u : Https) : Https where
  scheme := Text.toAsciiLowercase u.scheme
  userinfo := u.userinfo.map Text.toAsciiLowercase
  port := u.port.map Text.toAsciiLowercase
  rest := Text.toAsciiLowercase u.rest
  https := by
    rw [u.https]
    rfl
  userinfo_free := by
    intro user huser c hc
    obtain ⟨user', huser', rfl⟩ := Option.map_eq_some_iff.mp huser
    obtain ⟨d, hd, rfl⟩ := Text.mem_toAsciiLowercase.mp hc
    rw [ends_lowerChar]
    exact u.userinfo_free user' huser' d hd
  port_free := by
    intro p hp c hc
    obtain ⟨p', hp', rfl⟩ := Option.map_eq_some_iff.mp hp
    obtain ⟨d, hd, rfl⟩ := Text.mem_toAsciiLowercase.mp hc
    rw [ends_lowerChar, Ne, Text.lowerChar_eq_iff (Or.inl (by decide))]
    exact u.port_free p' hp' d hd
  rest_ends := by
    intro c hc
    rw [Text.toAsciiLowercase, List.head?_map] at hc
    obtain ⟨d, hd, rfl⟩ := Option.map_eq_some_iff.mp hc
    exact (ends_lowerChar d).mpr (u.rest_ends d hd)

lemma lower_url (u : Https) (host : Text) : Text.toAsciiLowercase (u.url host)
    = "https://" ++ u.lower.afterScheme (Text.toAsciiLowercase host) := by
  have huser : Text.toAsciiLowercase u.user = u.lower.user := by
    simp only [user, lower]
    cases u.userinfo with
    | none => rfl
    | some user => exact Text.toAsciiLowercase_append _ _
  have hport : Text.toAsciiLowercase u.colonPort = u.lower.colonPort := by
    simp only [colonPort, lower]
    cases u.port <;> rfl
  simp only [url, afterScheme, Text.toAsciiLowercase_append, u.https, huser, hport]
  rfl

/-- The guard cuts the host and port out. -/
lemma authorityHost_afterScheme (u : Https) {host : Text} (hhost : ∀ c ∈ host, ¬Ends c ∧ c ≠ '@') :
    authorityHost (u.afterScheme host) = host ++ u.colonPort := by
  have hport : ∀ c ∈ u.colonPort, ¬Ends c ∧ c ≠ '@' := by
    rw [colonPort]
    cases hp : u.port with
    | none => nofun
    | some p => exact List.forall_mem_cons.mpr ⟨by decide, u.port_free p hp⟩
  have hauthority : ∀ c ∈ host ++ u.colonPort, ¬Ends c ∧ c ≠ '@' :=
    List.forall_mem_append.mpr ⟨hhost, hport⟩
  have hnone : '@' ∉ host ++ u.colonPort := fun hmem => (hauthority _ hmem).2 rfl
  have hfree : ∀ c ∈ u.user ++ (host ++ u.colonPort), decide (Ends c) = false := by
    refine List.forall_mem_append.mpr ⟨?_, fun c hc => decide_eq_false (hauthority c hc).1⟩
    rw [user]
    cases huser : u.userinfo with
    | none => nofun
    | some user =>
        refine List.forall_mem_append.mpr
          ⟨fun c hc => decide_eq_false (u.userinfo_free user huser c hc), ?_⟩
        exact fun c hc => List.mem_singleton.mp hc ▸ (by decide)
  simp only [authorityHost, afterScheme, ends_eq]
  rw [Text.before_append hfree fun c hc => decide_eq_true (u.rest_ends c hc), user]
  cases u.userinfo with
  | none => exact Text.afterLast_of_notMem hnone
  | some user =>
      rw [Option.elim_some, List.append_assoc]
      exact Text.afterLast_append_cons user hnone

/-- A host without brackets. -/
lemma hostOf_bare (u : Https) {host : Text} (hhost : ∀ c ∈ host, NumericChar c)
    (hne : host ≠ []) : hostOf (u.afterScheme host) = Text.trimEndMatches '.' host := by
  have hends : ∀ c ∈ host, ¬Ends c ∧ c ≠ '@' := fun c hc => by
    refine ⟨?_, (hhost c hc).ne (by decide)⟩
    rintro (rfl | rfl | rfl) <;> exact absurd (hhost _ hc) (by decide)
  have hstrip : Text.stripPrefix (host ++ u.colonPort) ['['] = none := by
    rw [Text.stripPrefix_singleton_eq_none]
    obtain ⟨c, host, rfl⟩ := List.exists_cons_of_ne_nil hne
    exact fun h => (hhost c List.mem_cons_self).ne (by decide) (Option.some.inj h)
  have hfree : ∀ c ∈ host, decide (c = ':') = false :=
    fun c hc => decide_eq_false ((hhost c hc).ne (by decide))
  have hport : ∀ c ∈ u.colonPort.head?, decide (c = ':') = true := by
    rw [colonPort]
    cases u.port with
    | none => nofun
    | some p => exact fun c hc => decide_eq_true (Option.some.inj hc).symm
  rw [hostOf_eq, u.authorityHost_afterScheme hends, bareHost, hstrip]
  dsimp only
  rw [Text.before_append hfree hport]

/-- A host in brackets. -/
lemma hostOf_bracketed (u : Https) {s : Text} (hs : ∀ c ∈ s, ¬Ends c ∧ c ≠ '@')
    (hbracket : ']' ∉ s) :
    hostOf (u.afterScheme ('[' :: (s ++ [']']))) = Text.trimEndMatches '.' s := by
  have hhost : ∀ c ∈ '[' :: (s ++ [']']), ¬Ends c ∧ c ≠ '@' :=
    List.forall_mem_cons.mpr ⟨by decide, List.forall_mem_append.mpr
      ⟨hs, fun c hc => List.mem_singleton.mp hc ▸ (by decide)⟩⟩
  have hstrip : Text.stripPrefix ('[' :: (s ++ [']']) ++ u.colonPort) ['[']
      = some (s ++ ']' :: u.colonPort) := by
    rw [Text.stripPrefix_eq_some]
    simp
  have hfree : ∀ c ∈ s, decide (c = ']') = false :=
    fun c hc => decide_eq_false (ne_of_mem_of_not_mem hc hbracket)
  rw [hostOf_eq, u.authorityHost_afterScheme hhost, bareHost, hstrip]
  dsimp only
  rw [Text.before_append_cons hfree (decide_eq_true rfl)]

end Https

/-! ### Addresses in URLs -/

/-- **Canonical literals.** Whatever stands around it, an IPv4 address in dotted decimal, with
any number of dots behind it, and an IPv6 address in brackets are refused exactly if they are
in one of the networks. -/
theorem issue_literal (u : Https) :
    (∀ (a : Ipv4Addr) (dots : ℕ), a.Octets →
      ((webhookUrlSecurityIssue (u.url (a.dotted ++ List.replicate dots '.'))).isSome = true
        ↔ Blocked a.number)) ∧
    ∀ (s : Text) (v : List ℕ), parseIpv6 s = some v →
      ((webhookUrlSecurityIssue (u.url ('[' :: (s ++ [']'])))).isSome = true
        ↔ Blocked6 (fromDigits 65536 v)) := by
  refine ⟨fun a dots ha => ?_, fun s v hs => ?_⟩
  · have hhost : ∀ c ∈ a.dotted ++ List.replicate dots '.', NumericChar c :=
      List.forall_mem_append.mpr
        ⟨fun c => numeric_dotted, fun c hc => Or.inl (List.eq_of_mem_replicate hc)⟩
    have hlower : Text.toAsciiLowercase (a.dotted ++ List.replicate dots '.')
        = a.dotted ++ List.replicate dots '.' := by
      rw [Text.toAsciiLowercase_append, lower_dotted, Text.toAsciiLowercase, List.map_replicate]
      rfl
    rw [webhookUrlSecurityIssue_https (u.lower_url _), hlower,
      u.lower.hostOf_bare hhost (by simp [Ipv4Addr.dotted]),
      Text.trimEndMatches_append_replicate (taken_dotted a).2]
    exact hostIssue_dotted ha
  · have hs' : parseIpv6 (Text.toAsciiLowercase s) = some v := (parseIpv6_lower s).trans hs
    have htaken := (parseIpv6_spec hs').1
    have hfree : ∀ c ∈ Text.toAsciiLowercase s, (¬Ends c ∧ c ≠ '@') ∧ c ≠ ']' := by
      intro c hc
      refine ⟨⟨?_, ?_⟩, ?_⟩
      · rintro (rfl | rfl | rfl) <;> exact htaken.notMem (by decide) hc
      · rintro rfl
        exact htaken.notMem (by decide) hc
      · rintro rfl
        exact htaken.notMem (by decide) hc
    have hhost : Text.toAsciiLowercase ('[' :: (s ++ [']']))
        = '[' :: (Text.toAsciiLowercase s ++ [']']) := by
      rw [Text.toAsciiLowercase_cons, Text.toAsciiLowercase_append]
      rfl
    rw [webhookUrlSecurityIssue_https (u.lower_url _), hhost,
      u.lower.hostOf_bracketed (fun c hc => (hfree c hc).1) (fun h => (hfree _ h).2 rfl),
      Text.trimEndMatches_eq_self htaken.2]
    exact hostIssue_ipv6 hs'

/-- Shared address space behind user information that looks like a host, and a private address
mapped into IPv6. -/
theorem issue_literal_decorated :
    (webhookUrlSecurityIssue "HTTPS://a:b@[c@100.64.0.1.:8080?x@y").isSome = true ∧
      (webhookUrlSecurityIssue "https://[::FFFF:10.0.0.1]").isSome = true := by
  have hv4 := (issue_literal ⟨"HTTPS", some "a:b@[c", some "8080", "?x@y", by decide, by decide,
    by decide, by decide⟩).1 ⟨100, 64, 0, 1⟩ 1 (by simp [Ipv4Addr.Octets])
  have hv6 := (issue_literal ⟨"https", none, none, [], by decide, by simp, by simp, by simp⟩).2
    "::FFFF:10.0.0.1" [0, 0, 0, 0, 0, 0xffff, 0x0a00, 1] (by decide)
  refine ⟨hv4.mpr ⟨(⟨100, 64, 0, 0⟩, 10), by decide, by decide⟩,
    hv6.mpr (Or.inl ⟨by decide, (⟨10, 0, 0, 0⟩, 8), by decide, by decide⟩)⟩

end Kernelradar
