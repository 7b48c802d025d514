import Kernelradar.Webhook.Literals

/-!
How the HTTP client of `webhook.rs` finds the host in a URL: the steps of the WHATWG algorithm
for an http or https URL, up to the host parser.

* `cleaned`, `readScheme`, `authorityOf`, `readHost`, `Client.parse`: white space, scheme,
  slashes, authority, host and port;
* `Client.Lawful`: which hosts the host parser cannot accept;
* `parse_https`: the steps after a scheme that the guard has read as well;
* `bareHost_of_accepts`: in an accepted authority the guard's way to cut out the host finds
  the host of the client.
-/

namespace Kernelradar

open Library Net

namespace Whatwg

/-- A C0 control or a space. -/
def isC0OrSpace (c : Char) : Bool := c.toNat ≤ 0x20

/-- An ASCII tab or newline. -/
def isTabOrNewline (c : Char) : Bool := c.toNat = 0x9 || c.toNat = 0xa || c.toNat = 0xd

/-- A text without tabs and newlines. -/
def withoutTabs (s : Text) : Text := s.filter fun c => !isTabOrNewline c

/-- A text without controls and spaces at its end, and without tabs and newlines. -/
def stripped (s : Text) : Text := withoutTabs (s.reverse.dropWhile isC0OrSpace).reverse

/-- The first two steps on a URL. -/
def cleaned (url : Text) : Text := stripped (url.dropWhile isC0OrSpace)

/-- An ASCII letter. -/
def isAlpha (c : Char) : Bool :=
  (65 ≤ c.toNat && c.toNat ≤ 90) || (97 ≤ c.toNat && c.toNat ≤ 122)

/-- A character of a scheme, after the first. -/
def isSchemeChar (c : Char) : Bool :=
  isAlpha c || (toDigit 10 c).isSome || c = '+' || c = '-' || c = '.'

/-- The scheme state. -/
def readScheme (s : Text) : Option (Text × Text) :=
  match Text.splitOnce ':' s with
  | some (scheme, rest) =>
      if scheme.head?.any isAlpha ∧ scheme.all isSchemeChar then
        some (Text.toAsciiLowercase scheme, rest)
      else none
  | none => none

/-- A backslash stands for a slash. -/
def isSlash (c : Char) : Bool := c = '/' || c = '\\'

/-- The end of an authority. -/
def endsAuthority (c : Char) : Bool := isSlash c || c = '?' || c = '#'

/-- The slashes, however many, and the authority state. -/
def authorityOf (rest : Text) : Text := Text.before endsAuthority (rest.dropWhile isSlash)

/-- The host state, inside brackets or not: the host, and the port if a colon comes. -/
def readHost : Bool → Text → Text × Option Text
  | _, [] => ([], none)
  | inside, c :: s =>
      if c = ':' ∧ inside = false then ([], some s)
      else
        let more := readHost (if c = '[' then true else if c = ']' then false else inside) s
        (c :: more.1, more.2)

/-- The port state. -/
def portOk (port : Option Text) : Bool :=
  port.all fun digits => digits.all (fun c => (toDigit 10 c).isSome)
    && fromDigits 10 (digits.filterMap (toDigit 10)) ≤ 65535

/-- A client, by the hosts its host parser accepts. That parser also decodes percent signs
and turns a domain into ASCII, which this model leaves to it. -/
structure Client where
  acceptsHost : Text → Bool

/-- The scheme of an http or https URL, and the host as it is given to the host parser, before
that decodes percent signs and turns a domain into ASCII. -/
def Client.parse (client : Client) (url : Text) : Option (Text × Text) :=
  match readScheme (cleaned url) with
  | none => none
  | some (scheme, rest) =>
      if scheme ≠ "http" ∧ scheme ≠ "https" then none
      else
        let host := readHost false (Text.afterLast '@' (authorityOf rest))
        if host.1 = [] ∨ client.acceptsHost host.1 = false ∨ portOk host.2 = false then none
        else some (scheme, host.1)

/-- The forbidden host code points that can be printed. -/
def forbidden : List Char := "#/:<>?@[\\]^|".toList

/-- Brackets hold an IPv6 address, and a domain has no forbidden host code point. -/
structure Client.Lawful (client : Client) : Prop where
  bracketed : ∀ host, client.acceptsHost host = true → host.head? = some '[' →
    ∃ s, host = '[' :: (s ++ [']']) ∧ Taken s
  domain : ∀ host, client.acceptsHost host = true → host.head? ≠ some '[' →
    ∀ c ∈ host, isC0OrSpace c = false ∧ c ∉ forbidden

/-- A host without its brackets. -/
def unbracketed (host : Text) : Text :=
  match Text.stripPrefix host ['['] with
  | some rest => rest.dropLast
  | none => host

/-- The host in lower case, without brackets and trailing dots; percent signs and characters
beyond ASCII stay what they are. -/
def hostString (host : Text) : Text :=
  Text.trimEndMatches '.' (Text.toAsciiLowercase (unbracketed host))

/-! ### The steps -/

/-- The host and the port make up what was read. -/
lemma readHost_spec (inside : Bool) (s : Text) :
    s = (readHost inside s).1 ++ (readHost inside s).2.elim [] fun port => ':' :: port := by
  induction s generalizing inside with
  | nil => rfl
  | cons c s ih =>
      rw [readHost]
      by_cases hcolon : c = ':' ∧ inside = false
      · rw [if_pos hcolon, hcolon.1]
        rfl
      · rw [if_neg hcolon]
        exact congrArg (c :: ·) (ih _)

lemma withoutTabs_append (s t : Text) :
    withoutTabs (s ++ t) = withoutTabs s ++ withoutTabs t := List.filter_append ..

lemma not_tab_of_not_c0 {c : Char} (h : isC0OrSpace c = false) : isTabOrNewline c = false := by
  simp only [isC0OrSpace, decide_eq_false_iff_not] at h
  simp only [isTabOrNewline, Bool.or_eq_false_iff, decide_eq_false_iff_not]
  omega

lemma withoutTabs_eq_self {s : Text} (h : ∀ c ∈ s, isTabOrNewline c = false) :
    withoutTabs s = s :=
  List.filter_eq_self.mpr fun c hc => by rw [h c hc]; rfl

/-- White space at the end does not reach beyond a character that is none. -/
lemma stripped_append {a : Text} (ha : ∀ c ∈ a.getLast?, isC0OrSpace c = false) (b : Text) :
    stripped (a ++ b) = withoutTabs a ++ stripped b := by
  have ha' : a.reverse.dropWhile isC0OrSpace = a.reverse := by
    rcases List.eq_nil_or_concat a with rfl | ⟨u, c, rfl⟩
    · rfl
    · rw [List.concat_eq_append] at ha ⊢
      have hc : isC0OrSpace c = false := ha c (by simp)
      rw [List.reverse_append, List.reverse_singleton, List.singleton_append,
        List.dropWhile_cons_of_neg (by rw [hc]; exact Bool.false_ne_true)]
  rw [stripped, stripped, List.reverse_append, List.dropWhile_append]
  split_ifs with hb
  · rw [ha', List.reverse_reverse, List.isEmpty_iff.mp hb]
    exact (List.append_nil _).symm
  · rw [List.reverse_append, List.reverse_reverse, withoutTabs_append]

/-- A letter of the scheme, before it was made lower case. -/
lemma isAlpha_of_lower {c : Char} (h : isAlpha (Text.lowerChar c) = true) :
    isAlpha c = true ∧ isC0OrSpace c = false ∧ c ≠ ':' := by
  have hcode := Text.toNat_lowerChar c
  have hcolon : c = ':' ↔ c.toNat = 58 := Char.toNat_inj.symm
  simp only [isAlpha, isC0OrSpace, Bool.or_eq_true, Bool.and_eq_true, decide_eq_true_eq,
    decide_eq_false_iff_not, ne_eq, hcolon] at h ⊢
  split_ifs at hcode <;> omega

/-- After a scheme of its own in front of `://`, whatever its letter case, the client is in
front of the authority. -/
lemma readScheme_https {front : Text} (hfront : Text.toAsciiLowercase front = "https") (t : Text) :
    readScheme (cleaned (front ++ (("://" : Text) ++ t)))
      = some (("https" : Text), '/' :: '/' :: stripped t) := by
  have hletters : ∀ c ∈ front, isAlpha c = true ∧ isC0OrSpace c = false ∧ c ≠ ':' := by
    intro c hc
    have hmem : Text.lowerChar c ∈ ("https" : Text) :=
      hfront ▸ Text.mem_toAsciiLowercase.mpr ⟨c, hc, rfl⟩
    exact isAlpha_of_lower ((by decide : ∀ d ∈ ("https" : Text), isAlpha d = true) _ hmem)
  have hne : front ≠ [] := by
    rintro rfl
    cases hfront
  obtain ⟨c, cs, rfl⟩ := List.exists_cons_of_ne_nil hne
  have hhead := hletters c List.mem_cons_self
  have hclean : cleaned (c :: cs ++ (("://" : Text) ++ t))
      = c :: cs ++ ':' :: '/' :: '/' :: stripped t := by
    have hkept : ∀ d ∈ c :: cs ++ ("://" : Text), isTabOrNewline d = false :=
      List.forall_mem_append.mpr
        ⟨fun d hd => not_tab_of_not_c0 (hletters d hd).2.1, by decide⟩
    have hlast : ∀ d ∈ (c :: cs ++ ("://" : Text)).getLast?, isC0OrSpace d = false := by
      intro d hd
      rw [List.getLast?_append] at hd
      obtain rfl : '/' = d := Option.some.inj hd
      rfl
    rw [cleaned, List.cons_append, List.dropWhile_cons_of_neg (by rw [hhead.2.1]; simp),
      ← List.cons_append, ← List.append_assoc, stripped_append hlast, withoutTabs_eq_self hkept,
      List.append_assoc]
    rfl
  have hcolon : ':' ∉ c :: cs := fun hmem => (hletters _ hmem).2.2 rfl
  have hsplit : Text.splitOnce ':' (c :: cs ++ ':' :: '/' :: '/' :: stripped t)
      = some (c :: cs, '/' :: '/' :: stripped t) := Text.splitOnce_eq_some.mpr ⟨rfl, hcolon⟩
  have hscheme : (c :: cs).head?.any isAlpha = true ∧ (c :: cs).all isSchemeChar = true := by
    refine ⟨hhead.1, List.all_eq_true.mpr fun d hd => ?_⟩
    simp only [isSchemeChar, (hletters d hd).1, Bool.true_or]
  rw [readScheme, hclean, hsplit]
  dsimp only
  rw [if_pos hscheme, hfront]

/-- What is accepted after such a scheme. -/
lemma parse_https {client : Client} {front t scheme host : Text}
    (hfront : Text.toAsciiLowercase front = "https")
    (h : client.parse (front ++ (("://" : Text) ++ t)) = some (scheme, host)) :
    scheme = "https" ∧ host ≠ [] ∧ client.acceptsHost host = true ∧
      (readHost false (Text.afterLast '@' (authorityOf (stripped t)))).1 = host := by
  have hslashes : authorityOf ('/' :: '/' :: stripped t) = authorityOf (stripped t) := rfl
  rw [Client.parse, readScheme_https hfront t] at h
  dsimp only at h
  rw [hslashes] at h
  split_ifs at h with hhttp hhost
  · obtain ⟨rfl, rfl⟩ := Prod.mk.inj (Option.some.inj h)
    rw [not_or, not_or, Bool.not_eq_false] at hhost
    exact ⟨rfl, hhost.1, hhost.2.1, rfl⟩

/-! ### The host -/

/-- A control or a space stands in no address. -/
lemma not_taken_of_c0 {c : Char} (h : isC0OrSpace c = true) :
    ¬(c = ':' ∨ c = '.' ∨ (toDigit 16 c).isSome = true) := by
  simp only [isC0OrSpace, decide_eq_true_eq] at h
  rintro (rfl | rfl | hdigit)
  · exact absurd h (by decide)
  · exact absurd h (by decide)
  · simp only [toDigit, char_le_iff, Char.reduceToNat] at hdigit
    split_ifs at hdigit <;> first | omega | cases hdigit

section Accepted

variable {client : Client} {authority host : Text}

/-- **One host.** Where the client accepts its host, the guard's way to cut a host out of the
same authority finds it too. -/
lemma bareHost_of_accepts (hlawful : client.Lawful) (hne : host ≠ [])
    (haccepts : client.acceptsHost host = true) (hread : (readHost false authority).1 = host) :
    bareHost authority = unbracketed host ∧
      ∀ c ∈ unbracketed host, isC0OrSpace c = false ∧ c ≠ '\\' := by
  have hport : ∀ c ∈ ((readHost false authority).2.elim [] fun port => ':' :: port).head?,
      decide (c = ':') = true := by
    cases (readHost false authority).2 with
    | none => nofun
    | some port => exact fun c hc => decide_eq_true (Option.some.inj hc).symm
  have hspec := readHost_spec false authority
  rw [hread] at hspec
  generalize ((readHost false authority).2.elim [] fun port => ':' :: port) = port at hspec hport
  by_cases hhead : host.head? = some '['
  · obtain ⟨s, rfl, hs⟩ := hlawful.bracketed host haccepts hhead
    have hfree : ∀ c ∈ s, decide (c = ']') = false :=
      fun c hc => decide_eq_false (ne_of_mem_of_not_mem hc (hs.notMem (by decide)))
    have hbare : unbracketed ('[' :: (s ++ [']'])) = s := by
      have hstrip : Text.stripPrefix ('[' :: (s ++ [']'])) ['['] = some (s ++ [']']) :=
        Text.stripPrefix_eq_some.mpr rfl
      rw [unbracketed, hstrip]
      exact List.dropLast_concat
    have hstrip : Text.stripPrefix authority ['['] = some (s ++ ']' :: port) := by
      rw [Text.stripPrefix_eq_some, hspec]
      simp
    rw [hbare, bareHost, hstrip]
    refine ⟨Text.before_append_cons hfree (decide_eq_true rfl) port, fun c hc => ⟨?_, ?_⟩⟩
    · rw [Bool.eq_false_iff]
      exact fun hc0 => hs.notMem (not_taken_of_c0 hc0) hc
    · rintro rfl
      exact hs.notMem (by decide) hc
  · have hdomain := hlawful.domain host haccepts hhead
    have hfree : ∀ c ∈ host, decide (c = ':') = false :=
      fun c hc => decide_eq_false fun h => (hdomain c hc).2 (h ▸ by decide)
    obtain ⟨c, cs, rfl⟩ := List.exists_cons_of_ne_nil hne
    have hstrip : ∀ s : Text, Text.stripPrefix (c :: s) ['['] = none :=
      fun s => Text.stripPrefix_singleton_eq_none.mpr hhead
    rw [unbracketed, hstrip, bareHost, hspec, List.cons_append, hstrip]
    refine ⟨Text.before_append hfree hport, fun d hd => ⟨(hdomain d hd).1, ?_⟩⟩
    rintro rfl
    exact (hdomain _ hd).2 (by decide)

end Accepted

end Whatwg

end Kernelradar
