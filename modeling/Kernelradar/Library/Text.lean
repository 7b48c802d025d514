import Mathlib.Data.List.Basic
import Mathlib.Data.List.Infix
import Mathlib.Data.List.TakeWhile

/-!
Texts as lists of characters, with the string operations of a systems language.

* `stripPrefix`, `stripSuffix`, `splitOnce`, `afterLast`, `trim`, `lines`,
  `splitWhitespace`, `toAsciiLowercase`: the usual slicing operations, each on code points;
* `fromUtf8Lossy`: decoding with every maximal ill-formed chunk replaced by
  U+FFFD;
* `fromUtf8Lossy_append`: decoding splits in front of an ASCII byte;
* `ascii_append_of_lossy`: an ASCII beginning of the decoded text comes from the
  same bytes, so a comparison with an ASCII literal means the same before and
  after decoding.
-/

namespace Library

/-- A text: its code points in order. -/
abbrev Text := List Char

instance : Coe String Text := ⟨String.toList⟩

/-- Named, so that a test for membership in a list of texts cites it. -/
instance : LawfulBEq Text := inferInstance

/-- Tests of the characters of a text go through the text, not through all characters. -/
instance decidableForallMemText (p : Char → Prop) [DecidablePred p] (s : List Char) :
    Decidable (∀ c ∈ s, p c) := List.decidableBAll p s

instance decidableForallMemOption (p : Char → Prop) [DecidablePred p] (o : Option Char) :
    Decidable (∀ c ∈ o, p c) := Option.decidableForallMem o

namespace Text

/-- The rest of a text after a prefix, if it starts with it. -/
def stripPrefix (s p : Text) : Option Text :=
  if p.isPrefixOf s then some (s.drop p.length) else none

lemma stripPrefix_eq_some {s p t : Text} : stripPrefix s p = some t ↔ s = p ++ t := by
  rw [stripPrefix]
  constructor
  · intro h
    split_ifs at h with hp
    obtain ⟨u, rfl⟩ := List.isPrefixOf_iff_prefix.mp hp
    simpa using h
  · rintro rfl
    rw [if_pos (List.isPrefixOf_iff_prefix.mpr (List.prefix_append p t)), List.drop_left]

lemma stripPrefix_append (p t : Text) : stripPrefix (p ++ t) p = some t :=
  stripPrefix_eq_some.mpr rfl

lemma stripPrefix_singleton_eq_none {s : Text} {c : Char} :
    stripPrefix s [c] = none ↔ s.head? ≠ some c := by
  rw [Option.eq_none_iff_forall_ne_some]
  constructor
  · intro h hc
    obtain ⟨t, rfl⟩ := List.head?_eq_some_iff.mp hc
    exact h t (stripPrefix_eq_some.mpr rfl)
  · intro h t ht
    rw [stripPrefix_eq_some.mp ht] at h
    exact h rfl

/-- The rest of a text before a suffix, if it ends with it. -/
def stripSuffix (s p : Text) : Option Text :=
  if p.isSuffixOf s then some (s.take (s.length - p.length)) else none

/-- The text before and after the first separator. -/
def splitOnce (sep : Char) : Text → Option (Text × Text)
  | [] => none
  | c :: s => if c = sep then some ([], s) else (splitOnce sep s).map fun q => (c :: q.1, q.2)

lemma splitOnce_eq_some {sep : Char} : ∀ {s a b : Text},
    splitOnce sep s = some (a, b) ↔ s = a ++ sep :: b ∧ sep ∉ a
  | [], a, b => by simp [splitOnce]
  | c :: s, a, b => by
      by_cases hc : c = sep
      · subst hc
        cases a with
        | nil => simp [splitOnce]
        | cons d a =>
            simp only [splitOnce, if_true, Option.some.injEq, Prod.mk.injEq, List.cons_append,
              List.cons.injEq, List.mem_cons, not_or]
            constructor
            · rintro ⟨h, -⟩
              exact absurd h (by simp)
            · rintro ⟨⟨rfl, -⟩, h, -⟩
              exact absurd rfl h
      · cases a with
        | nil => simp [splitOnce, hc]
        | cons d a =>
            have ih := @splitOnce_eq_some sep s a b
            simp only [splitOnce, if_neg hc, Option.map_eq_some_iff, Prod.mk.injEq,
              List.cons.injEq, List.cons_append, List.mem_cons, not_or]
            constructor
            · rintro ⟨⟨a', b'⟩, h, ⟨rfl, rfl⟩, rfl⟩
              obtain ⟨h1, h2⟩ := ih.mp h
              exact ⟨⟨rfl, h1⟩, Ne.symm hc, h2⟩
            · rintro ⟨⟨rfl, h1⟩, -, h2⟩
              exact ⟨(a, b), ih.mpr ⟨h1, h2⟩, ⟨rfl, rfl⟩, rfl⟩

/-- The text after the last separator, the whole text if there is none. -/
def afterLast (sep : Char) (s : Text) : Text :=
  (s.reverse.takeWhile (· ≠ sep)).reverse

/-- The text before the first character that passes a test. -/
def before (p : Char → Bool) (s : Text) : Text := s.takeWhile fun c => !p c

/-- Unicode White_Space. -/
def isWhite (c : Char) : Bool :=
  let n := c.toNat
  (0x9 ≤ n && n ≤ 0xD) || n = 0x20 || n = 0x85 || n = 0xA0 || n = 0x1680
    || (0x2000 ≤ n && n ≤ 0x200A) || n = 0x2028 || n = 0x2029 || n = 0x202F || n = 0x205F
    || n = 0x3000

/-- A text without the white space at its two ends. -/
def trim (s : Text) : Text :=
  ((s.dropWhile isWhite).reverse.dropWhile isWhite).reverse

/-- Nothing is left of a text of white space, and only of one. -/
lemma trim_eq_nil {s : Text} : trim s = [] ↔ ∀ c ∈ s, isWhite c = true := by
  rw [trim, List.reverse_eq_nil_iff, List.dropWhile_eq_nil_iff]
  simp only [List.mem_reverse]
  constructor
  · intro h c hc
    rw [← List.takeWhile_append_dropWhile (p := isWhite) (l := s)] at hc
    rcases List.mem_append.mp hc with hfront | hrest
    · exact List.mem_takeWhile_imp hfront
    · exact h c hrest
  · exact fun h c hc => h c ((List.dropWhile_sublist isWhite).mem hc)

/-- A text without the copies of a character at its end. -/
def trimEndMatches (c : Char) (s : Text) : Text := (s.reverse.dropWhile (· = c)).reverse

/-- White space in front and behind is taken off, and no more. -/
lemma trim_cons_eq {c : Char} {s : Text} (hc : isWhite c = true)
    (hhead : ∀ d ∈ s.head?, isWhite d = false) (hlast : ∀ d ∈ s.getLast?, isWhite d = false) :
    trim (c :: s) = s := by
  have hfree {t : Text} (h : ∀ d ∈ t.head?, isWhite d = false) : t.dropWhile isWhite = t := by
    cases t with
    | nil => rfl
    | cons d t => rw [List.dropWhile_cons_of_neg (by simp [h d rfl])]
  rw [trim, List.dropWhile_cons_of_pos hc, hfree hhead,
    hfree fun d hd => hlast d (List.head?_reverse ▸ hd), List.reverse_reverse]

/-- The pieces between separators; one empty piece for an empty text. -/
def splitOn (sep : Char) (s : Text) : List Text := List.splitOn sep s

/-- The pieces that end behind a separator, and what is left at the end. -/
def splitInclusive (sep : Char) : Text → List Text
  | [] => []
  | c :: s =>
      if c = sep then [c] :: splitInclusive sep s
      else
        match splitInclusive sep s with
        | [] => [[c]]
        | piece :: pieces => (c :: piece) :: pieces

lemma splitInclusive_append_cons {sep : Char} {a : Text} (h : sep ∉ a) (s : Text) :
    splitInclusive sep (a ++ sep :: s) = (a ++ [sep]) :: splitInclusive sep s := by
  induction a with
  | nil => rw [List.nil_append, splitInclusive, if_pos rfl, List.nil_append]
  | cons c a ih =>
      have hc : c ≠ sep := fun heq => h (heq ▸ List.mem_cons_self)
      rw [List.cons_append, splitInclusive, if_neg hc, ih fun hs => h (List.mem_cons_of_mem c hs)]
      rfl

/-- A line without its ending, `\n` or `\r\n`. -/
def chomp (line : Text) : Text :=
  match stripSuffix line ['\n'] with
  | none => line
  | some line => (stripSuffix line ['\r']).getD line

/-- The lines of a text. -/
def lines (s : Text) : List Text := (splitInclusive '\n' s).map chomp

lemma chomp_newline {a : Text} (h : a.getLast? ≠ some '\r') : chomp (a ++ ['\n']) = a := by
  have hnewline : stripSuffix (a ++ ['\n']) ['\n'] = some a := by
    rw [stripSuffix, if_pos (List.isSuffixOf_iff_suffix.mpr (List.suffix_append a _))]
    simp
  have hreturn : stripSuffix a ['\r'] = none := by
    rw [stripSuffix, if_neg]
    intro hsuffix
    obtain ⟨b, rfl⟩ := List.isSuffixOf_iff_suffix.mp hsuffix
    exact h List.getLast?_concat
  rw [chomp, hnewline]
  dsimp only
  rw [hreturn, Option.getD_none]

/-- A first line that ends in a line feed. -/
lemma lines_append_cons {a : Text} (hfree : '\n' ∉ a) (hlast : a.getLast? ≠ some '\r')
    (s : Text) : lines (a ++ '\n' :: s) = a :: lines s := by
  rw [lines, splitInclusive_append_cons hfree, List.map_cons, chomp_newline hlast, lines]

/-- The words of a text, between white space. -/
def splitWhitespace (s : Text) : List Text := (s.splitOnP isWhite).filter fun w => !w.isEmpty

/-- White space in front is skipped. -/
lemma splitWhitespace_cons {c : Char} (hc : isWhite c = true) (s : Text) :
    splitWhitespace (c :: s) = splitWhitespace s := by
  have hnil : ∀ d ∈ ([] : Text), isWhite d = false := fun _ h => absurd h List.not_mem_nil
  rw [splitWhitespace, ← List.nil_append (c :: s),
    List.splitOnP_append_cons_of_forall_mem hnil c hc s]
  rfl

/-- A word at the front, behind which the text ends or goes on with white space. -/
lemma splitWhitespace_append {w t : Text} (hne : w ≠ []) (hw : ∀ c ∈ w, isWhite c = false)
    (ht : ∀ c ∈ t.head?, isWhite c = true) :
    splitWhitespace (w ++ t) = w :: splitWhitespace t := by
  have hkeep (ws : List Text) : (w :: ws).filter (fun w => !w.isEmpty)
      = w :: ws.filter fun w => !w.isEmpty := by
    cases w with
    | nil => exact absurd rfl hne
    | cons c w => rfl
  cases t with
  | nil =>
      rw [List.append_nil, splitWhitespace, List.splitOnP_eq_singleton hw, hkeep]
      rfl
  | cons c t =>
      have hc : isWhite c = true := ht c rfl
      rw [splitWhitespace, List.splitOnP_append_cons_of_forall_mem hw c hc t, hkeep,
        splitWhitespace_cons hc, splitWhitespace]

/-- ASCII letters in lower case, everything else unchanged. -/
def toAsciiLowercase (s : Text) : Text :=
  s.map fun c => if 'A' ≤ c ∧ c ≤ 'Z' then Char.ofNat (c.toNat + 32) else c

/-- One letter. -/
def lowerChar (c : Char) : Char := if 'A' ≤ c ∧ c ≤ 'Z' then Char.ofNat (c.toNat + 32) else c

@[simp] lemma toAsciiLowercase_nil : toAsciiLowercase [] = [] := rfl

@[simp] lemma toAsciiLowercase_cons (c : Char) (s : Text) :
    toAsciiLowercase (c :: s) = lowerChar c :: toAsciiLowercase s := rfl

@[simp] lemma toAsciiLowercase_append (s t : Text) :
    toAsciiLowercase (s ++ t) = toAsciiLowercase s ++ toAsciiLowercase t := List.map_append

lemma mem_toAsciiLowercase {c : Char} {s : Text} :
    c ∈ toAsciiLowercase s ↔ ∃ d ∈ s, lowerChar d = c := List.mem_map

/-- The code point of a letter in lower case. -/
lemma toNat_lowerChar (c : Char) : (lowerChar c).toNat
    = if 65 ≤ c.toNat ∧ c.toNat ≤ 90 then c.toNat + 32 else c.toNat := by
  have hrange : ('A' ≤ c ∧ c ≤ 'Z') ↔ 65 ≤ c.toNat ∧ c.toNat ≤ 90 :=
    and_congr UInt32.le_iff_toNat_le UInt32.le_iff_toNat_le
  rw [lowerChar]
  by_cases h : 'A' ≤ c ∧ c ≤ 'Z'
  · have hnat := hrange.mp h
    rw [if_pos h, if_pos hnat, Char.ofNat, dif_pos (Or.inl (by omega))]
    rfl
  · rw [if_neg h, if_neg fun hnat => h (hrange.mpr hnat)]

/-- Only letters come from letters. -/
lemma lowerChar_eq_iff {c d : Char} (hd : d.toNat < 65 ∨ 90 < d.toNat ∧ d.toNat < 97 ∨
    122 < d.toNat) : lowerChar c = d ↔ c = d := by
  have htoNat := toNat_lowerChar c
  constructor
  · rintro rfl
    rw [← Char.toNat_inj]
    split_ifs at htoNat <;> omega
  · rintro rfl
    rw [← Char.toNat_inj]
    split_ifs at htoNat <;> omega

/-- A character that is no letter is in a text exactly if it is in the text in lower
case. -/
lemma mem_toAsciiLowercase_iff {d : Char} (hd : d.toNat < 65 ∨ 90 < d.toNat ∧ d.toNat < 97 ∨
    122 < d.toNat) {s : Text} : d ∈ toAsciiLowercase s ↔ d ∈ s := by
  rw [mem_toAsciiLowercase]
  simp only [lowerChar_eq_iff hd, exists_eq_right]

/-- A text whose lower case has no letters is its lower case. -/
lemma eq_of_toAsciiLowercase {s t : Text} (h : toAsciiLowercase s = t)
    (ht : ∀ c ∈ t, c.toNat < 65) : s = t := by
  have hid : ∀ c ∈ s, lowerChar c = c := fun c hc => by
    have hcode := ht _ (h ▸ mem_toAsciiLowercase.mpr ⟨c, hc, rfl⟩)
    exact ((lowerChar_eq_iff (Or.inl hcode)).mp rfl).symm
  calc s = s.map id := (List.map_id s).symm
    _ = toAsciiLowercase s := (List.map_congr_left hid).symm
    _ = t := h

/-! ### Cutting -/

section Cutting

variable {p : Char → Bool} {s t : Text} {c c' d : Char}

/-- A text without a separator comes before the first separator. -/
lemma before_append_cons (hs : ∀ d ∈ s, p d = false) (hc : p c = true) (t : Text) :
    before p (s ++ c :: t) = s := by
  have hfront : ∀ d ∈ s, (!p d) = true := fun d hd => by rw [hs d hd]; rfl
  rw [before, List.takeWhile_append_of_pos hfront, List.takeWhile_cons_of_neg (by simp [hc]),
    List.append_nil]

lemma before_eq_self (hs : ∀ d ∈ s, p d = false) : before p s = s :=
  List.takeWhile_eq_self_iff.mpr fun d hd => by rw [hs d hd]; rfl

/-- A text without a separator comes before a rest that is empty or starts with one. -/
lemma before_append (hs : ∀ d ∈ s, p d = false) (ht : ∀ d ∈ t.head?, p d = true) :
    before p (s ++ t) = s := by
  cases t with
  | nil => rw [List.append_nil, before_eq_self hs]
  | cons d t => exact before_append_cons hs (ht d rfl) t

lemma before_append_of_free (hs : ∀ d ∈ s, p d = false) (t : Text) :
    before p (s ++ t) = s ++ before p t :=
  List.takeWhile_append_of_pos fun d hd => by rw [hs d hd]; rfl

/-- A rest that is empty or starts with a separator makes no difference. -/
lemma before_append_of_head (ht : ∀ d ∈ t.head?, p d = true) : before p (s ++ t) = before p s := by
  have hnil : before p t = [] := by
    cases t with
    | nil => rfl
    | cons d t => exact List.takeWhile_cons_of_neg (by simp [ht d rfl])
  rw [before, List.takeWhile_append, ← before, ← before, hnil, List.append_nil]
  split_ifs with hlen
  · exact (List.takeWhile_prefix _).eq_of_length hlen |>.symm
  · rfl

/-- What comes before the first separator has none. -/
lemma not_of_mem_before (h : c ∈ before p s) : p c = false := by
  have hnot := List.mem_takeWhile_imp h
  rwa [Bool.not_eq_true'] at hnot

/-- A text is what comes before the first separator, and the rest. -/
lemma before_append_rest (p : Char → Bool) (s : Text) :
    ∃ rest, s = before p s ++ rest ∧ ∀ d ∈ rest.head?, p d = true := by
  refine ⟨s.dropWhile fun d => !p d, List.takeWhile_append_dropWhile.symm, fun d hd => ?_⟩
  have hnot := List.head?_dropWhile_not (fun d => !p d) s
  rw [Option.mem_def.mp hd] at hnot
  simpa using hnot

/-- The separator itself is not in what comes after it. -/
lemma notMem_afterLast (c : Char) (s : Text) : c ∉ afterLast c s := by
  intro h
  have hne := List.mem_takeWhile_imp (List.mem_reverse.mp h)
  simp at hne

lemma afterLast_of_notMem (h : c ∉ s) : afterLast c s = s := by
  have hall : ∀ d ∈ s.reverse, decide (d ≠ c) = true := fun d hd =>
    decide_eq_true fun hdc => h (hdc ▸ List.mem_reverse.mp hd)
  rw [afterLast, List.takeWhile_eq_self_iff.mpr hall, List.reverse_reverse]

/-- What comes after the last separator. -/
lemma afterLast_append_cons (s : Text) (h : c ∉ t) : afterLast c (s ++ c :: t) = t := by
  have hall : ∀ d ∈ t.reverse, decide (d ≠ c) = true := fun d hd =>
    decide_eq_true fun hdc => h (hdc ▸ List.mem_reverse.mp hd)
  rw [afterLast, List.reverse_append, List.reverse_cons, List.append_assoc,
    List.takeWhile_append_of_pos hall, List.singleton_append,
    List.takeWhile_cons_of_neg (by simp), List.append_nil, List.reverse_reverse]

/-- Copies of a character at the end of a text that does not end with it. -/
lemma trimEndMatches_append_replicate (h : s.getLast? ≠ some c) (n : ℕ) :
    trimEndMatches c (s ++ List.replicate n c) = s := by
  have hall : ∀ d ∈ List.replicate n c, decide (d = c) = true :=
    fun d hd => decide_eq_true (List.eq_of_mem_replicate hd)
  rw [trimEndMatches, List.reverse_append, List.reverse_replicate,
    List.dropWhile_append_of_pos hall]
  rcases List.eq_nil_or_concat s with rfl | ⟨u, d, rfl⟩
  · rfl
  · rw [List.concat_eq_append] at h ⊢
    rw [List.getLast?_concat] at h
    have hd : d ≠ c := fun hdc => h (by rw [hdc])
    rw [List.reverse_append, List.reverse_singleton, List.singleton_append,
      List.dropWhile_cons_of_neg (by simpa using hd), List.reverse_cons, List.reverse_reverse]

/-- Nothing is trimmed off a text that does not end with the character. -/
lemma trimEndMatches_eq_self (h : s.getLast? ≠ some c) : trimEndMatches c s = s := by
  have htrim := trimEndMatches_append_replicate h 0
  rwa [List.replicate_zero, List.append_nil] at htrim

/-- Letter case makes no difference to a separator that is no letter. -/
lemma before_toAsciiLowercase (hp : ∀ d, p (lowerChar d) = p d) (s : Text) :
    before p (toAsciiLowercase s) = toAsciiLowercase (before p s) := by
  have hcomp : ((fun d => !p d) ∘ lowerChar) = fun d => !p d := funext fun d => congrArg not (hp d)
  calc before p (toAsciiLowercase s)
      = (s.takeWhile ((fun d => !p d) ∘ lowerChar)).map lowerChar := List.takeWhile_map
    _ = toAsciiLowercase (before p s) := by rw [hcomp]; rfl

lemma afterLast_toAsciiLowercase (hc : c.toNat < 65) (s : Text) :
    afterLast c (toAsciiLowercase s) = toAsciiLowercase (afterLast c s) := by
  have hcomp : ((fun d => decide (d ≠ c)) ∘ lowerChar) = fun d => decide (d ≠ c) :=
    funext fun d => decide_eq_decide.mpr (not_congr (lowerChar_eq_iff (Or.inl hc)))
  calc afterLast c (toAsciiLowercase s)
      = ((s.reverse.map lowerChar).takeWhile fun d => decide (d ≠ c)).reverse := by
        rw [List.map_reverse]
        rfl
    _ = ((s.reverse.takeWhile fun d => decide (d ≠ c)).map lowerChar).reverse := by
        rw [List.takeWhile_map, hcomp]
    _ = toAsciiLowercase (afterLast c s) := List.map_reverse.symm

lemma trimEndMatches_toAsciiLowercase (hc : c.toNat < 65) (s : Text) :
    trimEndMatches c (toAsciiLowercase s) = toAsciiLowercase (trimEndMatches c s) := by
  have hcomp : ((fun d => decide (d = c)) ∘ lowerChar) = fun d => decide (d = c) :=
    funext fun d => decide_eq_decide.mpr (lowerChar_eq_iff (Or.inl hc))
  calc trimEndMatches c (toAsciiLowercase s)
      = ((s.reverse.map lowerChar).dropWhile fun d => decide (d = c)).reverse := by
        rw [List.map_reverse]
        rfl
    _ = ((s.reverse.dropWhile fun d => decide (d = c)).map lowerChar).reverse := by
        rw [List.dropWhile_map, hcomp]
    _ = toAsciiLowercase (trimEndMatches c s) := List.map_reverse.symm

/-- What is trimmed off are copies of the character. -/
lemma mem_trimEndMatches (c : Char) (h : d ∈ s) : d = c ∨ d ∈ trimEndMatches c s := by
  have hsplit := List.takeWhile_append_dropWhile (p := fun e => decide (e = c)) (l := s.reverse)
  rw [← List.mem_reverse, ← hsplit] at h
  rcases List.mem_append.mp h with hfront | hrest
  · exact Or.inl (by simpa using List.mem_takeWhile_imp hfront)
  · exact Or.inr (List.mem_reverse.mpr hrest)

lemma trimEndMatches_subset (c : Char) (s : Text) : trimEndMatches c s ⊆ s := fun _ h =>
  List.mem_reverse.mp ((List.dropWhile_sublist _).mem (List.mem_reverse.mp h))

/-- What stands in a joined text is a separator, or in one of the pieces. -/
lemma mem_intercalate {pieces : List Text} (h : c ∈ [c'].intercalate pieces) :
    c = c' ∨ ∃ piece ∈ pieces, c ∈ piece := by
  induction pieces with
  | nil => cases h
  | cons piece pieces ih =>
      cases pieces with
      | nil =>
          rw [List.intercalate_singleton] at h
          exact Or.inr ⟨piece, List.mem_singleton_self _, h⟩
      | cons next pieces =>
          rw [List.intercalate_cons_cons] at h
          rcases List.mem_append.mp h with hfront | hrest
          · rcases List.mem_append.mp hfront with hpiece | hsep
            · exact Or.inr ⟨piece, List.mem_cons_self, hpiece⟩
            · exact Or.inl (List.mem_singleton.mp hsep)
          · rcases ih hrest with hsep | ⟨q, hq, hc⟩
            · exact Or.inl hsep
            · exact Or.inr ⟨q, List.mem_cons_of_mem piece hq, hc⟩

/-- The same of a text and its pieces. -/
lemma mem_splitOn {sep : Char} (h : c ∈ s) : c = sep ∨ ∃ piece ∈ splitOn sep s, c ∈ piece := by
  have hjoin : [sep].intercalate (splitOn sep s) = s := List.intercalate_splitOn sep
  rw [← hjoin] at h
  exact mem_intercalate h

end Cutting

/-- A decimal number. -/
def readDecimal (s : Text) : Option ℕ :=
  if s ≠ [] ∧ s.all Char.isDigit then some (Nat.ofDigitChars 10 s 0) else none

lemma isDigit_of_mem {n : ℕ} {c : Char} (h : c ∈ Nat.toDigits 10 n) : c.isDigit = true :=
  Nat.isDigit_of_mem_toDigits (by decide) (by decide) h

lemma isWhite_of_isDigit {c : Char} (h : c.isDigit = true) : isWhite c = false := by
  have hn : 48 ≤ c.toNat ∧ c.toNat ≤ 57 := Char.isDigit_iff_toNat.mp h
  simp only [isWhite, Bool.or_eq_false_iff, Bool.and_eq_false_imp, decide_eq_true_eq,
    decide_eq_false_iff_not]
  omega

/-- Decimal digits are read back. -/
lemma readDecimal_toDigits (n : ℕ) : readDecimal (Nat.toDigits 10 n) = some n := by
  have hdigits : (Nat.toDigits 10 n).all Char.isDigit = true :=
    List.all_eq_true.mpr fun _ hc => isDigit_of_mem hc
  rw [readDecimal, if_pos ⟨Nat.toDigits_ne_nil, hdigits⟩, Nat.ofDigitChars_ten_toDigits]

/-- The bytes of a text. -/
def utf8 (s : Text) : List UInt8 := s.flatMap String.utf8EncodeChar

/-- Different texts have different bytes. -/
lemma utf8_injective {s t : Text} (h : utf8 s = utf8 t) : s = t := by
  have hbytes : (String.ofList s).toByteArray = (String.ofList t).toByteArray :=
    congrArg List.toByteArray h
  rw [← String.toList_ofList (l := s), String.toByteArray_inj.mp hbytes, String.toList_ofList]

end Text

/-! ### Lossy UTF-8 decoding -/

/-- A continuation byte. -/
def isCont (b : UInt8) : Bool := 0x80 ≤ b && b ≤ 0xBF

/-- The second bytes a three- or four-byte sequence may have after its first. -/
def secondOk (b c : UInt8) : Bool :=
  if b = 0xE0 then 0xA0 ≤ c && c ≤ 0xBF
  else if b = 0xED then 0x80 ≤ c && c ≤ 0x9F
  else if b = 0xF0 then 0x90 ≤ c && c ≤ 0xBF
  else if b = 0xF4 then 0x80 ≤ c && c ≤ 0x8F
  else isCont c

/-- U+FFFD, what an ill-formed chunk decodes to. -/
def replacement : Char := Char.ofNat 0xFFFD

/-- The code point a sequence stands for: the payload of the first byte, then
six bits from each continuation byte. -/
def codePoint (lead : ℕ) (cs : List UInt8) : ℕ :=
  cs.foldl (fun n c => n * 64 + (c.toNat - 0x80)) lead

/-- The character at the front of `b :: t` and how many bytes of `t` belong to
it; an ill-formed chunk gives the replacement character. -/
def lossyNext (b : UInt8) (t : List UInt8) : Char × ℕ :=
  if b < 0x80 then (Char.ofNat b.toNat, 0)
  else if 0xC2 ≤ b ∧ b ≤ 0xDF then
    match t with
    | c :: _ =>
        if isCont c then (Char.ofNat (codePoint (b.toNat - 0xC0) [c]), 1) else (replacement, 0)
    | [] => (replacement, 0)
  else if 0xE0 ≤ b ∧ b ≤ 0xEF then
    match t with
    | c :: d :: _ =>
        if secondOk b c then
          if isCont d then (Char.ofNat (codePoint (b.toNat - 0xE0) [c, d]), 2) else (replacement, 1)
        else (replacement, 0)
    | [c] => if secondOk b c then (replacement, 1) else (replacement, 0)
    | [] => (replacement, 0)
  else if 0xF0 ≤ b ∧ b ≤ 0xF4 then
    match t with
    | c :: d :: e :: _ =>
        if secondOk b c then
          if isCont d then
            if isCont e then (Char.ofNat (codePoint (b.toNat - 0xF0) [c, d, e]), 3)
            else (replacement, 2)
          else (replacement, 1)
        else (replacement, 0)
    | [c, d] =>
        if secondOk b c then (if isCont d then (replacement, 2) else (replacement, 1))
        else (replacement, 0)
    | [c] => if secondOk b c then (replacement, 1) else (replacement, 0)
    | [] => (replacement, 0)
  else (replacement, 0)

/-- Decoding with a bound on the number of characters. -/
def lossyGo : ℕ → List UInt8 → Text
  | 0, _ => []
  | _ + 1, [] => []
  | n + 1, b :: t => (lossyNext b t).1 :: lossyGo n (t.drop (lossyNext b t).2)

/-- UTF-8 decoding that never fails. -/
def fromUtf8Lossy (bs : List UInt8) : Text := lossyGo bs.length bs

/-- Past the length of the input the bound makes no difference. -/
lemma lossyGo_eq : ∀ (n m : ℕ) (bs : List UInt8), bs.length ≤ n → bs.length ≤ m →
    lossyGo n bs = lossyGo m bs
  | n, m, [], _, _ => by cases n <;> cases m <;> rfl
  | 0, _, _ :: _, h, _ => absurd h (by simp)
  | _, 0, _ :: _, _, h => absurd h (by simp)
  | n + 1, m + 1, b :: t, hn, hm => by
      rw [List.length_cons] at hn hm
      have hlen : (t.drop (lossyNext b t).2).length ≤ t.length := by simp
      rw [lossyGo, lossyGo, lossyGo_eq n m _ (by omega) (by omega)]

@[simp] lemma fromUtf8Lossy_nil : fromUtf8Lossy [] = [] := rfl

lemma fromUtf8Lossy_cons (b : UInt8) (t : List UInt8) :
    fromUtf8Lossy (b :: t)
      = (lossyNext b t).1 :: fromUtf8Lossy (t.drop (lossyNext b t).2) := by
  rw [fromUtf8Lossy, List.length_cons, lossyGo, fromUtf8Lossy,
    lossyGo_eq t.length _ _ (by simp) le_rfl]

/-- An ASCII byte decodes to itself. -/
lemma fromUtf8Lossy_ascii {b : UInt8} (hb : b < 0x80) (t : List UInt8) :
    fromUtf8Lossy (b :: t) = Char.ofNat b.toNat :: fromUtf8Lossy t := by
  have hnext : lossyNext b t = (Char.ofNat b.toNat, 0) := by simp [lossyNext, hb]
  rw [fromUtf8Lossy_cons, hnext, List.drop_zero]

lemma toNat_ofNat_of_valid {n : ℕ} (h : n.isValidChar) : (Char.ofNat n).toNat = n := by
  rw [Char.ofNat, dif_pos h]
  rfl

lemma replacement_toNat : replacement.toNat = 0xFFFD := by decide

/-- The code points of well-formed sequences are scalar values above ASCII. -/
def Multibyte (n : ℕ) : Prop := n.isValidChar ∧ 0x80 ≤ n

lemma multibyte_two {b c : UInt8} (hb : 0xC2 ≤ b ∧ b ≤ 0xDF) (hc : isCont c) :
    Multibyte (codePoint (b.toNat - 0xC0) [c]) := by
  simp only [isCont, Bool.and_eq_true, decide_eq_true_eq, UInt8.le_iff_toNat_le,
    UInt8.reduceToNat] at hb hc
  simp only [Multibyte, Nat.isValidChar, codePoint, List.foldl]
  omega

lemma multibyte_three {b c d : UInt8} (hb : 0xE0 ≤ b ∧ b ≤ 0xEF) (hc : secondOk b c)
    (hd : isCont d) : Multibyte (codePoint (b.toNat - 0xE0) [c, d]) := by
  simp only [secondOk, isCont, ← UInt8.toNat_inj, UInt8.le_iff_toNat_le,
    UInt8.reduceToNat] at hb hc hd
  simp only [Multibyte, Nat.isValidChar, codePoint, List.foldl]
  split_ifs at hc <;> simp only [Bool.and_eq_true, decide_eq_true_eq] at hc hd <;> omega

lemma multibyte_four {b c d e : UInt8} (hb : 0xF0 ≤ b ∧ b ≤ 0xF4) (hc : secondOk b c)
    (hd : isCont d) (he : isCont e) :
    Multibyte (codePoint (b.toNat - 0xF0) [c, d, e]) := by
  simp only [secondOk, isCont, ← UInt8.toNat_inj, UInt8.le_iff_toNat_le,
    UInt8.reduceToNat] at hb hc hd he
  simp only [Multibyte, Nat.isValidChar, codePoint, List.foldl]
  split_ifs at hc <;> simp only [Bool.and_eq_true, decide_eq_true_eq] at hc hd he <;> omega

/-- What a byte that is not ASCII decodes to. -/
lemma lossyNext_cases {b : UInt8} (hb : ¬ b < 0x80) (t : List UInt8) :
    (lossyNext b t).1 = replacement ∨
      ∃ n, Multibyte n ∧ (lossyNext b t).1 = Char.ofNat n := by
  simp only [lossyNext]
  rw [if_neg hb]
  split_ifs with h2 h3 h4
  · split
    · split_ifs with hc
      · exact Or.inr ⟨_, multibyte_two h2 hc, by simp only⟩
      · exact Or.inl rfl
    · exact Or.inl rfl
  · split
    · split_ifs with hc hd
      · exact Or.inr ⟨_, multibyte_three h3 hc hd, by simp only⟩
      · exact Or.inl rfl
      · exact Or.inl rfl
    · split_ifs <;> exact Or.inl rfl
    · exact Or.inl rfl
  · split
    · split_ifs with hc hd he
      · exact Or.inr ⟨_, multibyte_four h4 hc hd he, by simp only⟩
      · exact Or.inl rfl
      · exact Or.inl rfl
      · exact Or.inl rfl
    · split_ifs <;> exact Or.inl rfl
    · split_ifs <;> exact Or.inl rfl
    · exact Or.inl rfl
  · exact Or.inl rfl

/-- A byte that is not ASCII never decodes to an ASCII character. -/
lemma lossyNext_ge {b : UInt8} (hb : ¬ b < 0x80) (t : List UInt8) :
    0x80 ≤ (lossyNext b t).1.toNat := by
  rcases lossyNext_cases hb t with h | ⟨n, ⟨hvalid, hle⟩, h⟩
  · rw [h, replacement_toNat]
    omega
  · rw [h, toNat_ofNat_of_valid hvalid]
    exact hle

/-- An ASCII character at the front of the decoded text is the first byte. -/
lemma lossy_eq_ascii_cons {bs : List UInt8} {ch : Char} {rest : Text}
    (hch : ch.toNat < 0x80) (h : fromUtf8Lossy bs = ch :: rest) :
    ∃ b t, bs = b :: t ∧ b.toNat = ch.toNat ∧ fromUtf8Lossy t = rest := by
  cases bs with
  | nil => simp at h
  | cons b t =>
      by_cases hb : b < 0x80
      · rw [fromUtf8Lossy_ascii hb] at h
        obtain ⟨hhead, htail⟩ := List.cons.inj h
        refine ⟨b, t, rfl, ?_, htail⟩
        have hlt : b.toNat < 0x80 := UInt8.lt_iff_toNat_lt.mp hb
        rw [← hhead, toNat_ofNat_of_valid (Or.inl (by omega))]
      · rw [fromUtf8Lossy_cons] at h
        have hge := lossyNext_ge hb t
        rw [(List.cons.inj h).1] at hge
        omega

/-- An ASCII byte continues no sequence. -/
lemma secondOk_ascii {b : UInt8} (hb : b < 0x80) (c : UInt8) : secondOk c b = false := by
  have hlt : b.toNat < 0x80 := UInt8.lt_iff_toNat_lt.mp hb
  simp only [secondOk, isCont, UInt8.le_iff_toNat_le, UInt8.reduceToNat]
  split_ifs <;> simp only [Bool.and_eq_false_iff, decide_eq_false_iff_not] <;> omega

lemma isCont_ascii {b : UInt8} (hb : b < 0x80) : isCont b = false := by
  have hlt : b.toNat < 0x80 := UInt8.lt_iff_toNat_lt.mp hb
  simp only [isCont, UInt8.le_iff_toNat_le, UInt8.reduceToNat, Bool.and_eq_false_iff,
    decide_eq_false_iff_not]
  omega

/-- What comes after an ASCII byte makes no difference to a character before it. -/
lemma lossyNext_append {b : UInt8} (hb : b < 0x80) (c : UInt8) (u t : List UInt8) :
    lossyNext c (u ++ b :: t) = lossyNext c u := by
  have hcont := isCont_ascii hb
  have hsecond := secondOk_ascii hb c
  rcases u with _ | ⟨x, _ | ⟨y, _ | ⟨z, u⟩⟩⟩
  · rcases t with _ | ⟨x, _ | ⟨y, t⟩⟩ <;> simp [lossyNext, hcont, hsecond]
  · cases t <;> simp [lossyNext, hcont]
  · simp [lossyNext, hcont]
  · simp [lossyNext]

/-- A character takes no more bytes than there are. -/
lemma lossyNext_le (c : UInt8) (u : List UInt8) : (lossyNext c u).2 ≤ u.length := by
  rcases u with _ | ⟨x, _ | ⟨y, _ | ⟨z, u⟩⟩⟩ <;> simp only [lossyNext] <;> split_ifs <;> simp

/-- **Decoding splits** in front of an ASCII byte. -/
theorem fromUtf8Lossy_append {b : UInt8} (hb : b < 0x80) (t : List UInt8) : ∀ u : List UInt8,
    fromUtf8Lossy (u ++ b :: t) = fromUtf8Lossy u ++ fromUtf8Lossy (b :: t)
  | [] => rfl
  | c :: u => by
      rw [List.cons_append, fromUtf8Lossy_cons, lossyNext_append hb,
        List.drop_append_of_le_length (lossyNext_le c u),
        fromUtf8Lossy_append hb t (u.drop (lossyNext c u).2), fromUtf8Lossy_cons c u,
        List.cons_append]
  termination_by u => u.length
  decreasing_by
    rw [List.length_drop, List.length_cons]
    omega

/-- The bytes of an ASCII text. -/
def asciiBytes (s : Text) : List UInt8 := s.map fun c => UInt8.ofNat c.toNat

/-- A text of ASCII characters only. -/
def IsAscii (s : Text) : Prop := ∀ c ∈ s, c.toNat < 0x80

instance (s : Text) : Decidable (IsAscii s) := List.decidableBAll _ s

/-- The bytes of an ASCII text, in UTF-8 too. -/
lemma utf8_eq_asciiBytes {s : Text} (h : IsAscii s) : Text.utf8 s = asciiBytes s := by
  induction s with
  | nil => rfl
  | cons c s ih =>
      obtain ⟨hc, hs⟩ := List.forall_mem_cons.mp h
      have hone : String.utf8EncodeChar c = [UInt8.ofNat c.toNat] := by
        have hle : c.val.toNat ≤ 0x7f := Nat.le_of_lt_succ hc
        rw [String.utf8EncodeChar]
        simp only [hle, if_true]
        rfl
      have hrest := ih hs
      rw [Text.utf8] at hrest
      rw [Text.utf8, List.flatMap_cons, hone, hrest]
      rfl

/-- **ASCII survives decoding, one way.** An ASCII beginning of the decoded text
is the decoding of the same bytes. -/
theorem ascii_append_of_lossy : ∀ {p rest : Text} {bs : List UInt8}, IsAscii p →
    fromUtf8Lossy bs = p ++ rest → ∃ t, bs = asciiBytes p ++ t ∧ fromUtf8Lossy t = rest := by
  intro p
  induction p with
  | nil => exact fun _ h => ⟨_, rfl, h⟩
  | cons c p ih =>
      intro rest bs hp h
      have hc : c.toNat < 0x80 := hp c (by simp)
      obtain ⟨b, t, rfl, hb, ht⟩ := lossy_eq_ascii_cons hc h
      obtain ⟨t', rfl, ht'⟩ :=
        ih (fun d hd => hp d (List.mem_cons_of_mem c hd)) ht
      refine ⟨t', ?_, ht'⟩
      have hbc : b = UInt8.ofNat c.toNat := by
        rw [← hb, UInt8.ofNat_toNat]
      rw [hbc]
      rfl

/-- **ASCII survives decoding, the other way.** -/
theorem lossy_ascii_append : ∀ {p : Text} (t : List UInt8), IsAscii p →
    fromUtf8Lossy (asciiBytes p ++ t) = p ++ fromUtf8Lossy t := by
  intro p
  induction p with
  | nil => exact fun _ _ => rfl
  | cons c p ih =>
      intro t hp
      have hc : c.toNat < 0x80 := hp c (by simp)
      have htoNat : (UInt8.ofNat c.toNat).toNat = c.toNat := by
        rw [UInt8.toNat_ofNat']
        omega
      have hb : UInt8.ofNat c.toNat < 0x80 := by
        rw [UInt8.lt_iff_toNat_lt, htoNat]
        exact hc
      have hrest := ih t fun d hd => hp d (List.mem_cons_of_mem c hd)
      rw [asciiBytes] at hrest
      rw [asciiBytes, List.map_cons, List.cons_append, fromUtf8Lossy_ascii hb, hrest, htoNat,
        Char.ofNat_toNat, List.cons_append]

/-- An ASCII character of the decoded text is one of the bytes. -/
lemma notMem_lossy {ch : Char} (hch : ch.toNat < 0x80) : ∀ {u : List UInt8},
    UInt8.ofNat ch.toNat ∉ u → ch ∉ fromUtf8Lossy u
  | [], _ => List.not_mem_nil
  | c :: u, h => by
      rw [List.mem_cons, not_or] at h
      have hrest : UInt8.ofNat ch.toNat ∉ u.drop (lossyNext c u).2 :=
        fun hmem => h.2 (List.mem_of_mem_drop hmem)
      rw [fromUtf8Lossy_cons, List.mem_cons, not_or]
      refine ⟨?_, notMem_lossy hch hrest⟩
      intro hhead
      by_cases hc : c < 0x80
      · have hnext : lossyNext c u = (Char.ofNat c.toNat, 0) := by simp [lossyNext, hc]
        have hlt : c.toNat < 0x80 := UInt8.lt_iff_toNat_lt.mp hc
        rw [hnext] at hhead
        refine h.1 ?_
        rw [hhead, toNat_ofNat_of_valid (Or.inl (by omega)), UInt8.ofNat_toNat]
      · have hge := lossyNext_ge hc u
        rw [← hhead] at hge
        omega
  termination_by u => u.length
  decreasing_by
    rw [List.length_drop, List.length_cons]
    omega

/-- Pieces that are all read back, one by one. -/
lemma mapM_map_eq_some {A B C : Type} {f : A → B} {g : B → Option C} {k : A → C} {l : List A}
    (h : ∀ a ∈ l, g (f a) = some (k a)) : (l.map f).mapM g = some (l.map k) := by
  induction l with
  | nil => rfl
  | cons a l ih =>
      obtain ⟨ha, hl⟩ := List.forall_mem_cons.mp h
      simp [List.mapM_cons, ha, ih hl]

end Library
