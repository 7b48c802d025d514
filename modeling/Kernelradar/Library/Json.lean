import Kernelradar.Library.Text

/-!
JSON texts in compact form, over any way of writing the characters of a string.

* `JsonValue`, `print`: a value, its numbers as they are written and the fields of an object
  in order;
* `read`: the reader, by descent;
* `Spelling`: the characters of a string are written so that they can be read back, on one
  line;
* `read_print`: what is written is read back;
* `lines_stream`: a stream of values, one a line, is read back line by line.
-/

namespace Library

/-- A JSON value. -/
inductive JsonValue where
  | null
  | bool (b : Bool)
  | num (lexeme : Text)
  | str (s : Text)
  | arr (items : List JsonValue)
  | obj (fields : List (Text × JsonValue))

namespace JsonValue

/-! ### Writing -/

section Print

variable (escape : Char → Text)

/-- A string in quotes. -/
def quote (s : Text) : Text := '"' :: (s.flatMap escape ++ ['"'])

mutual

/-- A value without blanks. -/
def print : JsonValue → Text
  | .null => "null"
  | .bool b => if b then "true" else "false"
  | .num lexeme => lexeme
  | .str s => quote escape s
  | .arr items => '[' :: (List.intercalate [','] (printAll items) ++ [']'])
  | .obj fields => '{' :: (List.intercalate [','] (printFields fields) ++ ['}'])

/-- The items of an array. -/
def printAll : List JsonValue → List Text
  | [] => []
  | v :: items => print v :: printAll items

/-- The fields of an object. -/
def printFields : List (Text × JsonValue) → List Text
  | [] => []
  | (k, v) :: fields => (quote escape k ++ ':' :: print v) :: printFields fields

end

end Print

mutual

/-- The numbers in a value, as they are written. -/
def lexemes : JsonValue → List Text
  | .null => []
  | .bool _ => []
  | .num lexeme => [lexeme]
  | .str _ => []
  | .arr items => lexemesOf items
  | .obj fields => lexemesIn fields

/-- Those of the items of an array. -/
def lexemesOf : List JsonValue → List Text
  | [] => []
  | v :: items => lexemes v ++ lexemesOf items

/-- Those of the fields of an object. -/
def lexemesIn : List (Text × JsonValue) → List Text
  | [] => []
  | (_, v) :: fields => lexemes v ++ lexemesIn fields

end

/-! ### Reading -/

/-- What reads from the front of a text, and leaves the rest. -/
abbrev Reader (α : Type) := Text → Option (α × Text)

/-- The characters of a number. -/
def numberChar (c : Char) : Bool :=
  c.isDigit || c = '-' || c = '+' || c = '.' || c = 'e' || c = 'E'

/-- `e`, a sign, digits; or nothing. -/
def isExponent : Text → Bool
  | [] => true
  | e :: s =>
      let digits := if s.head? = some '+' ∨ s.head? = some '-' then s.tail else s
      (e = 'e' || e = 'E') && !digits.isEmpty && digits.all Char.isDigit

/-- A dot and digits, or nothing, in front of an exponent. -/
def isFraction (s : Text) : Bool :=
  if s.head? = some '.' then
    s.tail.head?.any Char.isDigit && isExponent (s.tail.dropWhile Char.isDigit)
  else isExponent s

/-- The grammar of numbers: no zero in front of other digits. -/
def isNumber (lexeme : Text) : Bool :=
  let s := (Text.stripPrefix lexeme ['-']).getD lexeme
  let int := s.takeWhile Char.isDigit
  lexeme.all numberChar && (int = ['0'] || (!int.isEmpty && int.head? ≠ some '0'))
    && isFraction (s.dropWhile Char.isDigit)

example : isNumber "-12.50e+3" = true ∧ isNumber "012" = false ∧ isNumber "1." = false := by
  decide

/-- All numbers in a value are numbers. -/
def Numeric (v : JsonValue) : Prop := ∀ l ∈ lexemes v, isNumber l = true

lemma numeric_str (s : Text) : (str s).Numeric := by
  rw [Numeric, lexemes]
  exact fun _ h => absurd h List.not_mem_nil

lemma numeric_arr {items : List JsonValue} : (arr items).Numeric ↔ ∀ v ∈ items, v.Numeric := by
  rw [Numeric, lexemes]
  induction items with
  | nil => simp [lexemesOf]
  | cons v items ih =>
      rw [lexemesOf, List.forall_mem_append, List.forall_mem_cons, ih, Numeric]

lemma numeric_obj {fields : List (Text × JsonValue)} :
    (obj fields).Numeric ↔ ∀ e ∈ fields, e.2.Numeric := by
  rw [Numeric, lexemes]
  induction fields with
  | nil => simp [lexemesIn]
  | cons e fields ih =>
      rw [lexemesIn, List.forall_mem_append, List.forall_mem_cons, ih, Numeric]

/-- The value of a hexadecimal digit. -/
def hexDigit (c : Char) : Option ℕ :=
  if '0' ≤ c ∧ c ≤ '9' then some (c.toNat - 48)
  else if 'a' ≤ c ∧ c ≤ 'f' then some (c.toNat - 87)
  else if 'A' ≤ c ∧ c ≤ 'F' then some (c.toNat - 55)
  else none

/-- Four hexadecimal digits: a code point of the basic plane, surrogates excluded. -/
def readHex : Reader Char := fun s => do
  let digits ← (s.take 4).mapM hexDigit
  let n := digits.foldl (fun n d => 16 * n + d) 0
  if digits.length = 4 ∧ n.isValidChar then some (Char.ofNat n, s.drop 4) else none

/-- The letters that stand for a character behind a backslash. -/
def escapes : List (Char × Char) :=
  [('"', '"'), ('\\', '\\'), ('/', '/'), ('b', Char.ofNat 8), ('f', Char.ofNat 12),
    ('n', '\n'), ('r', '\r'), ('t', '\t')]

/-- One character of a string. -/
def readChar : Reader Char
  | [] => none
  | c :: s =>
      if c = '\\' then
        match s with
        | [] => none
        | e :: s => if e = 'u' then readHex s else (escapes.lookup e).map fun d => (d, s)
      else if c = '"' ∨ c.toNat < 0x20 then none
      else some (c, s)

/-- The characters up to the closing quote. -/
def readChars : ℕ → Reader Text
  | 0, _ => none
  | n + 1, s =>
      match readChar s with
      | none => (Text.stripPrefix s ['"']).map fun s => ([], s)
      | some (c, s) => (readChars n s).map fun q => (c :: q.1, q.2)

/-- A string in quotes. -/
def readQuoted : Reader Text
  | [] => none
  | c :: s => if c = '"' then readChars s.length s else none

section Sequence

variable {α : Type} (item : Reader α) (close : Char)

/-- Behind an item: the closing character, or a comma and the next item. -/
def readTail : ℕ → Reader (List α)
  | 0, _ => none
  | _ + 1, [] => none
  | n + 1, c :: s =>
      if c = close then some ([], s)
      else if c = ',' then do
        let (x, s) ← item s
        let (xs, s) ← readTail n s
        some (x :: xs, s)
      else none

/-- Items between commas, up to the closing character. -/
def readSequence : Reader (List α)
  | [] => none
  | c :: s =>
      if c = close then some ([], s)
      else do
        let (x, rest) ← item (c :: s)
        let (xs, rest) ← readTail item close s.length rest
        some (x :: xs, rest)

end Sequence

/-- A field of an object. -/
def readField {α : Type} (value : Reader α) : Reader (Text × α) := fun s => do
  let (k, s) ← readQuoted s
  let s ← Text.stripPrefix s [':']
  let (v, s) ← value s
  some ((k, v), s)

/-- A number: as many characters as possible. -/
def readNumber : Reader JsonValue := fun s =>
  if isNumber (s.takeWhile numberChar) then
    some (.num (s.takeWhile numberChar), s.dropWhile numberChar)
  else none

/-- A value without parts. -/
def readScalar : Reader JsonValue := fun s =>
  match Text.stripPrefix s "null", Text.stripPrefix s "true", Text.stripPrefix s "false" with
  | some s, _, _ => some (.null, s)
  | none, some s, _ => some (.bool true, s)
  | none, none, some s => some (.bool false, s)
  | none, none, none => readNumber s

/-- A value whose parts are at most so deep. -/
def readValue : ℕ → Reader JsonValue
  | 0, _ => none
  | n + 1, s =>
      if s.head? = some '"' then (readQuoted s).map fun q => (.str q.1, q.2)
      else if s.head? = some '[' then
        (readSequence (readValue n) ']' s.tail).map fun q => (.arr q.1, q.2)
      else if s.head? = some '{' then
        (readSequence (readField (readValue n)) '}' s.tail).map fun q => (.obj q.1, q.2)
      else readScalar s

/-- A text that is one value. -/
def read (s : Text) : Option JsonValue :=
  match readValue s.length s with
  | some (v, []) => some v
  | _ => none

/-! ### What is written is read back -/

/-- Text that can stand behind a number. -/
def Ends (s : Text) : Prop := ∀ c ∈ s.head?, numberChar c = false

lemma ends_nil : Ends [] := fun _ h => absurd h (by simp)

lemma ends_cons {c : Char} (hc : numberChar c = false) (s : Text) : Ends (c :: s) := by
  intro d hd
  obtain rfl := Option.some.inj hd
  exact hc

/-- The reader takes a text off the front of any other, as a value. -/
def Reads {α : Type} (r : Reader α) (t : Text) (a : α) : Prop :=
  ∀ rest, Ends rest → r (t ++ rest) = some (a, rest)

/-- The characters of a string are written so that each is read back, in printable
characters. -/
structure Spelling (escape : Char → Text) : Prop where
  read : ∀ c rest, readChar (escape c ++ rest) = some (c, rest)
  printable : ∀ c, ∀ d ∈ escape c, 0x20 ≤ d.toNat

lemma readChar_quote (s : Text) : readChar ('"' :: s) = none := by
  rw [readChar.eq_def]
  dsimp only
  rw [if_neg (by decide), if_pos (Or.inl rfl)]

namespace Spelling

variable {escape : Char → Text} (hs : Spelling escape)
include hs

lemma escape_ne_nil (c : Char) : escape c ≠ [] := by
  intro hnil
  have hread := hs.read c []
  rw [hnil] at hread
  cases hread

lemma length_le_flatMap (s : Text) : s.length ≤ (s.flatMap escape).length := by
  induction s with
  | nil => exact le_rfl
  | cons c s ih =>
      have hc := List.length_pos_of_ne_nil (hs.escape_ne_nil c)
      rw [List.flatMap_cons, List.length_append, List.length_cons]
      omega

lemma readChars_flatMap (s rest : Text) : ∀ n, s.length < n →
    readChars n (s.flatMap escape ++ '"' :: rest) = some (s, rest) := by
  induction s with
  | nil =>
      intro n hn
      obtain ⟨n, rfl⟩ := Nat.exists_eq_add_of_lt hn
      rw [readChars, List.flatMap_nil, List.nil_append, readChar_quote]
      dsimp only
      rw [Text.stripPrefix_eq_some.mpr (List.singleton_append (x := '"')).symm]
      rfl
  | cons c s ih =>
      intro n hn
      obtain ⟨n, rfl⟩ := Nat.exists_eq_add_of_lt hn
      have hrest := ih ((c :: s).length + n) (by rw [List.length_cons]; omega)
      rw [readChars, List.flatMap_cons, List.append_assoc, hs.read]
      dsimp only
      rw [hrest]
      rfl

/-- A string in quotes is read back. -/
lemma readQuoted_quote (s rest : Text) :
    readQuoted (quote escape s ++ rest) = some (s, rest) := by
  have hlong := hs.length_le_flatMap s
  rw [quote, List.cons_append, List.append_assoc, readQuoted, if_pos rfl]
  refine hs.readChars_flatMap s rest _ ?_
  rw [List.length_append, List.length_append, List.length_singleton]
  omega

end Spelling

section Sequence

variable {α : Type} {item : Reader α} {close : Char}

/-- Texts between commas. -/
lemma intercalate_cons (t : Text) (ts : List Text) :
    List.intercalate [','] (t :: ts) = t ++ ts.flatMap fun u => ',' :: u := by
  induction ts generalizing t with
  | nil => simp [List.intercalate]
  | cons u ts ih =>
      have htail := ih u
      rw [List.intercalate] at htail ⊢
      rw [List.intersperse_cons_cons, List.flatten_cons, List.flatten_cons, htail,
        List.flatMap_cons]
      rfl

lemma length_le_flatMap (ts : List Text) :
    ts.length ≤ (ts.flatMap fun u => ',' :: u).length := by
  induction ts with
  | nil => exact le_rfl
  | cons t ts ih =>
      rw [List.flatMap_cons, List.length_append, List.length_cons, List.length_cons]
      omega

lemma readTail_flatMap (hclose : close ≠ ',') (hend : numberChar close = false)
    {ts : List Text} {xs : List α} (h : List.Forall₂ (Reads item) ts xs) (rest : Text) :
    ∀ n, ts.length < n →
      readTail item close n ((ts.flatMap fun u => ',' :: u) ++ close :: rest)
        = some (xs, rest) := by
  induction h with
  | nil =>
      intro n hn
      obtain ⟨n, rfl⟩ := Nat.exists_eq_add_of_lt hn
      rw [List.flatMap_nil, List.nil_append, readTail, if_pos rfl]
  | @cons t x ts xs ht hts ih =>
      intro n hn
      obtain ⟨n, rfl⟩ := Nat.exists_eq_add_of_lt hn
      have hbehind : Ends ((ts.flatMap fun u => ',' :: u) ++ close :: rest) := by
        cases ts with
        | nil => exact ends_cons hend rest
        | cons u ts => exact ends_cons (by decide) _
      have hrest := ih ((t :: ts).length + n) (by rw [List.length_cons]; omega)
      rw [List.flatMap_cons, List.cons_append, List.cons_append, List.append_assoc, readTail,
        if_neg hclose.symm, if_pos rfl, ht _ hbehind]
      dsimp only [Option.bind_eq_bind, Option.bind_some]
      rw [hrest]
      rfl

/-- Items between commas are read back, if none begins like the end. -/
lemma readSequence_intercalate (close : Char) (hclose : close ≠ ',')
    (hend : numberChar close = false) {ts : List Text} {xs : List α}
    (h : List.Forall₂ (Reads item) ts xs)
    (hfirst : ∀ t ∈ ts, ∃ c s, t = c :: s ∧ c ≠ close) (rest : Text) :
    readSequence item close (List.intercalate [','] ts ++ close :: rest) = some (xs, rest) := by
  cases h with
  | nil =>
      rw [List.intercalate, List.intersperse_nil, List.flatten_nil, List.nil_append, readSequence,
        if_pos rfl]
  | @cons t x ts xs ht hts =>
      obtain ⟨c, s, rfl, hc⟩ := hfirst t List.mem_cons_self
      have hbehind : Ends ((ts.flatMap fun u => ',' :: u) ++ close :: rest) := by
        cases ts with
        | nil => exact ends_cons hend rest
        | cons u ts => exact ends_cons (by decide) _
      have hlong := length_le_flatMap ts
      have hitem := ht _ hbehind
      rw [List.cons_append] at hitem
      have htail := readTail_flatMap hclose hend hts rest
        (s ++ ((ts.flatMap fun u => ',' :: u) ++ close :: rest)).length (by
          rw [List.length_append, List.length_append, List.length_cons]
          omega)
      rw [intercalate_cons, List.append_assoc, List.cons_append, readSequence, if_neg hc, hitem]
      dsimp only [Option.bind_eq_bind, Option.bind_some]
      rw [htail]
      rfl

end Sequence

lemma isNumber_cons {lexeme : Text} (h : isNumber lexeme = true) :
    ∃ c s, lexeme = c :: s ∧ ∀ d ∈ c :: s, numberChar d = true := by
  cases lexeme with
  | nil => exact absurd h (by decide)
  | cons c s =>
      refine ⟨c, s, rfl, ?_⟩
      rw [isNumber, Bool.and_eq_true, Bool.and_eq_true] at h
      exact List.all_eq_true.mp h.1.1

lemma reads_number {lexeme : Text} (h : isNumber lexeme = true) :
    Reads readNumber lexeme (.num lexeme) := by
  intro rest hrest
  obtain ⟨c, s, rfl, hall⟩ := isNumber_cons h
  have htake : rest.takeWhile numberChar = [] := by
    cases rest with
    | nil => rfl
    | cons d rest => exact List.takeWhile_cons_of_neg (by rw [hrest d rfl]; decide)
  have hdrop : rest.dropWhile numberChar = rest := by
    cases rest with
    | nil => rfl
    | cons d rest => exact List.dropWhile_cons_of_neg (by rw [hrest d rfl]; decide)
  rw [readNumber, List.takeWhile_append_of_pos hall, List.dropWhile_append_of_pos hall, htake,
    hdrop, List.append_nil, if_pos h]

/-- A value without parts. -/
inductive Leaf : JsonValue → Prop
  | null : Leaf .null
  | bool (b : Bool) : Leaf (.bool b)
  | num {lexeme : Text} (h : isNumber lexeme = true) : Leaf (.num lexeme)

section RoundTrip

variable {escape : Char → Text} {v : JsonValue}

/-- Such a value does not begin like one with parts, and not like the end of one. -/
lemma Leaf.print_cons (escape : Char → Text) (hv : Leaf v) : ∃ c s, print escape v = c :: s ∧
    c ∉ ['"', '[', '{', ']', '}'] := by
  cases hv with
  | null => exact ⟨'n', _, by rw [print]; rfl, by decide⟩
  | bool b =>
      cases b with
      | false => exact ⟨'f', _, by rw [print]; rfl, by decide⟩
      | true => exact ⟨'t', _, by rw [print]; rfl, by decide⟩
  | num h =>
      obtain ⟨c, s, rfl, hall⟩ := isNumber_cons h
      have hmark : ∀ d ∈ ['"', '[', '{', ']', '}'], numberChar d = false := by decide
      refine ⟨c, s, by rw [print], fun hc => ?_⟩
      have hnumber := hall c List.mem_cons_self
      rw [hmark c hc] at hnumber
      cases hnumber

lemma stripPrefix_cons_eq_none {word : Text} {c : Char} (hword : word ≠ [])
    (h : word.head? ≠ some c) (s : Text) : Text.stripPrefix (c :: s) word = none := by
  obtain ⟨d, word, rfl⟩ := List.exists_cons_of_ne_nil hword
  rw [Option.eq_none_iff_forall_ne_some]
  intro t ht
  have heq := Text.stripPrefix_eq_some.mp ht
  rw [List.cons_append, List.cons.injEq] at heq
  exact h (congrArg some heq.1.symm)

lemma Leaf.reads (escape : Char → Text) (hv : Leaf v) : Reads readScalar (print escape v) v := by
  intro rest hrest
  cases hv with
  | null => rw [readScalar, print, Text.stripPrefix_eq_some.mpr rfl]
  | bool b =>
      cases b with
      | false =>
          have hnull : Text.stripPrefix ("false".toList ++ rest) "null" = none :=
            stripPrefix_cons_eq_none (by decide) (by decide) _
          have htrue : Text.stripPrefix ("false".toList ++ rest) "true" = none :=
            stripPrefix_cons_eq_none (by decide) (by decide) _
          rw [readScalar, print, if_neg Bool.false_ne_true, hnull, htrue,
            Text.stripPrefix_eq_some.mpr rfl]
      | true =>
          have hnull : Text.stripPrefix ("true".toList ++ rest) "null" = none :=
            stripPrefix_cons_eq_none (by decide) (by decide) _
          rw [readScalar, print, if_pos rfl, hnull, Text.stripPrefix_eq_some.mpr rfl]
  | @num lexeme h =>
      obtain ⟨c, s, rfl, hall⟩ := isNumber_cons h
      have hnone (word : Text) (hword : word ≠ []) (hletter : ∀ d ∈ word.head?,
          numberChar d = false) : Text.stripPrefix (c :: s ++ rest) word = none := by
        refine stripPrefix_cons_eq_none hword (fun heq => ?_) _
        have hnumber := hall c List.mem_cons_self
        rw [hletter c heq] at hnumber
        cases hnumber
      rw [readScalar, print, hnone "null" (by decide) (by decide),
        hnone "true" (by decide) (by decide), hnone "false" (by decide) (by decide)]
      exact reads_number h rest hrest

/-- What the first character says about a value. -/
lemma readValue_cons (n : ℕ) (c : Char) (s : Text) : readValue (n + 1) (c :: s) =
    if c = '"' then (readQuoted (c :: s)).map fun q => (.str q.1, q.2)
    else if c = '[' then
      (readSequence (readValue n) ']' s).map fun q => (.arr q.1, q.2)
    else if c = '{' then
      (readSequence (readField (readValue n)) '}' s).map fun q => (.obj q.1, q.2)
    else readScalar (c :: s) := by
  rw [readValue, List.head?_cons, List.tail_cons]
  simp only [Option.some.injEq]

/-- A value without parts is read back at any depth. -/
lemma Leaf.reads_value (hv : Leaf v) (n : ℕ) (hn : (print escape v).length ≤ n) :
    Reads (readValue n) (print escape v) v := by
  intro rest hrest
  have hreads := hv.reads escape rest hrest
  obtain ⟨c, s, hprint, hc⟩ := hv.print_cons escape
  simp only [List.mem_cons, not_or] at hc
  rw [hprint] at hn hreads ⊢
  obtain ⟨n, rfl⟩ := Nat.exists_eq_add_of_lt (Nat.lt_of_lt_of_le (Nat.succ_pos s.length) hn)
  rw [List.cons_append, readValue_cons, if_neg hc.1, if_neg hc.2.1, if_neg hc.2.2.1]
  exact hreads

/-- The text of a value does not begin like the end of a list. -/
lemma print_cons (escape : Char → Text) (v : JsonValue) (hv : ∀ l ∈ lexemes v, isNumber l = true) :
    ∃ c s, print escape v = c :: s ∧ c ≠ ']' ∧ c ≠ '}' := by
  have hleaf : Leaf v → ∃ c s, print escape v = c :: s ∧ c ≠ ']' ∧ c ≠ '}' := by
    intro h
    obtain ⟨c, s, hprint, hc⟩ := h.print_cons escape
    simp only [List.mem_cons, not_or] at hc
    exact ⟨c, s, hprint, hc.2.2.2.1, hc.2.2.2.2.1⟩
  cases v with
  | null => exact hleaf .null
  | bool b => exact hleaf (.bool b)
  | num l => exact hleaf (.num (hv l (by rw [lexemes]; exact List.mem_cons_self)))
  | str s => exact ⟨'"', _, by rw [print, quote], by decide, by decide⟩
  | arr items => exact ⟨'[', _, by rw [print], by decide, by decide⟩
  | obj fields => exact ⟨'{', _, by rw [print], by decide, by decide⟩

/-- An item is not longer than the list it is in. -/
lemma length_le_intercalate {t : Text} : ∀ {ts : List Text}, t ∈ ts →
    t.length ≤ (List.intercalate [','] ts).length
  | u :: ts, h => by
      rw [intercalate_cons, List.length_append]
      rcases List.mem_cons.mp h with rfl | h
      · omega
      · obtain ⟨a, b, rfl⟩ := List.mem_iff_append.mp h
        rw [List.flatMap_append, List.flatMap_cons, List.length_append, List.length_append,
          List.length_cons]
        omega

/-- The text of an array's item begins like a value, that of a field like a string. -/
lemma printAll_cons {t : Text} : ∀ {items : List JsonValue},
    (∀ l ∈ lexemesOf items, isNumber l = true) → t ∈ printAll escape items →
      ∃ c s, t = c :: s ∧ c ≠ ']'
  | v :: items, hv, ht => by
      rw [lexemesOf, List.forall_mem_append] at hv
      rw [printAll] at ht
      rcases List.mem_cons.mp ht with rfl | ht
      · obtain ⟨c, s, hprint, hc, -⟩ := print_cons escape v hv.1
        exact ⟨c, s, hprint, hc⟩
      · exact printAll_cons hv.2 ht

lemma printFields_cons {t : Text} : ∀ {fields : List (Text × JsonValue)},
    t ∈ printFields escape fields → ∃ c s, t = c :: s ∧ c ≠ '}'
  | (k, v) :: fields, ht => by
      rw [printFields] at ht
      rcases List.mem_cons.mp ht with rfl | ht
      · exact ⟨'"', _, by rw [quote, List.cons_append], by decide⟩
      · exact printFields_cons ht

mutual

/-- A value is read back, at the depth of the length of its text. -/
lemma reads_print (hs : Spelling escape) : ∀ v : JsonValue,
    (∀ l ∈ lexemes v, isNumber l = true) → ∀ n, (print escape v).length ≤ n →
      Reads (readValue n) (print escape v) v
  | .null, _, n, hn => Leaf.null.reads_value n hn
  | .bool b, _, n, hn => (Leaf.bool b).reads_value n hn
  | .num l, hv, n, hn =>
      (Leaf.num (hv l (by rw [lexemes]; exact List.mem_cons_self))).reads_value n hn
  | .str s, _, n, hn => by
      intro rest _
      rw [print, quote, List.length_cons] at hn
      obtain ⟨n, rfl⟩ := Nat.exists_eq_add_of_lt (Nat.lt_of_lt_of_le (Nat.succ_pos _) hn)
      have hquoted := hs.readQuoted_quote s rest
      rw [quote, List.cons_append] at hquoted
      rw [print, quote, List.cons_append, readValue_cons, if_pos rfl, hquoted]
      rfl
  | .arr items, hv, n, hn => by
      intro rest _
      rw [lexemes] at hv
      rw [print, List.length_cons, List.length_append] at hn
      obtain ⟨n, rfl⟩ := Nat.exists_eq_add_of_lt (Nat.lt_of_lt_of_le (Nat.succ_pos _) hn)
      have hitems := reads_printAll hs items hv (0 + n) fun t ht => by
        have hlong := length_le_intercalate ht
        omega
      have hlist := readSequence_intercalate ']' (by decide) (by decide) hitems
        (fun t ht => printAll_cons hv ht) rest
      rw [print, List.cons_append, List.append_assoc, readValue_cons, if_neg (by decide),
        if_pos rfl, List.singleton_append, hlist]
      rfl
  | .obj fields, hv, n, hn => by
      intro rest _
      rw [lexemes] at hv
      rw [print, List.length_cons, List.length_append] at hn
      obtain ⟨n, rfl⟩ := Nat.exists_eq_add_of_lt (Nat.lt_of_lt_of_le (Nat.succ_pos _) hn)
      have hitems := reads_printFields hs fields hv (0 + n) fun t ht => by
        have hlong := length_le_intercalate ht
        omega
      have hlist := readSequence_intercalate '}' (by decide) (by decide) hitems
        (fun t ht => printFields_cons ht) rest
      rw [print, List.cons_append, List.append_assoc, readValue_cons, if_neg (by decide),
        if_neg (by decide), if_pos rfl, List.singleton_append, hlist]
      rfl

/-- The items of an array are. -/
lemma reads_printAll (hs : Spelling escape) : ∀ items : List JsonValue,
    (∀ l ∈ lexemesOf items, isNumber l = true) → ∀ n,
      (∀ t ∈ printAll escape items, t.length ≤ n) →
        List.Forall₂ (Reads (readValue n)) (printAll escape items) items
  | [], _, _, _ => by
      rw [printAll]
      exact List.Forall₂.nil
  | v :: items, hv, n, hn => by
      rw [lexemesOf, List.forall_mem_append] at hv
      rw [printAll, List.forall_mem_cons] at hn
      rw [printAll]
      exact List.Forall₂.cons (reads_print hs v hv.1 n hn.1)
        (reads_printAll hs items hv.2 n hn.2)

/-- The fields of an object are. -/
lemma reads_printFields (hs : Spelling escape) : ∀ fields : List (Text × JsonValue),
    (∀ l ∈ lexemesIn fields, isNumber l = true) → ∀ n,
      (∀ t ∈ printFields escape fields, t.length ≤ n) →
        List.Forall₂ (Reads (readField (readValue n))) (printFields escape fields) fields
  | [], _, _, _ => by
      rw [printFields]
      exact List.Forall₂.nil
  | (k, v) :: fields, hv, n, hn => by
      rw [lexemesIn, List.forall_mem_append] at hv
      rw [printFields, List.forall_mem_cons, List.length_append, List.length_cons] at hn
      rw [printFields]
      refine List.Forall₂.cons (fun rest hrest => ?_) (reads_printFields hs fields hv.2 n hn.2)
      have hvalue := reads_print hs v hv.1 n (by omega) rest hrest
      rw [readField, List.append_assoc, hs.readQuoted_quote]
      dsimp only [Option.bind_eq_bind, Option.bind_some]
      have hcolon : Text.stripPrefix (':' :: print escape v ++ rest) [':']
          = some (print escape v ++ rest) := Text.stripPrefix_eq_some.mpr rfl
      rw [hcolon]
      dsimp only [Option.bind_some]
      rw [hvalue]
      rfl

end

/-- **What is written is read back.** -/
theorem read_print (hs : Spelling escape) {v : JsonValue} (hv : v.Numeric) :
    read (print escape v) = some v := by
  have hreads := reads_print hs v hv _ le_rfl [] ends_nil
  rw [List.append_nil] at hreads
  rw [read, hreads]

/-! ### One value a line -/

/-- The characters of a number are printable. -/
lemma printable_of_numberChar {c : Char} (h : numberChar c = true) : 0x20 ≤ c.toNat := by
  simp only [numberChar, Bool.or_eq_true, decide_eq_true_eq] at h
  rcases h with ((((hdigit | rfl) | rfl) | rfl) | rfl) | rfl
  · rw [Char.isDigit, Bool.and_eq_true, decide_eq_true_iff] at hdigit
    exact le_trans (by decide) (UInt32.le_iff_toNat_le.mp hdigit.1)
  all_goals decide

lemma printable_quote (hs : Spelling escape) (s : Text) :
    ∀ c ∈ quote escape s, 0x20 ≤ c.toNat := by
  rw [quote, List.forall_mem_cons, List.forall_mem_append, List.forall_mem_flatMap]
  exact ⟨by decide, fun c _ => hs.printable c, by decide⟩

lemma printable_intercalate {ts : List Text} (h : ∀ t ∈ ts, ∀ c ∈ t, 0x20 ≤ c.toNat) :
    ∀ c ∈ List.intercalate [','] ts, 0x20 ≤ c.toNat := by
  cases ts with
  | nil => exact fun c hc => absurd hc List.not_mem_nil
  | cons t ts =>
      rw [List.forall_mem_cons] at h
      rw [intercalate_cons, List.forall_mem_append, List.forall_mem_flatMap]
      exact ⟨h.1, fun u hu => List.forall_mem_cons.mpr ⟨by decide, h.2 u hu⟩⟩

mutual

/-- The text of a value is printable. -/
lemma printable_print (hs : Spelling escape) : ∀ v : JsonValue,
    (∀ l ∈ lexemes v, isNumber l = true) → ∀ c ∈ print escape v, 0x20 ≤ c.toNat
  | .null, _ => by
      rw [print]
      decide
  | .bool b, _ => by
      cases b with
      | false =>
          rw [print, if_neg Bool.false_ne_true]
          decide
      | true =>
          rw [print, if_pos rfl]
          decide
  | .num l, hv => by
      obtain ⟨c, s, rfl, hall⟩ := isNumber_cons (hv l (by rw [lexemes]; exact List.mem_cons_self))
      rw [print]
      exact fun d hd => printable_of_numberChar (hall d hd)
  | .str s, _ => by
      rw [print]
      exact printable_quote hs s
  | .arr items, hv => by
      rw [lexemes] at hv
      rw [print, List.forall_mem_cons, List.forall_mem_append]
      exact ⟨by decide, printable_intercalate (printable_printAll hs items hv), by decide⟩
  | .obj fields, hv => by
      rw [lexemes] at hv
      rw [print, List.forall_mem_cons, List.forall_mem_append]
      exact ⟨by decide, printable_intercalate (printable_printFields hs fields hv), by decide⟩

/-- That of the items of an array is. -/
lemma printable_printAll (hs : Spelling escape) : ∀ items : List JsonValue,
    (∀ l ∈ lexemesOf items, isNumber l = true) →
      ∀ t ∈ printAll escape items, ∀ c ∈ t, 0x20 ≤ c.toNat
  | [], _ => by
      rw [printAll]
      exact fun _ h => absurd h List.not_mem_nil
  | v :: items, hv => by
      rw [lexemesOf, List.forall_mem_append] at hv
      rw [printAll, List.forall_mem_cons]
      exact ⟨printable_print hs v hv.1, printable_printAll hs items hv.2⟩

/-- That of the fields of an object is. -/
lemma printable_printFields (hs : Spelling escape) : ∀ fields : List (Text × JsonValue),
    (∀ l ∈ lexemesIn fields, isNumber l = true) →
      ∀ t ∈ printFields escape fields, ∀ c ∈ t, 0x20 ≤ c.toNat
  | [], _ => by
      rw [printFields]
      exact fun _ h => absurd h List.not_mem_nil
  | (k, v) :: fields, hv => by
      rw [lexemesIn, List.forall_mem_append] at hv
      rw [printFields, List.forall_mem_cons, List.forall_mem_append, List.forall_mem_cons]
      exact ⟨⟨printable_quote hs k, by decide, printable_print hs v hv.1⟩,
        printable_printFields hs fields hv.2⟩

end

/-- Values, each on a line of its own. -/
def stream (escape : Char → Text) (vs : List JsonValue) : Text :=
  vs.flatMap fun v => print escape v ++ ['\n']

/-- **A stream of values** is read back line by line. -/
theorem lines_stream (hs : Spelling escape) {vs : List JsonValue} (hvs : ∀ v ∈ vs, v.Numeric) :
    (Text.lines (stream escape vs)).map read = vs.map some := by
  induction vs with
  | nil => rfl
  | cons v vs ih =>
      rw [List.forall_mem_cons] at hvs
      have hprintable := printable_print hs v hvs.1
      have hfree {d : Char} (hd : d.toNat < 0x20) : d ∉ print escape v :=
        fun hmem => absurd (hprintable d hmem) (not_le.mpr hd)
      have hlast : (print escape v).getLast? ≠ some '\r' :=
        fun h => hfree (by decide) (List.mem_of_getLast? h)
      rw [stream, List.flatMap_cons, List.append_assoc, List.singleton_append,
        Text.lines_append_cons (hfree (by decide)) hlast, List.map_cons, List.map_cons,
        read_print hs hvs.1]
      exact congrArg _ (ih hvs.2)

end RoundTrip

end JsonValue

end Library
