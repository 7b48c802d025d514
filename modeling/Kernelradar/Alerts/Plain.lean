import Mathlib.Data.List.Sort
import Mathlib.Order.Lex
import Kernelradar.Detectors.Util
import Kernelradar.Paths.Spelling

/-!
`emit_plain`: an alert as lines on a terminal.

* `sanitizeForTty`, `isSafeForTty`: the sanitiser of `util.rs`;
* `formatTimestamp`: the format string of the source, on the proleptic Gregorian
  calendar of `chrono`;
* `Json.quote`, `Json.display`: the compact form of `serde_json`;
* `emitPlain`: the lines handed to `println!`;
* `emitPlain_safe_iff`: when they are safe;
* `override_printed`: a path whose name turns the terminal's writing direction round.
-/

namespace Kernelradar

open Library

/-- `char::is_control`: the general category Cc. -/
def isControl (ch : Char) : Bool := ch.toNat < 0x20 || (0x7F ≤ ch.toNat && ch.toNat ≤ 0x9F)

/-- `is_safe_for_tty`. -/
def isSafeForTty (ch : Char) : Bool :=
  if isControl ch then false
  else
    let n := ch.toNat
    !((0x200B ≤ n && n ≤ 0x200F) || (0x202A ≤ n && n ≤ 0x202E) || (0x2028 ≤ n && n ≤ 0x2029)
      || (0x2060 ≤ n && n ≤ 0x2064) || (0x2066 ≤ n && n ≤ 0x2069) || n = 0xFEFF
      || (0xFFF9 ≤ n && n ≤ 0xFFFB))

/-- `{:0w$}` of the digits of a number. -/
def padded (w : ℕ) (digits : Text) : Text := List.leftpad w '0' digits

/-- What `sanitize_for_tty` writes for a character. -/
def sanitizeChar (ch : Char) : Text :=
  if ch = ' ' || isSafeForTty ch then [ch]
  else
    let n := ch.toNat
    if n ≤ 0xff then "\\x" ++ padded 2 (Nat.toDigits 16 n)
    else "\\u\x7b" ++ padded 4 (Nat.toDigits 16 n) ++ "\x7d"

/-- `sanitize_for_tty`. -/
def sanitizeForTty (s : Text) : Text := s.flatMap sanitizeChar

example : sanitizeForTty "a\u202Eb" = "a\\u\x7b202e\x7db" := by decide

/-- Every character is safe. -/
def Safe (s : Text) : Prop := ∀ c ∈ s, isSafeForTty c = true

instance (s : Text) : Decidable (Safe s) := List.decidableBAll _ s

@[simp] lemma safe_nil : Safe [] := fun _ h => absurd h List.not_mem_nil

@[simp] lemma safe_cons {c : Char} {s : Text} :
    Safe (c :: s) ↔ isSafeForTty c = true ∧ Safe s := List.forall_mem_cons

@[simp] lemma safe_append {s t : Text} : Safe (s ++ t) ↔ Safe s ∧ Safe t := List.forall_mem_append

/-- The printable ASCII characters are safe. -/
lemma isSafeForTty_of_ascii {c : Char} (h : 0x20 ≤ c.toNat ∧ c.toNat < 0x7F) :
    isSafeForTty c = true := by
  have hcontrol : isControl c = false := by
    simp only [isControl, Bool.or_eq_false_iff, Bool.and_eq_false_iff, decide_eq_false_iff_not]
    omega
  rw [isSafeForTty, hcontrol, if_neg Bool.false_ne_true]
  simp only [Bool.not_eq_true', Bool.or_eq_false_iff, Bool.and_eq_false_iff,
    decide_eq_false_iff_not]
  omega

/-- The digits of a number are printable ASCII, in any base. -/
lemma mem_toDigits {base n : ℕ} {c : Char} (hc : c ∈ Nat.toDigits base n) :
    0x20 ≤ c.toNat ∧ c.toNat < 0x7F := by
  have hdigit : ∀ d, 0x20 ≤ (Nat.digitChar d).toNat ∧ (Nat.digitChar d).toNat < 0x7F := by
    intro d
    by_cases hd : d < 16
    · exact (by decide : ∀ d < 16, 0x20 ≤ (Nat.digitChar d).toNat ∧
        (Nat.digitChar d).toNat < 0x7F) d hd
    · rw [Nat.digitChar_eq_star.mpr (not_lt.mp hd)]
      decide
  have hcore : ∀ (fuel m : ℕ) (ds : Text), (∀ c ∈ ds, 0x20 ≤ c.toNat ∧ c.toNat < 0x7F) →
      ∀ c ∈ Nat.toDigitsCore base fuel m ds, 0x20 ≤ c.toNat ∧ c.toNat < 0x7F := by
    intro fuel
    induction fuel with
    | zero => exact fun _ _ h => h
    | succ fuel ih =>
        intro m ds h
        rw [Nat.toDigitsCore]
        split_ifs
        · exact List.forall_mem_cons.mpr ⟨hdigit _, h⟩
        · exact ih _ _ (List.forall_mem_cons.mpr ⟨hdigit _, h⟩)
  exact hcore _ _ _ (fun _ h => absurd h List.not_mem_nil) c hc

/-- The digits of a number are safe, in any base. -/
lemma safe_toDigits (base n : ℕ) : Safe (Nat.toDigits base n) :=
  fun _ hc => isSafeForTty_of_ascii (mem_toDigits hc)

lemma safe_decimal (n : ℕ) : Safe (decimal n) := by
  rw [decimal_eq]
  exact safe_toDigits 10 n

lemma safe_padded {w : ℕ} {digits : Text} (h : Safe digits) : Safe (padded w digits) := by
  rw [padded, List.leftpad, safe_append]
  refine ⟨fun c hc => ?_, h⟩
  rw [List.eq_of_mem_replicate hc]
  decide

/-- What the sanitiser writes for a character: itself, if it is safe, or printable
ASCII. -/
lemma mem_sanitizeChar {c ch : Char} (hc : c ∈ sanitizeChar ch) :
    c = ch ∧ isSafeForTty ch = true ∨ 0x20 ≤ c.toNat ∧ c.toNat < 0x7F := by
  have hback : ∀ d ∈ "\\x".toList, 0x20 ≤ d.toNat ∧ d.toNat < 0x7F := by decide
  have hopen : ∀ d ∈ "\\u\x7b".toList, 0x20 ≤ d.toNat ∧ d.toNat < 0x7F := by decide
  have hclose : ∀ d ∈ "\x7d".toList, 0x20 ≤ d.toNat ∧ d.toNat < 0x7F := by decide
  have hdigits : ∀ w, ∀ d ∈ padded w (Nat.toDigits 16 ch.toNat),
      0x20 ≤ d.toNat ∧ d.toNat < 0x7F := by
    intro w d hd
    rw [padded, List.leftpad] at hd
    rcases List.mem_append.mp hd with hzero | hdigit
    · rw [List.eq_of_mem_replicate hzero]
      decide
    · exact mem_toDigits hdigit
  rw [sanitizeChar] at hc
  dsimp only at hc
  split_ifs at hc with hkeep
  · obtain rfl := List.mem_singleton.mp hc
    rw [Bool.or_eq_true, decide_eq_true_iff] at hkeep
    rcases hkeep with rfl | hsafe
    · exact Or.inr (by decide)
    · exact Or.inl ⟨rfl, hsafe⟩
  · exact Or.inr ((List.mem_append.mp hc).elim (hback c) (hdigits 2 c))
  · right
    rcases List.mem_append.mp hc with hfront | hend
    · exact (List.mem_append.mp hfront).elim (hopen c) (hdigits 4 c)
    · exact hclose c hend

/-- **The sanitiser** lets only safe characters through. -/
lemma safe_sanitizeForTty (s : Text) : Safe (sanitizeForTty s) := by
  intro c hc
  obtain ⟨ch, -, hc⟩ := List.mem_flatMap.mp hc
  rcases mem_sanitizeChar hc with ⟨rfl, hsafe⟩ | hascii
  · exact hsafe
  · exact isSafeForTty_of_ascii hascii

/-! ### The time -/

namespace DateTime

/-- Year, month and day of a day since the epoch. -/
def civil (days : ℤ) : ℤ × ℕ × ℕ :=
  -- the year begins in March, so that the leap day is its last
  let z := days + 719468
  let era := z / 146097
  let doe := (z % 146097).toNat
  let yoe := (doe - doe / 1460 + doe / 36524 - doe / 146096) / 365
  let doy := doe - (365 * yoe + yoe / 4 - yoe / 100)
  let mp := (5 * doy + 2) / 153
  let month := if mp < 10 then mp + 3 else mp - 9
  (yoe + era * 400 + (if month ≤ 2 then 1 else 0), month, doy - (153 * mp + 2) / 5 + 1)

/-- `%Y`: four digits, and a sign outside the years 0 to 9999. -/
def formatYear (y : ℤ) : Text :=
  if 0 ≤ y ∧ y < 10000 then padded 4 (decimal y.toNat)
  else (if y < 0 then '-' else '+') :: padded 4 (decimal y.natAbs)

/-- `format("%Y-%m-%dT%H:%M:%S%.3fZ")`. -/
def format (t : DateTime) : Text :=
  let secs := t.timestamp
  let (y, m, d) := civil (secs / 86400)
  let second := (secs % 86400).toNat
  let two n := padded 2 (decimal n)
  formatYear y ++ "-" ++ two m ++ "-" ++ two d ++ "T" ++ two (second / 3600) ++ ":"
    ++ two (second / 60 % 60) ++ ":" ++ two (second % 60) ++ "."
    ++ padded 3 (decimal ((t % nanos) / 1000000).toNat) ++ "Z"

lemma safe_format (t : DateTime) : Safe t.format := by
  have htwo : ∀ w n, Safe (padded w (decimal n)) := fun w n => safe_padded (safe_decimal n)
  have hyear : ∀ y, Safe (formatYear y) := by
    intro y
    rw [formatYear]
    split_ifs
    · exact htwo _ _
    · exact safe_cons.mpr ⟨by decide, htwo _ _⟩
    · exact safe_cons.mpr ⟨by decide, htwo _ _⟩
  simp only [format, safe_append, htwo, hyear, true_and, and_true]
  decide

example : format 1709210096789000000 = ("2024-02-29T12:34:56.789Z" : Text) := by decide

end DateTime

/-! ### The context -/

namespace Json

/-- How `serde_json` writes a character of a string. -/
def escape (c : Char) : Text :=
  if c = '"' then "\\\""
  else if c = '\\' then "\\\\"
  else if 0x20 ≤ c.toNat then [c]
  else if c.toNat = 0x08 then "\\b"
  else if c.toNat = 0x09 then "\\t"
  else if c.toNat = 0x0A then "\\n"
  else if c.toNat = 0x0C then "\\f"
  else if c.toNat = 0x0D then "\\r"
  else "\\u" ++ padded 4 (Nat.toDigits 16 c.toNat)

/-- A string in quotes. -/
def quote (s : Text) : Text := '"' :: (s.flatMap escape ++ ['"'])

/-- The order of strings, by their code points. -/
def keyLe : Text → Text → Bool
  | [], _ => true
  | _ :: _, [] => false
  | a :: s, b :: t => if a = b then keyLe s t else decide (a.toNat < b.toNat)

/-- One entry of an object. -/
def entry (e : Text × Text) : Text := quote e.1 ++ ':' :: e.2

mutual

/-- `impl Display for Value`: compact, the keys of an object in order. -/
def display : Json → Text
  | .null => "null"
  | .bool b => if b then "true" else "false"
  | .num lexeme => lexeme
  | .str s => quote s
  | .obj fields =>
      let entries := (displayFields fields).insertionSort fun x y => keyLe x.1 y.1 = true
      '{' :: (List.intercalate [','] (entries.map entry) ++ ['}'])

/-- The entries with their values written out. -/
def displayFields : List (Text × Json) → List (Text × Text)
  | [] => []
  | (k, v) :: fields => (k, display v) :: displayFields fields

end

mutual

/-- All keys and string values. -/
def strings : Json → List Text
  | .null => []
  | .bool _ => []
  | .num _ => []
  | .str s => [s]
  | .obj fields => stringsOf fields

/-- Those of a list of entries. -/
def stringsOf : List (Text × Json) → List Text
  | [] => []
  | (k, v) :: fields => k :: (strings v ++ stringsOf fields)

end

mutual

/-- All numbers, as they are written. -/
def lexemes : Json → List Text
  | .null => []
  | .bool _ => []
  | .num lexeme => [lexeme]
  | .str _ => []
  | .obj fields => lexemesOf fields

/-- Those of a list of entries. -/
def lexemesOf : List (Text × Json) → List Text
  | [] => []
  | (_, v) :: fields => lexemes v ++ lexemesOf fields

end

example : display (.obj [("b", .ofNat 7), ("a", .str "x\ny")])
    = "\x7b\"a\":\"x\\ny\",\"b\":7\x7d" := by
  decide

/-- The encoder does not stop what is above the control characters it escapes. -/
def Printable (s : Text) : Prop := ∀ c ∈ s, isSafeForTty c = true ∨ c.toNat < 0x20

/-- What the encoder writes for a character is safe if the character is, or if it is
one of those it escapes. -/
lemma safe_escape (c : Char) : Safe (escape c) ↔ isSafeForTty c = true ∨ c.toNat < 0x20 := by
  rw [escape]
  split_ifs with hquote hback hhigh h8 h9 ha hc hd
  · subst hquote
    decide
  · subst hback
    decide
  · simp [not_lt.mpr hhigh]
  · exact iff_of_true (by decide) (Or.inr (not_le.mp hhigh))
  · exact iff_of_true (by decide) (Or.inr (not_le.mp hhigh))
  · exact iff_of_true (by decide) (Or.inr (not_le.mp hhigh))
  · exact iff_of_true (by decide) (Or.inr (not_le.mp hhigh))
  · exact iff_of_true (by decide) (Or.inr (not_le.mp hhigh))
  · exact iff_of_true (safe_append.mpr ⟨by decide, safe_padded (safe_toDigits 16 _)⟩)
      (Or.inr (not_le.mp hhigh))

lemma safe_quote (s : Text) : Safe (quote s) ↔ Printable s := by
  have hmark : isSafeForTty '"' = true := by decide
  rw [quote, safe_cons, safe_append, safe_cons]
  simp only [hmark, safe_nil, true_and, and_true]
  rw [Safe, List.forall_mem_flatMap]
  exact forall₂_congr fun c _ => safe_escape c

lemma safe_entry (e : Text × Text) : Safe (entry e) ↔ Printable e.1 ∧ Safe e.2 := by
  have hcolon : isSafeForTty ':' = true := by decide
  rw [entry, safe_append, safe_cons, safe_quote]
  simp only [hcolon, true_and]

/-- A list of texts with safe separators. -/
lemma safe_intercalate {sep : Text} (hsep : Safe sep) : ∀ xs : List Text,
    Safe (List.intercalate sep xs) ↔ ∀ x ∈ xs, Safe x
  | [] => by simp [List.intercalate]
  | [x] => by simp [List.intercalate]
  | x :: y :: xs => by
      have ih := safe_intercalate hsep (y :: xs)
      rw [List.forall_mem_cons, ← ih]
      simp only [List.intercalate, List.intersperse_cons_cons, List.flatten_cons, safe_append, hsep,
        true_and]

mutual

/-- **The encoder**: a value is written in safe characters exactly if its strings are
printable. -/
lemma safe_display : ∀ j : Json, (∀ l ∈ lexemes j, Safe l) →
    (Safe (display j) ↔ ∀ s ∈ strings j, Printable s)
  | .null, _ => iff_of_true (by rw [display]; decide) (by simp [strings])
  | .bool b, _ => iff_of_true (by cases b <;> rw [display] <;> decide) (by simp [strings])
  | .num lexeme, h => by
      have hlexeme : Safe lexeme := h lexeme (by simp [lexemes])
      rw [display]
      exact iff_of_true hlexeme (by simp [strings])
  | .str s, _ => by
      rw [display, safe_quote]
      simp [strings]
  | .obj fields, h => by
      rw [lexemes] at h
      have hopen : isSafeForTty '{' = true := by decide
      have hclose : Safe ['}'] := by decide
      rw [display, safe_cons, safe_append, safe_intercalate (by decide), List.forall_mem_map,
        strings, ← safe_displayFields fields h]
      simp only [hopen, hclose, true_and, and_true, List.mem_insertionSort, safe_entry]

/-- The same for the entries of an object. -/
lemma safe_displayFields : ∀ fields : List (Text × Json), (∀ l ∈ lexemesOf fields, Safe l) →
    ((∀ e ∈ displayFields fields, Printable e.1 ∧ Safe e.2) ↔
      ∀ s ∈ stringsOf fields, Printable s)
  | [], _ => by simp [displayFields, stringsOf]
  | (k, v) :: fields, h => by
      rw [lexemesOf, List.forall_mem_append] at h
      rw [displayFields, stringsOf, List.forall_mem_cons, List.forall_mem_cons,
        List.forall_mem_append, ← safe_display v h.1, ← safe_displayFields fields h.2, and_assoc]

end

end Json

/-! ### The lines -/

/-- What stands before the second and third line. -/
def branch : Text := "          └ "

/-- The first `println!`. -/
def headLine (alert : Alert) : Text :=
  "[" ++ alert.severity.display ++ "] " ++ DateTime.format alert.timestamp ++ " | "
    ++ alert.detector ++ " | pid=" ++ decimal alert.pid.toNat ++ " uid="
    ++ decimal alert.uid.toNat ++ " comm=" ++ sanitizeForTty alert.comm ++ " | "
    ++ sanitizeForTty alert.title ++ " | cid=" ++ alert.correlationId

/-- The second, if there is a description. -/
def descriptionLines (alert : Alert) : List Text :=
  if alert.description.isEmpty then [] else [branch ++ sanitizeForTty alert.description]

/-- The third, if there is a context. -/
def contextLines (alert : Alert) : List Text :=
  match alert.context with
  | .null => []
  | context => [branch ++ context.display]

/-- `emit_plain`: what it hands to `println!`. -/
def emitPlain (alert : Alert) : List Text :=
  headLine alert :: (descriptionLines alert ++ contextLines alert)

/-- The characters of a `Uuid`, written out. -/
def uuidChar (c : Char) : Bool := c.isDigit || ('a' ≤ c && c ≤ 'f') || c = '-'

/-- The characters of a JSON number. -/
def numberChar (c : Char) : Bool := c.isDigit || c = '-' || c = '+' || c = '.' || c = 'e'

/-- The texts of an alert that are not strings in the source: an identifier and the
numbers of the context. -/
structure Alert.Typed (alert : Alert) : Prop where
  uuid : ∀ c ∈ alert.correlationId, uuidChar c = true
  numbers : ∀ l ∈ alert.context.lexemes, ∀ c ∈ l, numberChar c = true

lemma isSafeForTty_of_between {c a b : Char} (hc : a ≤ c ∧ c ≤ b)
    (ha : 0x20 ≤ a.toNat) (hb : b.toNat < 0x7F) : isSafeForTty c = true :=
  isSafeForTty_of_ascii ⟨ha.trans (UInt32.le_iff_toNat_le.mp hc.1),
    (UInt32.le_iff_toNat_le.mp hc.2).trans_lt hb⟩

lemma isSafeForTty_of_isDigit {c : Char} (h : c.isDigit = true) : isSafeForTty c = true := by
  rw [Char.isDigit, Bool.and_eq_true, decide_eq_true_iff, decide_eq_true_iff] at h
  exact isSafeForTty_of_between (a := '0') (b := '9') h (by decide) (by decide)

namespace Alert.Typed

variable {alert : Alert}

lemma safe_uuid (h : alert.Typed) : Safe alert.correlationId := by
  intro c hc
  have huuid := h.uuid c hc
  simp only [uuidChar, Bool.or_eq_true, Bool.and_eq_true, decide_eq_true_eq] at huuid
  rcases huuid with (hdigit | hletter) | rfl
  · exact isSafeForTty_of_isDigit hdigit
  · exact isSafeForTty_of_between hletter (by decide) (by decide)
  · decide

lemma safe_numbers (h : alert.Typed) : ∀ l ∈ alert.context.lexemes, Safe l := by
  intro l hl c hc
  have hnumber := h.numbers l hl c hc
  simp only [numberChar, Bool.or_eq_true, decide_eq_true_eq] at hnumber
  rcases hnumber with (((hdigit | rfl) | rfl) | rfl) | rfl
  · exact isSafeForTty_of_isDigit hdigit
  · decide
  · decide
  · decide
  · decide

end Alert.Typed

lemma safe_headLine {alert : Alert} (h : alert.Typed) :
    Safe (headLine alert) ↔ Safe alert.detector := by
  have hseverity : Safe alert.severity.display := by cases alert.severity <;> decide
  have hopen : Safe "[" := by decide
  have hclose : Safe "] " := by decide
  have hbar : Safe " | " := by decide
  have hpid : Safe " | pid=" := by decide
  have huid : Safe " uid=" := by decide
  have hcomm : Safe " comm=" := by decide
  have hcid : Safe " | cid=" := by decide
  have htime := DateTime.safe_format alert.timestamp
  have hname := safe_sanitizeForTty alert.comm
  have htitle := safe_sanitizeForTty alert.title
  unfold headLine
  constructor
  · intro hline
    exact fun c hc => hline c (by simp only [List.mem_append, hc, true_or, or_true])
  · intro hdetector
    have hleft := safe_append.mpr ⟨safe_append.mpr ⟨safe_append.mpr ⟨safe_append.mpr
      ⟨hopen, hseverity⟩, hclose⟩, htime⟩, hbar⟩
    have hids := safe_append.mpr ⟨safe_append.mpr ⟨safe_append.mpr ⟨safe_append.mpr
      ⟨safe_append.mpr ⟨hleft, hdetector⟩, hpid⟩, safe_decimal alert.pid.toNat⟩, huid⟩,
      safe_decimal alert.uid.toNat⟩
    exact safe_append.mpr ⟨safe_append.mpr ⟨safe_append.mpr ⟨safe_append.mpr ⟨safe_append.mpr
      ⟨safe_append.mpr ⟨hids, hcomm⟩, hname⟩, hbar⟩, htitle⟩, hcid⟩, h.safe_uuid⟩

lemma safe_branch : Safe branch := by decide

lemma safe_descriptionLines (alert : Alert) :
    (descriptionLines alert).length ≤ 1 ∧ ∀ line ∈ descriptionLines alert, Safe line := by
  rw [descriptionLines]
  split_ifs
  · simp
  · simp [safe_branch, safe_sanitizeForTty]

lemma safe_contextLines {alert : Alert} (h : alert.Typed) :
    (contextLines alert).length ≤ 1 ∧ ((∀ line ∈ contextLines alert, Safe line) ↔
      ∀ s ∈ alert.context.strings, Json.Printable s) := by
  rw [← Json.safe_display alert.context h.safe_numbers, contextLines]
  cases alert.context with
  | null => exact ⟨Nat.zero_le 1, iff_of_true (by simp) (by rw [Json.display]; decide)⟩
  | bool b => simp [safe_branch]
  | num lexeme => simp [safe_branch]
  | str s => simp [safe_branch]
  | obj fields => simp [safe_branch]

/-- **When the terminal is safe.** `emit_plain` prints three lines at most, and safe
characters only, exactly if the detector's name is safe and no key or string of the
context has an unsafe character from U+0020 on. -/
theorem emitPlain_safe_iff (alert : Alert) (htyped : alert.Typed) :
    ((emitPlain alert).length ≤ 3 ∧
        ∀ line ∈ emitPlain alert, ∀ c ∈ line, isSafeForTty c = true) ↔
      (∀ c ∈ alert.detector, isSafeForTty c = true) ∧
        ∀ s ∈ alert.context.strings, ∀ c ∈ s, isSafeForTty c = true ∨ c.toNat < 0x20 := by
  obtain ⟨hdescription, hsafe⟩ := safe_descriptionLines alert
  obtain ⟨hcontext, hiff⟩ := safe_contextLines htyped
  have hlength : (emitPlain alert).length ≤ 3 := by
    rw [emitPlain, List.length_cons, List.length_append]
    omega
  calc _ ↔ ∀ line ∈ emitPlain alert, Safe line := and_iff_right hlength
    _ ↔ Safe (headLine alert) ∧ ∀ line ∈ contextLines alert, Safe line := by
      rw [emitPlain, List.forall_mem_cons, List.forall_mem_append]
      exact and_congr_right fun _ => and_iff_right hsafe
    _ ↔ _ := and_congr (safe_headLine htyped) hiff

/-- An escape sequence in the title, and in the path of the context. -/
theorem emitPlain_safe_escape :
    let alert : Alert := ⟨1, "0192-af", 0, .critical, "fim", 1, "write open to \x1b[2J", [], 7, 0,
      "cat", .obj [("path", .str "\x1b[2J"), ("exe", .null)]⟩
    (emitPlain alert).length ≤ 3 ∧
      ∀ line ∈ emitPlain alert, ∀ c ∈ line, isSafeForTty c = true := by
  intro alert
  have huuid : alert.correlationId.all uuidChar = true := by decide
  have hlexemes : alert.context.lexemes = [] := rfl
  have htyped : alert.Typed :=
    ⟨List.all_eq_true.mp huuid, fun l hl => by rw [hlexemes] at hl; cases hl⟩
  have hdetector : Safe alert.detector := by decide
  have hstrings : (alert.context.strings.all fun s => s.all fun c =>
      isSafeForTty c || decide (c.toNat < 0x20)) = true := by decide
  simp only [List.all_eq_true, Bool.or_eq_true, decide_eq_true_eq] at hstrings
  exact (emitPlain_safe_iff alert htyped).mpr ⟨hdetector, hstrings⟩

/-- The path of a file whose name writes from right to left. -/
def overridePath : List UInt8 :=
  asciiBytes "/etc/cron.d/" ++ [0xE2, 0x80, 0xAE] ++ asciiBytes "drow"

/-- A write to it by a process that is not allowlisted is reported, and the character is
printed. -/
theorem override_printed :
    ∃ ev alert, (Bpf.krTpOpenat ⟨1, some overridePath⟩ catTask true (Vector.replicate 18 0)).2
        = some ev ∧
      (FimDetector.handle noRegex catScene ev).run emptyHeld = some alert ∧
      ∃ line ∈ emitPlain alert, Char.ofNat 0x202E ∈ line ∧
        isSafeForTty (Char.ofNat 0x202E) = false := by
  refine ⟨_, _, rfl, rfl, ?_⟩
  decide

end Kernelradar
