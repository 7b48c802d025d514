import Kernelradar.Library.Text

/-!
Responses of a web server whose body has a stated length.

* `Response`, `write`: a status, headers, and the bytes of the body;
* `read`: the reader, which takes one response off the front of what has come in;
* `Framed`: what the reader relies on;
* `read_write`: a response is read back, whatever follows it.
-/

namespace Library

namespace Http

/-- A response, its headers in order. -/
structure Response where
  code : ℕ
  reason : Text
  headers : List (Text × Text)
  body : List UInt8
  deriving DecidableEq

/-! ### Writing -/

/-- How every response begins. -/
def version : Text := "HTTP/1.1 "

/-- A header. -/
def printHeader (header : Text × Text) : Text := header.1 ++ ':' :: ' ' :: header.2

/-- The line in front of the headers. -/
def printStatus (code : ℕ) (reason : Text) : Text :=
  version ++ (Nat.toDigits 10 code ++ ' ' :: reason)

/-- The lines in front of the body. -/
def headLines (r : Response) : List Text :=
  printStatus r.code r.reason :: r.headers.map printHeader

/-- Lines, each with its end, and an empty one. -/
def printHead (lines : List Text) : Text :=
  lines.flatMap (fun l => l ++ ['\r', '\n']) ++ ['\r', '\n']

/-- The bytes of a response. -/
def write (r : Response) : List UInt8 := Text.utf8 (printHead (headLines r)) ++ r.body

/-! ### Reading -/

/-- A line and what follows it. -/
def readLine : List UInt8 → Option (List UInt8 × List UInt8)
  | [] => none
  | b :: bs =>
      if b = 13 ∧ bs.head? = some 10 then some ([], bs.tail)
      else (readLine bs).map fun q => (b :: q.1, q.2)

/-- The lines up to the first empty one, and what follows. -/
def readHead : ℕ → List UInt8 → Option (List Text × List UInt8)
  | 0, _ => none
  | n + 1, bs => do
      let (line, rest) ← readLine bs
      if line = [] then some ([], rest)
      else
        let (lines, rest) ← readHead n rest
        some (fromUtf8Lossy line :: lines, rest)

/-- A status. -/
def readStatus (line : Text) : Option (ℕ × Text) := do
  let s ← Text.stripPrefix line version
  let (code, reason) ← Text.splitOnce ' ' s
  let code ← Text.readDecimal code
  some (code, reason)

/-- A header; white space around its value does not count. -/
def readHeader (line : Text) : Option (Text × Text) :=
  (Text.splitOnce ':' line).map fun q => (q.1, Text.trim q.2)

/-- The length of the body, as the headers state it. -/
def contentLength (headers : List (Text × Text)) : Option ℕ :=
  (headers.find? fun h => Text.toAsciiLowercase h.1 = "content-length".toList).bind fun h =>
    Text.readDecimal h.2

/-- A response, and what follows it. -/
def read (bs : List UInt8) : Option (Response × List UInt8) := do
  let (lines, rest) ← readHead bs.length bs
  let (code, reason) ← readStatus (lines.headD [])
  let headers ← lines.tail.mapM readHeader
  let n ← contentLength headers
  if n ≤ rest.length then some (⟨code, reason, headers, rest.take n⟩, rest.drop n) else none

/-! ### What is written is read back -/

/-- Text that can stand in a line. -/
structure Line (s : Text) : Prop where
  ascii : IsAscii s
  free : '\r' ∉ s

instance (s : Text) : Decidable (Line s) :=
  decidable_of_iff (IsAscii s ∧ '\r' ∉ s) ⟨fun h => ⟨h.1, h.2⟩, fun h => ⟨h.ascii, h.free⟩⟩

lemma Line.append {s t : Text} (hs : Line s) (ht : Line t) : Line (s ++ t) :=
  ⟨List.forall_mem_append.mpr ⟨hs.ascii, ht.ascii⟩, fun h =>
    (List.mem_append.mp h).elim hs.free ht.free⟩

lemma Line.cons {c : Char} {s : Text} (hc : c.toNat < 0x80) (hr : c ≠ '\r') (hs : Line s) :
    Line (c :: s) :=
  ⟨List.forall_mem_cons.mpr ⟨hc, hs.ascii⟩,
    fun h => (List.mem_cons.mp h).elim (fun h => hr h.symm) hs.free⟩

/-- Digits can stand in a line. -/
lemma line_toDigits (n : ℕ) : Line (Nat.toDigits 10 n) := by
  constructor
  · intro c hc
    have hdigit := Text.isDigit_of_mem hc
    rw [Char.isDigit, Bool.and_eq_true, decide_eq_true_eq, decide_eq_true_eq] at hdigit
    exact lt_of_le_of_lt hdigit.2 (by decide)
  · intro h
    exact absurd (Text.isDigit_of_mem h) (by decide)

/-- A header that can be told from its value, and both from what is around them. -/
structure PlainHeader (header : Text × Text) : Prop where
  name : Line header.1
  colon : ':' ∉ header.1
  value : Line header.2
  head : ∀ c ∈ header.2.head?, Text.isWhite c = false
  last : ∀ c ∈ header.2.getLast?, Text.isWhite c = false

instance (header : Text × Text) : Decidable (PlainHeader header) :=
  decidable_of_iff (Line header.1 ∧ ':' ∉ header.1 ∧ Line header.2 ∧
      (∀ c ∈ header.2.head?, Text.isWhite c = false) ∧
      ∀ c ∈ header.2.getLast?, Text.isWhite c = false)
    ⟨fun h => ⟨h.1, h.2.1, h.2.2.1, h.2.2.2.1, h.2.2.2.2⟩,
      fun h => ⟨h.name, h.colon, h.value, h.head, h.last⟩⟩

/-- A response whose end can be found. -/
structure Framed (r : Response) : Prop where
  reason : Line r.reason
  headers : ∀ header ∈ r.headers, PlainHeader header
  length : contentLength r.headers = some r.body.length

/-- A number is a plain value. -/
lemma plainHeader_toDigits {name : Text} (hname : Line name) (hcolon : ':' ∉ name) (n : ℕ) :
    PlainHeader (name, Nat.toDigits 10 n) where
  name := hname
  colon := hcolon
  value := line_toDigits n
  head _ hc := Text.isWhite_of_isDigit (Text.isDigit_of_mem (List.mem_of_mem_head? hc))
  last _ hc := Text.isWhite_of_isDigit (Text.isDigit_of_mem (List.mem_of_getLast? hc))

lemma readLine_append {line : List UInt8} (h : 13 ∉ line) (rest : List UInt8) :
    readLine (line ++ 13 :: 10 :: rest) = some (line, rest) := by
  induction line with
  | nil => rfl
  | cons b line ih =>
      rw [List.mem_cons, not_or] at h
      rw [List.cons_append, readLine, if_neg fun hb => h.1 hb.1.symm, ih h.2, Option.map_some]

/-- The bytes of a line do not end it. -/
lemma Line.bytes {s : Text} (h : Line s) : (13 : UInt8) ∉ asciiBytes s := by
  intro hmem
  obtain ⟨c, hc, hbyte⟩ := List.mem_map.mp hmem
  have hval : c.toNat = '\r'.toNat := by
    have hlt := h.ascii c hc
    have htoNat := congrArg UInt8.toNat hbyte
    rw [UInt8.toNat_ofNat'] at htoNat
    exact (Nat.mod_eq_of_lt (by omega)).symm.trans htoNat
  exact h.free (Char.toNat_inj.mp hval ▸ hc)

lemma lossy_asciiBytes {s : Text} (h : IsAscii s) : fromUtf8Lossy (asciiBytes s) = s := by
  calc fromUtf8Lossy (asciiBytes s) = fromUtf8Lossy (asciiBytes s ++ []) := by rw [List.append_nil]
    _ = s ++ fromUtf8Lossy [] := lossy_ascii_append [] h
    _ = s := List.append_nil s

/-- The bytes of a head, line by line. -/
lemma utf8_printHead (l : Text) (lines : List Text) : Text.utf8 (printHead (l :: lines))
    = Text.utf8 l ++ 13 :: 10 :: Text.utf8 (printHead lines) := by
  have hend : Text.utf8 ['\r', '\n'] = [13, 10] := by decide
  calc Text.utf8 (printHead (l :: lines))
      = Text.utf8 ((l ++ ['\r', '\n']) ++ printHead lines) := by
        rw [printHead, List.flatMap_cons, List.append_assoc]
        rfl
    _ = Text.utf8 l ++ Text.utf8 ['\r', '\n'] ++ Text.utf8 (printHead lines) := by
        rw [Text.utf8, List.flatMap_append, List.flatMap_append]
        rfl
    _ = Text.utf8 l ++ 13 :: 10 :: Text.utf8 (printHead lines) := by
        rw [hend, List.append_assoc]
        rfl

lemma length_lt_printHead (lines : List Text) :
    lines.length < (Text.utf8 (printHead lines)).length := by
  induction lines with
  | nil => decide
  | cons l lines ih =>
      rw [utf8_printHead, List.length_append, List.length_cons, List.length_cons, List.length_cons]
      omega

/-- The head is read back, line by line. -/
lemma readHead_append {lines : List Text} (h : ∀ l ∈ lines, Line l ∧ l ≠ []) (rest : List UInt8) :
    ∀ n, lines.length < n →
      readHead n (Text.utf8 (printHead lines) ++ rest) = some (lines, rest) := by
  induction lines with
  | nil =>
      intro n hn
      obtain ⟨n, rfl⟩ := Nat.exists_eq_add_of_lt hn
      have hend : Text.utf8 (printHead []) = [13, 10] := by decide
      rw [hend]
      rfl
  | cons l lines ih =>
      intro n hn
      obtain ⟨n, rfl⟩ := Nat.exists_eq_add_of_lt hn
      obtain ⟨⟨hline, hne⟩, hlines⟩ := List.forall_mem_cons.mp h
      have hbytes : Text.utf8 (printHead (l :: lines)) ++ rest
          = asciiBytes l ++ 13 :: 10 :: (Text.utf8 (printHead lines) ++ rest) := by
        rw [utf8_printHead, utf8_eq_asciiBytes hline.ascii, List.append_assoc]
        rfl
      have hfull : asciiBytes l ≠ [] := fun hnil => hne (List.map_eq_nil_iff.mp hnil)
      rw [hbytes, readHead, readLine_append hline.bytes]
      dsimp only [Option.bind_eq_bind, Option.bind_some]
      rw [if_neg hfull, ih hlines ((l :: lines).length + n) (by rw [List.length_cons]; omega),
        Option.bind_some, lossy_asciiBytes hline.ascii]

/-- A status is read back. -/
lemma readStatus_print (code : ℕ) (reason : Text) :
    readStatus (printStatus code reason) = some (code, reason) := by
  have hsplit : Text.splitOnce ' ' (Nat.toDigits 10 code ++ ' ' :: reason)
      = some (Nat.toDigits 10 code, reason) :=
    Text.splitOnce_eq_some.mpr ⟨rfl, fun h => absurd (Text.isDigit_of_mem h) (by decide)⟩
  rw [readStatus, printStatus, Text.stripPrefix_append]
  simp [hsplit, Text.readDecimal_toDigits]

/-- A header is read back. -/
lemma readHeader_print {header : Text × Text} (h : PlainHeader header) :
    readHeader (printHeader header) = some header := by
  have hsplit : Text.splitOnce ':' (printHeader header) = some (header.1, ' ' :: header.2) :=
    Text.splitOnce_eq_some.mpr ⟨rfl, h.colon⟩
  rw [readHeader, hsplit, Option.map_some, Text.trim_cons_eq (by decide) h.head h.last]

/-- **Round trip**: a response is read back, and what follows it is left. -/
theorem read_write {r : Response} (h : Framed r) (rest : List UInt8) :
    read (write r ++ rest) = some (r, rest) := by
  have hversion : Line version := ⟨by decide, by decide⟩
  have hstatus : Line (printStatus r.code r.reason) :=
    hversion.append ((line_toDigits r.code).append (.cons (by decide) (by decide) h.reason))
  have hlines : ∀ l ∈ headLines r, Line l ∧ l ≠ [] := by
    refine List.forall_mem_cons.mpr ⟨⟨hstatus, List.append_ne_nil_of_left_ne_nil (by decide) _⟩,
      fun l hl => ?_⟩
    obtain ⟨header, hheader, rfl⟩ := List.mem_map.mp hl
    have hplain := h.headers header hheader
    exact ⟨hplain.name.append (.cons (by decide) (by decide) (.cons (by decide) (by decide)
      hplain.value)), by simp [printHeader]⟩
  have hlong : (headLines r).length < (write r ++ rest).length := by
    rw [write, List.append_assoc, List.length_append]
    exact Nat.lt_add_right _ (length_lt_printHead _)
  have hheaders : (r.headers.map printHeader).mapM readHeader = some (r.headers.map id) :=
    mapM_map_eq_some fun header hheader => readHeader_print (h.headers header hheader)
  have hhead := readHead_append hlines (r.body ++ rest) _ hlong
  rw [← List.append_assoc] at hhead
  change (readHead (write r ++ rest).length (Text.utf8 (printHead (headLines r)) ++ r.body
    ++ rest)).bind _ = _
  rw [hhead]
  simp [headLines, readStatus_print, hheaders, h.length]

end Http

end Library
