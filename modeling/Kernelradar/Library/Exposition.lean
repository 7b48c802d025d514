import Mathlib.Data.List.Forall2
import Kernelradar.Library.Json
import Kernelradar.Library.Table

/-!
The text format in which a service exposes its counters.

* `Sample`, `Entry`: a value with its labels, and the comments that give a metric's help and type;
* `print`, `read`: a page of entries, one a line, and its reader;
* `Plain`: the entries that need no escapes;
* `read_print`: a page of plain entries is read back;
* `lookup`, `samples`: what a page says, and `family`: the samples of one metric.
-/

namespace Library

namespace Exposition

open JsonValue (Reader)

/-- A value of a metric, under labels. -/
structure Sample where
  name : Text
  labels : List (Text × Text)
  value : ℕ
  deriving DecidableEq

/-- A line of a page. -/
inductive Entry where
  | help (name doc : Text)
  | type (name kind : Text)
  | sample (s : Sample)
  deriving DecidableEq

/-! ### Writing -/

/-- A label, its value in quotes. -/
def printLabel (label : Text × Text) : Text := label.1 ++ '=' :: '"' :: (label.2 ++ ['"'])

/-- A sample, with its labels in braces. -/
def printSample (s : Sample) : Text :=
  s.name ++ '{' :: (List.intercalate [','] (s.labels.map printLabel) ++ '}' :: ' ' ::
    Nat.toDigits 10 s.value)

/-- How the comments with help begin. -/
def helpMark : Text := "# HELP "

/-- How the comments with a type begin. -/
def typeMark : Text := "# TYPE "

/-- An entry. -/
def printEntry : Entry → Text
  | .help name doc => helpMark ++ (name ++ ' ' :: doc)
  | .type name kind => typeMark ++ (name ++ ' ' :: kind)
  | .sample s => printSample s

/-- A page: every line is ended. -/
def print (page : List Entry) : Text := page.flatMap fun e => printEntry e ++ ['\n']

/-! ### Reading -/

/-- The characters of names. -/
def nameChar (c : Char) : Bool := c.isAlphanum || c == '_' || c == ':'

/-- A name: as many characters as possible, the first of them not a digit. -/
def readName : Reader Text := fun s =>
  let name := s.takeWhile nameChar
  if name.head?.any fun c => !c.isDigit then some (name, s.dropWhile nameChar) else none

/-- The letters that stand for a character behind a backslash. -/
def escapes : List (Char × Char) := [('"', '"'), ('\\', '\\'), ('n', '\n')]

/-- The characters of a label's value, up to the closing quote. -/
def readChars : Reader Text
  | [] => none
  | c :: s =>
      if c = '"' then some ([], s)
      else if c = '\\' then
        match s with
        | [] => none
        | e :: s => do
            let d ← escapes.lookup e
            let (value, rest) ← readChars s
            some (d :: value, rest)
      else do
        let (value, rest) ← readChars s
        some (c :: value, rest)

/-- A label. -/
def readLabel : Reader (Text × Text) := fun s => do
  let (name, s) ← readName s
  let s ← Text.stripPrefix s ['=', '"']
  let (value, s) ← readChars s
  some ((name, value), s)

/-- A sample; one without labels has no braces. -/
def readSample (s : Text) : Option Sample := do
  let (name, s) ← readName s
  let (labels, s) ← match Text.stripPrefix s ['{'] with
    | some s => JsonValue.readSequence readLabel '}' s
    | none => some ([], s)
  let s ← Text.stripPrefix s [' ']
  let value ← Text.readDecimal s
  some ⟨name, labels, value⟩

/-- A name and what follows the blank behind it. -/
def readComment (s : Text) : Option (Text × Text) := do
  let (name, s) ← readName s
  let s ← Text.stripPrefix s [' ']
  some (name, s)

/-- A line; empty lines and other comments say nothing. -/
def readLine (line : Text) : Option (List Entry) :=
  match Text.stripPrefix line helpMark, Text.stripPrefix line typeMark with
  | some s, _ => (readComment s).map fun q => [.help q.1 q.2]
  | none, some s => (readComment s).map fun q => [.type q.1 q.2]
  | none, none =>
      if line = [] ∨ line.head? = some '#' then some []
      else (readSample line).map fun s => [.sample s]

/-- A page. -/
def read (page : Text) : Option (List Entry) :=
  ((Text.lines page).mapM readLine).map List.flatten

/-! ### What is written is read back -/

/-- A name, that can be told from what follows it. -/
structure IsName (name : Text) : Prop where
  first : (name.head?.any fun c => !c.isDigit) = true
  chars : ∀ c ∈ name, nameChar c = true

instance (name : Text) : Decidable (IsName name) :=
  decidable_of_iff ((name.head?.any fun c => !c.isDigit) = true ∧ ∀ c ∈ name, nameChar c = true)
    ⟨fun h => ⟨h.1, h.2⟩, fun h => ⟨h.first, h.chars⟩⟩

/-- A value that needs no escapes. -/
def Bare (value : Text) : Prop := ∀ c ∈ value, c ≠ '"' ∧ c ≠ '\\' ∧ c ≠ '\n'

instance (value : Text) : Decidable (Bare value) :=
  inferInstanceAs (Decidable (∀ c ∈ value, c ≠ '"' ∧ c ≠ '\\' ∧ c ≠ '\n'))

/-- A label whose value needs no escapes. -/
structure PlainLabel (label : Text × Text) : Prop where
  name : IsName label.1
  value : Bare label.2

/-- Text that stands to the end of a line. -/
structure OneLine (s : Text) : Prop where
  newline : '\n' ∉ s
  last : s.getLast? ≠ some '\r'

instance (s : Text) : Decidable (OneLine s) :=
  decidable_of_iff ('\n' ∉ s ∧ s.getLast? ≠ some '\r')
    ⟨fun h => ⟨h.1, h.2⟩, fun h => ⟨h.newline, h.last⟩⟩

/-- An entry that needs no escapes. -/
def Plain : Entry → Prop
  | .help name doc => IsName name ∧ OneLine doc
  | .type name kind => IsName name ∧ OneLine kind
  | .sample s => IsName s.name ∧ ∀ label ∈ s.labels, PlainLabel label

variable {name : Text}

lemma IsName.cons (h : IsName name) : ∃ c t, name = c :: t ∧ nameChar c = true := by
  cases name with
  | nil => exact absurd h.first (by simp)
  | cons c t => exact ⟨c, t, rfl, h.chars c List.mem_cons_self⟩

lemma IsName.ne {d : Char} (h : IsName name) (hd : nameChar d = false) : d ∉ name := by
  intro hmem
  rw [h.chars d hmem] at hd
  cases hd

/-- A name ends where another character begins. -/
lemma readName_append {c : Char} (h : IsName name) (hc : nameChar c = false) (rest : Text) :
    readName (name ++ c :: rest) = some (name, c :: rest) := by
  have htake : (name ++ c :: rest).takeWhile nameChar = name := by
    rw [List.takeWhile_append_of_pos h.chars, List.takeWhile_cons_of_neg (by simp [hc]),
      List.append_nil]
  have hdrop : (name ++ c :: rest).dropWhile nameChar = c :: rest := by
    rw [List.dropWhile_append_of_pos h.chars, List.dropWhile_cons_of_neg (by simp [hc])]
  rw [readName, htake, hdrop]
  exact if_pos h.first

lemma readChars_append {value : Text} (h : Bare value) (rest : Text) :
    readChars (value ++ '"' :: rest) = some (value, rest) := by
  induction value with
  | nil =>
      rw [List.nil_append, readChars.eq_def]
      exact if_pos rfl
  | cons c value ih =>
      obtain ⟨hc, hvalue⟩ := List.forall_mem_cons.mp h
      rw [List.cons_append, readChars.eq_def]
      simp [hc.1, hc.2.1, ih hvalue]

/-- A label is read back. -/
lemma reads_label {label : Text × Text} (h : PlainLabel label) :
    JsonValue.Reads readLabel (printLabel label) label := by
  intro rest _
  rw [readLabel, printLabel, List.append_assoc, List.cons_append, List.cons_append,
    List.append_assoc, List.singleton_append, readName_append h.name (by decide)]
  have hstrip : Text.stripPrefix ('=' :: '"' :: (label.2 ++ '"' :: rest)) ['=', '"']
      = some (label.2 ++ '"' :: rest) := Text.stripPrefix_eq_some.mpr rfl
  simp [hstrip, readChars_append h.value]

/-- A sample is read back. -/
lemma readSample_print {s : Sample} (hname : IsName s.name)
    (hlabels : ∀ label ∈ s.labels, PlainLabel label) : readSample (printSample s) = some s := by
  have hforall : List.Forall₂ (JsonValue.Reads readLabel) (s.labels.map printLabel) s.labels := by
    rw [List.forall₂_map_left_iff, List.forall₂_same]
    exact fun label hlabel => reads_label (hlabels label hlabel)
  have hfirst : ∀ t ∈ s.labels.map printLabel, ∃ c u, t = c :: u ∧ c ≠ '}' := by
    intro t ht
    obtain ⟨label, hlabel, rfl⟩ := List.mem_map.mp ht
    obtain ⟨c, u, hcons, hc⟩ := (hlabels label hlabel).name.cons
    refine ⟨c, u ++ '=' :: '"' :: (label.2 ++ ['"']), by rw [printLabel, hcons]; rfl, ?_⟩
    rintro rfl
    exact absurd hc (by decide)
  have hseq := JsonValue.readSequence_intercalate '}' (by decide) (by decide) hforall hfirst
    (' ' :: Nat.toDigits 10 s.value)
  rw [readSample, printSample, readName_append hname (by decide)]
  simp [Text.stripPrefix, hseq, Text.readDecimal_toDigits]

lemma readComment_append {text : Text} (h : IsName name) :
    readComment (name ++ ' ' :: text) = some (name, text) := by
  rw [readComment, readName_append h (by decide)]
  simp [Text.stripPrefix]

/-- A line is read back. -/
lemma readLine_print {e : Entry} (h : Plain e) : readLine (printEntry e) = some [e] := by
  cases e with
  | help name doc =>
      rw [printEntry, readLine, Text.stripPrefix_append]
      simp [readComment_append h.1]
  | type name kind =>
      have hhelp : Text.stripPrefix (typeMark ++ (name ++ ' ' :: kind)) helpMark = none := by
        have hlen : typeMark.length = helpMark.length := by decide
        have hne : typeMark ≠ helpMark := by decide
        rw [Option.eq_none_iff_forall_ne_some]
        intro rest hrest
        exact hne (List.append_inj_left (Text.stripPrefix_eq_some.mp hrest) hlen)
      rw [printEntry, readLine, hhelp, Text.stripPrefix_append]
      simp [readComment_append h.1]
  | sample s =>
      obtain ⟨c, t, hcons, hc⟩ := h.1.cons
      have hhash : c ≠ '#' := by
        rintro rfl
        exact absurd hc (by decide)
      have hstart : ∀ word : Text, word.head? = some '#' →
          Text.stripPrefix (printSample s) word = none := by
        intro word hword
        rw [Option.eq_none_iff_forall_ne_some]
        intro rest hrest
        obtain ⟨word, rfl⟩ := List.head?_eq_some_iff.mp hword
        rw [printSample, hcons, Text.stripPrefix_eq_some] at hrest
        exact hhash (List.cons.inj hrest).1
      have hline : ¬(printSample s = [] ∨ (printSample s).head? = some '#') := by
        rw [printSample, hcons]
        simp [hhash]
      rw [printEntry, readLine, hstart _ rfl, hstart _ rfl]
      simp only
      rw [if_neg hline, readSample_print h.1 h.2, Option.map_some]

/-- An entry takes one line. -/
lemma oneLine_printEntry {e : Entry} (h : Plain e) : OneLine (printEntry e) := by
  have hname {name : Text} (h : IsName name) : '\n' ∉ name := h.ne (by decide)
  have hlast {s t : Text} (ht : t ≠ []) (h : t.getLast? ≠ some '\r') :
      (s ++ t).getLast? ≠ some '\r' := by
    rwa [List.getLast?_append_of_ne_nil s ht]
  have hend {s : Text} {c : Char} (hc : c ≠ '\r') (h : s.getLast? ≠ some '\r') :
      (c :: s).getLast? ≠ some '\r' := by
    cases s with
    | nil => simpa using hc
    | cons d s => rwa [List.getLast?_cons_cons]
  cases e with
  | help name doc =>
      constructor
      · have hmark : '\n' ∉ helpMark := by decide
        simp [printEntry, hmark, hname h.1, h.2.newline]
      · exact hlast (by simp) (hlast (by simp) (hend (by decide) h.2.last))
  | type name kind =>
      constructor
      · have hmark : '\n' ∉ typeMark := by decide
        simp [printEntry, hmark, hname h.1, h.2.newline]
      · exact hlast (by simp) (hlast (by simp) (hend (by decide) h.2.last))
  | sample s =>
      constructor
      · intro hmem
        rw [printEntry, printSample, List.mem_append, List.mem_cons, List.mem_append, List.mem_cons,
          List.mem_cons] at hmem
        rcases hmem with hmem | hmem | hmem | hmem | hmem | hmem
        · exact hname h.1 hmem
        · exact absurd hmem (by decide)
        · rcases Text.mem_intercalate hmem with hcomma | ⟨piece, hpiece, hmem⟩
          · exact absurd hcomma (by decide)
          · obtain ⟨label, hlabel, rfl⟩ := List.mem_map.mp hpiece
            have hplain := h.2 label hlabel
            rw [printLabel] at hmem
            simp only [List.mem_append, List.mem_cons, List.not_mem_nil, or_false] at hmem
            rcases hmem with hmem | hmem | hmem | hmem | hmem
            · exact hname hplain.name hmem
            · exact absurd hmem (by decide)
            · exact absurd hmem (by decide)
            · exact (hplain.value _ hmem).2.2 rfl
            · exact absurd hmem (by decide)
        · exact absurd hmem (by decide)
        · exact absurd hmem (by decide)
        · exact absurd (Text.isDigit_of_mem hmem) (by decide)
      · refine hlast (by simp) (hend (by decide) (hlast (by simp) ?_))
        refine hend (by decide) (hend (by decide) fun hcr => ?_)
        exact absurd (Text.isDigit_of_mem (List.mem_of_getLast? hcr)) (by decide)

/-- **Round trip**: a page of plain entries is read back, in order. -/
theorem read_print {page : List Entry} (h : ∀ e ∈ page, Plain e) :
    read (print page) = some page := by
  have hlines : Text.lines (print page) = page.map printEntry := by
    induction page with
    | nil => rfl
    | cons e page ih =>
        obtain ⟨he, hpage⟩ := List.forall_mem_cons.mp h
        have hone := oneLine_printEntry he
        rw [print, List.flatMap_cons, List.append_assoc, List.singleton_append,
          Text.lines_append_cons hone.newline hone.last, List.map_cons]
        exact congrArg _ (ih hpage)
  have hread : (page.map printEntry).mapM readLine = some (page.map fun e => [e]) :=
    mapM_map_eq_some fun e he => readLine_print (h e he)
  rw [read, hlines, hread, Option.map_some, ← List.flatMap_def, List.flatMap_singleton']

/-! ### What a page says -/

/-- The value of a line, if it is the metric under the labels. -/
def valueOf (name : Text) (labels : List (Text × Text)) : Entry → Option ℕ
  | .sample s => if s.name = name ∧ s.labels = labels then some s.value else none
  | .help _ _ => none
  | .type _ _ => none

/-- The metric of a line and its labels. -/
def seriesOf : Entry → Option (Text × List (Text × Text))
  | .sample s => some (s.name, s.labels)
  | .help _ _ => none
  | .type _ _ => none

/-- The value of a metric under labels. -/
def lookup (page : List Entry) (name : Text) (labels : List (Text × Text)) : Option ℕ :=
  page.findSome? (valueOf name labels)

/-- The metrics of the samples, with their labels. -/
def samples (page : List Entry) : List (Text × List (Text × Text)) := page.filterMap seriesOf

/-- A metric with its comments, and a sample for each entry of a table. -/
def family {K : Type} (name doc kind : Text) (labels : K → List (Text × Text))
    (entries : List (K × ℕ)) : List Entry :=
  .help name doc :: .type name kind :: entries.map fun e => .sample ⟨name, labels e.1, e.2⟩

section Family

variable {K : Type} {doc kind : Text} {labels : K → List (Text × Text)}
variable {t : Table K ℕ} {ks : List K}

lemma print_append (page page' : List Entry) : print (page ++ page') = print page ++ print page' :=
  List.flatMap_append

/-- The text of a family, from the texts of its lines. -/
lemma print_family {entries : List (K × ℕ)} {helpLine typeLine : Text} {line : K × ℕ → Text}
    (hhelp : printEntry (.help name doc) ++ ['\n'] = helpLine)
    (htype : printEntry (.type name kind) ++ ['\n'] = typeLine)
    (hline : ∀ e, printSample ⟨name, labels e.1, e.2⟩ ++ ['\n'] = line e) :
    print (family name doc kind labels entries) = helpLine ++ typeLine ++ entries.flatMap line := by
  have hsamples : (entries.flatMap fun e => printEntry (.sample ⟨name, labels e.1, e.2⟩) ++ ['\n'])
      = entries.flatMap line := congrArg (entries.flatMap ·) (funext hline)
  rw [family, print, List.flatMap_cons, List.flatMap_cons, List.flatMap_map, hhelp, htype,
    hsamples, List.append_assoc]

/-- A family of bare labels is plain. -/
lemma plain_family {entries : List (K × ℕ)} (hname : IsName name) (hdoc : OneLine doc)
    (hkind : OneLine kind) (hlabels : ∀ e ∈ entries, ∀ label ∈ labels e.1, PlainLabel label) :
    ∀ e ∈ family name doc kind labels entries, Plain e := by
  refine List.forall_mem_cons.mpr ⟨⟨hname, hdoc⟩, List.forall_mem_cons.mpr ⟨⟨hname, hkind⟩, ?_⟩⟩
  intro e he
  obtain ⟨x, hx, rfl⟩ := List.mem_map.mp he
  exact ⟨hname, hlabels x hx⟩

lemma lookup_append (page page' : List Entry) (name : Text) (ls : List (Text × Text)) :
    lookup (page ++ page') name ls = (lookup page name ls).or (lookup page' name ls) :=
  List.findSome?_append

lemma samples_append (page page' : List Entry) :
    samples (page ++ page') = samples page ++ samples page' := List.filterMap_append

lemma lookup_family_of_ne {other : Text} (h : name ≠ other) (entries : List (K × ℕ))
    (ls : List (Text × Text)) : lookup (family name doc kind labels entries) other ls = none := by
  rw [lookup, List.findSome?_eq_none_iff, family]
  intro e he
  rcases List.mem_cons.mp he with rfl | he
  · rfl
  rcases List.mem_cons.mp he with rfl | he
  · rfl
  obtain ⟨x, -, rfl⟩ := List.mem_map.mp he
  exact if_neg fun hx => h hx.1

/-- A family shows what its table holds. -/
lemma lookup_family (hlabels : Function.Injective labels) (ht : t.Enumerates ks) (k : K) :
    lookup (family name doc kind labels (t.entries ks)) name (labels k) = t.get k := by
  have hsample : ∀ e ∈ t.entries ks,
      valueOf name (labels k) (.sample ⟨name, labels e.1, e.2⟩) = none ∨
        valueOf name (labels k) (.sample ⟨name, labels e.1, e.2⟩) = t.get k := by
    rintro ⟨j, v⟩ he
    by_cases hj : j = k
    · subst hj
      exact Or.inr ((if_pos ⟨rfl, rfl⟩).trans (Table.mem_entries.mp he).2.symm)
    · exact Or.inl (if_neg fun h => hj (hlabels h.2))
  rw [lookup, family, List.findSome?_cons, List.findSome?_cons, valueOf, valueOf,
    List.findSome?_map]
  dsimp only
  cases hfound : (t.entries ks).findSome?
      (valueOf name (labels k) ∘ fun e => .sample ⟨name, labels e.1, e.2⟩) with
  | none =>
      rw [List.findSome?_eq_none_iff] at hfound
      cases hk : t.get k with
      | none => rfl
      | some v =>
          have hmem : (k, v) ∈ t.entries ks :=
            Table.mem_entries.mpr ⟨(ht.mem_iff k).mpr (Table.mem_dom_of_get hk), hk⟩
          have hnone := hfound _ hmem
          rw [Function.comp_apply, valueOf, if_pos ⟨rfl, rfl⟩] at hnone
          cases hnone
  | some v =>
      obtain ⟨e, he, hv⟩ := List.exists_of_findSome?_eq_some hfound
      rcases hsample e he with hnone | hget
      · rw [Function.comp_apply, hnone] at hv
        cases hv
      · exact (hget.symm.trans hv).symm

lemma samples_family (entries : List (K × ℕ)) :
    samples (family name doc kind labels entries) = entries.map fun e => (name, labels e.1) := by
  rw [samples, family, List.filterMap_cons_none rfl, List.filterMap_cons_none rfl,
    List.filterMap_map]
  exact congrFun (List.filterMap_eq_map (f := fun e : K × ℕ => (name, labels e.1))) entries

/-- Its samples can be told apart. -/
lemma nodup_samples_family (hlabels : Function.Injective labels) (ht : t.Enumerates ks) :
    (samples (family name doc kind labels (t.entries ks))).Nodup := by
  have hinj : Function.Injective fun k => (name, labels k) := fun j k h =>
    hlabels (Prod.mk.inj h).2
  have hkeys : ((t.entries ks).map Prod.fst).Nodup := (t.keys_entries_sublist ks).nodup ht.nodup
  have hnodup := hkeys.map hinj
  rw [List.map_map] at hnodup
  rw [samples_family]
  exact hnodup

lemma name_of_mem_family {x : Text × List (Text × Text)} {entries : List (K × ℕ)}
    (h : x ∈ samples (family name doc kind labels entries)) : x.1 = name := by
  rw [samples_family] at h
  obtain ⟨e, -, rfl⟩ := List.mem_map.mp h
  rfl

end Family

end Exposition

end Library
