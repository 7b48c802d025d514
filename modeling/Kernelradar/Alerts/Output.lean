import Kernelradar.Alerts.Timestamps
import Kernelradar.Library.Json

/-!
`output.rs`, and `emit_json` of `util.rs`: an alert for programs to read.

* `Json.toValue`: a context as `serde_json` stores it, by its keys;
* `spelling_escape`: what `serde_json` escapes can be read back;
* `Alert.serialize`, `alertToFalcoJson`: the two records of an alert;
* `emitLines`: the lines of each format;
* `Alert.Numeric`, `lines_emitted`: what is printed is read back, one record a line;
* `emitLines_eq_iff`: what a line says of its alert.
-/

namespace Kernelradar

open Library

namespace Json

/-! ### Contexts -/

/-- The order in which a map yields its entries. -/
def sortKeys {α : Type} (fields : List (Text × α)) : List (Text × α) :=
  fields.insertionSort fun x y => keyLe x.1 y.1 = true

lemma mem_sortKeys {α : Type} {fields : List (Text × α)} {e : Text × α} :
    e ∈ sortKeys fields ↔ e ∈ fields := List.mem_insertionSort _

mutual

/-- A value as it is stored and written. -/
def toValue : Json → JsonValue
  | .null => .null
  | .bool b => .bool b
  | .num lexeme => .num lexeme
  | .str s => .str s
  | .obj fields => .obj (sortKeys (toValueFields fields))

/-- The entries of an object, not yet in order. -/
def toValueFields : List (Text × Json) → List (Text × JsonValue)
  | [] => []
  | (k, v) :: fields => (k, toValue v) :: toValueFields fields

end

/-- The numbers in a context are written as JSON wants them. -/
def Numeric (j : Json) : Prop := ∀ l ∈ lexemes j, JsonValue.isNumber l = true

mutual

lemma numeric_toValue : ∀ j : Json, (toValue j).Numeric ↔ j.Numeric
  | .null => by rw [toValue, JsonValue.Numeric, Numeric, JsonValue.lexemes, lexemes]
  | .bool b => by rw [toValue, JsonValue.Numeric, Numeric, JsonValue.lexemes, lexemes]
  | .num lexeme => by rw [toValue, JsonValue.Numeric, Numeric, JsonValue.lexemes, lexemes]
  | .str s => by rw [toValue, JsonValue.Numeric, Numeric, JsonValue.lexemes, lexemes]
  | .obj fields => by
      rw [toValue, JsonValue.numeric_obj, Numeric, lexemes, ← numeric_toValueFields fields]
      simp only [sortKeys, List.mem_insertionSort]

lemma numeric_toValueFields : ∀ fields : List (Text × Json),
    (∀ e ∈ toValueFields fields, e.2.Numeric) ↔
      ∀ l ∈ lexemesOf fields, JsonValue.isNumber l = true
  | [] => by simp [toValueFields, lexemesOf]
  | (k, v) :: fields => by
      rw [toValueFields, lexemesOf, List.forall_mem_append, List.forall_mem_cons,
        numeric_toValue v, numeric_toValueFields fields, Numeric]

end

@[simp] lemma numeric_bool (b : Bool) : Numeric (.bool b) := by
  rw [Numeric, lexemes]
  exact fun _ h => absurd h List.not_mem_nil

@[simp] lemma numeric_str (s : Text) : Numeric (.str s) := by
  rw [Numeric, lexemes]
  exact fun _ h => absurd h List.not_mem_nil

@[simp] lemma numeric_ofOption (s : Option Text) : Numeric (.ofOption s) := by
  cases s with
  | none =>
      rw [Numeric, ofOption, lexemes]
      exact fun _ h => absurd h List.not_mem_nil
  | some s => exact numeric_str s

@[simp] lemma numeric_obj {fields : List (Text × Json)} :
    Numeric (.obj fields) ↔ ∀ e ∈ fields, Numeric e.2 := by
  rw [Numeric, lexemes]
  induction fields with
  | nil => simp [lexemesOf]
  | cons e fields ih =>
      rw [lexemesOf, List.forall_mem_append, List.forall_mem_cons, ih, Numeric]

/-! ### Strings and numbers -/

/-- The control characters, in four digits. -/
lemma readHex_control : ∀ n < 32, (padded 4 (Nat.toDigits 16 n)).length = 4 ∧
    JsonValue.readHex (padded 4 (Nat.toDigits 16 n)) = some (Char.ofNat n, []) := by
  decide

/-- What stands behind four digits does not matter. -/
lemma readHex_append {ds : Text} (h : ds.length = 4) {c : Char}
    (hread : JsonValue.readHex ds = some (c, [])) (rest : Text) :
    JsonValue.readHex (ds ++ rest) = some (c, rest) := by
  have htake : (ds ++ rest).take 4 = ds.take 4 := by
    rw [List.take_append_of_le_length (le_of_eq h.symm)]
  have hdrop : (ds ++ rest).drop 4 = rest := by
    rw [List.drop_append_of_le_length (le_of_eq h.symm), ← h, List.drop_length, List.nil_append]
  rw [JsonValue.readHex] at hread ⊢
  rw [htake, hdrop]
  cases hdigits : (ds.take 4).mapM JsonValue.hexDigit with
  | none =>
      rw [hdigits] at hread
      cases hread
  | some digits =>
      rw [hdigits] at hread
      simp only [Option.bind_eq_bind, Option.bind_some] at hread ⊢
      split_ifs at hread ⊢
      rw [(Prod.mk.inj (Option.some.inj hread)).1]

/-- A character behind a backslash. -/
lemma readChar_short {e c : Char} (he : e ≠ 'u') (hc : JsonValue.escapes.lookup e = some c)
    (rest : Text) : JsonValue.readChar ('\\' :: e :: rest) = some (c, rest) := by
  rw [JsonValue.readChar.eq_def]
  dsimp only
  rw [if_pos rfl, if_neg he, hc]
  rfl

/-- **What `serde_json` escapes** can be read back, on one line. -/
lemma spelling_escape : JsonValue.Spelling escape where
  read c rest := by
    have hnat {n : ℕ} (h : c.toNat = n) : c = Char.ofNat n := by rw [← h, Char.ofNat_toNat]
    rw [escape]
    split_ifs with hquote hback hhigh h8 h9 ha hc hd
    · exact hquote ▸ readChar_short (by decide) (by decide) rest
    · exact hback ▸ readChar_short (by decide) (by decide) rest
    · rw [List.singleton_append, JsonValue.readChar.eq_def]
      dsimp only
      rw [if_neg hback, if_neg (not_or.mpr ⟨hquote, not_lt.mpr hhigh⟩)]
    · exact hnat h8 ▸ readChar_short (by decide) (by decide) rest
    · exact hnat h9 ▸ readChar_short (by decide) (by decide) rest
    · exact hnat ha ▸ readChar_short (by decide) (by decide) rest
    · exact hnat hc ▸ readChar_short (by decide) (by decide) rest
    · exact hnat hd ▸ readChar_short (by decide) (by decide) rest
    · obtain ⟨hlength, hread⟩ := readHex_control c.toNat (not_le.mp hhigh)
      rw [Char.ofNat_toNat] at hread
      have hhex := readHex_append hlength hread rest
      rw [JsonValue.readChar.eq_def]
      exact hhex
  printable c := by
    rw [escape]
    split_ifs with hquote hback hhigh h8 h9 ha hc hd
    · decide
    · decide
    · exact fun d hd => (List.mem_singleton.mp hd) ▸ hhigh
    · decide
    · decide
    · decide
    · decide
    · decide
    · rw [List.forall_mem_append, padded, List.leftpad, List.forall_mem_append]
      refine ⟨by decide, fun d hd => ?_, fun d hd => (mem_toDigits hd).1⟩
      rw [List.eq_of_mem_replicate hd]
      decide

/-- The digits of a number have no zero in front. -/
lemma decimal_head (n : ℕ) : (decimal n).head? = some '0' → decimal n = ['0'] := by
  rw [decimal_eq]
  induction n using Nat.strong_induction_on with
  | _ n ih =>
      by_cases hn : n < 10
      · rw [Nat.toDigits_of_lt_base hn, List.head?_cons, Option.some.injEq]
        exact fun h => h ▸ rfl
      · have hne : Nat.toDigits 10 (n / 10) ≠ [] := Nat.toDigits_ne_nil
        rw [Nat.toDigits_of_base_le (by decide) (not_lt.mp hn), List.head?_append_of_ne_nil _ hne]
        intro hhead
        have hzero : n / 10 = 0 := by
          have hvalue := Nat.ofDigitChars_ten_toDigits (n := n / 10)
          rw [ih (n / 10) (by omega) hhead] at hvalue
          exact hvalue.symm
        omega

/-- **Numbers**: what `{}` prints of an integer is a JSON number. -/
lemma isNumber_decimal (n : ℕ) : JsonValue.isNumber (decimal n) = true ∧
    JsonValue.isNumber ('-' :: decimal n) = true := by
  have hdigits : ∀ c ∈ decimal n, c.isDigit = true := by
    rw [decimal_eq]
    exact fun c hc => Nat.isDigit_of_mem_toDigits (by decide) (by decide) hc
  have hne : decimal n ≠ [] := by
    rw [decimal_eq]
    exact Nat.toDigits_ne_nil
  have htake : (decimal n).takeWhile Char.isDigit = decimal n :=
    List.takeWhile_eq_self_iff.mpr hdigits
  have hdrop : (decimal n).dropWhile Char.isDigit = [] := List.dropWhile_eq_nil_iff.mpr hdigits
  have hall : (decimal n).all JsonValue.numberChar = true := by
    rw [List.all_eq_true]
    intro c hc
    simp only [JsonValue.numberChar, hdigits c hc, Bool.true_or]
  have hint : (decide (decimal n = ['0'])
      || (!(decimal n).isEmpty && decide ((decimal n).head? ≠ some '0'))) = true := by
    rw [Bool.or_eq_true, Bool.and_eq_true, decide_eq_true_iff, decide_eq_true_iff]
    by_cases hhead : (decimal n).head? = some '0'
    · exact Or.inl (decimal_head n hhead)
    · exact Or.inr ⟨by rw [List.isEmpty_eq_false_iff.mpr hne]; rfl, hhead⟩
  have hplain : (Text.stripPrefix (decimal n) ['-']).getD (decimal n) = decimal n := by
    rw [Text.stripPrefix_singleton_eq_none.mpr, Option.getD_none]
    intro hhead
    have hminus := hdigits '-' (List.mem_of_head? hhead)
    revert hminus
    decide
  have hminus : (Text.stripPrefix ('-' :: decimal n) ['-']).getD ('-' :: decimal n)
      = decimal n := by
    rw [Text.stripPrefix_eq_some.mpr (List.singleton_append (x := '-')).symm, Option.getD_some]
  constructor
  · rw [JsonValue.isNumber, hplain, htake, hdrop, hall, hint]
    rfl
  · rw [JsonValue.isNumber, hminus, htake, hdrop, List.all_cons, hall, hint]
    rfl

@[simp] lemma numeric_ofNat (n : ℕ) : Numeric (.ofNat n) := by
  rw [Numeric, ofNat, lexemes, List.forall_mem_singleton]
  exact (isNumber_decimal n).1

end Json

/-! ### The records -/

/-- The variant's name, as `#[derive(Serialize)]` writes it. -/
def Severity.variant : Severity → Text
  | info => "Info"
  | warning => "Warning"
  | alert => "Alert"
  | critical => "Critical"

/-- The priority of `alert_to_falco_json`. -/
def Severity.priority : Severity → Text
  | info => "Informational"
  | warning => "Warning"
  | alert => "Error"
  | critical => "Critical"

/-- `serde_json::json!` of an integer. -/
def jsonNat (n : ℕ) : JsonValue := .num (decimal n)

/-- What `#[derive(Serialize)]` makes of an alert: its fields in the order of the `struct`. -/
def Alert.serialize (alert : Alert) : JsonValue :=
  .obj [("id", jsonNat alert.id), ("correlation_id", .str alert.correlationId),
    ("timestamp", .str (DateTime.rfc3339 "Z" alert.timestamp)),
    ("severity", .str alert.severity.variant), ("detector", .str alert.detector),
    ("event_type", jsonNat alert.eventType.toNat), ("title", .str alert.title),
    ("description", .str alert.description), ("pid", jsonNat alert.pid.toNat),
    ("uid", jsonNat alert.uid.toNat), ("comm", .str alert.comm),
    ("context", alert.context.toValue)]

/-- The `output_fields` of `alert_to_falco_json`. -/
def falcoFields (alert : Alert) : List (Text × JsonValue) :=
  [("proc.pid", jsonNat alert.pid.toNat), ("proc.name", .str alert.comm),
    ("user.uid", jsonNat alert.uid.toNat), ("kernelradar.detector", .str alert.detector),
    ("kernelradar.event_type", jsonNat alert.eventType.toNat),
    ("kernelradar.correlation_id", .str alert.correlationId),
    ("kernelradar.context", alert.context.toValue)]

/-- The object of `alert_to_falco_json`, before its keys are put in order. -/
def falcoObject (hostname : Text) (alert : Alert) : List (Text × JsonValue) :=
  [("time", .str (DateTime.rfc3339 "+00:00" alert.timestamp)),
    ("priority", .str alert.severity.priority), ("rule", .str ("kernelradar." ++ alert.detector)),
    ("output", .str alert.title), ("output_fields", .obj (Json.sortKeys (falcoFields alert))),
    ("source", .str "syscall"), ("tags", .arr [.str "kernelradar", .str alert.detector]),
    ("hostname", .str hostname)]

/-- `alert_to_falco_json`, before `to_string`. -/
def Alert.falco (hostname : Text) (alert : Alert) : JsonValue :=
  .obj (Json.sortKeys (falcoObject hostname alert))

/-- `OutputFormat`. -/
inductive OutputFormat where
  | plain
  | json
  | journald
  | falco
  deriving DecidableEq

/-- What `emit` hands to `println!`, call by call, where `host_name` answers `hostname`; the
journal's records do not go there. -/
def emitLines (hostname : Text) : OutputFormat → Alert → List Text
  | .plain, alert => emitPlain alert
  | .json, alert => [JsonValue.print Json.escape alert.serialize]
  | .journald, _ => []
  | .falco, alert => [JsonValue.print Json.escape (alert.falco hostname)]

/-- The standard output after some alerts were emitted. -/
def stdout (hostname : Text) (format : OutputFormat) (alerts : List Alert) : Text :=
  (alerts.flatMap (emitLines hostname format)).flatMap fun line => line ++ ['\n']

/-- The context of an alert can be printed. -/
def Alert.Numeric (alert : Alert) : Prop := alert.context.Numeric

lemma numeric_jsonNat (n : ℕ) : (jsonNat n).Numeric := by
  rw [JsonValue.Numeric, jsonNat, JsonValue.lexemes, List.forall_mem_singleton]
  exact (Json.isNumber_decimal n).1

lemma Alert.Numeric.serialize {alert : Alert} (h : alert.Numeric) : alert.serialize.Numeric := by
  have hcontext := (Json.numeric_toValue alert.context).mpr h
  rw [Alert.serialize, JsonValue.numeric_obj]
  simp only [List.forall_mem_cons, JsonValue.numeric_str, numeric_jsonNat, hcontext, true_and,
    List.not_mem_nil, false_imp_iff, implies_true]

lemma Alert.Numeric.falco {alert : Alert} (h : alert.Numeric) (hostname : Text) :
    (alert.falco hostname).Numeric := by
  have hcontext := (Json.numeric_toValue alert.context).mpr h
  have hfields : (JsonValue.obj (Json.sortKeys (falcoFields alert))).Numeric := by
    rw [JsonValue.numeric_obj]
    simp only [Json.mem_sortKeys, falcoFields]
    simp only [List.forall_mem_cons, JsonValue.numeric_str, numeric_jsonNat, hcontext, true_and,
      List.not_mem_nil, false_imp_iff, implies_true]
  have htags : (JsonValue.arr [.str "kernelradar", .str alert.detector]).Numeric := by
    rw [JsonValue.numeric_arr]
    simp only [List.forall_mem_cons, JsonValue.numeric_str, true_and,
      List.not_mem_nil, false_imp_iff, implies_true]
  rw [Alert.falco, JsonValue.numeric_obj]
  simp only [Json.mem_sortKeys, falcoObject]
  simp only [List.forall_mem_cons, JsonValue.numeric_str, hfields, htags, true_and,
    List.not_mem_nil, false_imp_iff, implies_true]

/-- Records that are one line each are read back line by line. -/
lemma lines_records {hostname : Text} {format : OutputFormat} {record : Alert → JsonValue}
    (hformat : ∀ a, emitLines hostname format a = [JsonValue.print Json.escape (record a)])
    {alerts : List Alert}
    (hnumber : ∀ a ∈ alerts, (record a).Numeric) :
    (Text.lines (stdout hostname format alerts)).map JsonValue.read
      = alerts.map fun a => some (record a) := by
  have hstream : stdout hostname format alerts
      = JsonValue.stream Json.escape (alerts.map record) := by
    rw [stdout, JsonValue.stream, List.flatMap_assoc, List.flatMap_map]
    refine List.flatMap_congr fun a _ => ?_
    rw [hformat, List.flatMap_singleton]
  rw [hstream, JsonValue.lines_stream Json.spelling_escape, List.map_map]
  · rfl
  · exact List.forall_mem_map.mpr hnumber

/-- **What is printed for programs is read back**: one record a line, whatever stands in it. -/
lemma lines_emitted (hostname : Text) {alerts : List Alert} (h : ∀ a ∈ alerts, a.Numeric) :
    (Text.lines (stdout hostname .json alerts)).map JsonValue.read
        = alerts.map (fun a => some a.serialize) ∧
      (Text.lines (stdout hostname .falco alerts)).map JsonValue.read
        = alerts.map (fun a => some (a.falco hostname)) :=
  ⟨lines_records (fun _ => rfl) fun a ha => (h a ha).serialize,
    lines_records (fun _ => rfl) fun a ha => (h a ha).falco hostname⟩

/-! ### What a line says -/

/-- Nothing but the order of keys in the contexts sets the alerts apart. -/
def Alert.Same (a b : Alert) : Prop :=
  { a with context := b.context } = b ∧ a.context.toValue = b.context.toValue

lemma Severity.variant_injective : Function.Injective variant := by
  intro s t h
  cases s <;> cases t <;> first | rfl | exact absurd h (by decide)

lemma Severity.priority_injective : Function.Injective priority := by
  intro s t h
  cases s <;> cases t <;> first | rfl | exact absurd h (by decide)

lemma jsonNat_inj {m n : ℕ} : jsonNat m = jsonNat n ↔ m = n := by
  refine ⟨fun h => ?_, congrArg _⟩
  have hdigits := JsonValue.num.inj h
  rw [decimal_eq, decimal_eq] at hdigits
  rw [← Nat.ofDigitChars_ten_toDigits (n := m), hdigits, Nat.ofDigitChars_ten_toDigits]

lemma serialize_eq_iff {a b : Alert} : a.serialize = b.serialize ↔ a.Same b := by
  constructor
  · intro h
    simp only [Alert.serialize, JsonValue.obj.injEq, List.cons.injEq, Prod.mk.injEq, true_and,
      and_true, jsonNat_inj, JsonValue.str.injEq] at h
    obtain ⟨hid, hcid, htime, hsev, hdet, htype, htitle, hdesc, hpid, huid, hcomm, hctx⟩ := h
    refine ⟨?_, hctx⟩
    cases a
    cases b
    simp only [Alert.mk.injEq, and_true]
    exact ⟨hid, hcid, DateTime.rfc3339_injective _ htime, Severity.variant_injective hsev, hdet,
      UInt16.toNat_inj.mp htype, htitle, hdesc, UInt32.toNat_inj.mp hpid,
      UInt32.toNat_inj.mp huid, hcomm⟩
  · rintro ⟨h, hctx⟩
    rw [← h, Alert.serialize, Alert.serialize, hctx]

/-- The object, by its keys. -/
lemma falco_eq (hostname : Text) (a : Alert) : a.falco hostname =
    .obj [("hostname", .str hostname), ("output", .str a.title),
      ("output_fields", .obj [("kernelradar.context", a.context.toValue),
        ("kernelradar.correlation_id", .str a.correlationId),
        ("kernelradar.detector", .str a.detector),
        ("kernelradar.event_type", jsonNat a.eventType.toNat), ("proc.name", .str a.comm),
        ("proc.pid", jsonNat a.pid.toNat), ("user.uid", jsonNat a.uid.toNat)]),
      ("priority", .str a.severity.priority), ("rule", .str ("kernelradar." ++ a.detector)),
      ("source", .str "syscall"), ("tags", .arr [.str "kernelradar", .str a.detector]),
      ("time", .str (DateTime.rfc3339 "+00:00" a.timestamp))] := rfl

lemma falco_eq_iff {hostname : Text} {a b : Alert} : a.falco hostname = b.falco hostname ↔
    a.Same { b with id := a.id, description := a.description } := by
  constructor
  · intro h
    simp only [falco_eq, JsonValue.obj.injEq, List.cons.injEq, Prod.mk.injEq, true_and,
      and_true, jsonNat_inj, JsonValue.str.injEq] at h
    obtain ⟨htitle, ⟨hctx, hcid, hdet, htype, hcomm, hpid, huid⟩, hsev, -, -, htime⟩ := h
    refine ⟨?_, hctx⟩
    cases a
    cases b
    simp only [Alert.mk.injEq, and_true, true_and]
    exact ⟨hcid, DateTime.rfc3339_injective _ htime, Severity.priority_injective hsev, hdet,
      UInt16.toNat_inj.mp htype, htitle, UInt32.toNat_inj.mp hpid, UInt32.toNat_inj.mp huid, hcomm⟩
  · rintro ⟨h, hctx⟩
    have hrest : b.falco hostname
        = ({ b with id := a.id, description := a.description } : Alert).falco hostname := rfl
    rw [hrest, ← h, falco_eq, falco_eq, hctx]

/-- **What a line says**: a line in JSON determines its alert, one for Falco all but the alert's
number and description. -/
theorem emitLines_eq_iff (hostname : Text) {a b : Alert} (ha : a.Numeric) (hb : b.Numeric) :
    (emitLines hostname .json a = emitLines hostname .json b ↔ a.Same b) ∧
      (emitLines hostname .falco a = emitLines hostname .falco b ↔
        a.Same { b with id := a.id, description := a.description }) := by
  have hprint {v w : JsonValue} (hv : v.Numeric) (hw : w.Numeric) :
      [JsonValue.print Json.escape v] = [JsonValue.print Json.escape w] ↔ v = w := by
    refine ⟨fun h => ?_, fun h => h ▸ rfl⟩
    have hread := JsonValue.read_print Json.spelling_escape hv
    rw [List.singleton_inj.mp h, JsonValue.read_print Json.spelling_escape hw] at hread
    exact (Option.some.inj hread).symm
  exact ⟨(hprint ha.serialize hb.serialize).trans serialize_eq_iff,
    (hprint (ha.falco hostname) (hb.falco hostname)).trans falco_eq_iff⟩

/-- Two alerts whose contexts have their keys in another order. -/
theorem emitLines_eq_iff_order :
    let alert (context : List (Text × Json)) : Alert := ⟨1, "0192-af", 0, .warning, "kmod", 1,
      "init_module() by a\nb", [], 7, 0, "a\nb", .obj context⟩
    emitLines "host" .json (alert [("fd", .ofNat 3), ("exe", .null)])
      = emitLines "host" .json (alert [("exe", .null), ("fd", .ofNat 3)]) := by
  intro alert
  have hnumeric : ∀ context : List (Text × Json),
      (Json.lexemesOf context).all JsonValue.isNumber = true → (alert context).Numeric :=
    fun context h => List.all_eq_true.mp h
  exact (emitLines_eq_iff "host" (hnumeric _ (by decide)) (hnumeric _ (by decide))).1.mpr
    ⟨rfl, rfl⟩

end Kernelradar
