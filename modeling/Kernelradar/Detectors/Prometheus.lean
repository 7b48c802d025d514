import Mathlib.Data.Char
import Mathlib.Data.Finset.Sort
import Mathlib.Data.List.Lex
import Mathlib.Data.Prod.Lex
import Kernelradar.Detectors.Metrics
import Kernelradar.Detectors.Util
import Kernelradar.Library.Exposition
import Kernelradar.Library.Http
import Kernelradar.Library.Interleave

/-!
`prometheus.rs`: the page of counters and the server that gives it out.

* `renderMetrics`, `httpResponse`, `serve`: what a connection gets; the three families of
  counters are read one after the other, each under the lock;
* `page`: what the text of `renderMetrics` says;
* `read_response`, `read_renderMetrics`: a client finds the end of the response, and a scraper
  reads the page.
-/

namespace Kernelradar

open Library

/-- The entries of a `BTreeMap`, in the order of the keys. -/
def Counters.inOrder {K L : Type} [LinearOrder L] (order : K ≃ L) (t : Table K ℕ) :
    List (K × ℕ) :=
  t.entries ((t.dom.map order.toEmbedding).sort.map order.symm)

lemma Counters.enumerates {K L : Type} [LinearOrder L] (order : K ≃ L) (t : Table K ℕ) :
    t.Enumerates ((t.dom.map order.toEmbedding).sort.map order.symm) where
  nodup := (Finset.sort_nodup _ _).map order.symm.injective
  mem_iff k := by
    simp only [List.mem_map, Finset.mem_sort, Finset.mem_map, Equiv.coe_toEmbedding]
    constructor
    · rintro ⟨_, ⟨j, hj, rfl⟩, rfl⟩
      rwa [order.symm_apply_apply]
    · exact fun hk => ⟨order k, ⟨k, hk, rfl⟩, order.symm_apply_apply k⟩

namespace Prometheus

/-- The status in `http_response`. -/
def status : ℕ → Text
  | 200 => "200 OK"
  | 404 => "404 Not Found"
  | _ => "500 Internal Server Error"

/-- `http_response`. -/
def httpResponse (code : ℕ) (ctype body : Text) : Text :=
  "HTTP/1.1 " ++ status code ++ "\r\n" ++ "Content-Type: " ++ ctype ++ "\r\n" ++ "Content-Length: "
    ++ decimal (Text.utf8 body).length ++ "\r\n" ++ "Connection: close\r\n" ++ "\r\n" ++ body

/-- A line of the first loop of `render_metrics`. -/
def alertsLine (e : (Text × Severity) × ℕ) : Text :=
  "kernelradar_alerts_total\x7bdetector=\"" ++ e.1.1 ++ "\",severity=\"" ++ e.1.2.display
    ++ "\"\x7d " ++ decimal e.2 ++ "\n"

/-- A line of its second loop. -/
def burstsLine (e : Text × ℕ) : Text :=
  "kernelradar_bursts_total\x7bdetector=\"" ++ e.1 ++ "\"\x7d " ++ decimal e.2 ++ "\n"

/-- A line of its third loop. -/
def anomaliesLine (e : Text × ℕ) : Text :=
  "kernelradar_anomalies_total\x7bdetector=\"" ++ e.1 ++ "\"\x7d " ++ decimal e.2 ++ "\n"

/-- `render_metrics`; `version` is that of the package. -/
def renderMetrics (version : Text) : Reads Counters Text :=
  .read fun totals => .read fun bursts => .read fun anomalies => .done <|
    "# HELP kernelradar_alerts_total Number of alerts emitted\n"
      ++ "# TYPE kernelradar_alerts_total counter\n"
      ++ (Counters.inOrder toLex totals.cumulativeTotals).flatMap alertsLine
      ++ "# HELP kernelradar_bursts_total Bursts of repeated alerts\n"
      ++ "# TYPE kernelradar_bursts_total counter\n"
      ++ (Counters.inOrder (Equiv.refl _) bursts.totalBursts).flatMap burstsLine
      ++ "# HELP kernelradar_anomalies_total Statistical anomalies\n"
      ++ "# TYPE kernelradar_anomalies_total counter\n"
      ++ (Counters.inOrder (Equiv.refl _) anomalies.totalAnomalies).flatMap anomaliesLine
      ++ "# HELP kernelradar_build_info kernelradar build info (always 1)\n"
      ++ "# TYPE kernelradar_build_info gauge\n"
      ++ ("kernelradar_build_info\x7bversion=\"" ++ version ++ "\"\x7d 1\n")

/-- The path of a request, as far as it came with the first read. -/
def path (buf : List UInt8) : Text := (Text.splitWhitespace (fromUtf8Lossy buf))[1]?.getD []

/-- What is written on a connection after the first read; nothing if that failed, took too long,
or found the end. -/
def serve (version : Text) : Option (List UInt8) → Reads Counters (Option (List UInt8))
  | none | some [] => .done none
  | some buf =>
      if path buf = "/metrics" then
        (renderMetrics version).map fun body =>
          some (Text.utf8 (httpResponse 200 "text/plain; version=0.0.4" body))
      else if path buf = "/healthz" then
        .done (some (Text.utf8 (httpResponse 200 "text/plain" "ok\n")))
      else .done (some (Text.utf8 (httpResponse 404 "text/plain" "not found\n")))

/-! ### What the page says -/

open Exposition

/-- The metric of the emitted alerts. -/
def alertsTotal : Text := "kernelradar_alerts_total"

/-- The metric of the bursts. -/
def burstsTotal : Text := "kernelradar_bursts_total"

/-- The metric of the anomalies. -/
def anomaliesTotal : Text := "kernelradar_anomalies_total"

/-- The metric that says which version runs. -/
def buildInfo : Text := "kernelradar_build_info"

/-- The labels of a counter of emitted alerts. -/
def alertLabels (key : Text × Severity) : List (Text × Text) :=
  [("detector", key.1), ("severity", key.2.display)]

/-- The label of the other counters. -/
def detectorLabel (detector : Text) : List (Text × Text) := [("detector", detector)]

/-- The page, as entries. -/
def page (version : Text) (totals : Table (Text × Severity) ℕ) (bursts anomalies : Table Text ℕ) :
    List Entry :=
  family alertsTotal "Number of alerts emitted" "counter" alertLabels
      (Counters.inOrder toLex totals)
    ++ (family burstsTotal "Bursts of repeated alerts" "counter" detectorLabel
        (Counters.inOrder (Equiv.refl _) bursts)
      ++ (family anomaliesTotal "Statistical anomalies" "counter" detectorLabel
          (Counters.inOrder (Equiv.refl _) anomalies)
        ++ family buildInfo "kernelradar build info (always 1)" "gauge"
          (fun version : Text => [("version", version)]) [(version, 1)]))

lemma printSample_alerts (e : (Text × Severity) × ℕ) :
    printSample ⟨alertsTotal, alertLabels e.1, e.2⟩ ++ ['\n'] = alertsLine e := by
  have hstart : ("kernelradar_alerts_total\x7bdetector=\"" : Text)
      = alertsTotal ++ '{' :: ("detector".toList ++ ['=', '"']) := by decide
  delta alertsLine
  rw [hstart, decimal_eq]
  simp [printSample, alertLabels, printLabel]

lemma printSample_bursts (e : Text × ℕ) :
    printSample ⟨burstsTotal, detectorLabel e.1, e.2⟩ ++ ['\n'] = burstsLine e := by
  have hstart : ("kernelradar_bursts_total\x7bdetector=\"" : Text)
      = burstsTotal ++ '{' :: ("detector".toList ++ ['=', '"']) := by decide
  delta burstsLine
  rw [hstart, decimal_eq]
  simp [printSample, detectorLabel, printLabel]

lemma printSample_anomalies (e : Text × ℕ) :
    printSample ⟨anomaliesTotal, detectorLabel e.1, e.2⟩ ++ ['\n'] = anomaliesLine e := by
  have hstart : ("kernelradar_anomalies_total\x7bdetector=\"" : Text)
      = anomaliesTotal ++ '{' :: ("detector".toList ++ ['=', '"']) := by decide
  delta anomaliesLine
  rw [hstart, decimal_eq]
  simp [printSample, detectorLabel, printLabel]

lemma printSample_version (version : Text) :
    printSample ⟨buildInfo, [("version", version)], 1⟩ ++ ['\n']
      = "kernelradar_build_info\x7bversion=\"" ++ version ++ "\"\x7d 1\n" := by
  have hstart : ("kernelradar_build_info\x7bversion=\"" : Text)
      = buildInfo ++ '{' :: ("version".toList ++ ['=', '"']) := by decide
  have hone : Nat.toDigits 10 1 = ['1'] := by decide
  rw [hstart]
  simp [printSample, printLabel, hone]

/-- `render_metrics` gives out the page of what it has read. -/
lemma renderMetrics_eq (version : Text) : renderMetrics version
    = .read fun totals => .read fun bursts => .read fun anomalies => .done
      (print (page version totals.totalEmitted bursts.totalBursts anomalies.totalAnomalies)) := by
  have halerts (entries : List ((Text × Severity) × ℕ)) :
      print (family alertsTotal "Number of alerts emitted" "counter" alertLabels entries)
        = "# HELP kernelradar_alerts_total Number of alerts emitted\n"
          ++ "# TYPE kernelradar_alerts_total counter\n" ++ entries.flatMap alertsLine :=
    print_family (by decide) (by decide +kernel) printSample_alerts
  have hbursts (entries : List (Text × ℕ)) :
      print (family burstsTotal "Bursts of repeated alerts" "counter" detectorLabel entries)
        = "# HELP kernelradar_bursts_total Bursts of repeated alerts\n"
          ++ "# TYPE kernelradar_bursts_total counter\n" ++ entries.flatMap burstsLine :=
    print_family (by decide) (by decide +kernel) printSample_bursts
  have hanomalies (entries : List (Text × ℕ)) :
      print (family anomaliesTotal "Statistical anomalies" "counter" detectorLabel entries)
        = "# HELP kernelradar_anomalies_total Statistical anomalies\n"
          ++ "# TYPE kernelradar_anomalies_total counter\n" ++ entries.flatMap anomaliesLine :=
    print_family (by decide) (by decide +kernel) printSample_anomalies
  have hinfo : print (family buildInfo "kernelradar build info (always 1)" "gauge"
        (fun version : Text => [("version", version)]) [(version, 1)])
      = "# HELP kernelradar_build_info kernelradar build info (always 1)\n"
        ++ "# TYPE kernelradar_build_info gauge\n"
        ++ ("kernelradar_build_info\x7bversion=\"" ++ version ++ "\"\x7d 1\n") := by
    have hfamily (entries : List (Text × ℕ)) :
        print (family buildInfo "kernelradar build info (always 1)" "gauge"
            (fun version : Text => [("version", version)]) entries)
          = "# HELP kernelradar_build_info kernelradar build info (always 1)\n"
            ++ "# TYPE kernelradar_build_info gauge\n"
            ++ entries.flatMap fun e =>
                printSample ⟨buildInfo, [("version", e.1)], e.2⟩ ++ ['\n'] :=
      print_family (by decide) (by decide +kernel) fun _ => rfl
    rw [hfamily, List.flatMap_singleton, printSample_version]
  delta renderMetrics
  refine congrArg Reads.read (funext fun totals => ?_)
  refine congrArg Reads.read (funext fun bursts => ?_)
  refine congrArg Reads.read (funext fun anomalies => ?_)
  refine congrArg Reads.done ?_
  rw [page, print_append, print_append, print_append, halerts, hbursts, hanomalies, hinfo]
  simp only [List.append_assoc]
  rfl

/-! ### What is read -/

lemma display_injective : Function.Injective Severity.display := by
  intro s s' h
  cases s <;> cases s' <;> first | rfl | exact absurd h (by decide)

lemma alertLabels_injective : Function.Injective alertLabels := by
  intro j k h
  simp only [alertLabels, List.cons.injEq, Prod.mk.injEq, true_and, and_true] at h
  exact Prod.ext h.1 (display_injective h.2)

lemma detectorLabel_injective : Function.Injective detectorLabel := by
  intro j k h
  simpa only [detectorLabel, List.cons.injEq, Prod.mk.injEq, true_and, and_true] using h

section Page

variable {version : Text} {totals : Table (Text × Severity) ℕ} {bursts anomalies : Table Text ℕ}

/-- The page can be read, if the names in it are bare. -/
lemma plain_page (hversion : Bare version) (htotals : ∀ k ∈ totals.dom, Bare k.1)
    (hbursts : ∀ k ∈ bursts.dom, Bare k) (hanomalies : ∀ k ∈ anomalies.dom, Bare k) :
    ∀ e ∈ page version totals bursts anomalies, Plain e := by
  have hname : IsName "detector" ∧ IsName "severity" ∧ IsName "version" := by decide
  have hmem {K L : Type} [LinearOrder L] {order : K ≃ L} {t : Table K ℕ} {e : K × ℕ}
      (he : e ∈ Counters.inOrder order t) : e.1 ∈ t.dom :=
    Table.mem_dom_of_get (Table.mem_entries.mp he).2
  rw [page]
  simp only [List.forall_mem_append]
  refine ⟨?_, ?_, ?_, ?_⟩
  · refine plain_family (by decide) (by decide) (by decide) fun e he => ?_
    have hseverity : Bare e.1.2.display := by cases e.1.2 <;> decide
    exact List.forall_mem_cons.mpr ⟨⟨hname.1, htotals _ (hmem he)⟩,
      List.forall_mem_singleton.mpr ⟨hname.2.1, hseverity⟩⟩
  · refine plain_family (by decide) (by decide) (by decide) fun e he => ?_
    exact List.forall_mem_singleton.mpr ⟨hname.1, hbursts _ (hmem he)⟩
  · refine plain_family (by decide) (by decide) (by decide) fun e he => ?_
    exact List.forall_mem_singleton.mpr ⟨hname.1, hanomalies _ (hmem he)⟩
  · refine plain_family (by decide) (by decide) (by decide) fun e he => ?_
    rw [List.mem_singleton.mp he]
    exact List.forall_mem_singleton.mpr ⟨hname.2.2, hversion⟩

lemma lookup_alerts (key : Text × Severity) :
    lookup (page version totals bursts anomalies) alertsTotal (alertLabels key)
      = totals.get key := by
  have hrest : alertsTotal ≠ burstsTotal ∧ alertsTotal ≠ anomaliesTotal ∧
      alertsTotal ≠ buildInfo := by
    decide
  rw [page, lookup_append, lookup_append, lookup_append,
    lookup_family_of_ne hrest.1.symm, lookup_family_of_ne hrest.2.1.symm,
    lookup_family_of_ne hrest.2.2.symm]
  exact (Option.or_none).trans (lookup_family alertLabels_injective (Counters.enumerates _ _) key)

lemma lookup_bursts (detector : Text) :
    lookup (page version totals bursts anomalies) burstsTotal (detectorLabel detector)
      = bursts.get detector := by
  have hrest : alertsTotal ≠ burstsTotal ∧ anomaliesTotal ≠ burstsTotal ∧
      buildInfo ≠ burstsTotal := by
    decide
  rw [page, lookup_append, lookup_append, lookup_append,
    lookup_family_of_ne hrest.1, lookup_family_of_ne hrest.2.1, lookup_family_of_ne hrest.2.2]
  exact (Option.or_none).trans
    (lookup_family detectorLabel_injective (Counters.enumerates (Equiv.refl _) _) detector)

lemma lookup_anomalies (detector : Text) :
    lookup (page version totals bursts anomalies) anomaliesTotal (detectorLabel detector)
      = anomalies.get detector := by
  have hrest : alertsTotal ≠ anomaliesTotal ∧ burstsTotal ≠ anomaliesTotal ∧
      buildInfo ≠ anomaliesTotal := by decide
  rw [page, lookup_append, lookup_append, lookup_append,
    lookup_family_of_ne hrest.1, lookup_family_of_ne hrest.2.1, lookup_family_of_ne hrest.2.2]
  exact (Option.or_none).trans
    (lookup_family detectorLabel_injective (Counters.enumerates (Equiv.refl _) _) detector)

/-- No metric is shown twice under the same labels. -/
lemma nodup_samples_page : (samples (page version totals bursts anomalies)).Nodup := by
  have hne : [alertsTotal, burstsTotal, anomaliesTotal, buildInfo].Nodup := by decide
  simp only [List.nodup_cons, List.mem_cons, List.not_mem_nil, or_false, not_or, List.nodup_nil,
    and_true, not_false_eq_true] at hne
  have hinfo : Function.Injective fun version : Text => [(("version" : Text), version)] := by
    intro v w h
    simpa only [List.cons.injEq, Prod.mk.injEq, true_and, and_true] using h
  rw [page, samples_append, samples_append, samples_append, List.nodup_append, List.nodup_append,
    List.nodup_append]
  refine ⟨nodup_samples_family alertLabels_injective (Counters.enumerates _ _),
    ⟨nodup_samples_family detectorLabel_injective (Counters.enumerates (Equiv.refl _) _),
      ⟨nodup_samples_family detectorLabel_injective (Counters.enumerates (Equiv.refl _) _), ?_,
        ?_⟩, ?_⟩, ?_⟩
  · rw [samples_family]
    exact List.nodup_singleton _
  · rintro x hx _ hy rfl
    exact hne.2.2 ((name_of_mem_family hx).symm.trans (name_of_mem_family hy))
  · rintro x hx _ hy rfl
    rcases List.mem_append.mp hy with hy | hy
    · exact hne.2.1.1 ((name_of_mem_family hx).symm.trans (name_of_mem_family hy))
    · exact hne.2.1.2 ((name_of_mem_family hx).symm.trans (name_of_mem_family hy))
  · rintro x hx _ hy rfl
    rcases List.mem_append.mp hy with hy | hy
    · exact hne.1.1 ((name_of_mem_family hx).symm.trans (name_of_mem_family hy))
    rcases List.mem_append.mp hy with hy | hy
    · exact hne.1.2.1 ((name_of_mem_family hx).symm.trans (name_of_mem_family hy))
    · exact hne.1.2.2 ((name_of_mem_family hx).symm.trans (name_of_mem_family hy))

end Page

/-! ### The response -/

/-- The code and the reason in a status. -/
def statusOf : ℕ → ℕ × Text
  | 200 => (200, "OK")
  | 404 => (404, "Not Found")
  | _ => (500, "Internal Server Error")

lemma status_eq (code : ℕ) :
    status code = Nat.toDigits 10 (statusOf code).1 ++ ' ' :: (statusOf code).2 := by
  rw [status.eq_def, statusOf.eq_def]
  split <;> decide

/-- What `http_response` writes. -/
def response (code : ℕ) (ctype body : Text) : Http.Response where
  code := (statusOf code).1
  reason := (statusOf code).2
  headers := [("Content-Type", ctype), ("Content-Length", decimal (Text.utf8 body).length),
    ("Connection", "close")]
  body := Text.utf8 body

lemma utf8_httpResponse (code : ℕ) (ctype body : Text) :
    Text.utf8 (httpResponse code ctype body) = Http.write (response code ctype body) := by
  have htext : httpResponse code ctype body
      = Http.printHead (Http.headLines (response code ctype body)) ++ body := by
    delta httpResponse
    rw [status_eq]
    simp only [Http.printHead, Http.headLines, response, Http.printHeader, List.map_cons,
      List.map_nil, List.flatMap_cons, List.flatMap_nil]
    delta Http.printStatus Http.version
    simp
  rw [htext, Text.utf8, List.flatMap_append]
  rfl

lemma line_reason (code : ℕ) : Http.Line (statusOf code).2 := by
  rw [statusOf.eq_def]
  split <;> decide

/-- The end of a response can be found. -/
lemma framed_response (code : ℕ) {ctype : Text} (body : Text)
    (hctype : Http.PlainHeader ("Content-Type", ctype)) :
    Http.Framed (response code ctype body) := by
  have hlength : Http.PlainHeader ("Content-Length", decimal (Text.utf8 body).length) := by
    rw [decimal_eq]
    exact Http.plainHeader_toDigits (by decide) (by decide) _
  have hclose : Http.PlainHeader ("Connection", "close") := by decide
  let p : Text × Text → Bool := fun h => Text.toAsciiLowercase h.1 = "content-length".toList
  have hfirst : ¬p ("Content-Type", ctype) :=
    (by decide : ¬decide (Text.toAsciiLowercase "Content-Type" = "content-length".toList))
  have hsecond : p ("Content-Length", decimal (Text.utf8 body).length) :=
    (by decide : decide (Text.toAsciiLowercase "Content-Length" = "content-length".toList))
  refine ⟨line_reason code, ?_, ?_⟩
  · exact List.forall_mem_cons.mpr ⟨hctype, List.forall_mem_cons.mpr ⟨hlength,
      List.forall_mem_singleton.mpr hclose⟩⟩
  · have hfind : (response code ctype body).headers.find? p
        = some ("Content-Length".toList, decimal (Text.utf8 body).length) :=
      (List.find?_cons_of_neg hfirst).trans (List.find?_cons_of_pos hsecond)
    rw [Http.contentLength, hfind, Option.bind_some, decimal_eq]
    exact Text.readDecimal_toDigits _

/-- **The answer**: whatever is counted meanwhile, a request for the metrics is answered with a page
of the alerts at one moment, the bursts then or later, and the anomalies then or later. -/
lemma interleaving_serve {S : Type} {counters : S → Counters} {s : S} {ws : List (S → S)}
    {version : Text} {buf : List UInt8} {out : Option (List UInt8)}
    (hpath : path buf = "/metrics".toList)
    (h : Interleaving s ws ((serve version (some buf)).comap counters) out) :
    ∃ i j k, i ≤ j ∧ j ≤ k ∧ k ≤ ws.length ∧ out = some (Http.write
      (response 200 "text/plain; version=0.0.4" (print (page version
        (counters (writeAll s (ws.take i))).totalEmitted
        (counters (writeAll s (ws.take j))).totalBursts
        (counters (writeAll s (ws.take k))).totalAnomalies)))) := by
  have hserve : serve version (some buf) = (renderMetrics version).map fun body =>
      some (Text.utf8 (httpResponse 200 "text/plain; version=0.0.4" body)) := by
    cases buf with
    | nil => exact absurd hpath (by decide)
    | cons b bs => exact if_pos hpath
  rw [hserve, renderMetrics_eq] at h
  simp only [Reads.map, Reads.comap_read, Reads.comap_done] at h
  obtain ⟨i, hi, h⟩ := interleaving_read.mp h
  obtain ⟨j, hj, h⟩ := interleaving_read.mp h
  obtain ⟨k, hk, h⟩ := interleaving_read.mp h
  rw [List.length_drop] at hj
  rw [List.length_drop, List.length_drop] at hk
  refine ⟨i, i + j, i + j + k, by omega, by omega, by omega, ?_⟩
  rw [interleaving_done.mp h, utf8_httpResponse]
  simp only [writeAll_take_drop, List.drop_drop]

end Prometheus

end Kernelradar
