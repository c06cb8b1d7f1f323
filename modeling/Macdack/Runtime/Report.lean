import Macdack.Library.Samples
import Macdack.Runtime.Exposition
import Macdack.Runtime.Sync

/-!
# The two reports

`GET /metrics` writes the counters, the gauges, the series of requests, those of responses
and the durations, each under a comment with its kind. `GET /health` tells whether the
service serves, and where its table comes from.

A reader of the text format gets exactly the lines of `metricsLines` back, and no two of
them are for one name with the same labels (`metrics_readable`).

A number that the source prints as an `f64` is a text here, without a blank. The routing of
requests and the encoding of JSON are those of crates outside the repository.
-/

set_option autoImplicit false

namespace Macdack

/-! ## Metrics -/

/-- The text of an `f64`. -/
structure FloatText where
  text : String
  isWord : Samples.isWord text.toList = true

/-- `f64::NAN`. -/
def FloatText.nan : FloatText := ⟨"NaN", by decide⟩

/-- The number of durations that were recorded, and their sum. -/
structure Durations where
  count : ℕ
  sum : FloatText

/-- The pairs of a name and a counter. -/
def counters (shared : Shared) (traffic : Traffic) : List (String × ℕ) :=
  [("macdack_requests_total", traffic.requests), ("macdack_responses_total", traffic.responses),
    ("macdack_errors_total", traffic.errors), ("macdack_unknown_clients_total", traffic.unknown),
    ("macdack_boot_mode_mismatches_total", traffic.bootModeMismatches),
    ("macdack_sync_success_total", shared.syncSuccess),
    ("macdack_sync_errors_total", shared.syncErrors),
    ("macdack_state_read_errors_total", shared.stateReadErrors),
    ("macdack_state_write_errors_total", shared.stateWriteErrors)]

/-- The number of rows of the active table. -/
def clientCount (snapshot : Option Clients) : Option ℕ :=
  snapshot.map fun clients => clients.records.size

/-- The age of the data, which a clock that went back leaves at zero. -/
def dataAge (status : SyncStatus) (clock : ℕ) : Option ℕ :=
  status.dataSince.map fun since => clock - since

/-- A comment and a sample without labels. -/
def metricText (kind : String) (name value : String) : String :=
  "# TYPE " ++ name ++ " " ++ kind ++ "\n" ++ name ++ " " ++ value ++ "\n"

def buildInfoText (version : String) : String :=
  "# TYPE macdack_build_info gauge\nmacdack_build_info\x7bversion=\"" ++ escapeLabel version ++
    "\"\x7d 1\n"

def responseLine (message : String) (count : ℕ) : String :=
  "macdack_message_responses_total\x7bmessage=\"" ++ escapeLabel message ++ "\"\x7d " ++
    toString count

def responseLines (responses : Std.ExtTreeMap String ℕ) : String :=
  "# TYPE macdack_message_responses_total counter\n" ++
    String.join (responses.toList.map fun entry => responseLine entry.1 entry.2 ++ "\n")

def durationText (durations : Durations) : String :=
  "# TYPE macdack_response_duration_seconds summary\n" ++
    "macdack_response_duration_seconds_count " ++ toString durations.count ++
      "\nmacdack_response_duration_seconds_sum " ++ durations.sum.text ++ "\n"

/-- The text that `metrics` answers with, and the traffic after its cleanup. It reads one value
after the other, so `shared` and `traffic` may be put together from several moments. -/
def metrics (version : String) (asF64 : ℕ → FloatText) (shared : Shared) (traffic : Traffic)
    (durations : Durations) (clock : ℕ) (now : Instant) : String × Traffic :=
  let text := buildInfoText version ++
    String.join ((counters shared traffic).map fun counter =>
      metricText "counter" counter.1 (toString counter.2)) ++
    metricText "gauge" "macdack_clients" (toString ((clientCount shared.snapshot).getD 0)) ++
    metricText "gauge" "macdack_last_successful_sync_timestamp_seconds"
      (toString (shared.status.lastSuccess.getD 0)) ++
    metricText "gauge" "macdack_data_age_seconds"
      (((dataAge shared.status clock).map asF64).getD .nan).text
  let scraped := traffic.scrape now
  (text ++ requestLines scraped.1 ++ responseLines traffic.responseLabels ++
    durationText durations, scraped.2)

/-! ## Health -/

/-- The status code that `health` answers with, and the fields of its JSON. -/
structure HealthReport where
  status : ℕ
  healthy : Bool
  source : Option Source
  clients : ℕ
  lastSuccessfulSync : Option ℕ
  dataAgeSeconds : Option ℕ
  lastSyncError : Option String

/-- `health`, of what it reads: the rows of the table, then whether the socket is bound, then
the status. -/
def health (count : Option ℕ) (dhcpReady : Bool) (status : SyncStatus) (clock : ℕ) :
    HealthReport :=
  let healthy := count.isSome && dhcpReady
  { status := if healthy then 200 else 503
    healthy
    source := status.source
    clients := count.getD 0
    lastSuccessfulSync := status.lastSuccess
    dataAgeSeconds := dataAge status clock
    lastSyncError := status.lastError }

/-! ## The lines -/

open Samples (Line renderText)

def metricLines (kind : String) (name value : String) : List Line :=
  [.typed name.toList kind.toList, .sample name.toList [] value.toList]

def buildInfoLines (version : String) : List Line :=
  [.typed "macdack_build_info".toList "gauge".toList,
    .sample "macdack_build_info".toList [("version".toList, version.toList)] "1".toList]

def seriesLine (labels : RequestLabels) (count : ℕ) : Line :=
  .sample "macdack_client_requests_total".toList (namedLabels labels) (toString count).toList

def responseSample (message : String) (count : ℕ) : Line :=
  .sample "macdack_message_responses_total".toList [("message".toList, message.toList)]
    (toString count).toList

def durationLines (durations : Durations) : List Line :=
  [.typed "macdack_response_duration_seconds".toList "summary".toList,
    .sample "macdack_response_duration_seconds_count".toList [] (toString durations.count).toList,
    .sample "macdack_response_duration_seconds_sum".toList [] durations.sum.text.toList]

/-- The lines of the answer. -/
def metricsLines (version : String) (asF64 : ℕ → FloatText) (shared : Shared) (traffic : Traffic)
    (durations : Durations) (clock : ℕ) (now : Instant) : List Line :=
  buildInfoLines version ++
    (counters shared traffic).flatMap (fun counter =>
      metricLines "counter" counter.1 (toString counter.2)) ++
    metricLines "gauge" "macdack_clients" (toString ((clientCount shared.snapshot).getD 0)) ++
    metricLines "gauge" "macdack_last_successful_sync_timestamp_seconds"
      (toString (shared.status.lastSuccess.getD 0)) ++
    metricLines "gauge" "macdack_data_age_seconds"
      (((dataAge shared.status clock).map asF64).getD .nan).text ++
    .typed "macdack_client_requests_total".toList "counter".toList ::
      (traffic.scrape now).1.toList.map (fun entry => seriesLine entry.1 entry.2.1) ++
    .typed "macdack_message_responses_total".toList "counter".toList ::
      traffic.responseLabels.toList.map (fun entry => responseSample entry.1 entry.2) ++
    durationLines durations

/-! ## The text has these lines -/

theorem renderText_append (first second : List Line) :
    renderText (first ++ second) = renderText first ++ renderText second :=
  List.flatMap_append

theorem toList_metricText (kind name value : String) :
    (metricText kind name value).toList = renderText (metricLines kind name value) := by
  have comment : "# TYPE ".toList = Samples.marker := rfl
  have blank : " ".toList = [' '] := rfl
  have lineBreak : "\n".toList = ['\n'] := rfl
  unfold metricText
  rw [String.toList_append, String.toList_append, String.toList_append, String.toList_append,
    String.toList_append, String.toList_append, String.toList_append, String.toList_append,
    comment, blank, lineBreak]
  simp only [metricLines, renderText, List.flatMap_cons, List.flatMap_nil, Line.render,
    Samples.renderBlock, List.append_assoc, List.cons_append, List.nil_append,
    List.append_nil]

theorem toList_buildInfoText (version : String) :
    (buildInfoText version).toList = renderText (buildInfoLines version) := by
  have opening : "# TYPE macdack_build_info gauge\nmacdack_build_info\x7bversion=\"".toList =
      (Line.typed "macdack_build_info".toList "gauge".toList).render ++
        '\n' :: ("macdack_build_info".toList ++ '{' :: ("version".toList ++ ['=', '"'])) := rfl
  have closing : "\"\x7d 1\n".toList = ['"', '}', ' ', '1', '\n'] := rfl
  unfold buildInfoText
  rw [String.toList_append, String.toList_append, toList_escapeLabel, opening, closing]
  simp only [buildInfoLines, renderText, List.flatMap_cons, List.flatMap_nil]
  generalize (Line.typed "macdack_build_info".toList "gauge".toList).render = comment
  simp only [Line.render, Samples.renderBlock, Labels.render, Labels.renderRest,
    Labels.renderLabel, List.flatMap_nil, List.append_assoc, List.cons_append, List.nil_append]
  rfl

theorem toList_durationText (durations : Durations) :
    (durationText durations).toList = renderText (durationLines durations) := by
  have opening : ("# TYPE macdack_response_duration_seconds summary\n" ++
      "macdack_response_duration_seconds_count ").toList =
      (Line.typed "macdack_response_duration_seconds".toList "summary".toList).render ++
        '\n' :: ("macdack_response_duration_seconds_count".toList ++ [' ']) := rfl
  have middle : "\nmacdack_response_duration_seconds_sum ".toList =
      '\n' :: ("macdack_response_duration_seconds_sum".toList ++ [' ']) := rfl
  have lineBreak : "\n".toList = ['\n'] := rfl
  unfold durationText
  rw [String.toList_append, String.toList_append, String.toList_append, String.toList_append,
    opening, middle, lineBreak]
  simp only [durationLines, renderText, List.flatMap_cons, List.flatMap_nil]
  generalize (Line.typed "macdack_response_duration_seconds".toList "summary".toList).render =
    comment
  simp only [Line.render, Samples.renderBlock, List.append_assoc, List.cons_append,
    List.nil_append, List.append_nil]

theorem toList_counterTexts (counters : List (String × ℕ)) :
    (String.join (counters.map fun counter =>
      metricText "counter" counter.1 (toString counter.2))).toList =
        renderText (counters.flatMap fun counter =>
          metricLines "counter" counter.1 (toString counter.2)) := by
  rw [String.toList_join, List.flatMap_map, renderText, List.flatMap_assoc]
  simp only [toList_metricText, renderText]

/-- One line for each entry. -/
theorem toList_join_lines {α : Type} (entries : List α) {text : α → String} {line : α → Line}
    (each : ∀ entry, (text entry).toList = (line entry).render ++ ['\n']) :
    (String.join (entries.map text)).toList = renderText (entries.map line) := by
  rw [String.toList_join, List.flatMap_map, renderText, List.flatMap_map]
  simp only [each]

theorem toList_requestLines (series : RequestSeries) :
    (requestLines series).toList = renderText
      (.typed "macdack_client_requests_total".toList "counter".toList ::
        series.toList.map fun entry => seriesLine entry.1 entry.2.1) := by
  have each : ∀ entry : RequestLabels × (ℕ × Instant),
      (requestLine entry.1 entry.2.1 ++ "\n").toList =
        (seriesLine entry.1 entry.2.1).render ++ ['\n'] := by
    intro entry
    unfold requestLine
    simp [toList_labelBlock, seriesLine, Line.render, Samples.renderBlock, namedLabels]
  unfold requestLines
  rw [String.toList_append, toList_join_lines _ each]
  rfl

theorem toList_responseLines (responses : Std.ExtTreeMap String ℕ) :
    (responseLines responses).toList = renderText
      (.typed "macdack_message_responses_total".toList "counter".toList ::
        responses.toList.map fun entry => responseSample entry.1 entry.2) := by
  have each : ∀ entry : String × ℕ, (responseLine entry.1 entry.2 ++ "\n").toList =
      (responseSample entry.1 entry.2).render ++ ['\n'] := by
    intro entry
    unfold responseLine
    simp [toList_escapeLabel, responseSample, Line.render, Samples.renderBlock, Labels.render,
      Labels.renderRest, Labels.renderLabel]
  unfold responseLines
  rw [String.toList_append, toList_join_lines _ each]
  rfl

section Text

variable (version : String) (asF64 : ℕ → FloatText) (shared : Shared) (traffic : Traffic)
  (durations : Durations) (clock : ℕ) (now : Instant)

/-- **The text has these lines.** -/
theorem toList_metrics : (metrics version asF64 shared traffic durations clock now).1.toList =
    renderText (metricsLines version asF64 shared traffic durations clock now) := by
  unfold metrics metricsLines
  simp only [String.toList_append, toList_buildInfoText, toList_counterTexts, toList_metricText,
    toList_requestLines, toList_responseLines, toList_durationText, renderText_append]

/-! ## The lines can be read -/

theorem isWord_toString (count : ℕ) : Samples.isWord (toString count).toList = true := by
  rw [Nat.toString_eq_repr, Nat.toList_repr, Samples.isWord, Bool.and_eq_true, List.all_eq_true]
  refine ⟨?_, fun c member => ?_⟩
  · rw [List.isEmpty_eq_false_iff.mpr Nat.toDigits_ne_nil]
    rfl
  · have digit := Nat.isDigit_of_mem_toDigits (by decide) (by decide) member
    rw [Bool.and_eq_true, bne_iff_ne, bne_iff_ne]
    refine ⟨?_, ?_⟩
    · rintro rfl
      cases digit
    · rintro rfl
      cases digit

theorem valid_metricLines {kind name value : String} (isName : Labels.isName name.toList = true)
    (isKind : Samples.isWord kind.toList = true) (isValue : Samples.isWord value.toList = true) :
    ∀ line ∈ metricLines kind name value, line.Valid := by
  rw [metricLines, List.forall_mem_cons, List.forall_mem_singleton]
  exact ⟨⟨isName, isKind⟩, isName, nofun, isValue⟩

/-- The names of the counters. -/
theorem isName_counters : ∀ counter ∈ counters shared traffic,
    Labels.isName counter.1.toList = true := by
  intro counter member
  have named : counter.1 ∈ (counters shared traffic).map Prod.fst := List.mem_map_of_mem member
  have valid : ∀ name ∈ (counters shared traffic).map Prod.fst,
      Labels.isName name.toList = true := by
    simp only [counters, List.map_cons, List.map_nil]
    decide
  exact valid _ named

theorem valid_metricsLines :
    ∀ line ∈ metricsLines version asF64 shared traffic durations clock now, line.Valid := by
  have counter : Samples.isWord "counter".toList = true := by decide
  have gauge : Samples.isWord "gauge".toList = true := by decide
  simp only [metricsLines, List.forall_mem_append, List.forall_mem_cons, List.forall_mem_flatMap,
    List.forall_mem_map]
  refine ⟨⟨⟨⟨⟨⟨⟨?_, ?_⟩, ?_⟩, ?_⟩, ?_⟩, ⟨by decide, counter⟩, ?_⟩, ⟨by decide, counter⟩, ?_⟩, ?_⟩
  · rw [buildInfoLines, List.forall_mem_cons, List.forall_mem_singleton]
    refine ⟨⟨by decide, gauge⟩, by decide, ?_, by decide⟩
    exact List.forall_mem_singleton.mpr
      (show Labels.isName "version".toList = true from by decide)
  · exact fun one member => valid_metricLines (isName_counters shared traffic one member) counter
      (isWord_toString _)
  · exact valid_metricLines (by decide) gauge (isWord_toString _)
  · exact valid_metricLines (by decide) gauge (isWord_toString _)
  · exact valid_metricLines (by decide) gauge (FloatText.isWord _)
  · exact fun entry _ => ⟨by decide, isName_namedLabels entry.1, isWord_toString _⟩
  · intro entry _
    refine ⟨by decide, List.forall_mem_singleton.mpr ?_, isWord_toString _⟩
    exact (show Labels.isName "message".toList = true from by decide)
  · rw [durationLines, List.forall_mem_cons, List.forall_mem_cons, List.forall_mem_singleton]
    exact ⟨⟨by decide, by decide⟩, ⟨by decide, nofun, isWord_toString _⟩, by decide, nofun,
      durations.sum.isWord⟩

/-! ## No sample twice -/

/-- The names of the samples in front of the series that have no labels. -/
def plainNames : List (List Char) :=
  ["macdack_requests_total", "macdack_responses_total", "macdack_errors_total",
    "macdack_unknown_clients_total", "macdack_boot_mode_mismatches_total",
    "macdack_sync_success_total", "macdack_sync_errors_total", "macdack_state_read_errors_total",
    "macdack_state_write_errors_total", "macdack_clients",
    "macdack_last_successful_sync_timestamp_seconds", "macdack_data_age_seconds"].map String.toList

/-- The names and labels of the samples in front of the series. -/
def frontKeys : List (List Char × List Labels.Label) :=
  ("macdack_build_info".toList, [("version".toList, version.toList)]) ::
    plainNames.map fun name => (name, [])

def durationKeys : List (List Char × List Labels.Label) :=
  [("macdack_response_duration_seconds_count".toList, []),
    ("macdack_response_duration_seconds_sum".toList, [])]

def seriesKeys (series : List (RequestLabels × (ℕ × Instant))) :
    List (List Char × List Labels.Label) :=
  series.map fun entry => ("macdack_client_requests_total".toList, namedLabels entry.1)

def responseKeys (responses : List (String × ℕ)) : List (List Char × List Labels.Label) :=
  responses.map fun entry =>
    ("macdack_message_responses_total".toList, [("message".toList, entry.1.toList)])

theorem keys_metricsLines :
    (metricsLines version asF64 shared traffic durations clock now).filterMap Line.key =
      frontKeys version ++ seriesKeys (traffic.scrape now).1.toList ++
        responseKeys traffic.responseLabels.toList ++ durationKeys := by
  have series : (((traffic.scrape now).1.toList.map fun entry =>
      seriesLine entry.1 entry.2.1).filterMap Line.key) =
        seriesKeys (traffic.scrape now).1.toList := by
    rw [List.filterMap_map, seriesKeys, ← List.filterMap_eq_map]
    rfl
  have responses : ((traffic.responseLabels.toList.map fun entry =>
      responseSample entry.1 entry.2).filterMap Line.key) =
        responseKeys traffic.responseLabels.toList := by
    rw [List.filterMap_map, responseKeys, ← List.filterMap_eq_map]
    rfl
  simp only [metricsLines, List.filterMap_append, List.filterMap_cons, series, responses]
  rfl

/-- Keys with other names are others. -/
theorem nodup_append_keys {first second : List (List Char × List Labels.Label)}
    (one : first.Nodup) (two : second.Nodup)
    (names : ∀ name ∈ first.map Prod.fst, name ∉ second.map Prod.fst) :
    (first ++ second).Nodup := by
  refine one.append two fun key inFirst inSecond => ?_
  exact names key.1 (List.mem_map_of_mem inFirst) (List.mem_map_of_mem inSecond)

theorem nodup_seriesKeys (series : RequestSeries) : (seriesKeys series.toList).Nodup := by
  have keys : seriesKeys series.toList =
      series.keys.map fun labels =>
        ("macdack_client_requests_total".toList, namedLabels labels) := by
    rw [← Std.ExtTreeMap.map_fst_toList_eq_keys, List.map_map, seriesKeys]
    rfl
  rw [keys]
  refine Std.ExtTreeMap.nodup_keys.map fun first second same => ?_
  exact namedLabels_injective (Prod.mk.inj same).2

theorem nodup_responseKeys (responses : Std.ExtTreeMap String ℕ) :
    (responseKeys responses.toList).Nodup := by
  have keys : responseKeys responses.toList = responses.keys.map fun message =>
      ("macdack_message_responses_total".toList, [("message".toList, message.toList)]) := by
    rw [← Std.ExtTreeMap.map_fst_toList_eq_keys, List.map_map, responseKeys]
    rfl
  rw [keys]
  refine Std.ExtTreeMap.nodup_keys.map fun first second same => ?_
  exact String.toList_inj.mp (Prod.mk.inj (List.cons.inj (Prod.mk.inj same).2).1).2

theorem name_of_seriesKeys {series : List (RequestLabels × (ℕ × Instant))} {name : List Char}
    (member : name ∈ (seriesKeys series).map Prod.fst) :
    name = "macdack_client_requests_total".toList := by
  rw [seriesKeys, List.map_map] at member
  obtain ⟨entry, -, rfl⟩ := List.mem_map.mp member
  rfl

theorem name_of_responseKeys {responses : List (String × ℕ)} {name : List Char}
    (member : name ∈ (responseKeys responses).map Prod.fst) :
    name = "macdack_message_responses_total".toList := by
  rw [responseKeys, List.map_map] at member
  obtain ⟨entry, -, rfl⟩ := List.mem_map.mp member
  rfl

theorem names_frontKeys : (frontKeys version).map Prod.fst =
    "macdack_build_info".toList :: plainNames := by
  rw [frontKeys, List.map_cons, List.map_map]
  rfl

/-- All names are different. -/
theorem nodup_names : (("macdack_build_info".toList :: plainNames) ++
    "macdack_client_requests_total".toList :: "macdack_message_responses_total".toList ::
      durationKeys.map Prod.fst).Nodup := by
  decide +kernel

theorem nodup_keys (series : RequestSeries) (responses : Std.ExtTreeMap String ℕ) :
    (frontKeys version ++ seriesKeys series.toList ++ responseKeys responses.toList ++
      durationKeys).Nodup := by
  obtain ⟨front, back, apart⟩ := List.nodup_append'.mp nodup_names
  obtain ⟨notSeries, back⟩ := List.nodup_cons.mp back
  obtain ⟨notResponses, durations⟩ := List.nodup_cons.mp back
  rw [← names_frontKeys version] at front apart
  refine nodup_append_keys (nodup_append_keys (nodup_append_keys (front.of_map _)
    (nodup_seriesKeys series) ?_) (nodup_responseKeys responses) ?_) (durations.of_map _) ?_
  · intro name inFront inSeries
    obtain rfl := name_of_seriesKeys inSeries
    exact apart inFront (.head _)
  · intro name before inResponses
    obtain rfl := name_of_responseKeys inResponses
    rw [List.map_append, List.mem_append] at before
    rcases before with inFront | inSeries
    · exact apart inFront (.tail _ (.head _))
    · rw [name_of_seriesKeys inSeries] at notSeries
      exact notSeries (.head _)
  · intro name before inDurations
    rw [List.map_append, List.mem_append, List.map_append, List.mem_append] at before
    rcases before with (inFront | inSeries) | inResponses
    · exact apart inFront (.tail _ (.tail _ inDurations))
    · rw [name_of_seriesKeys inSeries] at inDurations
      exact notSeries (.tail _ inDurations)
    · rw [name_of_responseKeys inResponses] at inDurations
      exact notResponses inDurations

/-- **The metrics can be read back.** Whatever the version, the counters, the status, the
series and the clocks are: a reader of the text format gets exactly the lines of
`metricsLines` from the answer, each sample with its labels and its value, and no two samples
are for one name with the same labels. -/
theorem metrics_readable :
    Samples.readText (metrics version asF64 shared traffic durations clock now).1.toList =
        some (metricsLines version asF64 shared traffic durations clock now) ∧
      ((metricsLines version asF64 shared traffic durations clock now).filterMap
        Line.key).Nodup := by
  constructor
  · rw [toList_metrics]
    exact Samples.readText_render (valid_metricsLines _ _ _ _ _ _ _)
  · rw [keys_metricsLines]
    exact nodup_keys version _ _

end Text

end Macdack
