/-
**The OTLP payloads: `BuildLogsJSON`, `BuildMetricsJSON` and `BuildSpansJSON`.**

The builders write a resource and scope frame around one record per queued entry of the rings
of `Log` and `recordMetric` (or per completed span slot) into `BodyBuf` and return `w.len()`.
The document they mean is the text of a JSON value with one record per entry, each string field
holding the entry's bytes that JSON carries, escaped.

* `writePayload_text`: the frame around the records means the text of the OTLP document;
* `buildLogsJSON_document`, `buildMetricsJSON_document`, `buildSpansBody_document`: when that
  text fits in `BodyBuf`, each builder leaves exactly it;
* `buildLogsJSON_truncates`: eight log entries of 128 quote bytes, a queue `Log` reaches, escape
  past the 2048 bytes of `BodyBuf`, and the payload is cut.
-/

import Bindicator.Telemetry.Json
import Bindicator.Telemetry.Queues
import Bindicator.Telemetry.Spans

namespace Bindicator.Telemetry

/-! ## The builders -/

/-- `shortSHA()`: the first seven bytes of `version.GitSHA`. -/
def shortSHA (gitSHA : Bytes) : Bytes := if 7 ≤ gitSHA.length then gitSHA.take 7 else gitSHA

/-- `writeResourceAttributes()`, with the build's `version.Version` and `version.GitSHA`. -/
def writeResourceAttributes (version gitSHA : Bytes) : List JsonWrite :=
  [.raw (ascii "\"resource\":\x7b\"attributes\":["),
    .raw (ascii "\x7b\"key\":\"service.name\",\"value\":\x7b\"stringValue\":\"bindicator\"\x7d\x7d,"),
    .raw (ascii "\x7b\"key\":\"service.version\",\"value\":\x7b\"stringValue\":")] ++
  writeString version ++
  [.raw (ascii "\x7d\x7d,"),
    .raw (ascii "\x7b\"key\":\"service.instance.id\",\"value\":\x7b\"stringValue\":")] ++
  writeString (shortSHA gitSHA) ++
  [.raw (ascii "\x7d\x7d,"),
    .raw (ascii "\x7b\"key\":\"host.name\",\"value\":\x7b\"stringValue\":\"bindicator-pico\"\x7d\x7d"),
    .raw (ascii "]\x7d")]

/-- The record loop: a `writeByte(',')` before every record but the first. -/
def commaSeparated : List (List JsonWrite) → List JsonWrite
  | [] => []
  | [r] => r
  | r :: rs => r ++ .byte 44 :: commaSeparated rs

/-- The frame the three builders share: their opening, the resource attributes, their scope, the
records, and `]}]}]}`. -/
def writePayload (opening scope version gitSHA : Bytes) (records : List (List JsonWrite)) : List JsonWrite :=
  .raw opening :: writeResourceAttributes version gitSHA ++ .raw scope :: commaSeparated records ++
    [.raw (ascii "]\x7d]\x7d]\x7d")]

/-- A log record of `BuildLogsJSON`; the entry keeps `Body[:BodyLen]`, and its trace context when
`HasTrace`. -/
def writeLogRecord (entry : LogEntry) : List JsonWrite :=
  .raw (ascii "\x7b\"timeUnixNano\":") :: writeInt64 entry.timestamp ++
  .raw (ascii ",\"severityNumber\":") :: writeInt entry.severity.toNat ++
  .raw (ascii ",\"body\":\x7b\"stringValue\":") :: writeBytes entry.body entry.body.length ++ .byte 125 ::
  (match entry.trace with
    | some (traceId, spanId) =>
      .raw (ascii ",\"traceId\":") :: writeHex traceId ++ .raw (ascii ",\"spanId\":") :: writeHex spanId
    | none => []) ++ [.byte 125]

/-- A metric of `BuildMetricsJSON`; the point keeps `Name[:NameLen]`. -/
def writeMetric (point : MetricPoint) : List JsonWrite :=
  .raw (ascii "\x7b\"name\":") :: writeBytes point.name point.name.length ++
  (if point.isGauge then
    .raw (ascii ",\"gauge\":\x7b\"dataPoints\":[\x7b\"timeUnixNano\":") :: writeInt64 point.timestamp ++
      .raw (ascii ",\"asInt\":") :: writeInt64 point.value ++ [.raw (ascii "\x7d]\x7d")]
  else
    .raw (ascii ",\"sum\":\x7b\"dataPoints\":[\x7b\"timeUnixNano\":") :: writeInt64 point.timestamp ++
      .raw (ascii ",\"asInt\":") :: writeInt64 point.value ++
      [.raw (ascii "\x7d],\"aggregationTemporality\":2,\"isMonotonic\":true\x7d")]) ++
  [.byte 125]

/-- `SpanStatusOK = 1`, `SpanStatusError = 2`. -/
def spanStatusCode (statusOK : Bool) : Nat := if statusOK then 1 else 2

/-- A span of `BuildSpansJSON`, with `kind` for the `Kind` it reads; the slot keeps the name cut
to 32 bytes, `Name[:NameLen]`. -/
def writeSpan (kind : UInt8) (span : Span) : List JsonWrite :=
  .raw (ascii "\x7b\"traceId\":") :: writeHex span.traceId ++ .raw (ascii ",\"spanId\":") :: writeHex span.spanId ++
  (if span.parentId.any (· != 0) then .raw (ascii ",\"parentSpanId\":") :: writeHex span.parentId else []) ++
  .raw (ascii ",\"name\":") :: writeBytes span.name span.name.length ++
  .raw (ascii ",\"kind\":") :: writeInt kind.toNat ++
  .raw (ascii ",\"startTimeUnixNano\":") :: writeInt64 span.startTime ++
  .raw (ascii ",\"endTimeUnixNano\":") :: writeInt64 span.endTime ++
  .raw (ascii ",\"status\":\x7b\"code\":") :: writeInt (spanStatusCode span.statusOK) ++ [.raw (ascii "\x7d\x7d")]

/-- `n = w.len()` and `BodyBuf[:n]` after the calls. -/
def payloadOf (calls : List JsonWrite) : Nat × Bytes := ((runWrites calls).length, runWrites calls)

/-- The opening and the scope of `BuildLogsJSON`. -/
def logsOpening : Bytes := ascii "\x7b\"resourceLogs\":[\x7b"

def logsScope : Bytes := ascii ",\"scopeLogs\":[\x7b\"scope\":\x7b\"name\":\"bindicator\"\x7d,\"logRecords\":["

/-- The opening and the scope of `BuildMetricsJSON`. -/
def metricsOpening : Bytes := ascii "\x7b\"resourceMetrics\":[\x7b"

def metricsScope : Bytes := ascii ",\"scopeMetrics\":[\x7b\"scope\":\x7b\"name\":\"bindicator\"\x7d,\"metrics\":["

/-- The opening and the scope of `BuildSpansJSON`. -/
def spansOpening : Bytes := ascii "\x7b\"resourceSpans\":[\x7b"

def spansScope : Bytes := ascii ",\"scopeSpans\":[\x7b\"scope\":\x7b\"name\":\"bindicator\"\x7d,\"spans\":["

/-- `BuildLogsJSON()`: `n`, and `BodyBuf[:n]`. -/
def buildLogsJSON (version gitSHA : Bytes) (logs : Ring LogEntry) : Nat × Bytes :=
  if logs.count = 0 then (0, [])
  else payloadOf (writePayload logsOpening logsScope version gitSHA (logs.entries.map writeLogRecord))

/-- `BuildMetricsJSON()`: `n`, and `BodyBuf[:n]`. -/
def buildMetricsJSON (version gitSHA : Bytes) (metrics : Ring MetricPoint) : Nat × Bytes :=
  if metrics.count = 0 then (0, [])
  else payloadOf (writePayload metricsOpening metricsScope version gitSHA (metrics.entries.map writeMetric))

/-- The bytes `BuildSpansJSON()` leaves, `n` and `BodyBuf[:n]`, over the spans its writing loop
takes (`buildSpansJSON`); `0` when no slot is completed. -/
def buildSpansBody (version gitSHA : Bytes) (kind : Span → UInt8) (slots : Nat → Span) : Nat × Bytes :=
  if (buildSpansJSON slots).1 = [] then (0, [])
  else
    payloadOf (writePayload spansOpening spansScope version gitSHA
      ((buildSpansJSON slots).1.map fun span => writeSpan (kind span) span))

/-! ## The documents -/

/-- An attribute, `{"key":key,"value":{"stringValue":value}}`. -/
def attributeJson (key : Bytes) (value : Json) : Json :=
  .obj [(ascii "key", .str key), (ascii "value", .obj [(ascii "stringValue", value)])]

/-- The resource of every payload: the service's name, version and instance, and the host. -/
def resourceJson (version gitSHA : Bytes) : Json :=
  .obj [(ascii "attributes", .arr [attributeJson (ascii "service.name") (.str (ascii "bindicator")),
    attributeJson (ascii "service.version") (.str (version.filter jsonKeeps)),
    attributeJson (ascii "service.instance.id") (.str ((shortSHA gitSHA).filter jsonKeeps)),
    attributeJson (ascii "host.name") (.str (ascii "bindicator-pico"))])]

/-- An OTLP document: one resource, one scope, and the array of its records. -/
def payloadJson (resourceKey scopeKey recordsKey version gitSHA : Bytes) (records : List Json) : Json :=
  .obj [(resourceKey, .arr [.obj [(ascii "resource", resourceJson version gitSHA),
    (scopeKey, .arr [.obj [(ascii "scope", .obj [(ascii "name", .str (ascii "bindicator"))]),
      (recordsKey, .arr records)]])]])]

/-- A log record: its time as a decimal string, its severity, its body's bytes, and its trace
context when it has one. -/
def logRecordJson (entry : LogEntry) : Json :=
  .obj ([(ascii "timeUnixNano", .str (intText entry.timestamp)), (ascii "severityNumber", .num entry.severity.toNat),
      (ascii "body", .obj [(ascii "stringValue", .str (entry.body.filter jsonKeeps))])] ++
    match entry.trace with
    | some (traceId, spanId) =>
      [(ascii "traceId", .str (formatHashHex traceId)), (ascii "spanId", .str (formatHashHex spanId))]
    | none => [])

/-- A metric: its name's bytes, and one data point of a gauge or of a monotonic cumulative sum. -/
def metricJson (point : MetricPoint) : Json :=
  .obj [(ascii "name", .str (point.name.filter jsonKeeps)),
    (if point.isGauge then ascii "gauge" else ascii "sum",
      .obj ([(ascii "dataPoints", .arr [.obj [(ascii "timeUnixNano", .str (intText point.timestamp)),
          (ascii "asInt", .str (intText point.value))]])] ++
        if point.isGauge then [] else [(ascii "aggregationTemporality", .num 2), (ascii "isMonotonic", .bool true)]))]

/-- A span: its IDs, its parent's when not zero, its name's bytes, kind, times and status. -/
def spanJson (kind : UInt8) (span : Span) : Json :=
  .obj ([(ascii "traceId", .str (formatHashHex span.traceId)), (ascii "spanId", .str (formatHashHex span.spanId))] ++
    (if span.parentId.any (· != 0) then [(ascii "parentSpanId", .str (formatHashHex span.parentId))] else []) ++
    [(ascii "name", .str (span.name.filter jsonKeeps)), (ascii "kind", .num kind.toNat),
      (ascii "startTimeUnixNano", .str (intText span.startTime)), (ascii "endTimeUnixNano", .str (intText span.endTime)),
      (ascii "status", .obj [(ascii "code", .num (spanStatusCode span.statusOK))])])

/-- The logs document: one record per queued entry. -/
def logsJson (version gitSHA : Bytes) (entries : List LogEntry) : Json :=
  payloadJson (ascii "resourceLogs") (ascii "scopeLogs") (ascii "logRecords") version gitSHA (entries.map logRecordJson)

/-- The metrics document: one metric per queued point. -/
def metricsJson (version gitSHA : Bytes) (points : List MetricPoint) : Json :=
  payloadJson (ascii "resourceMetrics") (ascii "scopeMetrics") (ascii "metrics") version gitSHA (points.map metricJson)

/-- The traces document: one span per completed slot. -/
def spansJson (version gitSHA : Bytes) (kind : Span → UInt8) (spans : List Span) : Json :=
  payloadJson (ascii "resourceSpans") (ascii "scopeSpans") (ascii "spans") version gitSHA
    (spans.map fun span => spanJson (kind span) span)

/-- A value an `int64` holds. -/
def IsInt64 (n : Int) : Prop := -2 ^ 63 ≤ n ∧ n < 2 ^ 63

instance : DecidablePred IsInt64 := fun n => inferInstanceAs (Decidable (-2 ^ 63 ≤ n ∧ n < 2 ^ 63))

/-! ## What the builders mean -/

/-- The record loop means the items of an array. -/
theorem commaSeparated_text {α : Type} (write : α → List JsonWrite) (value : α → Json) (xs : List α)
    (each : ∀ x ∈ xs, intended (write x) = (value x).render) :
    intended (commaSeparated (xs.map write)) = Json.renderItems (xs.map value) := by
  induction xs with
  | nil => rfl
  | cons x xs ih =>
    have rest := ih fun y mem => each y (List.mem_cons_of_mem _ mem)
    cases xs with
    | nil => exact each x (List.mem_cons_self _ _)
    | cons y ys =>
      simp only [List.map_cons, commaSeparated, Json.renderItems] at rest ⊢
      rw [intended_append, intended_cons, each x (List.mem_cons_self _ _), rest]
      rfl

set_option maxRecDepth 20000 in
theorem writeResourceAttributes_text (version gitSHA : Bytes) :
    intended (writeResourceAttributes version gitSHA) =
      quoteJson (ascii "resource") ++ 58 :: (resourceJson version gitSHA).render := by
  simp only [writeResourceAttributes, intended_append, intended_cons, intended_nil, writeString_text, JsonWrite.bytes,
    resourceJson, attributeJson, Json.render, Json.renderMembers, Json.renderItems, List.append_assoc,
    List.cons_append, List.nil_append, List.append_nil]
  rfl

set_option maxRecDepth 20000 in
/-- **The frame means the OTLP document**, for an opening and a scope that spell its keys. -/
theorem writePayload_text (opening scope resourceKey scopeKey recordsKey version gitSHA : Bytes)
    (records : List (List JsonWrite)) (items : List Json)
    (opened : opening = 123 :: quoteJson resourceKey ++ [58, 91, 123])
    (scopeText : scope = 44 :: quoteJson scopeKey ++ 58 :: 91 :: 123 :: quoteJson (ascii "scope") ++ 58 ::
      (Json.obj [(ascii "name", .str (ascii "bindicator"))]).render ++ 44 :: quoteJson recordsKey ++ [58, 91])
    (recordsText : intended (commaSeparated records) = Json.renderItems items) :
    intended (writePayload opening scope version gitSHA records) =
      (payloadJson resourceKey scopeKey recordsKey version gitSHA items).render := by
  subst opened scopeText
  simp only [writePayload, intended_append, intended_cons, intended_nil, JsonWrite.bytes, writeResourceAttributes_text,
    recordsText, payloadJson, Json.render, Json.renderMembers, Json.renderItems, List.append_assoc, List.cons_append,
    List.nil_append, List.append_nil]
  rfl

theorem severity_fits (b : UInt8) : b.toNat < 10 ^ 10 :=
  Nat.lt_trans b.toBitVec.isLt (by norm_num)

set_option maxRecDepth 20000 in
/-- **A log record means its JSON text.** -/
theorem writeLogRecord_text (entry : LogEntry) (time : IsInt64 entry.timestamp) :
    intended (writeLogRecord entry) = (logRecordJson entry).render := by
  obtain ⟨timestamp, severity, body, trace⟩ := entry
  rcases trace with _ | ⟨traceId, spanId⟩ <;>
    simp only [writeLogRecord, logRecordJson, intended_append, intended_cons, intended_nil, JsonWrite.bytes,
      writeInt64_text _ time.1 time.2, writeInt_text _ (severity_fits _), writeBytes, List.take_length,
      writeString_text, writeHex_text, Json.render, Json.renderMembers, List.append_assoc, List.cons_append,
      List.nil_append, List.append_nil, List.singleton_append] <;>
    rfl

/-- `"aggregationTemporality":2`. -/
theorem intText_two : intText 2 = [50] := by
  rw [intText, if_neg (by norm_num), decimal, if_neg (by decide), show Int.toNat 2 = 2 from rfl,
    Nat.digits_of_lt 10 2 (by norm_num) (by norm_num)]
  rfl

set_option maxRecDepth 20000 in
/-- **A metric means its JSON text.** -/
theorem writeMetric_text (point : MetricPoint) (time : IsInt64 point.timestamp) (value : IsInt64 point.value) :
    intended (writeMetric point) = (metricJson point).render := by
  cases gauge : point.isGauge <;>
    simp only [writeMetric, metricJson, gauge, if_true, if_false, Bool.false_eq_true, intended_append, intended_cons,
      intended_nil, JsonWrite.bytes, writeInt64_text _ time.1 time.2, writeInt64_text _ value.1 value.2, writeBytes,
      List.take_length, writeString_text, intText_two, Json.render, Json.renderMembers, Json.renderItems,
      List.append_assoc, List.cons_append,
      List.nil_append, List.append_nil, List.singleton_append] <;>
    rfl

set_option maxRecDepth 20000 in
/-- **A span means its JSON text.** -/
theorem writeSpan_text (kind : UInt8) (span : Span) (start : IsInt64 span.startTime) (finish : IsInt64 span.endTime) :
    intended (writeSpan kind span) = (spanJson kind span).render := by
  have status : spanStatusCode span.statusOK < 10 ^ 10 := by unfold spanStatusCode; split <;> norm_num
  cases parent : span.parentId.any (· != 0) <;>
    simp only [writeSpan, spanJson, parent, if_true, if_false, Bool.false_eq_true, intended_append, intended_cons,
      intended_nil, JsonWrite.bytes, writeInt64_text _ start.1 start.2, writeInt64_text _ finish.1 finish.2,
      writeInt_text _ (severity_fits _), writeInt_text _ status, writeBytes, List.take_length, writeString_text,
      writeHex_text, Json.render, Json.renderMembers, List.append_assoc, List.cons_append, List.nil_append,
      List.append_nil, List.singleton_append] <;>
    rfl

/-! ## The payloads -/

/-- Calls whose bytes fit in `BodyBuf` leave them all, and their length as `n`. -/
theorem payloadOf_fits (calls : List JsonWrite) (fits : (intended calls).length ≤ bodyBufSize) :
    payloadOf calls = ((intended calls).length, intended calls) := by
  rw [payloadOf, runWrites_fits calls fits]

/-- The calls of `BuildLogsJSON` mean the logs document. -/
theorem logsJson_text (version gitSHA : Bytes) (entries : List LogEntry)
    (times : ∀ entry ∈ entries, IsInt64 entry.timestamp) :
    intended (writePayload logsOpening logsScope version gitSHA (entries.map writeLogRecord)) =
      (logsJson version gitSHA entries).render :=
  writePayload_text _ _ _ _ _ _ _ _ _ (by decide) (by decide)
    (commaSeparated_text _ _ _ fun entry mem => writeLogRecord_text entry (times entry mem))

/-- The calls of `BuildMetricsJSON` mean the metrics document. -/
theorem metricsJson_text (version gitSHA : Bytes) (points : List MetricPoint)
    (values : ∀ point ∈ points, IsInt64 point.timestamp ∧ IsInt64 point.value) :
    intended (writePayload metricsOpening metricsScope version gitSHA (points.map writeMetric)) =
      (metricsJson version gitSHA points).render :=
  writePayload_text _ _ _ _ _ _ _ _ _ (by decide) (by decide)
    (commaSeparated_text _ _ _ fun point mem => writeMetric_text point (values point mem).1 (values point mem).2)

/-- The calls of `BuildSpansJSON` mean the traces document. -/
theorem spansJson_text (version gitSHA : Bytes) (kind : Span → UInt8) (spans : List Span)
    (times : ∀ span ∈ spans, IsInt64 span.startTime ∧ IsInt64 span.endTime) :
    intended (writePayload spansOpening spansScope version gitSHA (spans.map fun span => writeSpan (kind span) span)) =
      (spansJson version gitSHA kind spans).render :=
  writePayload_text _ _ _ _ _ _ _ _ _ (by decide) (by decide)
    (commaSeparated_text (fun span => writeSpan (kind span) span) _ _ fun span mem =>
      writeSpan_text (kind span) span (times span mem).1 (times span mem).2)

/-- **When the logs document fits in `BodyBuf`, `BuildLogsJSON` leaves exactly it**: one record per
queued entry, with each entry's body bytes escaped. -/
theorem buildLogsJSON_document (version gitSHA : Bytes) (logs : Ring LogEntry) (queued : logs.count ≠ 0)
    (times : ∀ entry ∈ logs.entries, IsInt64 entry.timestamp)
    (fits : (logsJson version gitSHA logs.entries).render.length ≤ bodyBufSize) :
    buildLogsJSON version gitSHA logs =
      ((logsJson version gitSHA logs.entries).render.length, (logsJson version gitSHA logs.entries).render) := by
  have text := logsJson_text version gitSHA logs.entries times
  rw [buildLogsJSON, if_neg queued, payloadOf_fits _ (text ▸ fits), text]

/-- The log ring after `Init` and one `LogInfo` at boot. -/
def bootLog : Ring LogEntry := (bootState.run [.enable, .log 1 9 (ascii "bindicator:boot") none]).2.logQueue

set_option maxRecDepth 20000 in
theorem buildLogsJSON_document_boot :
    bootLog.count ≠ 0 ∧ (∀ entry ∈ bootLog.entries, IsInt64 entry.timestamp) ∧
      (logsJson (ascii "v1.2.0") (ascii "0123456789abcdef") bootLog.entries).render.length ≤ bodyBufSize ∧
      buildLogsJSON (ascii "v1.2.0") (ascii "0123456789abcdef") bootLog =
        ((logsJson (ascii "v1.2.0") (ascii "0123456789abcdef") bootLog.entries).render.length,
          (logsJson (ascii "v1.2.0") (ascii "0123456789abcdef") bootLog.entries).render) :=
  have times : ∀ entry ∈ bootLog.entries, IsInt64 entry.timestamp := by decide
  have fits : (logsJson (ascii "v1.2.0") (ascii "0123456789abcdef") bootLog.entries).render.length ≤ bodyBufSize := by
    rw [← logsJson_text _ _ _ times]
    decide
  ⟨by decide, times, fits, buildLogsJSON_document _ _ _ (by decide) times fits⟩

/-- **When the metrics document fits in `BodyBuf`, `BuildMetricsJSON` leaves exactly it.** -/
theorem buildMetricsJSON_document (version gitSHA : Bytes) (metrics : Ring MetricPoint) (queued : metrics.count ≠ 0)
    (values : ∀ point ∈ metrics.entries, IsInt64 point.timestamp ∧ IsInt64 point.value)
    (fits : (metricsJson version gitSHA metrics.entries).render.length ≤ bodyBufSize) :
    buildMetricsJSON version gitSHA metrics =
      ((metricsJson version gitSHA metrics.entries).render.length, (metricsJson version gitSHA metrics.entries).render) := by
  have text := metricsJson_text version gitSHA metrics.entries values
  rw [buildMetricsJSON, if_neg queued, payloadOf_fits _ (text ▸ fits), text]

/-- The metric ring after `Init`, a gauge and a counter. -/
def bootMetrics : Ring MetricPoint :=
  (bootState.run [.enable, .recordMetric 1 (ascii "battery_mv") 3300 true,
    .recordMetric 2 (ascii "wakeups") (-1) false]).2.metricQueue

set_option maxRecDepth 20000 in
theorem buildMetricsJSON_document_boot :
    bootMetrics.count ≠ 0 ∧ (∀ point ∈ bootMetrics.entries, IsInt64 point.timestamp ∧ IsInt64 point.value) ∧
      (metricsJson (ascii "v1.2.0") (ascii "0123456789abcdef") bootMetrics.entries).render.length ≤ bodyBufSize ∧
      buildMetricsJSON (ascii "v1.2.0") (ascii "0123456789abcdef") bootMetrics =
        ((metricsJson (ascii "v1.2.0") (ascii "0123456789abcdef") bootMetrics.entries).render.length,
          (metricsJson (ascii "v1.2.0") (ascii "0123456789abcdef") bootMetrics.entries).render) :=
  have values : ∀ point ∈ bootMetrics.entries, IsInt64 point.timestamp ∧ IsInt64 point.value := by decide
  have fits :
      (metricsJson (ascii "v1.2.0") (ascii "0123456789abcdef") bootMetrics.entries).render.length ≤ bodyBufSize := by
    rw [← metricsJson_text _ _ _ values]
    decide
  ⟨by decide, values, fits, buildMetricsJSON_document _ _ _ (by decide) values fits⟩

/-- **When the traces document fits in `BodyBuf`, `BuildSpansJSON` leaves exactly it**: one span per
completed slot. -/
theorem buildSpansBody_document (version gitSHA : Bytes) (kind : Span → UInt8) (slots : Nat → Span)
    (completed : (buildSpansJSON slots).1 ≠ [])
    (times : ∀ span ∈ (buildSpansJSON slots).1, IsInt64 span.startTime ∧ IsInt64 span.endTime)
    (fits : (spansJson version gitSHA kind (buildSpansJSON slots).1).render.length ≤ bodyBufSize) :
    buildSpansBody version gitSHA kind slots =
      ((spansJson version gitSHA kind (buildSpansJSON slots).1).render.length,
        (spansJson version gitSHA kind (buildSpansJSON slots).1).render) := by
  have text := spansJson_text version gitSHA kind (buildSpansJSON slots).1 times
  rw [buildSpansBody, if_neg completed, payloadOf_fits _ (text ▸ fits), text]

/-- The slots after a trace and one span, started at 1 and ended at 2. -/
def oneSpan : Nat → Span :=
  (initTracer.run [.generateTraceID traceOneTwoThree (zeros 8), .startSpan 1 (ascii "wake-cycle") (zeros 7 ++ [1]),
    .endSpan 0 true 2]).2.spanQueue

set_option maxRecDepth 20000 in
theorem buildSpansBody_document_one :
    (buildSpansJSON oneSpan).1 ≠ [] ∧
      (∀ span ∈ (buildSpansJSON oneSpan).1, IsInt64 span.startTime ∧ IsInt64 span.endTime) ∧
      (spansJson (ascii "v1.2.0") (ascii "0123456789abcdef") (fun _ => 2) (buildSpansJSON oneSpan).1).render.length ≤
        bodyBufSize ∧
      buildSpansBody (ascii "v1.2.0") (ascii "0123456789abcdef") (fun _ => 2) oneSpan =
        ((spansJson (ascii "v1.2.0") (ascii "0123456789abcdef") (fun _ => 2) (buildSpansJSON oneSpan).1).render.length,
          (spansJson (ascii "v1.2.0") (ascii "0123456789abcdef") (fun _ => 2) (buildSpansJSON oneSpan).1).render) :=
  have times : ∀ span ∈ (buildSpansJSON oneSpan).1, IsInt64 span.startTime ∧ IsInt64 span.endTime := by decide
  have fits : (spansJson (ascii "v1.2.0") (ascii "0123456789abcdef") (fun _ => 2)
      (buildSpansJSON oneSpan).1).render.length ≤ bodyBufSize := by
    rw [← spansJson_text _ _ _ _ times]
    decide
  ⟨by decide, times, fits, buildSpansBody_document _ _ _ _ (by decide) times fits⟩

/-! ## A payload `BodyBuf` cuts -/

/-- A payload's `n` is the length of what it leaves, at most `len(BodyBuf)`. -/
theorem payloadOf_length (calls : List JsonWrite) :
    (payloadOf calls).2.length = (payloadOf calls).1 ∧ (payloadOf calls).1 ≤ bodyBufSize :=
  ⟨rfl, runWrites_length_le calls⟩

/-- `n` is the length of what is left in `BodyBuf`, and never more than `len(BodyBuf)`. -/
theorem buildLogsJSON_length (version gitSHA : Bytes) (logs : Ring LogEntry) :
    (buildLogsJSON version gitSHA logs).2.length = (buildLogsJSON version gitSHA logs).1 ∧
      (buildLogsJSON version gitSHA logs).1 ≤ bodyBufSize := by
  unfold buildLogsJSON
  split
  · exact ⟨rfl, Nat.zero_le _⟩
  · exact payloadOf_length _

/-- The frame holds its records. -/
theorem writePayload_length_le (opening scope version gitSHA : Bytes) (records : List (List JsonWrite)) :
    (intended (commaSeparated records)).length ≤
      (intended (writePayload opening scope version gitSHA records)).length := by
  simp only [writePayload, intended_cons, intended_append, List.length_append]
  omega

/-- The record loop writes every record. -/
theorem commaSeparated_length (k : Nat) (records : List (List JsonWrite))
    (each : ∀ r ∈ records, k ≤ (intended r).length) :
    records.length * k ≤ (intended (commaSeparated records)).length := by
  induction records with
  | nil => simp
  | cons r rs ih =>
    have first := each r (List.mem_cons_self _ _)
    have rest := ih fun r' mem => each r' (List.mem_cons_of_mem _ mem)
    cases rs with
    | nil => simpa [commaSeparated] using first
    | cons r' rs =>
      simp only [commaSeparated, intended_append, intended_cons, List.length_append, List.length_cons] at rest ⊢
      rw [Nat.succ_mul]
      omega

/-- A log record holds its body. -/
theorem writeLogRecord_length_le (entry : LogEntry) :
    (intended (writeBytes entry.body entry.body.length)).length ≤ (intended (writeLogRecord entry)).length := by
  simp only [writeLogRecord, intended_cons, intended_append, List.length_append]
  omega

/-- A string of `k` quotes takes `2 * k + 2` bytes: each escapes to two. -/
theorem writeString_quotes_length (k : Nat) : (intended (writeString (List.replicate k 34))).length = 2 * k + 2 := by
  have escaped : ((List.replicate k (34 : UInt8)).flatMap jsonEscape).length = 2 * k := by
    induction k with
    | zero => rfl
    | succ k ih =>
      rw [List.replicate_succ, List.flatMap_cons, List.length_append, ih, show (jsonEscape 34).length = 2 from rfl]
      omega
  rw [writeString_text, List.filter_eq_self.mpr fun b mem => by rw [List.eq_of_mem_replicate mem]; rfl]
  simp only [Json.render, quoteJson, List.length_cons, List.length_append, escaped, List.length_singleton,
    List.length_nil]

/-- The log ring after `Init` and eight `LogInfo` calls, at times `0` to `7`, of a message of
128 quote bytes. -/
def quoteFlood : Ring LogEntry :=
  (bootState.run (.enable :: (List.range queueLen).map fun i => .log i 9 (List.replicate 128 34) none)).2.logQueue

set_option maxRecDepth 20000 in
/-- **`BodyBuf` cuts a logs payload**: after eight `LogInfo` calls of 128 quote bytes each, the
queue holds eight entries of 128 quotes; each quote escapes to two bytes, so the document is
longer than `BodyBuf`, and for every build's version and SHA `BuildLogsJSON` leaves at most its
2048 bytes, not the document. -/
theorem buildLogsJSON_truncates (version gitSHA : Bytes) :
    quoteFlood.entries.length = queueLen ∧
      (∀ entry ∈ quoteFlood.entries, entry.body = List.replicate 128 34) ∧
      (buildLogsJSON version gitSHA quoteFlood).1 ≤ bodyBufSize ∧
      bodyBufSize < (logsJson version gitSHA quoteFlood.entries).render.length ∧
      (buildLogsJSON version gitSHA quoteFlood).2 ≠ (logsJson version gitSHA quoteFlood.entries).render := by
  have text := logsJson_text version gitSHA quoteFlood.entries (by decide)
  have eight : quoteFlood.entries.length = queueLen := by decide
  have quotes : ∀ entry ∈ quoteFlood.entries, entry.body = List.replicate 128 34 := by
    decide
  have records : bodyBufSize < (intended (commaSeparated (quoteFlood.entries.map writeLogRecord))).length := by
    refine Nat.lt_of_lt_of_le ?_ (commaSeparated_length (2 * 128 + 2) _ ?_)
    · rw [List.length_map, eight]
      decide
    · simp only [List.mem_map]
      rintro r ⟨entry, mem, rfl⟩
      refine Nat.le_trans (Nat.le_of_eq ?_) (writeLogRecord_length_le entry)
      rw [writeBytes, quotes entry mem, List.take_length, writeString_quotes_length]
  have long : bodyBufSize < (logsJson version gitSHA quoteFlood.entries).render.length :=
    Nat.lt_of_lt_of_le records (text ▸ writePayload_length_le _ _ _ _ _)
  obtain ⟨kept, bounded⟩ := buildLogsJSON_length version gitSHA quoteFlood
  refine ⟨eight, quotes, bounded, long, fun same => ?_⟩
  rw [← same, kept] at long
  omega

end Bindicator.Telemetry
