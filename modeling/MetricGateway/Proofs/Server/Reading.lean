import MetricGateway.Proofs.Server.Course

/-!
# Reading reports

What a report holds is what those who read it get out of it, looking up its parts by their keys. The
reports of points, of names and of values give back all that was reported, one for one and in order
(`ofReport?_report`), and the text of a failure gives back its kind and its details
(`ofBody?_failure`, `ofBody?_metricNotFound`).
-/

namespace MetricGateway

open Json

/-! ## Parts of a report -/

namespace Json

/-- The truth value that stands under a key. -/
def flag? (key : String) (value : Json) : Option Bool :=
  match value.get? key with
  | some (.boolean b) => some b
  | _ => none

/-- The text that stands under a key. -/
def text? (key : String) (value : Json) : Option String := (value.get? key).bind asText?

/-- The items that stand under a key, each of them read. -/
def each? {α : Type} (key : String) (read : Json → Option α) (value : Json) : Option (List α) :=
  ((value.get? key).bind asList?).bind fun items => items.mapM read

/-- Values that are read one by one are read together. -/
theorem mapM_map_eq_some {α : Type} {read : Json → Option α} {write : α → Json}
    (h : ∀ value, read (write value) = some value) (values : List α) :
    (values.map write).mapM read = some values := by
  induction values with
  | nil => rfl
  | cons value rest ih =>
    rw [List.map_cons, List.mapM_cons, h, ih]
    rfl

/-- Items that were written one for one under a key are read one for one. -/
theorem each?_eq_some {α : Type} {key : String} {read : Json → Option α} {write : α → Json}
    {report : Json} {values : List α}
    (hitems : report.get? key = some (.array (values.map write)))
    (h : ∀ value, read (write value) = some value) : report.each? key read = some values := by
  unfold each?
  rw [hitems]
  exact mapM_map_eq_some h values

end Json

/-- Reads a raw point. -/
def RawPoint.ofJson? : Json → Option RawPoint
  | .array [.number (.float value), .number (.integer (.ofNat timestamp))] =>
    some { value, timestamp }
  | _ => none

/-- A raw point is read from its JSON. -/
theorem RawPoint.ofJson?_toJson (point : RawPoint) : ofJson? point.toJson = some point := rfl

/-- Reads a bucket. -/
def BucketPoint.ofJson? : Json → Option BucketPoint
  | .array [.number (.float value), .number (.integer (.ofNat start)),
      .number (.integer (.ofNat stop))] => some { value, start, stop }
  | _ => none

/-- A bucket is read from its JSON. -/
theorem BucketPoint.ofJson?_toJson (point : BucketPoint) : ofJson? point.toJson = some point := rfl

/-- Reads points, whose kind says what the parts of a point are. They are never a part only. -/
def Telemetry.ofJson? (points : Json) : Option Telemetry := do
  let kind ← points.text? "_type"
  let parts ← points.each? "dataFormat" asText?
  let isPartial ← points.flag? "isPartial"
  match isPartial, kind, parts with
  | false, "RawMetricTelemetry", ["value", "timestamp"] =>
    (points.each? "points" RawPoint.ofJson?).map .raw
  | false, "AggregatedMetricTelemetry", ["value", "startTimestamp", "endTimestamp"] =>
    (points.each? "points" BucketPoint.ofJson?).map .aggregated
  | _, _, _ => none

/-- Reads a page whose items stand under a key, with the text of each under another one. -/
def Page.ofJson? (items item : String) (page : Json) : Option Page := do
  let values ← page.each? items (Json.text? item)
  let isPartial ← page.flag? "isPartial"
  some { isPartial, values }

/-- A page is read from its items and its flag. -/
theorem Page.ofJson?_eq_some {items item : String} {write : String → Json} {report : Json}
    {page : Page} (hitems : report.get? items = some (.array (page.values.map write)))
    (hitem : ∀ value, Json.text? item (write value) = some value)
    (hflag : report.flag? "isPartial" = some page.isPartial) :
    Page.ofJson? items item report = some page := by
  unfold Page.ofJson?
  rw [Json.each?_eq_some hitems hitem, hflag]
  rfl

namespace Server

/-! ## Reports of results -/

/-- What a report of points holds under the key `telemetry`. -/
def pointsJson (telemetry : Telemetry) : Json :=
  .object [("_type", .string (telemetryName telemetry)), ("points", .array telemetry.items),
    ("dataFormat", .array ((pointParts telemetry).map Json.string)), ("isPartial", .boolean false)]

/-- The telemetry in a report is its points. -/
theorem get?_telemetryJson (telemetry : Telemetry) :
    (telemetryJson telemetry).get? "telemetry" = some (pointsJson telemetry) := rfl

/-- Points are read as they were reported, with the parts that their kind has. -/
theorem ofJson?_pointsJson (telemetry : Telemetry) :
    Telemetry.ofJson? (pointsJson telemetry) = some telemetry := by
  cases telemetry with
  | raw points =>
    have hpoints : (pointsJson (.raw points)).each? "points" RawPoint.ofJson? = some points :=
      Json.each?_eq_some rfl RawPoint.ofJson?_toJson
    change ((pointsJson (.raw points)).each? "points" RawPoint.ofJson?).map Telemetry.raw = _
    rw [hpoints]
    rfl
  | aggregated points =>
    have hpoints : (pointsJson (.aggregated points)).each? "points" BucketPoint.ofJson? =
        some points := Json.each?_eq_some rfl BucketPoint.ofJson?_toJson
    change ((pointsJson (.aggregated points)).each? "points" BucketPoint.ofJson?).map
      Telemetry.aggregated = _
    rw [hpoints]
    rfl

/-- A page of names is read from its report. -/
theorem ofJson?_namesJson (page : Page) :
    Page.ofJson? "fields" "fieldName" (namesJson page) = some page :=
  Page.ofJson?_eq_some rfl (fun _ => rfl) rfl

/-- A page of values is read from its report. -/
theorem ofJson?_valuesJson (page : Page) :
    Page.ofJson? "values" "value" (valuesJson page) = some page :=
  Page.ofJson?_eq_some rfl (fun _ => rfl) rfl

/-- What the operations of the gateway have to report. -/
inductive Product where
  | points (telemetry : Telemetry)
  | names (page : Page)
  | values (page : Page)

namespace Product

/-- The report of a product. -/
def report : Product → Json
  | points telemetry => telemetryJson telemetry
  | names page => namesJson page
  | values page => valuesJson page

/-- Reads a report. Its kind says what is reported. -/
def ofReport? (report : Json) : Option Product :=
  match report.text? "_type" with
  | some "MetricsResponse" => ((report.get? "telemetry").bind Telemetry.ofJson?).map points
  | some "FieldNamesResponse" => (Page.ofJson? "fields" "fieldName" report).map names
  | some "FieldValuesResponse" => (Page.ofJson? "values" "value" report).map values
  | _ => none

/-- A report gives back all that was reported. -/
theorem ofReport?_report (product : Product) : ofReport? product.report = some product := by
  cases product with
  | points telemetry =>
    change (((telemetryJson telemetry).get? "telemetry").bind Telemetry.ofJson?).map points = _
    rw [get?_telemetryJson, Option.bind_some, ofJson?_pointsJson]
    rfl
  | names page => exact congrArg (Option.map names) (ofJson?_namesJson page)
  | values page => exact congrArg (Option.map values) (ofJson?_valuesJson page)

end Product

/-! ## Reports of failures -/

/-- What the report of a failure says. -/
inductive Failure where
  /-- Any failure but the next one. -/
  | remote (summary : String) (details : Json)
  /-- The metric is not found. -/
  | metricNotFound (metric : String) (details : Option String)

namespace Failure

/-- Reads a text that may be null. -/
def optionalText? : Json → Option (Option String)
  | .null => some none
  | .string s => some (some s)
  | _ => none

/-- Reads the report of a failure. -/
def ofJson? (report : Json) : Option Failure :=
  match report.text? "_type" with
  | some "RemoteMirrorError" => do
    let details ← report.get? "details"
    let summary ← report.text? "summary"
    some (.remote summary details)
  | some "MetricNotFoundError" => do
    let details ← (report.get? "details").bind optionalText?
    let metric ← report.text? "metric"
    some (.metricNotFound metric details)
  | _ => none

/-- Reads the body of an answer as the report of a failure. -/
def ofBody? (body : String) : Option Failure := (parse body).toOption.bind ofJson?

/-- A failure is read as it was reported. -/
theorem ofBody?_failure (summary : String) {details : Json} (h : IsDetails details) :
    ofBody? (failure summary details).body = some (.remote summary details) := by
  have hparse : parse (failure summary details).body = .ok (failureJson summary details) :=
    parse_print (isPlain_failureJson summary h)
  unfold ofBody?
  rw [hparse]
  rfl

/-- So is the failure to find a metric, with its details or without any. -/
theorem ofBody?_metricNotFound (metric : String) (details : Option String) :
    ofBody? (Server.metricNotFound metric (ofText? details)).body =
      some (.metricNotFound metric details) := by
  have hdetails : IsDetails (ofText? details) := by
    cases details with
    | none => exact .null
    | some text => exact .string text
  have hparse : parse (Server.metricNotFound metric (ofText? details)).body =
      .ok (.object [("_type", .string "MetricNotFoundError"), ("details", ofText? details),
        ("metric", .string metric)]) :=
    parse_print (isPlain_detailed "MetricNotFoundError" metric (by decide) hdetails)
  unfold ofBody?
  rw [hparse]
  cases details <;> rfl

end Failure

end Server

end MetricGateway
