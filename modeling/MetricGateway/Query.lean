import MetricGateway.Aggregation
import MetricGateway.Condition
import MetricGateway.Connection

/-!
# Queries

A query asks for the samples of one metric, or for names and values of fields, without regard to
the store that holds them. Requests pair a query with the connection to the store.
-/

namespace MetricGateway

/-- A field of the store: a label, with its type. -/
structure FieldDescriptor where
  kind : String := "FieldDescriptor"
  classified : Bool := false
  type : String := "STRING"
  name : String
  deriving DecidableEq, Repr

namespace FieldDescriptor

/-- A field as JSON. -/
def toJson (field : FieldDescriptor) : Json :=
  .object [
    ("_type", .string field.kind),
    ("classified", .boolean field.classified),
    ("fieldType", .string field.type),
    ("fieldName", .string field.name)]

/-- The parts of a field while they are read. -/
structure Draft where
  kind : Option String := none
  classified : Option Bool := none
  type : Option String := none
  name : Option String := none

/-- How a field is read. -/
def record : Json.Record Draft FieldDescriptor where
  name := "FieldDescriptor"
  fields := [
    Json.field "_type" true Draft.kind (fun d v => { d with kind := some v }) Json.readString,
    Json.field "classified" true Draft.classified (fun d v => { d with classified := some v })
      Json.readBoolean,
    Json.field "fieldType" true Draft.type (fun d v => { d with type := some v }) Json.readString,
    Json.field "fieldName" false Draft.name (fun d v => { d with name := some v })
      Json.readString]
  empty := {}
  build draft := do
    let name ← Json.require "fieldName" draft.name
    let plain : FieldDescriptor := { name }
    pure {
      kind := draft.kind.getD plain.kind
      classified := draft.classified.getD plain.classified
      type := draft.type.getD plain.type
      name }

/-- Reads a field. -/
def read : Json.Reader FieldDescriptor := record.read

end FieldDescriptor

/-- How samples are combined into buckets of time. -/
structure Aggregation where
  /-- The name of the method, as it was given. -/
  methodName : String
  /-- The width of a bucket, as it was given. -/
  bucketMillis : Nat
  deriving DecidableEq, Repr

/-- The least width of a bucket. -/
def minBucketMillis : Nat := 30000

namespace Aggregation

/-- The method that is named. -/
def method (aggregation : Aggregation) : Except QueryError Method :=
  Method.ofName aggregation.methodName

/-- The width of a bucket, never less than the least one. -/
def effectiveMillis (aggregation : Aggregation) : Nat :=
  max aggregation.bucketMillis minBucketMillis

/-- The width of a bucket if none is given. -/
def defaultBucketMillis : Nat := 10000

/-- An aggregation as JSON. -/
def toJson (aggregation : Aggregation) : Json :=
  .object [
    ("method", .string aggregation.methodName),
    ("bucketSizeMillis", .ofNat aggregation.bucketMillis)]

/-- The parts of an aggregation while they are read. -/
structure Draft where
  methodName : Option String := none
  bucketMillis : Option Nat := none

/-- How an aggregation is read. -/
def record : Json.Record Draft Aggregation where
  name := "Aggregation"
  fields := [
    Json.field "method" false Draft.methodName (fun d v => { d with methodName := some v })
      Json.readString,
    Json.field "bucketSizeMillis" true Draft.bucketMillis
      (fun d v => { d with bucketMillis := some v }) (Json.readNat "u64")]
  empty := {}
  build draft := do
    pure {
      methodName := ← Json.require "method" draft.methodName
      bucketMillis := draft.bucketMillis.getD defaultBucketMillis }

/-- Reads an aggregation. -/
def read : Json.Reader Aggregation := record.read

end Aggregation

/-- What is asked of a store. -/
structure Query where
  conditions : List Condition := []
  /-- The field whose values are asked for. -/
  field : Option FieldDescriptor := none
  aggregation : Option Aggregation := none
  /-- The field that holds the metric, as it was given. It has no influence. -/
  metricField : Option String := none
  /-- The start of the range of time, in milliseconds. -/
  startMillis : Nat := 0
  /-- The end of the range of time, in milliseconds. -/
  endMillis : Nat := 0
  /-- Whether the last points are wanted first, as it was given. It has no influence. -/
  lastFirst : Bool := false
  /-- What the values of the field begin with. -/
  valueStart : Option String := some ""
  /-- How many points, names or values are wanted at most. -/
  limit : Nat := 1000
  /-- How many values come before the wanted ones. -/
  offset : Option Nat := none
  deriving DecidableEq

namespace Query

/-- The query for the conditions in a range of time, from the first value on. -/
def ofRange (conditions : List Condition) (startMillis endMillis : Nat) : Query :=
  { conditions, startMillis, endMillis, offset := some 0 }

/-- The offset of the wanted values, none if it is not given. -/
def effectiveOffset (query : Query) : Nat := query.offset.getD 0

/-- The width of a bucket and of a step of the query. -/
def windowMillis (query : Query) : Nat :=
  match query.aggregation with
  | some aggregation => aggregation.effectiveMillis
  | none => minBucketMillis

/-- An optional part as JSON. -/
def optionalJson {α : Type} (toJson : α → Json) : Option α → Json
  | some part => toJson part
  | none => .null

/-- A query as JSON. -/
def toJson (query : Query) : Json :=
  .object [
    ("conditions", .array (query.conditions.map Condition.toJson)),
    ("field", optionalJson FieldDescriptor.toJson query.field),
    ("aggregation", optionalJson Aggregation.toJson query.aggregation),
    ("metricField", .ofText? query.metricField),
    ("startTime", .ofNat query.startMillis),
    ("endTime", .ofNat query.endMillis),
    ("lastFirst", .boolean query.lastFirst),
    ("fieldValuePrefix", .ofText? query.valueStart),
    ("limit", .ofNat query.limit),
    ("offset", optionalJson Json.ofNat query.offset)]

/-- The parts of a query while they are read. -/
structure Draft where
  conditions : Option (List Condition) := none
  field : Option (Option FieldDescriptor) := none
  aggregation : Option (Option Aggregation) := none
  metricField : Option (Option String) := none
  startMillis : Option Nat := none
  endMillis : Option Nat := none
  lastFirst : Option Bool := none
  valueStart : Option (Option String) := none
  limit : Option Nat := none
  offset : Option (Option Nat) := none

/-- The query without any part given. -/
def blank : Query := {}

/-- How a query is read. -/
def record : Json.Record Draft Query where
  name := "Query"
  fields := [
    Json.field "conditions" true Draft.conditions (fun d v => { d with conditions := some v })
      (Json.readList Condition.read),
    Json.field "field" true Draft.field (fun d v => { d with field := some v })
      (Json.readOptional FieldDescriptor.read),
    Json.field "aggregation" true Draft.aggregation (fun d v => { d with aggregation := some v })
      (Json.readOptional Aggregation.read),
    Json.field "metricField" true Draft.metricField (fun d v => { d with metricField := some v })
      (Json.readOptional Json.readString),
    Json.field "startTime" true Draft.startMillis (fun d v => { d with startMillis := some v })
      (Json.readNat "u64"),
    Json.field "endTime" true Draft.endMillis (fun d v => { d with endMillis := some v })
      (Json.readNat "u64"),
    Json.field "lastFirst" true Draft.lastFirst (fun d v => { d with lastFirst := some v })
      Json.readBoolean,
    Json.field "fieldValuePrefix" true Draft.valueStart
      (fun d v => { d with valueStart := some v }) (Json.readOptional Json.readString),
    Json.field "limit" true Draft.limit (fun d v => { d with limit := some v })
      (Json.readNat "usize"),
    Json.field "offset" true Draft.offset (fun d v => { d with offset := some v })
      (Json.readOptional (Json.readNat "usize"))]
  empty := {}
  build draft := .ok {
    conditions := draft.conditions.getD blank.conditions
    field := draft.field.getD blank.field
    aggregation := draft.aggregation.getD blank.aggregation
    metricField := draft.metricField.getD blank.metricField
    startMillis := draft.startMillis.getD blank.startMillis
    endMillis := draft.endMillis.getD blank.endMillis
    lastFirst := draft.lastFirst.getD blank.lastFirst
    valueStart := draft.valueStart.getD blank.valueStart
    limit := draft.limit.getD blank.limit
    offset := draft.offset.getD blank.offset }

/-- Reads a query. -/
def read : Json.Reader Query := record.read

end Query

/-- A query to a store. -/
structure QueryRequest where
  connection : Connection
  query : Query

namespace QueryRequest

/-- The parts of a request while they are read. -/
structure Draft where
  connection : Option Connection := none
  query : Option Query := none

/-- How a request is read. -/
def record : Json.Record Draft QueryRequest where
  name := "MirrorRequest"
  fields := [
    Json.field "connectionDetails" false Draft.connection
      (fun d v => { d with connection := some v }) Connection.read,
    Json.field "query" false Draft.query (fun d v => { d with query := some v }) Query.read]
  empty := {}
  build draft := do
    let connection ← Json.require "connectionDetails" draft.connection
    let query ← Json.require "query" draft.query
    pure { connection, query }

/-- Reads a request. -/
def read : Json.Reader QueryRequest := record.read

end QueryRequest

/-- A question whether a store can be reached. -/
structure ConnectionRequest where
  connection : Connection

namespace ConnectionRequest

/-- How a request is read. -/
def record : Json.Record (Option Connection) ConnectionRequest where
  name := "TestConnectionRequest"
  fields := [
    Json.field "connectionDetails" false id (fun _ v => some v) Connection.read]
  empty := none
  build draft := do pure { connection := ← Json.require "connectionDetails" draft }

/-- Reads a request. -/
def read : Json.Reader ConnectionRequest := record.read

end ConnectionRequest

end MetricGateway
