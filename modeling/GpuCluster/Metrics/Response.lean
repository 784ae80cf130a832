import GpuCluster.Metrics.Sample
import GpuCluster.Text.Json.Parse
import GpuCluster.Text.Json.Record
import GpuCluster.Text.Quoted

/-!
# Answers of a metrics service

A body is read in stages, and the first stage that fails names the error: the envelope, the status,
the data, its type, the series, and last the numbers.

* `Envelope.read?`, `Content.read?`, `Series.read?` : the parts of a body;
* `samples` : the samples of a body.
-/

namespace GpuCluster

namespace Error

def invalidResponse : Error := .metrics "invalid query response"

def noData : Error := .metrics "query response has no data"

def unexpectedResultType (type : String) : Error := .metrics ("unexpected result type: " ++ type)

def invalidVector : Error := .metrics "invalid vector result"

def invalidSampleValue (text : String) (reason : Decimal.FloatError) : Error :=
  .metrics ("invalid sample value " ++ Quoted.quote text ++ ": " ++ reason.message)

end Error

namespace Metrics

/-- The data of a body: what kind of result it is and the result, not yet looked at. -/
structure Content where
  resultType : String
  result : Json

/-- How many arrays and objects lie around a result. -/
def Content.outerDepth : Nat := 2

/-- Read the data of a body. The result must be readable. -/
def Content.read? (j : Json) : Option Content := do
  let r ← Record.open? ["resultType", "result"] j
  let resultType ← r.require "resultType" Json.text?
  let result ← r.require "result" fun j => if j.readable outerDepth then some j else none
  return ⟨resultType, result⟩

/-- A body: whether the query succeeded, with the data or the reason. -/
structure Envelope where
  status : String
  data : Option Content
  error : Option String

/-- Read a body. Data and reason may be null or absent. -/
def Envelope.read? (j : Json) : Option Envelope := do
  let r ← Record.open? ["status", "data", "error"] j
  return {
    status := ← r.require "status" Json.text?
    data := ← r.orDefault "data" none (Json.nullOr? Content.read?)
    error := ← r.orDefault "error" none (Json.nullOr? Json.text?) }

/-- One series as written: its labels and its number, still a text. -/
structure Series where
  labels : Bindings String
  value : String

/-- A pair of a time, which is not kept, and the text of a number. -/
def Series.point? : Json → Option String
  | .arr [.num _, .str value] => some value
  | _ => none

/-- Read one series. Labels may be absent but not null. -/
def Series.read? (j : Json) : Option Series := do
  let r ← Record.open? ["metric", "value"] j.withLastMembers
  return {
    labels := ← r.orDefault "metric" ∅ (Json.mapOf? Json.text?)
    value := ← r.require "value" point? }

def Series.sample (s : Series) : Except Error Sample :=
  match Decimal.parseFloat s.value with
  | .ok x => .ok ⟨s.labels, x⟩
  | .error reason => .error (.invalidSampleValue s.value reason)

def Content.samples (c : Content) : Except Error (List Sample) :=
  if c.resultType ≠ "vector" then .error (.unexpectedResultType c.resultType)
  else match c.result.listOf? Series.read? with
    | none => .error .invalidVector
    | some series => series.mapM Series.sample

/-- The samples of a body that was read. -/
def Envelope.samples (e : Envelope) : Except Error (List Sample) :=
  if e.status ≠ "success" then .error (.metrics (e.error.getD e.status))
  else match e.data with
    | none => .error .noData
    | some content => content.samples

def samples (body : String) : Except Error (List Sample) :=
  match (Json.parse? body).bind Envelope.read? with
  | none => .error .invalidResponse
  | some e => e.samples

end Metrics

end GpuCluster
