import Cadence.Config.Error
import Cadence.Config.Lookback
import Cadence.Count
import Cadence.Decimal.Shortest
import Cadence.Decimal.Stepwise
import Cadence.Document.Basic
import Cadence.Document.Decode
import Cadence.Document.Failure
import Cadence.Document.Forms
import Cadence.Document.Numeral
import Cadence.Document.Pretty
import Cadence.Document.Reader
import Cadence.Frequency
import Cadence.Granularity
import Cadence.JobStatus
import Cadence.Main
import Cadence.Plan
import Cadence.Proofs.Buckets
import Cadence.Proofs.Civil
import Cadence.Proofs.Clock
import Cadence.Schedule.Error
import Cadence.Schedule.Job
import Cadence.Schedule.Timeline
import Cadence.Schedule.Times
import Cadence.Schedule.Window
import Cadence.Store.Keys
import Cadence.Store.Params
import Cadence.Store.RecordKind
import Cadence.Store.Settings
import Cadence.Text.Blank
import Cadence.Text.Case
import Cadence.Text.Escaped
import Cadence.Text.Numeral
import Cadence.Text.Quoted
import Cadence.Time.Civil
import Cadence.Time.Instant
import Cadence.Time.Minutes
import Cadence.Time.Rfc3339
import Cadence.Time.Shift
import Cadence.Token
import Cadence.Vocabulary
import Cadence.Word
import Cadence.Proofs.Lifecycle
import Cadence.Proofs.AnalysisWindow
import Cadence.Proofs.ParamsMap
import Cadence.Proofs.Vocabulary
import Cadence.Proofs.JobDocument
import Cadence.Proofs.ScheduleTimes
import Cadence.Proofs.Timeline
import Cadence.Proofs.Moves
import Cadence.Proofs.Reschedule
import Cadence.Proofs.Backfill
import Cadence.Proofs.Numeral
import Cadence.Proofs.Configuration
import Cadence.Proofs.KindParams
import Cadence.Proofs.CheckedFloor
