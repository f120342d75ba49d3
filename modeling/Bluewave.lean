import Bluewave.Lib.Keyed
import Bluewave.Lib.Transaction
import Bluewave.Lib.Transition
import Bluewave.Lib.Cipher
import Bluewave.Lib.Zone
import Bluewave.Lib.Fold
import Bluewave.Lib.XPath
import Bluewave.Lib.Stateful
import Bluewave.Lib.Logged
import Bluewave.Lib.Result
import Bluewave.Lib.PrefixCode
import Bluewave.Lib.Utf8
import Bluewave.Lib.CsvReader
import Bluewave.Lib.Links
import Bluewave.Lib.Paging
import Bluewave.Exceptions
import Bluewave.Config
import Bluewave.Tables
import Bluewave.Datetime
import Bluewave.Dedup
import Bluewave.Transform
import Bluewave.JsonText
import Bluewave.Collisions
import Bluewave.LogFormat
import Bluewave.ConfigStore
import Bluewave.ConfigHistory
import Bluewave.Scheduler
import Bluewave.PostConfig
import Bluewave.DailyJob
import Bluewave.Selectors
import Bluewave.SafeDriver
import Bluewave.ReportFlow
import Bluewave.Download
import Bluewave.DateInputs
import Bluewave.DateRange
import Bluewave.Rotation
import Bluewave.Sink
import Bluewave.Runs
import Bluewave.RunsLifecycle
import Bluewave.RunHistory
import Bluewave.DateText
import Bluewave.RunJob
import Bluewave.RunOutcome
import Bluewave.Atomicity
import Bluewave.Accounting
import Bluewave.ScheduledRepeat
import Bluewave.Ingestion
import Bluewave.DryRun
import Bluewave.CsvFile
import Bluewave.DryRunSafety
import Bluewave.Orchestrator
import Bluewave.SingleFlight
import Bluewave.Wakeup
import Bluewave.Drain
import Bluewave.Catchup
import Bluewave.CatchupWindow
import Bluewave.DailyFire
import Bluewave.NextRun
import Bluewave.Boot
import Bluewave.Coverage
import Bluewave.RunRequests
import Bluewave.Auth
import Bluewave.HeadKey
import Bluewave.Web
import Bluewave.Numerals
import Bluewave.Schema
import Bluewave.Drift
import Bluewave.ColumnDrift
import Bluewave.Healthz
import Bluewave.Lib.Markup
import Bluewave.Pages
import Bluewave.ConfigForm
import Bluewave.Lib.JsonReader
import Bluewave.LogStream
import Bluewave.Credentials
import Bluewave.Probes
import Bluewave.Provenance
import Bluewave.AtomicQueue
import Bluewave.Bootstrap
import Bluewave.RunPages
