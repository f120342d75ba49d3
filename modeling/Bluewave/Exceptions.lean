/-! The exceptions a run can end in, and the status each is recorded under. -/
namespace Bluewave.Exceptions

/-- `RunFailure` and its subclasses, `transform`'s `MalformedCsvError` included. -/
inductive RunFailure where
  | runFailure
  | authFailed
  | navFailed
  | reportTimeout
  | downloadFailed
  | parseFailed
  | malformedCsvError
  | ingestFailed
  | schemaDriftError
  | denylistedSelector
  deriving DecidableEq

/-- The class attribute `status`. The base class and `MalformedCsvError` set or
inherit theirs. -/
def RunFailure.status : RunFailure → String
  | .runFailure => "ingest_failed"
  | .authFailed => "auth_failed"
  | .navFailed => "nav_failed"
  | .reportTimeout => "report_timeout"
  | .downloadFailed => "download_failed"
  | .parseFailed => "parse_failed"
  | .malformedCsvError => "parse_failed"
  | .ingestFailed => "ingest_failed"
  | .schemaDriftError => "schema_drift"
  | .denylistedSelector => "nav_failed"

def RunFailure.name : RunFailure → String
  | .runFailure => "RunFailure"
  | .authFailed => "AuthFailed"
  | .navFailed => "NavFailed"
  | .reportTimeout => "ReportTimeout"
  | .downloadFailed => "DownloadFailed"
  | .parseFailed => "ParseFailed"
  | .malformedCsvError => "MalformedCsvError"
  | .ingestFailed => "IngestFailed"
  | .schemaDriftError => "SchemaDriftError"
  | .denylistedSelector => "DenylistedSelector"

/-- Anything an `except Exception` catches: a run failure with its message, or
another exception with its type name and text. -/
inductive Exn where
  | runFailure (cls : RunFailure) (message : String)
  | other (type : String) (text : String)
  deriving DecidableEq

/-- `f"{type(e).__name__}: {e}"`. -/
def Exn.describe : Exn → String
  | .runFailure cls message => cls.name ++ ": " ++ message
  | .other type text => type ++ ": " ++ text

def valueError (text : String) : Exn := .other "ValueError" text

def overflowError (text : String) : Exn := .other "OverflowError" text

/-- MySQL's answer to a duplicate key, as pymysql raises it. -/
def duplicateEntry (key : String) : Exn :=
  .other "IntegrityError" ("(1062, \"Duplicate entry for key '" ++ key ++ "'\")")

end Bluewave.Exceptions
