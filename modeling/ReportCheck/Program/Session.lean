import ReportCheck.Program.Arguments
import ReportCheck.Program.FilePath
import ReportCheck.Load.Settings
import ReportCheck.Upload.Manifest
import ReportCheck.Report
import ReportCheck.Tab.Standard

/-! # Command line

  What the program does for a request, apart from touching files and streams.

  - `Invocation.perform` validates the content of a manifest's file with the standard
    validators and the settings of the environment.
  - `Session` is what is left to do: the file to write, the text and the log to show, and
    how to end.
-/

namespace ReportCheck

/-- How the program ends. -/
inductive Ending where
  /-- With 0 for a report without findings, 1 for one with findings, 2 for a misuse. -/
  | code (n : Nat)
  /-- With a message to the caller. -/
  | message (text : String)
  deriving DecidableEq, Repr

/-- **Sessions.** What a request leads to. -/
structure Session where
  ending : Ending
  /-- The text for the standard output. -/
  output : String := ""
  /-- The text for the log. -/
  log : String := ""
  /-- The path and the content of a file to write. -/
  file : Option (String × String) := none
  deriving DecidableEq, Repr

namespace Session

/-- How to use the program. -/
def usage : String :=
  "usage: report-check [-h] [--format TEXT|JSON] [--output FILE] [--verbose] manifest\n"

/-- A wrong use of the program. -/
def misuse : Session where
  ending := .code 2

/-- A request for help. -/
def help : Session where
  ending := .code 0
  output := usage

end Session

/-- The wording of a fault of a file. -/
def FileFault.message (path : String) : FileFault → String
  | notFound => "[Errno 2] No such file or directory: " ++ Text.quoted path
  | isFolder => "[Errno 21] Is a directory: " ++ Text.quoted path
  | notAFolder => "[Errno 20] Not a directory: " ++ Text.quoted path

/-- A line of the log as it is shown. -/
def LogLine.shown (line : LogLine) : String :=
  line.level ++ " common.validate_data." ++ line.source ++ ": " ++ line.text ++ "\n"

namespace Invocation

/-- The log as it is shown: without diagnostics, unless they are asked for. -/
def showLog (o : Invocation) (log : List LogLine) : String :=
  String.join ((log.filter fun line => o.verbose || line.isWarning).map LogLine.shown)

/-- The report in the format that is asked for. Rows have to be short enough in both. -/
def body (o : Invocation) (findings : List Finding) : Except Failure String := do
  let document ← (Report.document findings).mapError Failure.document
  match o.format with
  | .text => return Report.text findings
  | .json => return Json.renderIndented document

/-- The message that a manifest cannot be read. -/
def unreadable (o : Invocation) (reason : String) : Session where
  ending := .message ("Could not read manifest " ++ o.manifest ++ ": " ++ reason)

/-- **Delivery** of the findings, to a file or to the standard output. -/
def deliver (o : Invocation) (findings : List Finding) (log : String) : Except Failure Session := do
  let ending := Ending.code (if findings.isEmpty then 0 else 1)
  let body ← o.body findings
  match o.output with
  | none | some "" => return { ending, log, output := body ++ "\n" }
  | some path =>
    let path := FilePath.normal path
    return {
      ending, log
      output := "Wrote " ++ LogLine.natText findings.length ++ " findings to " ++ path ++ "\n"
      file := some (path, body) }

/-- The session for a readable manifest. A failure that is addressed to the caller ends it
    with a message; every other failure stays one. -/
def validate (o : Invocation) (environment : Settings.Variables) (document : Cell) :
    Except Failure Session := do
  let settings ← (Settings.ofEnvironment environment).mapError Failure.misfits
  let run := Manifest.validate document Standard.validators settings
  match run.outcome with
  | .ok findings => o.deliver findings (o.showLog run.log)
  | .error cause =>
    match cause.message? with
    | some message =>
      return { ending := .message ("Invalid validation input: " ++ message), log := o.showLog run.log }
    | none => .error cause

/-- **The session** for the content of the manifest's file. -/
def perform (o : Invocation) (environment : Settings.Variables) :
    Except FileFault String → Except Failure Session
  | .error cause => .ok (o.unreadable (cause.message (FilePath.normal o.manifest)))
  | .ok content =>
    match Json.read content with
    | .ok document => o.validate environment document
    | .error .malformed => .ok (o.unreadable "not a JSON document")
    | .error cause => .error (.document cause)

end Invocation

end ReportCheck
