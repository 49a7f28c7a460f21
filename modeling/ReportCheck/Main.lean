import ReportCheck.Program.Session

/-! # Program

  Reads the arguments, the environment and the manifest, and carries out the session.
-/

namespace ReportCheck.Main

/-- The content of a file, or why there is none. -/
def readManifest (path : String) : IO (Except FileFault String) := do
  try
    return .ok (← IO.FS.readFile path)
  catch _ =>
    return .error .notFound

/-- A variable of the environment, empty if it is not set. -/
def readVariable (name : String) : IO String := do
  return (← IO.getEnv name).getD ""

/-- The variables that settings are read from. -/
def environment : IO Settings.Variables := do
  let maxFindingsPerTab ← readVariable "VALIDATION_MAX_FINDINGS_PER_TAB"
  let allowUnknownTabs ← readVariable "VALIDATION_ALLOW_UNKNOWN_TABS"
  let programStart ← readVariable "VALIDATION_FIRST_PERIOD_START"
  return { maxFindingsPerTab, allowUnknownTabs, programStart }

/-- Carries out a session. -/
def carryOut (session : Session) : IO UInt32 := do
  IO.eprint session.log
  match session.file with
  | some (path, content) => IO.FS.writeFile path content
  | none => pure ()
  IO.print session.output
  match session.ending with
  | .code n => return n.toUInt32
  | .message text =>
    IO.eprintln text
    return 1

/-- Validates the manifest that the options name. -/
def validate (options : Invocation) : IO UInt32 := do
  let content ← readManifest options.manifest
  match options.perform (← environment) content with
  | .ok session => carryOut session
  | .error failure =>
    IO.eprintln failure.message
    return 1

end ReportCheck.Main

/-- **Entry point.** -/
def main (arguments : List String) : IO UInt32 :=
  match ReportCheck.Request.ofArguments arguments with
  | .validate options => ReportCheck.Main.validate options
  | .help => ReportCheck.Main.carryOut ReportCheck.Session.help
  | .misuse => do
    IO.eprint ReportCheck.Session.usage
    ReportCheck.Main.carryOut ReportCheck.Session.misuse
