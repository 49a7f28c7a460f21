import ReportCheck.Settings
import ReportCheck.Failure
import ReportCheck.Tab.Validator

/-! # Validation runs

  A run puts the records of an upload before a list of validators.

  - `unknownTabs` are the tabs with records that nobody looks at; unless the settings
    allow them they end the run before any validator is called.
  - `Validator.block` is what one validator adds to the report: its first findings, up
    to the number that the settings keep.
  - `run` joins the blocks in the order of the validators. It is `runCalling` with the
    blocks for the calls.
-/

namespace ReportCheck

/-- The tabs that a run covers. The tab of the subrecipients is among them, because its
    records are used even if no validator checks them. -/
def coveredTabs (validators : List Validator) (settings : Settings) : List String :=
  settings.subrecipientTab :: validators.map (·.tab)

/-- **Unknown tabs** of an upload. -/
def unknownTabs (validators : List Validator) (settings : Settings) (set : RecordGroups) :
    List String :=
  set.tabs.filter fun tab => !(coveredTabs validators settings).contains tab

/-- The check for unknown tabs. -/
def checkTabs (validators : List Validator) (settings : Settings) (set : RecordGroups) :
    Except Failure Unit :=
  if settings.allowUnknownTabs || (unknownTabs validators settings set).isEmpty then .ok ()
  else .error (.unknownTabs (.ofList (unknownTabs validators settings set)))

/-- The lines that are logged about the findings of a validator. -/
def Validator.summaryLines (v : Validator) (limit : Nat) (set : RecordGroups)
    (found : List Finding) : List LogLine :=
  .tabChecked v.tab (set.on v.tab).length found.length ::
    (if limit < found.length then [.tabCut v.tab limit found.length] else [])

/-- **Block** of a validator in the report. -/
def Validator.block (limit : Nat) (set : RecordGroups) (ctx : Context) (v : Validator) :
    Traced Failure (List Finding) := do
  let found ← (v.findings set ctx).mapError Failure.fault
  Traced.noteAll (v.summaryLines limit set found)
  return found.take limit

/-- **A run with its calls as a parameter.** -/
def runCalling (call : Validator → Traced Failure (List Finding)) (validators : List Validator)
    (settings : Settings) (set : RecordGroups) : Traced Failure (List Finding) := do
  Traced.ofExcept (checkTabs validators settings set)
  Traced.collect call validators

/-- **Runs.** The findings of all validators. -/
def run (validators : List Validator) (settings : Settings) (set : RecordGroups) (ctx : Context) :
    Traced Failure (List Finding) :=
  runCalling (Validator.block settings.maxFindingsPerTab set ctx) validators settings set

end ReportCheck
