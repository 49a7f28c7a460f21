import ReportCheck.Settings
import ReportCheck.Load.Day
import ReportCheck.Text.Lower

/-! # Loading settings

  Settings come as an object or from the environment of the program.

  - `Settings.ofCell` loads an object; every member has a default.
  - `Settings.ofEnvironment` reads the variables named in `Settings.Variables`. A variable
    that is blank counts as not set.
-/

namespace ReportCheck

open Loaded (build)
open Text

namespace Settings

/-- The settings in the members of an object. -/
def ofMembers (members : Members) : Loaded Settings :=
  let default : Settings := {}
  (build Settings.mk).and
      (members.optional "max_findings_per_tab" default.maxFindingsPerTab Loaded.count)
    |>.and (members.optional "subrecipient_tab" default.subrecipientTab Loaded.text)
    |>.and (members.optional "first_reporting_period_start_date" default.programStart Loaded.day)
    |>.and (members.optional "allow_unknown_tabs" default.allowUnknownTabs Loaded.truth)

/-- **Loading settings.** -/
def ofCell : Cell → Loaded Settings := Loaded.model ofMembers

/-! ### Environment -/

/-- The variables of the environment that settings are read from. -/
structure Variables where
  maxFindingsPerTab : String := ""
  allowUnknownTabs : String := ""
  programStart : String := ""
  deriving Repr

/-- The words that allow unknown tabs. -/
def allowingWords : List String := ["1", "true", "yes", "on"]

/-- A member for a variable that is not blank. -/
def memberOf (name : String) (value : String) (read : String → Cell) : Members :=
  let body := String.ofList (trim value.toList)
  if body.isEmpty then [] else [(name, read body)]

/-- **Settings from the environment.** Any word but the allowing ones forbids unknown
    tabs. -/
def ofEnvironment (v : Variables) : Loaded Settings :=
  ofMembers <|
    memberOf "max_findings_per_tab" v.maxFindingsPerTab .text
      ++ memberOf "allow_unknown_tabs" v.allowUnknownTabs
          (fun word => .bool (allowingWords.contains (lower word)))
      ++ memberOf "first_reporting_period_start_date" v.programStart .text

end Settings

end ReportCheck
