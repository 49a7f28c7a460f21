import ReportCheck.Tab.Registry

/-! # Standard validators

  The rules of the report's four tabs, in the order in which findings are reported.
-/

namespace ReportCheck.Standard

open Predicate (check)

/-- A rule with a message of its own. -/
def rule (field : String) (predicate : Predicate) (message : String) : Rule :=
  { field, predicate, message := some message }

/-- A rule whose message shows the cell as a date. -/
def dateRule (field : String) (predicate : Predicate) (message : String) : Rule :=
  { rule field predicate message with options := { showsDate := true } }

/-- A rule that applies while a tag is active. -/
def taggedRule (tag field : String) (predicate : Predicate) (message : String) : Rule :=
  { rule field predicate message with options := { tags := some (.ofList [tag]) } }

/-- A predicate behind a guard. -/
def whenever (kind : GuardKind) (key : String) (inner : Predicate) : Predicate :=
  .guarded ⟨kind, key⟩ inner

/-- **Certification**: who reviewed the report, and when. -/
def certification : Validator where
  tab := "certification"
  scope := .singleRecord
    "Certification requires a row with \"agency financial reviewer name\" and \"date\"" 2
  rules :=
    [ rule "agency financial reviewer name" (check .isNotBlank)
        "Agency financial reviewer name must not be blank",
      dateRule "date" (check .isValidDate)
        "Certification date \"\x7b\x7d\" must be a valid date" ]

/-- **Cover**: the agency and the project, which the file's name repeats. -/
def cover : Validator where
  tab := "cover"
  scope := .singleRecord "Cover requires a row with \"agency code\" and \"project id\"" 2
  rules :=
    [ rule "agency code" (check .isNotBlank) "Agency code must not be blank",
      rule "agency code" (check (.matchesFilePart "agencyCode"))
        "The agency code \"\x7b\x7d\" in the file name does not match the cover's agency code",
      rule "project id" (check .isNotBlank) "Project id must not be blank",
      rule "project id" (check (.matchesFilePart "projectId"))
        "The project id \"\x7b\x7d\" in the file name does not match the cover's project id" ]

/-- **Subrecipients**: who receives money, identified in one of three ways. -/
def subrecipient : Validator where
  tab := "subrecipient"
  scope := .allRecords
  rules :=
    [ rule "identification number" (check .hasSubrecipientKey)
        "Each subrecipient must have either an identification number, a DUNS number or an EIN",
      rule "duns number"
        (whenever .blank "identification number"
          (whenever .blank "ein number" (check .isNotBlank)))
        "A DUNS number is required when no identification number or EIN is given",
      rule "legal name" (check .isNotBlank) "Legal name must not be blank",
      rule "address line 1" (check .isNotBlank) "Address line 1 must not be blank",
      rule "city name" (check .isNotBlank) "City name must not be blank",
      rule "state code" (whenever .us "country name" (check .isValidState))
        "State code \"\x7b\x7d\" is not valid",
      rule "zip" (whenever .us "country name" (check .isValidZip)) "Zip \"\x7b\x7d\" is not valid",
      rule "country name" (check (.dropdownIncludes "country"))
        "Country name \"\x7b\x7d\" is not valid",
      rule "organization type" (check (.dropdownIncludes "organization type"))
        "Organization type \"\x7b\x7d\" is not valid" ]

/-- The fields that add up to the total expenditure. -/
def expenditureCategories : List String :=
  [ "budgeted personnel and services diverted", "covid-19 testing and contact tracing",
    "public health expenses", "payroll for public health and safety employees",
    "other expenditure amount" ]

/-- **Grants**: the awards and what was spent. -/
def grants : Validator where
  tab := "grants"
  scope := .allRecords
  rules :=
    [ rule "award number" (check .isNotBlank) "Award number must not be blank",
      rule "subrecipient id" (check .isValidSubrecipient)
        "Subrecipient ID \"\x7b\x7d\" is not listed in the subrecipient tab",
      rule "award amount" (check .isPositiveNumber)
        "Award amount \"\x7b\x7d\" must be a positive number",
      dateRule "award date" (check .dateIsOnOrAfterProgramStart)
        "Award date \"\x7b\x7d\" is before the first reporting period",
      dateRule "period of performance start date" (check .isValidDate)
        "Period of performance start date \"\x7b\x7d\" must be a valid date",
      dateRule "period of performance end date"
        (check (.dateIsOnOrAfter "period of performance start date"))
        "Period of performance end date \"\x7b\x7d\" must be on or after the start date",
      rule "current quarter obligation" (check (.numberIsLessThanOrEqual "award amount"))
        "Current quarter obligation \"\x7b\x7d\" must not exceed the award amount",
      dateRule "expenditure start date"
        (whenever .greaterThanZero "total expenditure amount" (check .dateIsInPeriodOfPerformance))
        "Expenditure start date \"\x7b\x7d\" must be within the period of performance",
      dateRule "expenditure end date"
        (whenever .greaterThanZero "total expenditure amount" (check .dateIsInReportingPeriod))
        "Expenditure end date \"\x7b\x7d\" must be within the reporting period",
      rule "total expenditure amount"
        (whenever .notBlank "total expenditure amount" (check (.isSum expenditureCategories)))
        "Total expenditure amount \"\x7b\x7d\" does not match the sum of its categories",
      rule "current quarter expenditure" (check .isNumberOrBlank)
        "Current quarter expenditure \"\x7b\x7d\" must be a number",
      taggedRule "cumulative" "total expenditure amount"
        (check (.cumulativeAmountIsEqual "current quarter expenditure"
          [("type", .text "grants")] [("award_number", "award number")]))
        "Total expenditure amount \"\x7b\x7d\" does not match the expenditures reported across periods" ]

/-- **Standard validators** in the order of the report. -/
def validators : List Validator := [certification, cover, subrecipient, grants]

/-- The registry of the standard validators. -/
def registry : Registry := Registry.empty.afterOffers (validators.map .validator)

end ReportCheck.Standard
