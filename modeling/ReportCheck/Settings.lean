import ReportCheck.Calendar.Date

/-! # Settings

  The settings of a validation run.
-/

namespace ReportCheck

/-- The first day of the program, unless a setting says otherwise. -/
def Settings.firstDay : Date := ⟨2020, 3, 1, by decide⟩

/-- **Settings.** -/
structure Settings where
  /-- The number of findings kept for each tab. -/
  maxFindingsPerTab : Nat := 100
  /-- The tab whose records identify subrecipients. -/
  subrecipientTab : String := "subrecipient"
  /-- The first day of the program. -/
  programStart : Date := Settings.firstDay
  /-- Whether records may be on tabs that no validator covers. -/
  allowUnknownTabs : Bool := false
  deriving DecidableEq, Repr

instance : Inhabited Settings := ⟨{}⟩

end ReportCheck
