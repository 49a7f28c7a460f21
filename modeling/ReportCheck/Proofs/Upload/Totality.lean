import ReportCheck.Upload
import ReportCheck.Proofs.Predicate.Plain

/-! # Ordinary uploads are answered

  A validation of ordinary data ends with a report or blames its caller: for a tab that
  nobody covers, or for inputs that make no context. No cell stops it.

  - `Upload.Ordinary` says what ordinary data is.
  - `context_of_ordinary`: the inputs of an ordinary upload make a context, or one of
    them is refused.
  - `run_of_plain`: in such a context a run on plain records only fails for unknown tabs.
  - `validate_returns_or_refuses` joins the two.
-/

namespace ReportCheck

open Outcome

/-! ### Ordinary data -/

/-- A condition on an input, by the form in which it is handed over. -/
def Source.Satisfies {α : Type} (ready : α → Prop) (raw : Cell → Prop) : Source α → Prop
  | .ready value => ready value
  | .raw cell => raw cell

/-- An object with plain members. -/
def Cell.PlainObject (c : Cell) : Prop := ∃ members : Members, c = .object members ∧ members.Plain

/-- A summary with plain attributes and moderate amounts. -/
def PeriodSummary.Ordinary (s : PeriodSummary) : Prop := s.attributes.Plain ∧ s.Moderate

/-- The values that a check compares attributes with are plain. -/
def Check.PlainValues : Check → Prop
  | .cumulativeAmountIsEqual _ matchValues _ => matchValues.Plain
  | _ => True

/-- **Ordinary uploads** for some validators. -/
structure Upload.Ordinary (u : Upload) (validators : List Validator) : Prop where
  records : ∀ record ∈ u.records, record.Plain
  period : u.period.Satisfies (fun _ => True) Cell.PlainObject
  fileParts : u.fileParts.Satisfies (fun _ => True) fun cell => cell = .empty ∨ cell.PlainObject
  /-- Summaries may be split already, or still be flat objects. -/
  summaries : u.summaries.Satisfies (fun all => ∀ s ∈ all, s.Ordinary) fun cell =>
    cell = .empty ∨ ∃ items, cell = .list items ∧
      ∀ item ∈ items, ∃ flat, item = .object flat ∧ (PeriodSummary.ofFlat flat).Ordinary
  /-- Tags may be a set, or nothing, a text or a collection. -/
  tags : u.tags.Satisfies (fun _ => True) fun cell => cell = .empty ∨ (cell.items?).isSome = true
  matchValues : ∀ v ∈ validators, ∀ rule ∈ v.rules, rule.predicate.leaf.PlainValues

/-! ### Contexts -/

/-- The inputs of a context are blamed. -/
def Failure.IsContext (f : Failure) : Prop := ∃ cause, f = .context cause

theorem Cell.periodDate_fails {members : Members} (h : members.Plain) (name : String) :
    OnlyFails Failure.IsContext (periodDate members name) := by
  obtain ⟨day, hday⟩ := Cell.day_returns (h.getD name)
  unfold periodDate
  rw [hday]
  cases day with
  | some d => exact OnlyFails.ok d
  | none => exact OnlyFails.error ⟨_, rfl⟩

/-- **Reporting periods** with plain members are read or refused. -/
theorem Cell.reportingPeriod_fails {c : Cell} (h : c.PlainObject) :
    OnlyFails Failure.IsContext c.reportingPeriod := by
  obtain ⟨members, rfl, hmembers⟩ := h
  unfold reportingPeriod
  refine (periodDate_fails hmembers _).bind fun startDate _ => ?_
  refine (periodDate_fails hmembers _).bind fun endDate _ => ?_
  refine (periodDate_fails hmembers _).bind fun performanceEndDate _ => ?_
  split
  · exact OnlyFails.ok _
  · exact OnlyFails.error ⟨_, rfl⟩

namespace Upload.Ordinary

variable {u : Upload} {validators : List Validator}

theorem period_fails (h : u.Ordinary validators) :
    OnlyFails Failure.IsContext (u.period.resolve Cell.reportingPeriod) := by
  have hperiod := h.period
  cases hsource : u.period with
  | ready value => exact OnlyFails.ok value
  | raw cell =>
    rw [hsource] at hperiod
    exact Cell.reportingPeriod_fails hperiod

theorem fileParts_returns (h : u.Ordinary validators) :
    Returns (u.fileParts.resolve Cell.fileParts) := by
  have hparts := h.fileParts
  cases hsource : u.fileParts with
  | ready value => exact ⟨value, rfl⟩
  | raw cell =>
    rw [hsource] at hparts
    rcases hparts with rfl | ⟨members, rfl, -⟩
    · exact ⟨_, rfl⟩
    -- An object is turned into texts, also if it is empty.
    · show Returns (Cell.fileParts (.object members))
      unfold Cell.fileParts
      split
      · exact ⟨_, rfl⟩
      · exact ⟨_, rfl⟩

theorem tags_returns (h : u.Ordinary validators) : Returns (u.tags.resolve Cell.tagSet) := by
  have htags := h.tags
  cases hsource : u.tags with
  | ready value => exact ⟨value, rfl⟩
  | raw cell =>
    rw [hsource] at htags
    show Returns cell.tagSet
    unfold Cell.tagSet
    split
    · exact ⟨_, rfl⟩
    · exact ⟨_, rfl⟩
    -- Neither nothing nor a text, so the cell is a collection.
    · next hempty _ =>
      obtain ⟨items, hitems⟩ := Option.isSome_iff_exists.1 (htags.resolve_left hempty)
      rw [hitems]
      exact ⟨_, rfl⟩

theorem mapM_periodSummary {items : List Cell}
    (h : ∀ item ∈ items, ∃ flat, item = .object flat ∧ (PeriodSummary.ofFlat flat).Ordinary) :
    ∃ all, items.mapM Cell.periodSummary = .ok all ∧ ∀ s ∈ all, s.Moderate := by
  induction items with
  | nil => exact ⟨[], rfl, fun s hs => nomatch hs⟩
  | cons item rest ih =>
    obtain ⟨flat, rfl, hflat⟩ := h item (.head _)
    obtain ⟨others, hothers, hmoderate⟩ := ih fun other hother => h other (.tail _ hother)
    refine ⟨.ofFlat flat :: others, ?_, List.forall_mem_cons.2 ⟨hflat.2, hmoderate⟩⟩
    rw [List.mapM_cons, hothers]
    rfl

theorem summaries_eq_ok (h : u.Ordinary validators) :
    ∃ all, u.summaries.resolve Cell.periodSummaries = .ok all ∧ ∀ s ∈ all, s.Moderate := by
  have hsummaries := h.summaries
  cases hsource : u.summaries with
  | ready value =>
    rw [hsource] at hsummaries
    exact ⟨value, rfl, fun s hs => (hsummaries s hs).2⟩
  | raw cell =>
    rw [hsource] at hsummaries
    show ∃ all, cell.periodSummaries = .ok all ∧ _
    rcases hsummaries with rfl | ⟨items, rfl, hitems⟩
    · exact ⟨[], rfl, fun s hs => nomatch hs⟩
    · unfold Cell.periodSummaries
      split
      · exact ⟨[], rfl, fun s hs => nomatch hs⟩
      · exact mapM_periodSummary hitems

/-- **Contexts** of ordinary uploads hold moderate amounts, unless an input is refused. -/
theorem context_of_ordinary (h : u.Ordinary validators) (settings : Settings) :
    (∃ ctx, u.context settings = .ok ctx ∧ ctx.Moderate) ∨
      ∃ cause, u.context settings = .error (.context cause) := by
  obtain ⟨parts, hparts⟩ := h.fileParts_returns
  obtain ⟨tags, htags⟩ := h.tags_returns
  obtain ⟨summaries, hsummaries, hmoderate⟩ := h.summaries_eq_ok
  unfold context ContextSources.build
  rw [hparts, htags, hsummaries]
  -- Only the period may still be refused, and it is read first.
  cases hperiod : u.period.resolve Cell.reportingPeriod with
  | ok period => exact .inl ⟨_, rfl, hmoderate⟩
  | error failure =>
    obtain ⟨cause, rfl⟩ := h.period_fails failure hperiod
    exact .inr ⟨cause, rfl⟩

end Upload.Ordinary

/-! ### Runs and uploads -/

/-- **Runs** on plain records only fail for tabs that no validator covers. -/
theorem run_of_plain {records : List Record} (hrecords : ∀ record ∈ records, record.Plain)
    {ctx : Context} (hctx : ctx.Moderate) (validators : List Validator) (settings : Settings) :
    (∃ found, (run validators settings (.of records) ctx).outcome = .ok found) ∨
      ∃ tabs, (run validators settings (.of records) ctx).outcome = .error (.unknownTabs tabs) := by
  have completes : ∀ v ∈ validators, v.Completes records ctx := by
    intro v _ record hrecord rule _
    exact rule.completes_of_plain (hrecords record (Validator.mem_of_mem_checked hrecord)) hctx
  unfold run runCalling
  rw [Traced.outcome_bind, Traced.outcome_ofExcept]
  -- The tabs are checked before any rule, and no rule stops.
  cases htabs : checkTabs validators settings (.of records) with
  | ok _ =>
    obtain ⟨blocks, -, hblocks⟩ := collect_blocks completes settings.maxFindingsPerTab
    exact .inl ⟨_, hblocks⟩
  | error failure =>
    unfold checkTabs at htabs
    split at htabs
    · exact nomatch htabs
    · cases htabs
      exact .inr ⟨_, rfl⟩

/-- **Validation of ordinary data** returns a report, or it is refused because of a tab
    that no validator covers or because of the inputs of the context. -/
theorem Upload.validate_returns_or_refuses (u : Upload) (validators : List Validator)
    (settings : Settings) (ordinary : u.Ordinary validators) :
    (∃ found, (u.validate validators settings).outcome = .ok found) ∨
      (∃ tabs, (u.validate validators settings).outcome = .error (.unknownTabs tabs)) ∨
      ∃ cause, (u.validate validators settings).outcome = .error (.context cause) := by
  unfold Upload.validate
  rw [Traced.outcome_bind, Traced.outcome_ofExcept]
  rcases ordinary.context_of_ordinary settings with ⟨ctx, hcontext, hmoderate⟩ | ⟨cause, hcontext⟩
  · rw [hcontext]
    rcases run_of_plain ordinary.records hmoderate validators settings with hreturns | hunknown
    · exact .inl hreturns
    · exact .inr (.inl hunknown)
  · rw [hcontext]
    exact .inr (.inr ⟨cause, rfl⟩)

namespace Totality

/-- A tab with a nested condition, a comparison of days, and a sum over earlier periods
    that are picked by a value which is itself a list. -/
def costs : Validator where
  tab := "costs"
  scope := .allRecords
  rules :=
    [ { field := "total", predicate := .guarded ⟨.notBlank, "total"⟩
          (.guarded ⟨.greaterThanZero, "paid"⟩ (.check (.isSum ["paid", "owed"]))) },
      { field := "day", predicate := .check (.dateIsOnOrAfter "paid"), options := { showsDate := true } },
      { field := "total", predicate := .check
          (.cumulativeAmountIsEqual "paid" [("program", .list [.int 7, .bool true])] []) } ]

/-- A number near the upper end of double precision. -/
def large : WholeNumber := ⟨10 ^ 307, by decide +kernel⟩

/-- A record whose texts denote infinities of both signs, with a large whole number. -/
def record : Record where
  tab := "costs"
  fields := [("total", .text "1e999"), ("paid", .text "-1e999"), ("owed", .int large),
    ("day", .decimal (.finite false 438915 (-1)))]
  row := some 4

/-- The amounts of an earlier period, still in a flat object. -/
def flat : Members := [("program", .text "[7, True]"), ("current_paid", .text "12.50")]

/-- An upload whose period is given by a serial number, a text and a date. -/
def upload : Upload where
  records := [record]
  fileParts := .raw (.object [("projectId", .int 17)])
  period := .raw (.object [("start_date", .int 43891), ("end_date", .text "9/30/2020"),
    ("period_of_performance_end_date", .date ⟨2021, 1, 31, by decide⟩)])
  summaries := .raw (.list [.object flat])
  tags := .raw (.text "audit")
  references := none

theorem record_plain : record.Plain :=
  List.forall_mem_cons.2 ⟨.text _, List.forall_mem_cons.2 ⟨.text _, List.forall_mem_cons.2
    ⟨.int (by decide +kernel), List.forall_mem_singleton.2
      (.decimal (Decimal.moderate_of_leading _ (by decide)))⟩⟩⟩

theorem flat_ordinary : (PeriodSummary.ofFlat flat).Ordinary := by
  have hattributes : (PeriodSummary.ofFlat flat).attributes = [("program", .text "[7, True]")] := rfl
  have hcurrent : (PeriodSummary.ofFlat flat).current = [("paid", .finite false 1250 (-2))] := rfl
  refine ⟨?_, ?_⟩
  · rw [hattributes]
    exact List.forall_mem_singleton.2 (.text _)
  · unfold PeriodSummary.Moderate
    rw [hcurrent]
    exact List.forall_mem_singleton.2 (Decimal.moderate_of_leading _ (by decide))

theorem upload_ordinary : upload.Ordinary [costs] where
  records := List.forall_mem_singleton.2 record_plain
  period := ⟨_, rfl, List.forall_mem_cons.2 ⟨.int (by decide +kernel), List.forall_mem_cons.2
    ⟨.text _, List.forall_mem_singleton.2 (.date _)⟩⟩⟩
  fileParts := .inr ⟨_, rfl, List.forall_mem_singleton.2 (.int (by decide +kernel))⟩
  summaries := .inr ⟨_, rfl, List.forall_mem_singleton.2 ⟨flat, rfl, flat_ordinary⟩⟩
  tags := .inr rfl
  matchValues := List.forall_mem_singleton.2 (List.forall_mem_cons.2 ⟨trivial,
    List.forall_mem_cons.2 ⟨trivial, List.forall_mem_singleton.2 (List.forall_mem_singleton.2
      (.list (List.forall_mem_cons.2 ⟨.int (by decide +kernel), List.forall_mem_singleton.2 (.bool _)⟩)))⟩⟩)

end Totality

open Totality in
/-- Opposite infinities and serial days do not stop the validation of an upload. -/
theorem Upload.validate_returns_or_refuses_of_infinities :
    upload.Ordinary [costs] ∧
      ((∃ found, (upload.validate [costs] {}).outcome = .ok found) ∨
        (∃ tabs, (upload.validate [costs] {}).outcome = .error (.unknownTabs tabs)) ∨
        ∃ cause, (upload.validate [costs] {}).outcome = .error (.context cause)) :=
  ⟨upload_ordinary, Upload.validate_returns_or_refuses _ _ _ upload_ordinary⟩

end ReportCheck
