import ReportCheck.Tab.Validator
import ReportCheck.Proofs.Lookup
import ReportCheck.Proofs.Trace

/-! # Loosened contexts

  A context that knows more subrecipients, has longer reference lists and allows more
  days accepts whatever was accepted before. No predicate turns this around, so nothing
  is found under it that was not found before.

  - `Context.LoosensTo` compares two contexts.
  - `Check.eval_loosened` goes through the checks that look at the context, and
    `Predicate.eval_loosened` by induction through the guards, none of which negates.
  - `Rule.check_loosened` is the step for a rule on a record; over records and rules it
    becomes `Validator.findings_sublist_of_loosened`.
-/

namespace ReportCheck

open Outcome

/-- A reference list, if there are lists and one of them has the name. -/
def Context.list? (ctx : Context) (name : String) : Option TextSet :=
  ctx.references.bind (·.get? name)

/-- **Loosening.** The second context knows all subrecipients and has all reference lists
    with all entries of the first one, and allows all days that the first one allows. In
    everything else they agree. -/
structure Context.LoosensTo (ctx ctx' : Context) : Prop where
  subrecipients : ∀ name, ctx.subrecipients.has name = true → ctx'.subrecipients.has name = true
  /-- A context without lists is one with no lists. -/
  lists : ∀ name entries, ctx.list? name = some entries →
    ∃ entries', ctx'.list? name = some entries' ∧ ∀ s ∈ entries.toList, s ∈ entries'.toList
  startDate : ctx'.period.startDate ≤ ctx.period.startDate
  endDate : ctx.period.endDate ≤ ctx'.period.endDate
  performanceEndDate : ctx.period.performanceEndDate ≤ ctx'.period.performanceEndDate
  programStart : ctx'.programStart ≤ ctx.programStart
  fileParts : ctx'.fileParts = ctx.fileParts
  tags : ctx'.tags = ctx.tags
  summaries : ctx'.summaries = ctx.summaries

theorem Date.le_trans {a b c : Date} (hab : a ≤ b) (hbc : b ≤ c) : a ≤ c :=
  Nat.le_trans hab hbc

/-- Two verdicts of which the second is good if the first is. -/
def Improves (verdict verdict' : Bool) : Prop := verdict = true → verdict' = true

theorem Improves.refl (verdict : Bool) : Improves verdict verdict := id

variable {ctx ctx' : Context}

/-! ### Checks -/

namespace Check

theorem dayMeets_widened {accepts accepts' : Date → Bool}
    (widened : ∀ d, accepts d = true → accepts' d = true) (value : Cell) :
    Tracks Improves (dayMeets accepts value) (dayMeets accepts' value) := by
  unfold dayMeets
  refine (Tracks.refl (R := Eq) (fun _ => rfl) value.day).bind ?_
  rintro day _ rfl verdict hverdict
  cases day with
  | none => exact ⟨verdict, hverdict, .refl verdict⟩
  | some d =>
    cases hverdict
    exact ⟨accepts' d, rfl, widened d⟩

theorem outcome_evalDropdown (listName : String) (value : Cell) (ctx : Context) :
    (evalDropdown listName value ctx).outcome =
      .ok ((ctx.list? listName).any (·.contains value.foldedDisplay)) := by
  unfold evalDropdown Context.list?
  cases ctx.references with
  | none => rfl
  | some references =>
    show Except.ok (references.includes listName value) =
      .ok ((references.get? listName).any (·.contains value.foldedDisplay))
    unfold ReferenceLists.includes
    cases references.get? listName with
    | none => rfl
    | some entries => rfl

/-- **Reference lists** with more entries have the members they had before. -/
theorem evalDropdown_loosened (h : ctx.LoosensTo ctx') (listName : String) (value : Cell) :
    Tracks Improves (evalDropdown listName value ctx).outcome
      (evalDropdown listName value ctx').outcome := by
  rw [outcome_evalDropdown, outcome_evalDropdown]
  intro verdict hverdict
  cases hverdict
  refine ⟨_, rfl, ?_⟩
  intro hmember
  obtain ⟨entries, hentries, hcontains⟩ := (Option.any_eq_true _ _).1 hmember
  obtain ⟨entries', hentries', hsuperset⟩ := h.lists listName entries hentries
  refine (Option.any_eq_true _ _).2 ⟨entries', hentries', ?_⟩
  exact TextSet.contains_iff_mem.2 (hsuperset _ (TextSet.contains_iff_mem.1 hcontains))

/-- **Checks** that are passed are still passed in a loosened context. -/
theorem eval_loosened (h : ctx.LoosensTo ctx') (value : Cell) (record : Record) (c : Check) :
    Tracks Improves (c.eval value record ctx).outcome (c.eval value record ctx').outcome := by
  cases c with
  | isValidSubrecipient =>
    intro verdict hverdict
    cases hverdict
    exact ⟨_, rfl, h.subrecipients value.display⟩
  | cumulativeAmountIsEqual key matchValues matchFields =>
    unfold eval
    rw [h.summaries]
    exact .refl Improves.refl _
  | dateIsInReportingPeriod =>
    apply dayMeets_widened
    intro d hd
    simp only [Bool.and_eq_true, decide_eq_true_eq] at hd ⊢
    exact ⟨Date.le_trans h.startDate hd.1, Date.le_trans hd.2 h.endDate⟩
  | dateIsInPeriodOfPerformance =>
    apply dayMeets_widened
    intro d hd
    simp only [decide_eq_true_eq] at hd ⊢
    exact Date.le_trans hd h.performanceEndDate
  | dateIsOnOrAfterProgramStart =>
    apply dayMeets_widened
    intro d hd
    simp only [decide_eq_true_eq] at hd ⊢
    exact Date.le_trans h.programStart hd
  | matchesFilePart key =>
    -- The parts of the file's name are the same.
    have same : evalFilePart key value ctx = evalFilePart key value ctx' := by
      unfold evalFilePart Context.filePart?
      rw [h.fileParts]
    show Tracks Improves (evalFilePart key value ctx).outcome (evalFilePart key value ctx').outcome
    rw [same]
    exact .refl Improves.refl _
  | dropdownIncludes listName => exact evalDropdown_loosened h listName value
  | isValidState => exact evalDropdown_loosened h stateList value
  -- The others do not look at the context.
  | _ => exact .refl Improves.refl _

end Check

/-! ### Predicates and rules -/

/-- **Predicates** that are satisfied are still satisfied in a loosened context: a guard
    does not look at the context, and behind it nothing is negated. -/
theorem Predicate.eval_loosened (h : ctx.LoosensTo ctx') (value : Cell) (record : Record)
    (p : Predicate) :
    Tracks Improves (p.eval value record ctx).outcome (p.eval value record ctx').outcome := by
  induction p with
  | check c => exact c.eval_loosened h value record
  | guarded guard inner ih =>
    unfold Predicate.eval
    rw [Traced.outcome_bind, Traced.outcome_bind, Traced.outcome_ofExcept]
    refine (Tracks.refl (R := Eq) (fun _ => rfl) (guard.holds record)).bind ?_
    rintro held _ rfl
    cases held with
    | true => exact ih
    | false => exact .refl Improves.refl _

/-- **Rules** find nothing new in a loosened context, and stop on no record on which they
    did not stop before. -/
theorem Rule.check_loosened (h : ctx.LoosensTo ctx') (tab : String) (row : Option Int)
    (record : Record) (rule : Rule) :
    Tracks (fun found found' => found'.Sublist found)
      (rule.check tab row record ctx).outcome (rule.check tab row record ctx').outcome := by
  unfold Rule.check
  rw [h.tags]
  intro found hfound
  by_cases active : rule.options.isActive ctx.tags = true
  · rw [if_pos active] at hfound ⊢
    obtain ⟨verdict, hverdict, hrest⟩ := Traced.bind_eq_ok_iff.1 hfound
    obtain ⟨verdict', hverdict', improves⟩ :=
      rule.predicate.eval_loosened h (record.value rule.field) record verdict hverdict
    cases verdict' with
    | true => exact ⟨[], Traced.bind_eq_ok_iff.2 ⟨true, hverdict', rfl⟩, List.nil_sublist found⟩
    | false =>
      -- The verdict was bad before as well, and the message is the same.
      have hbad : verdict = false := by
        cases verdict with
        | true => exact (improves rfl).symm
        | false => rfl
      subst hbad
      exact ⟨found, Traced.bind_eq_ok_iff.2 ⟨false, hverdict', hrest⟩, .refl found⟩
  · rw [if_neg active] at hfound ⊢
    exact ⟨found, hfound, .refl found⟩

theorem checkRecord_loosened (h : ctx.LoosensTo ctx') (rules : List Rule) (tab : String)
    (row : Option Int) (record : Record) :
    Tracks (fun found found' => found'.Sublist found)
      (checkRecord rules tab row ctx record).outcome
      (checkRecord rules tab row ctx' record).outcome := by
  unfold checkRecord
  apply Traced.collect_tracks_sublist
  intro rule _
  exact rule.check_loosened h tab row record

/-! ### Validators -/

/-- **Loosening** the context adds no finding: if a validator comes to findings about the
    records of an upload, then it does so in the loosened context too, and finds some of
    the same in the same order. -/
theorem Validator.findings_sublist_of_loosened (v : Validator) (set : RecordGroups)
    (loosens : ctx.LoosensTo ctx') (found : List Finding)
    (returns : (v.findings set ctx).outcome = .ok found) :
    ∃ found', (v.findings set ctx').outcome = .ok found' ∧ found'.Sublist found := by
  revert found
  show Tracks (fun found found' => found'.Sublist found) (v.findings set ctx).outcome
    (v.findings set ctx').outcome
  unfold findings
  cases v.scope with
  | allRecords =>
    apply Traced.collect_tracks_sublist
    intro record _
    exact checkRecord_loosened loosens v.rules v.tab record.row record
  | singleRecord message row =>
    -- A wrong number of records is a finding in either context.
    match set.on v.tab with
    | [record] => exact checkRecord_loosened loosens v.rules v.tab (some row) record
    | [] =>
      intro found hfound
      exact ⟨found, hfound, .refl found⟩
    | _ :: _ :: _ =>
      intro found hfound
      exact ⟨found, hfound, .refl found⟩

namespace Loosened

/-- A tab of grants. Each part of the context is looked at by one of the rules. -/
def grants : Validator where
  tab := "grants"
  scope := .allRecords
  rules :=
    [ { field := "town", predicate := .check .isValidSubrecipient, message := some "Town" },
      { field := "kind",
        predicate := .guarded ⟨.notBlank, "town"⟩ (.check (.dropdownIncludes "kinds")),
        message := some "Kind" },
      { field := "state", predicate := .guarded ⟨.us, "country"⟩ (.check .isValidState),
        message := some "State" },
      { field := "day", predicate := .check .dateIsInReportingPeriod, message := some "Period" },
      { field := "day", predicate := .check .dateIsInPeriodOfPerformance,
        message := some "Performance" },
      { field := "day", predicate := .check .dateIsOnOrAfterProgramStart,
        message := some "Start" } ]

/-- A grant that is in order once the context is loosened, and one that remains late. -/
def records : List Record :=
  [ ⟨"grants", [("town", .int 12), ("kind", .text "Bridge"), ("country", .text "USA"),
      ("state", .text "NY"), ("day", .date ⟨2020, 10, 5, by decide⟩)], some 3⟩,
    ⟨"grants", [("town", .int 77), ("kind", .text "Road"),
      ("day", .date ⟨2021, 2, 1, by decide⟩)], some 4⟩ ]

/-- A context with one subrecipient and one list. -/
def context : Context where
  period := ⟨⟨2020, 7, 1, by decide⟩, ⟨2020, 9, 29, by decide⟩, ⟨2020, 9, 29, by decide⟩⟩
  programStart := ⟨2020, 11, 1, by decide⟩
  subrecipients := [("77", .object [])]
  references := some ⟨[("kinds", .ofList ["road"])]⟩

/-- The context with more subrecipients, lists, entries and days. -/
def loosened : Context :=
  { context with
    period := ⟨⟨2020, 4, 1, by decide⟩, ⟨2020, 11, 30, by decide⟩, ⟨2021, 6, 30, by decide⟩⟩
    programStart := ⟨2020, 5, 1, by decide⟩
    subrecipients := [("12", .empty), ("77", .empty)]
    references := some ⟨[("kinds", .ofList ["bridge", "road"]), ("state code", .ofList ["ny"])]⟩ }

/-- What is found in the first context. -/
def found : List Finding :=
  [ ⟨"Town", "grants", some 3⟩, ⟨"Kind", "grants", some 3⟩, ⟨"State", "grants", some 3⟩,
    ⟨"Period", "grants", some 3⟩, ⟨"Performance", "grants", some 3⟩, ⟨"Start", "grants", some 3⟩,
    ⟨"Period", "grants", some 4⟩, ⟨"Performance", "grants", some 4⟩ ]

end Loosened

open Loosened in
/-- Of eight findings one remains in the loosened context. -/
theorem Validator.findings_sublist_of_loosened_grants :
    context.LoosensTo loosened ∧
      (grants.findings (.of records) context).outcome = .ok found ∧
      ∃ found', (grants.findings (.of records) loosened).outcome = .ok found' ∧
        found'.Sublist found := by
  have loosens : context.LoosensTo loosened := {
    subrecipients := by
      intro name hname
      obtain ⟨value, hvalue⟩ := Option.isSome_iff_exists.1 hname
      obtain ⟨rfl, -⟩ : name = "77" ∧ value = .object [] := by
        simpa [context] using mem_of_lookup_eq_some hvalue
      rfl
    lists := by
      intro name entries hentries
      obtain ⟨rfl, rfl⟩ : name = "kinds" ∧ entries = .ofList ["road"] := by
        simpa using mem_of_lookup_eq_some hentries
      refine ⟨.ofList ["bridge", "road"], rfl, ?_⟩
      simp [TextSet.mem_ofList]
    startDate := by decide
    endDate := by decide
    performanceEndDate := by decide
    programStart := by decide
    fileParts := rfl
    tags := rfl
    summaries := rfl }
  have returns : (grants.findings (.of records) context).outcome = .ok found := rfl
  exact ⟨loosens, returns,
    Validator.findings_sublist_of_loosened grants (.of records) loosens found returns⟩

open Loosened in
example : (grants.findings (.of records) loosened).outcome =
    .ok [⟨"Period", "grants", some 4⟩] := rfl

end ReportCheck
