import ReportCheck.Proofs.Cell.Faults
import ReportCheck.Proofs.Upload.Manifest

/-! # Manifests that are not accepted

  What is wrong with a manifest is blamed on the manifest, with a few exceptions: values
  that its reading does not foresee, which stop it for reasons of their own.

  - `Failure.IsManifest` is a refusal that blames the manifest.
  - `Unforeseen` lists the values that stop the reading, each with its failure.
  - `ofMembers_fails`: the reading fails in these two ways only. There is one lemma for each
    part of a manifest before it.
  - `ReadFrom.not_unforeseen`: a manifest that is accepted holds no such value.
  - `ofCell_outcome` joins the two, and `listed_parts_not_refused` is about a manifest that
    should be refused and is not.
-/

namespace ReportCheck

open Outcome

/-- The manifest is blamed. -/
def Failure.IsManifest (f : Failure) : Prop := ∃ cause, f = .manifest cause

/-- An infinite number. -/
def Cell.IsInfinite (c : Cell) : Prop :=
  ∃ negative, c = .float (.infinite negative) ∨ c = .decimal (.infinite negative)

namespace Manifest

/-- The dates of a reporting period. -/
def dateNames : List String := ["start_date", "end_date", "period_of_performance_end_date"]

/-- **Unforeseen values** in the members of a manifest and of its period, and the failures
    with which they stop the reading. -/
inductive Unforeseen (members periodMembers : Members) : Failure → Prop
  /-- A date is given by a whole number beyond double precision. -/
  | hugeDate {name : String} {n : WholeNumber} (isDate : name ∈ dateNames)
      (given : periodMembers.getD name = .int n) (huge : Binary64.ofInt? n = none) :
      Unforeseen members periodMembers (.fault .integerTooLarge)
  /-- A date is given by a number that is infinite in double precision. -/
  | endlessDate {name : String} (isDate : name ∈ dateNames)
      (endless : (periodMembers.getD name).toBinary64 = .ok (some (.infinite false))) :
      Unforeseen members periodMembers (.fault .infiniteDays)
  /-- The row of a record is infinite. -/
  | infiniteRow {items : List Cell} {record : Members}
      (given : members.getD "records" = .list items) (mem : .object record ∈ items)
      (infinite : (getEither record "row" "sourceRow").IsInfinite) :
      Unforeseen members periodMembers (.fault .infiniteRow)
  /-- The parts of the file's name are given, but not as an object. -/
  | noParts (given : (members.getD "file_parts").isFalsy = false)
      (noObject : ∀ parts, members.getD "file_parts" ≠ .object parts) :
      Unforeseen members periodMembers (.shape .notAnObject)
  /-- A reference list is not a collection. -/
  | noList {lists : Members} {list : String × Cell}
      (given : members.getD "reference_lists" = .object lists) (mem : list ∈ lists)
      (noItems : list.2.items? = none) :
      Unforeseen members periodMembers (.shape .notACollection)
  /-- What the manifest says about itself makes no pairs of names and values. -/
  | noPairs {cause : ShapeFault} (given : (members.getD "meta").isFalsy = false)
      (unpaired : (members.getD "meta").pairs = .error cause) :
      Unforeseen members periodMembers (.shape cause)

/-- A failure that blames the manifest, or one of an unforeseen value. -/
def FailsSo (members periodMembers : Members) (f : Failure) : Prop :=
  f.IsManifest ∨ Unforeseen members periodMembers f

section Parts

variable {members periodMembers : Members}

theorem refuse_fails {α : Type} (cause : ManifestFault) :
    OnlyFails (FailsSo members periodMembers) (refuse cause : Except Failure α) :=
  OnlyFails.error (.inl ⟨cause, rfl⟩)

/-! ### The period -/

theorem periodDate_fails {name : String} (isDate : name ∈ dateNames) :
    OnlyFails (fun f => (∃ cause, f = .context cause) ∨ Unforeseen members periodMembers f)
      (Cell.periodDate periodMembers name) := by
  unfold Cell.periodDate
  cases hday : (periodMembers.getD name).day with
  | error cause =>
    refine OnlyFails.error (.inr ?_)
    rcases Cell.day_eq_error_iff.1 hday with ⟨⟨n, given, large⟩, rfl⟩ | ⟨endless, rfl⟩
    · exact .hugeDate isDate given (Binary64.ofInt?_eq_none_iff.2 large)
    · exact .endlessDate isDate (Cell.toBinary64_of_endless endless)
  | ok day =>
    cases day with
    | some d => exact OnlyFails.ok d
    | none => exact OnlyFails.error (.inl ⟨_, rfl⟩)

/-- **Periods.** What is wrong with the dates of a period is blamed on the manifest. -/
theorem readPeriod_fails : OnlyFails (FailsSo members periodMembers)
    (readPeriod (.object periodMembers)) := by
  have fails : OnlyFails
      (fun f => (∃ cause, f = .context cause) ∨ Unforeseen members periodMembers f)
      (Cell.object periodMembers).reportingPeriod := by
    unfold Cell.reportingPeriod
    refine (periodDate_fails (by decide)).bind fun startDate _ => ?_
    refine (periodDate_fails (by decide)).bind fun endDate _ => ?_
    refine (periodDate_fails (by decide)).bind fun performanceEndDate _ => ?_
    split
    · exact OnlyFails.ok _
    · exact OnlyFails.error (.inl ⟨_, rfl⟩)
  unfold readPeriod
  split
  · exact refuse_fails _
  · next hother =>
    intro f hf
    rcases fails f hf with ⟨cause, rfl⟩ | unforeseen
    · exact absurd hf (hother cause)
    · exact .inr unforeseen

/-! ### Records -/

theorem rowOf_eq_infinite {c : Cell} : rowOf c = .infinite ↔ c.IsInfinite := by
  constructor
  · intro h
    cases c with
    | float x =>
      cases x with
      | infinite negative => exact ⟨negative, .inl rfl⟩
      | _ => exact nomatch h
    | decimal d =>
      cases d with
      | infinite negative => exact ⟨negative, .inr rfl⟩
      | _ => exact nomatch h
    | text s =>
      -- A text denotes a whole number or none.
      have denoted : rowOfText s = .infinite := h
      unfold rowOfText at denoted
      split at denoted
      · exact nomatch denoted
      · simp only at denoted
        split at denoted
        · exact nomatch denoted
        · exact nomatch denoted
    | _ => exact nomatch h
  · rintro ⟨negative, rfl | rfl⟩
    · rfl
    · rfl

theorem readRow_fails (tab : Cell) (c : Cell) :
    OnlyFails (fun f => f.IsManifest ∨ (c.IsInfinite ∧ f = .fault .infiniteRow)) (readRow tab c) := by
  unfold readRow
  split
  · exact OnlyFails.ok none
  · split
    · exact OnlyFails.ok _
    · exact OnlyFails.error (.inl ⟨_, rfl⟩)
    · next hinfinite => exact OnlyFails.error (.inr ⟨rowOf_eq_infinite.1 hinfinite, rfl⟩)

theorem readRecord_fails {items : List Cell} (given : members.getD "records" = .list items)
    {item : Cell} (mem : item ∈ items) :
    OnlyFails (FailsSo members periodMembers) (readRecord item) := by
  cases item with
  | object record =>
    unfold readRecord
    simp only
    split
    · exact refuse_fails _
    have fields : OnlyFails (FailsSo members periodMembers)
        (readFields (tabOf record) (getEither record "fields" "content")) := by
      unfold readFields
      split
      · exact OnlyFails.ok []
      · split
        · exact OnlyFails.ok _
        · exact refuse_fails _
    refine fields.bind fun _ _ => ?_
    have row : OnlyFails (FailsSo members periodMembers)
        (readRow (tabOf record) (getEither record "row" "sourceRow")) := by
      intro f hf
      rcases readRow_fails _ _ f hf with blamed | ⟨infinite, rfl⟩
      · exact .inl blamed
      · exact .inr (.infiniteRow given mem infinite)
    exact row.bind fun _ _ => OnlyFails.ok _
  | _ => exact refuse_fails _

/-- **Records.** What is wrong with a record is blamed on the manifest, unless its row is
    infinite. -/
theorem readRecords_fails :
    OnlyFails (FailsSo members periodMembers) (readRecords (members.getD "records")) := by
  cases given : members.getD "records" with
  | list items => exact mapM_onlyFails fun item hitem => readRecord_fails given hitem
  | _ => exact refuse_fails _

/-! ### The rest of a manifest -/

theorem readFileParts_fails :
    OnlyFails (FailsSo members periodMembers) (readFileParts (members.getD "file_parts")) := by
  unfold readFileParts
  split
  · exact OnlyFails.ok _
  · next hgiven =>
    split
    · exact OnlyFails.ok _
    · next noObject => exact OnlyFails.error (.inr (.noParts (by simpa using hgiven) noObject))

theorem readSummaries_fails :
    OnlyFails (FailsSo members periodMembers) (readSummaries (members.getD "period_summaries")) := by
  unfold readSummaries
  split
  · exact OnlyFails.ok _
  · split
    · refine mapM_onlyFails fun item _ => ?_
      cases item with
      | object flat => exact OnlyFails.ok _
      | _ => exact refuse_fails _
    · exact refuse_fails _

theorem tagSet_returns {c : Cell} (h : isTags c = true) : Returns c.tagSet := by
  cases c with
  | empty => exact ⟨_, rfl⟩
  | text s => exact ⟨_, rfl⟩
  | list items => exact ⟨_, rfl⟩
  | _ => exact nomatch h

theorem readLists_fails (h : isLists (members.getD "reference_lists") = true) :
    OnlyFails (FailsSo members periodMembers) (readLists (members.getD "reference_lists")) := by
  cases given : members.getD "reference_lists" with
  | empty => exact OnlyFails.ok none
  | object lists =>
    have entries : OnlyFails (fun cause => Unforeseen members periodMembers (.shape cause))
        (ReferenceLists.ofMembers lists) := by
      unfold ReferenceLists.ofMembers
      refine (mapM_onlyFails fun list mem => ?_).bind fun _ _ => OnlyFails.ok _
      refine OnlyFails.bind ?_ fun _ _ => OnlyFails.ok _
      unfold ReferenceLists.entriesOf
      split
      · exact OnlyFails.ok _
      · next noItems => exact OnlyFails.error (.noList given mem noItems)
    show OnlyFails _ (Failure.ofShape (ReferenceLists.ofMembers lists) >>= fun _ => _)
    refine OnlyFails.bind ?_ fun _ _ => OnlyFails.ok _
    cases hlists : ReferenceLists.ofMembers lists with
    | ok references => exact OnlyFails.ok references
    | error cause => exact OnlyFails.error (.inr (entries cause hlists))
  | _ =>
    rw [given] at h
    exact nomatch h

theorem readAbout_fails :
    OnlyFails (FailsSo members periodMembers) (readAbout (members.getD "meta")) := by
  unfold readAbout
  split
  · exact OnlyFails.ok _
  · next hgiven =>
    cases hpairs : (members.getD "meta").pairs with
    | ok pairs => exact OnlyFails.ok _
    | error cause => exact OnlyFails.error (.inr (.noPairs (by simpa using hgiven) hpairs))

/-- **Failures.** Reading the members of a manifest fails because it is refused, or because of
    an unforeseen value. -/
theorem ofMembers_fails :
    OnlyFails (FailsSo members periodMembers) (ofMembers members periodMembers) := by
  unfold ofMembers
  refine readPeriod_fails.bind fun period _ => ?_
  simp only
  -- The shapes of tags and lists are looked at before anything else is read.
  split
  · exact refuse_fails _
  next htags =>
  split
  · exact refuse_fails _
  next hlists =>
  refine readRecords_fails.bind fun records _ => ?_
  refine readFileParts_fails.bind fun fileParts _ => ?_
  refine readSummaries_fails.bind fun summaries _ => ?_
  obtain ⟨tags, hread⟩ := tagSet_returns (by simpa using htags)
  rw [hread]
  refine (OnlyFails.ok tags).bind fun tags _ => ?_
  refine (readLists_fails (by simpa using hlists)).bind fun references _ => ?_
  exact readAbout_fails.bind fun about _ => OnlyFails.ok _

/-! ### Unforeseen values are not accepted -/

theorem day_of_readPeriod {period : ReportingPeriod}
    (h : readPeriod (.object periodMembers) = .ok period) {name : String}
    (isDate : name ∈ dateNames) : Returns (periodMembers.getD name).day := by
  have dated : ∀ {key : String} {d : Date}, Cell.periodDate periodMembers key = .ok d →
      Returns (periodMembers.getD key).day := by
    intro key d hd
    unfold Cell.periodDate at hd
    cases hday : (periodMembers.getD key).day with
    | ok day => exact ⟨day, rfl⟩
    | error cause =>
      rw [hday] at hd
      exact nomatch hd
  have read := reportingPeriod_of_readPeriod h
  unfold Cell.reportingPeriod at read
  obtain ⟨startDate, hstart, read⟩ := bind_eq_ok_iff.1 read
  obtain ⟨endDate, hend, read⟩ := bind_eq_ok_iff.1 read
  obtain ⟨performanceEndDate, hperformance, -⟩ := bind_eq_ok_iff.1 read
  simp only [dateNames, List.mem_cons, List.not_mem_nil, or_false] at isDate
  rcases isDate with rfl | rfl | rfl
  · exact dated hstart
  · exact dated hend
  · exact dated hperformance

theorem not_infinite_of_readRecord {record : Members} {r : Record}
    (h : readRecord (.object record) = .ok r) :
    ¬ (getEither record "row" "sourceRow").IsInfinite := by
  obtain ⟨-, -, -, hrow⟩ := readRecord_eq_ok_iff.1 h
  rintro ⟨negative, hcell | hcell⟩
  · rw [hcell] at hrow
    exact nomatch hrow
  · rw [hcell] at hrow
    exact nomatch hrow

theorem items_of_readLists {lists : Members} {references : Option ReferenceLists}
    (h : readLists (.object lists) = .ok references) {list : String × Cell} (mem : list ∈ lists) :
    (list.2.items?).isSome = true := by
  obtain ⟨read, hread, -⟩ := bind_eq_ok_iff.1 h
  have entries : Returns (ReferenceLists.ofMembers lists) := by
    cases hlists : ReferenceLists.ofMembers lists with
    | ok all => exact ⟨all, rfl⟩
    | error cause =>
      have failed : Failure.ofShape (ReferenceLists.ofMembers lists) = .ok read := hread
      rw [hlists] at failed
      exact nomatch failed
  obtain ⟨all, hall⟩ := entries
  obtain ⟨parts, hparts, -⟩ := bind_eq_ok_iff.1 hall
  obtain ⟨part, hpart⟩ := returns_of_mem_mapM hparts mem
  obtain ⟨set, hset, -⟩ := bind_eq_ok_iff.1 hpart
  unfold ReferenceLists.entriesOf at hset
  split at hset
  · next hitems => rw [hitems, Option.isSome_some]
  · exact nomatch hset

/-- **Never accepted.** A manifest that is accepted holds no unforeseen value. -/
theorem ReadFrom.not_unforeseen {m : Manifest} (read : ReadFrom members periodMembers m)
    (f : Failure) : ¬ Unforeseen members periodMembers f := by
  intro unforeseen
  cases unforeseen with
  | hugeDate isDate given huge =>
    obtain ⟨day, hday⟩ := day_of_readPeriod read.period isDate
    have stops := Cell.day_eq_error_iff.2
      (.inl ⟨⟨_, given, Binary64.ofInt?_eq_none_iff.1 huge⟩, rfl⟩)
    rw [hday] at stops
    exact nomatch stops
  | endlessDate isDate endless =>
    obtain ⟨day, hday⟩ := day_of_readPeriod read.period isDate
    have stops := Cell.day_eq_error_iff.2 (.inr ⟨Cell.toBinary64_eq_infinite_iff.1 endless, rfl⟩)
    rw [hday] at stops
    exact nomatch stops
  | @infiniteRow items record given mem infinite =>
    have records := read.records
    rw [given] at records
    obtain ⟨r, hr⟩ := returns_of_mem_mapM (show items.mapM readRecord = _ from records) mem
    exact not_infinite_of_readRecord hr infinite
  | noParts given noObject =>
    have parts := read.fileParts
    unfold readFileParts at parts
    rw [given] at parts
    simp only [Bool.false_eq_true, if_false] at parts
    exact nomatch parts
  | noList given mem noItems =>
    have lists := read.references
    rw [given] at lists
    have items := items_of_readLists lists mem
    rw [noItems] at items
    exact nomatch items
  | noPairs given unpaired =>
    have about := read.about
    unfold readAbout at about
    rw [given, unpaired] at about
    exact nomatch about

end Parts

/-! ### Reading -/

/-- **Stopped by an unforeseen value** in the members of a document or of its period. -/
def Stops (document : Cell) (f : Failure) : Prop :=
  ∃ members periodMembers : Members, document = .object members ∧
    members.getD "reporting_period" = .object periodMembers ∧ Unforeseen members periodMembers f

/-- **Outcomes.** A document is refused as a manifest; or it is accepted, and then it holds no
    unforeseen value; or such a value stops the reading with its failure. -/
theorem ofCell_outcome (document : Cell) :
    (∃ f, ofCell document = .error f ∧ f.IsManifest) ∨
      ((∃ m, ofCell document = .ok m) ∧ ∀ f, ¬ Stops document f) ∨
      ∃ f, ofCell document = .error f ∧ Stops document f := by
  cases houtcome : ofCell document with
  | ok m =>
    refine .inr (.inl ⟨⟨m, rfl⟩, ?_⟩)
    rintro f ⟨members, periodMembers, rfl, hperiod, unforeseen⟩
    obtain ⟨members', periodMembers', hmembers, hperiod', read⟩ := exists_readFrom houtcome
    cases hmembers
    cases hperiod.symm.trans hperiod'
    exact read.not_unforeseen f unforeseen
  | error f =>
    unfold ofCell at houtcome
    split at houtcome
    · next members =>
      split at houtcome
      · next periodMembers hperiod =>
        rcases ofMembers_fails f houtcome with blamed | unforeseen
        · exact .inl ⟨f, rfl, blamed⟩
        · exact .inr (.inr ⟨f, rfl, members, periodMembers, rfl, hperiod, unforeseen⟩)
      · cases houtcome
        exact .inl ⟨_, rfl, _, rfl⟩
    · cases houtcome
      exact .inl ⟨_, rfl, _, rfl⟩

/-- A manifest whose parts of the file's name are a list. -/
def listedParts : Cell := .object
  [ ("reporting_period", .object
      [ ("start_date", .text "2020-03-01"), ("end_date", .text "2020-09-30"),
        ("period_of_performance_end_date", .text "2020-12-30") ]),
    ("records", .list []), ("file_parts", .list [.text "007"]) ]

/-- **Not refused.** A list in the place of the parts of the file's name is neither accepted
    nor refused. -/
theorem listed_parts_not_refused :
    ¬ ∀ document : Cell, (∃ m, ofCell document = .ok m) ∨
      ∃ f, ofCell document = .error f ∧ f.IsManifest := by
  intro foreseen
  have stops : ofCell listedParts = .error (.shape .notAnObject) := rfl
  rcases foreseen listedParts with ⟨m, hm⟩ | ⟨f, hf, cause, rfl⟩
  · exact nomatch stops.symm.trans hm
  · exact nomatch stops.symm.trans hf

end Manifest

end ReportCheck
