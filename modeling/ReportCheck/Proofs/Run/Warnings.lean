import ReportCheck.Proofs.Predicate.NormalForm
import ReportCheck.Proofs.Run.Blocks
import ReportCheck.Proofs.Sample

/-! # Missing data

  A check that needs a part of the file's name or the reference lists, and does not have
  them, fails and warns. Nothing else warns.

  - `Rule.Lacks`: a rule is on, all its guards are met, and its check lacks its data.
    `lacking` lists the pairs of a record and a rule of which this is so.
  - `Check.eval_warns`, `Predicate.eval_warns` and `Rule.check_warns` count the warnings of one
    rule on one record; `checkRecord_warns`, `Validator.findings_warns` and `run_warns` carry
    the count to the rules of a tab, to its records, and to all tabs.
  - `missing_data_is_reported` is the statement for a rule and for a run.
-/

namespace ReportCheck

open RecordGroups

/-! ### Warnings -/

/-- The number of warnings in a log. -/
def countWarnings (log : List LogLine) : Nat := log.countP (·.level == "WARNING")

/-- Lines with the level of a warning are those that report a check that could not be
    made. -/
theorem LogLine.level_beq_warning (line : LogLine) : (line.level == "WARNING") = line.isWarning := by
  unfold level
  cases line.isWarning with
  | true => rfl
  | false => rfl

@[simp] theorem countWarnings_nil : countWarnings [] = 0 := rfl

@[simp] theorem countWarnings_append (log log' : List LogLine) :
    countWarnings (log ++ log') = countWarnings log + countWarnings log' := List.countP_append

@[simp] theorem countWarnings_singleton (line : LogLine) :
    countWarnings [line] = if line.isWarning then 1 else 0 := by
  rw [countWarnings, List.countP_singleton, LogLine.level_beq_warning]

/-! ### Checks -/

/-- **Missing data.** Whether a check needs a part of the file's name or reference lists
    that a context does not have. -/
def Check.lacksData (ctx : Context) : Check → Bool
  | matchesFilePart key => (ctx.filePart? key).isNone
  | dropdownIncludes _ => ctx.references.isNone
  | isValidState => ctx.references.isNone
  | _ => false

variable {value : Cell} {record : Record} {ctx : Context}

/-- A check of a part of the file's name warns exactly if the part is not known, and then it
    fails. -/
theorem Check.evalFilePart_warns (key : String) (value : Cell) (ctx : Context) :
    ((ctx.filePart? key).isNone = true ∧ (evalFilePart key value ctx).outcome = .ok false ∧
        countWarnings (evalFilePart key value ctx).log = 1) ∨
      ((ctx.filePart? key).isNone = false ∧
        countWarnings (evalFilePart key value ctx).log = 0) := by
  unfold evalFilePart
  cases ctx.filePart? key with
  | none => exact .inl ⟨rfl, rfl, rfl⟩
  | some part => exact .inr ⟨rfl, rfl⟩

theorem Check.evalDropdown_warns (listName : String) (value : Cell) (ctx : Context) :
    (ctx.references.isNone = true ∧ (evalDropdown listName value ctx).outcome = .ok false ∧
        countWarnings (evalDropdown listName value ctx).log = 1) ∨
      (ctx.references.isNone = false ∧ countWarnings (evalDropdown listName value ctx).log = 0) := by
  unfold evalDropdown
  cases ctx.references with
  | none => exact .inl ⟨rfl, rfl, rfl⟩
  | some references => exact .inr ⟨rfl, rfl⟩

/-- **Checks** warn exactly if they lack their data, and then they fail. -/
theorem Check.eval_warns (c : Check) (value : Cell) (record : Record) (ctx : Context) :
    (c.lacksData ctx = true ∧ (c.eval value record ctx).outcome = .ok false ∧
        countWarnings (c.eval value record ctx).log = 1) ∨
      (c.lacksData ctx = false ∧ countWarnings (c.eval value record ctx).log = 0) := by
  cases c with
  | matchesFilePart key => exact evalFilePart_warns key value ctx
  | dropdownIncludes listName => exact evalDropdown_warns listName value ctx
  | isValidState => exact evalDropdown_warns stateList value ctx
  -- All other checks are decided without a log.
  | _ => exact .inr ⟨rfl, rfl⟩

/-! ### Rules -/

/-- **Lacking rules.** A rule is on, its guards are met by a record, and its check lacks its
    data. -/
def Rule.Lacks (ctx : Context) (record : Record) (rule : Rule) : Prop :=
  rule.options.isActive ctx.tags = true ∧ (∀ g ∈ rule.predicate.guards, g.Met record) ∧
    rule.predicate.leaf.lacksData ctx = true

instance (ctx : Context) (record : Record) (rule : Rule) : Decidable (rule.Lacks ctx record) :=
  inferInstanceAs (Decidable (_ ∧ _))

/-- The warnings of a predicate that comes to a verdict. It warns once and is false if its
    guards are met and its check lacks its data; otherwise it does not warn. -/
theorem Predicate.eval_warns {p : Predicate} {value : Cell} {verdict : Bool}
    (h : (p.eval value record ctx).outcome = .ok verdict) :
    ((∀ g ∈ p.guards, g.Met record) ∧ p.leaf.lacksData ctx = true ∧ verdict = false ∧
        countWarnings (p.eval value record ctx).log = 1) ∨
      (¬ ((∀ g ∈ p.guards, g.Met record) ∧ p.leaf.lacksData ctx = true) ∧
        countWarnings (p.eval value record ctx).log = 0) := by
  rcases p.eval_cases value record ctx with
    ⟨-, -, e, -, stops⟩ | ⟨met, decides⟩ | ⟨⟨g, hg, unmet⟩, satisfied⟩
  · rw [stops] at h
    cases h
  · rw [decides] at h ⊢
    rcases p.leaf.eval_warns value record ctx with ⟨lacks, fails, warns⟩ | ⟨has, silent⟩
    · cases fails.symm.trans h
      exact .inl ⟨met, lacks, rfl, warns⟩
    · refine .inr ⟨?_, silent⟩
      rintro ⟨-, lacks⟩
      rw [has] at lacks
      cases lacks
  · rw [satisfied]
    refine .inr ⟨?_, rfl⟩
    rintro ⟨met, -⟩
    exact unmet (met g hg)

/-- **Rules** that lack their data make one finding and warn once. All others do not warn. -/
theorem Rule.check_warns {rule : Rule} {tab : String} {row : Option Int} {found : List Finding}
    (h : (rule.check tab row record ctx).outcome = .ok found) :
    (rule.Lacks ctx record ∧ rule.Fails ctx record ∧ found.length = 1 ∧
        countWarnings (rule.check tab row record ctx).log = 1) ∨
      (¬ rule.Lacks ctx record ∧ countWarnings (rule.check tab row record ctx).log = 0) := by
  by_cases active : rule.options.isActive ctx.tags = true
  · rw [Rule.check, if_pos active, Rule.evaluate] at h ⊢
    obtain ⟨verdict, hverdict, hfound⟩ := Traced.bind_eq_ok_iff.1 h
    rw [Traced.log_bind_of_ok hverdict, countWarnings_append]
    cases verdict with
    | true =>
      rcases Predicate.eval_warns hverdict with ⟨-, -, hfalse, -⟩ | ⟨has, silent⟩
      · cases hfalse
      · refine .inr ⟨fun lacks => has lacks.2, ?_⟩
        rw [silent]
        rfl
    | false =>
      -- Wording the finding does not log anything.
      obtain ⟨message, hmessage, hone⟩ := Traced.bind_eq_ok_iff.1 hfound
      cases hone
      simp only [Bool.false_eq_true, if_false]
      rw [Traced.log_bind_of_ok hmessage, Traced.log_ofExcept, Traced.log_pure, List.append_nil,
        countWarnings_nil, Nat.add_zero]
      rcases Predicate.eval_warns hverdict with ⟨met, lacks, -, warns⟩ | ⟨has, silent⟩
      · exact .inl ⟨⟨active, met, lacks⟩, ⟨active, hverdict⟩, rfl, warns⟩
      · exact .inr ⟨fun lacks => has lacks.2, silent⟩
  · rw [Rule.check, if_neg active]
    exact .inr ⟨fun lacks => active lacks.1, rfl⟩

/-! ### Records -/

/-- **Lacking pairs** of a record and a rule. -/
def lacking (rules : List Rule) (ctx : Context) (records : List Record) : List (Record × Rule) :=
  (records ×ˢ rules).filter fun pair => pair.2.Lacks ctx pair.1

theorem lacking_singleton (rule : Rule) (ctx : Context) (record : Record) :
    lacking [rule] ctx [record] = if rule.Lacks ctx record then [(record, rule)] else [] := by
  by_cases h : rule.Lacks ctx record
  · simp [lacking, h]
  · simp [lacking, h]

theorem lacking_cons (rules : List Rule) (ctx : Context) (record : Record) (rest : List Record) :
    lacking rules ctx (record :: rest) =
      lacking rules ctx [record] ++ lacking rules ctx rest := by
  simp [lacking, List.product_cons]

theorem flatMap_lacking (rules : List Rule) (ctx : Context) (records : List Record) :
    (records.flatMap fun record => lacking rules ctx [record]) = lacking rules ctx records := by
  induction records with
  | nil => rfl
  | cons record rest ih => rw [List.flatMap_cons, ih, ← lacking_cons]

theorem flatMap_lacking_singleton (rules : List Rule) (ctx : Context) (record : Record) :
    (rules.flatMap fun rule => lacking [rule] ctx [record]) = lacking rules ctx [record] := by
  induction rules with
  | nil => rfl
  | cons rule rest ih =>
    rw [List.flatMap_cons, ih, lacking_singleton]
    by_cases h : rule.Lacks ctx record
    · simp [lacking, h]
    · simp [lacking, h]

/-- A checked record warns once for each rule that lacks its data, and these rules fail. -/
theorem checkRecord_warns {rules : List Rule} {tab : String} {row : Option Int}
    {found : List Finding} (h : (checkRecord rules tab row ctx record).outcome = .ok found) :
    countWarnings (checkRecord rules tab row ctx record).log = (lacking rules ctx [record]).length ∧
      ∀ pair ∈ lacking rules ctx [record], pair.2.Fails ctx pair.1 := by
  constructor
  · rw [← flatMap_lacking_singleton]
    refine Traced.countP_log_collect ?_ h
    intro rule hrule part hpart
    rcases Rule.check_warns hpart with ⟨lacks, -, -, warns⟩ | ⟨has, silent⟩
    · rw [lacking_singleton, if_pos lacks]
      exact warns
    · rw [lacking_singleton, if_neg has]
      exact silent
  · rintro ⟨record', rule⟩ hpair
    obtain ⟨hmem, hlacks⟩ := List.mem_filter.1 hpair
    obtain ⟨hrecord, hrule⟩ := List.mem_product.1 hmem
    obtain rfl := List.mem_singleton.1 hrecord
    -- All rules were evaluated, so this one was.
    obtain ⟨-, part, -, hpart, -⟩ := Traced.collect_tookOver h rule hrule
    rcases Rule.check_warns hpart with ⟨-, fails, -⟩ | ⟨has, -⟩
    · exact fails
    · exact absurd (of_decide_eq_true hlacks) has

/-! ### Validators -/

namespace Validator

variable {v : Validator} {set : RecordGroups}

/-- The pairs of a checked record and a rule of the validator that lacks its data. -/
def lackingIn (set : RecordGroups) (ctx : Context) (v : Validator) : List (Record × Rule) :=
  lacking v.rules ctx (v.checked set)

/-- **Findings of a validator.** One warning for each lacking pair, and all these fail. -/
theorem findings_warns {found : List Finding} (h : (v.findings set ctx).outcome = .ok found) :
    countWarnings (v.findings set ctx).log = (v.lackingIn set ctx).length ∧
      ∀ pair ∈ v.lackingIn set ctx, pair.2.Fails ctx pair.1 := by
  unfold lackingIn checked
  unfold findings at h ⊢
  cases hscope : v.scope with
  | allRecords =>
    rw [hscope] at h
    constructor
    · rw [← flatMap_lacking]
      exact Traced.countP_log_collect (fun record _ part hpart => (checkRecord_warns hpart).1) h
    · rw [← flatMap_lacking]
      intro pair hpair
      obtain ⟨record, hrecord, hpair⟩ := List.mem_flatMap.1 hpair
      obtain ⟨-, part, -, hpart, -⟩ := Traced.collect_tookOver h record hrecord
      exact (checkRecord_warns hpart).2 pair hpair
  | singleRecord message row =>
    rw [hscope] at h
    match hon : set.on v.tab with
    | [] => exact ⟨rfl, List.forall_mem_nil _⟩
    | [record] =>
      rw [hon] at h
      exact checkRecord_warns h
    | _ :: _ :: _ => exact ⟨rfl, List.forall_mem_nil _⟩

theorem countWarnings_summaryLines (limit : Nat) (set : RecordGroups) (found : List Finding) :
    countWarnings (v.summaryLines limit set found) = 0 := by
  unfold summaryLines
  split
  · rfl
  · rfl

theorem block_warns {limit : Nat} {kept : List Finding}
    (h : (v.block limit set ctx).outcome = .ok kept) :
    countWarnings (v.block limit set ctx).log = (v.lackingIn set ctx).length ∧
      ∀ pair ∈ v.lackingIn set ctx, pair.2.Fails ctx pair.1 := by
  unfold block at h ⊢
  obtain ⟨found, hfound, hkept⟩ := Traced.bind_eq_ok_iff.1 h
  obtain ⟨warns, fail⟩ := findings_warns (Traced.mapError_eq_ok_iff.1 hfound)
  refine ⟨?_, fail⟩
  rw [Traced.log_bind_of_ok hfound, Traced.log_mapError, Traced.log_bind_of_ok rfl,
    Traced.log_noteAll, Traced.log_pure, List.append_nil, countWarnings_append, warns,
    countWarnings_summaryLines, Nat.add_zero]

end Validator

/-! ### Runs -/

/-- **Warnings of a run**: one for each lacking pair of each validator, and all these fail. -/
theorem run_warns {validators : List Validator} {settings : Settings} {set : RecordGroups}
    {ctx : Context} {found : List Finding}
    (h : (run validators settings set ctx).outcome = .ok found) :
    countWarnings (run validators settings set ctx).log =
        (validators.flatMap (Validator.lackingIn set ctx)).length ∧
      ∀ pair ∈ validators.flatMap (Validator.lackingIn set ctx), pair.2.Fails ctx pair.1 := by
  unfold run runCalling at h ⊢
  obtain ⟨_, hcovered, hblocks⟩ := Traced.bind_eq_ok_iff.1 h
  constructor
  · rw [Traced.log_bind_of_ok hcovered, Traced.log_ofExcept, List.nil_append]
    exact Traced.countP_log_collect (fun v _ kept hkept => (Validator.block_warns hkept).1) hblocks
  · intro pair hpair
    obtain ⟨v, hv, hpair⟩ := List.mem_flatMap.1 hpair
    obtain ⟨-, kept, -, hkept, -⟩ := Traced.collect_tookOver hblocks v hv
    exact (Validator.block_warns hkept).2 pair hpair

/-- **Missing data** is reported and warned of. A rule that is evaluated without the data that
    it needs makes one finding and warns once, and no other rule warns. So a run warns as often
    as it evaluates a rule that lacks its data, and none of these rules passes. -/
theorem missing_data_is_reported (ctx : Context) :
    (∀ rule tab row record found,
      (checkRecord [rule] tab row ctx record).outcome = .ok found →
        (rule.Lacks ctx record → found.length = 1 ∧
          countWarnings (checkRecord [rule] tab row ctx record).log = 1) ∧
        (¬ rule.Lacks ctx record →
          countWarnings (checkRecord [rule] tab row ctx record).log = 0)) ∧
    ∀ validators settings set found, (run validators settings set ctx).outcome = .ok found →
      countWarnings (run validators settings set ctx).log =
          (validators.flatMap (Validator.lackingIn set ctx)).length ∧
        ∀ pair ∈ validators.flatMap (Validator.lackingIn set ctx), pair.2.Fails ctx pair.1 := by
  constructor
  · intro rule tab row record found h
    obtain ⟨warns, -⟩ := checkRecord_warns h
    rw [lacking_singleton] at warns
    constructor
    · intro lacks
      rw [if_pos lacks] at warns
      -- The only part of the findings is what the rule finds.
      obtain ⟨parts, hparts, rfl⟩ := Traced.collect_eq_ok_iff.1 h
      obtain _ | ⟨hpart, _ | _⟩ := hparts
      rcases Rule.check_warns hpart with ⟨-, -, one, -⟩ | ⟨has, -⟩
      · refine ⟨?_, warns⟩
        simpa using one
      · exact absurd lacks has
    · intro has
      rw [if_neg has] at warns
      exact warns
  · intro validators settings set found h
    exact run_warns h

namespace Warnings

/-- A state that is only checked in the United States. -/
def stateRule : Rule where
  field := "state"
  predicate := .guarded ⟨.us, "country"⟩ (.check .isValidState)
  message := some "State"

/-- An agency that has to be the one of the file's name. -/
def agencyRule : Rule where
  field := "agency"
  predicate := .check (.matchesFilePart "agency")
  message := some "Agency"

/-- A rule that is off without a tag. -/
def payeeRule : Rule where
  field := "payee"
  predicate := .check (.dropdownIncludes "payees")
  options := { tags := some (.ofList ["audit"]) }

/-- A tab with the three rules. -/
def grants : Validator where
  tab := "grants"
  scope := .allRecords
  rules := [stateRule, agencyRule, payeeRule]

/-- A grant in the United States and one abroad. -/
def records : List Record :=
  [⟨"grants", [("country", .text "usa"), ("state", .text "NY")], some 2⟩,
    ⟨"grants", [("country", .text "fr"), ("agency", .text "DOE")], some 3⟩]

/-- What is found on the tab. -/
def found : List Finding :=
  [⟨"State", "grants", some 2⟩, ⟨"Agency", "grants", some 2⟩, ⟨"Agency", "grants", some 3⟩]

end Warnings

open Warnings Sample in
/-- The state of the grant abroad is not checked, so there are three warnings. The rule on the
    state makes one of them for the first grant and none for the second. -/
theorem missing_data_is_reported_of_two_grants :
    (run [grants] {} (.of records) context).outcome = .ok found ∧
      countWarnings (run [grants] {} (.of records) context).log = 3 ∧
      countWarnings (checkRecord [stateRule] "grants" (some 2) context records[0]).log = 1 ∧
      countWarnings (checkRecord [stateRule] "grants" (some 3) context records[1]).log = 0 := by
  obtain ⟨each, all⟩ := missing_data_is_reported context
  have returns : (run [grants] {} (.of records) context).outcome = .ok found := rfl
  have first : (checkRecord [stateRule] "grants" (some 2) context records[0]).outcome =
      .ok [⟨"State", "grants", some 2⟩] := by decide +kernel
  have second : (checkRecord [stateRule] "grants" (some 3) context records[1]).outcome =
      .ok [] := by decide +kernel
  have lacks : stateRule.Lacks context records[0] := by decide +kernel
  have has : ¬ stateRule.Lacks context records[1] := by decide +kernel
  have three : ([grants].flatMap (Validator.lackingIn (.of records) context)).length = 3 := by
    decide +kernel
  refine ⟨returns, ?_, ?_, ?_⟩
  · exact (all _ _ _ _ returns).1.trans three
  · exact ((each _ _ _ _ _ first).1 lacks).2
  · exact (each _ _ _ _ _ second).2 has

end ReportCheck
