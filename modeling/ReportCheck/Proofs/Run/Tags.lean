import ReportCheck.Tab.Validator
import ReportCheck.Proofs.Trace
import ReportCheck.Proofs.Sample

/-! # Active tags

  Tags switch rules on and do nothing else. With more tags active more rules are checked,
  so a validator finds all that it found before, and perhaps more.

  - `Rule.Options.isActive_iff`: a rule is on exactly if it names no tags, or one of those
    that it names is active. Whether no tags are given or an empty set does not matter.
  - `Predicate.eval_withTags`: no check and no guard looks at the tags, so that
    `Rule.evaluate`, what a rule does when it is on, does not depend on them.
  - `Rule.check_activated` and `Rule.check_eq_of_same_tags` are the steps for a rule on a
    record; over records and rules they become `Validator.findings_of_activated`.
-/

namespace ReportCheck

open Outcome

/-- A context with other active tags. -/
def Context.withTags (ctx : Context) (active : Option TextSet) : Context :=
  { ctx with tags := active }

/-- A tag is among the active ones. None is where no tags are given. -/
def IsActiveTag (active : Option TextSet) (tag : String) : Prop :=
  ∃ tags, active = some tags ∧ tag ∈ tags.toList

/-! ### The gate -/

/-- **Tag gate.** A rule is on exactly if it names no tags, or one that is active. -/
theorem Rule.Options.isActive_iff {o : Rule.Options} {active : Option TextSet} :
    o.isActive active = true ↔
      ∀ tags, o.tags = some tags → ∃ tag ∈ tags.toList, IsActiveTag active tag := by
  unfold isActive IsActiveTag
  cases o.tags with
  | none => simp
  | some tags =>
    cases active with
    | none => simp
    | some active =>
      rw [Bool.not_eq_true', TextSet.isDisjoint_eq_false_iff]
      simp

theorem Rule.Options.isActive_mono {o : Rule.Options} {active active' : Option TextSet}
    (more : ∀ tag, IsActiveTag active tag → IsActiveTag active' tag)
    (h : o.isActive active = true) : o.isActive active' = true := by
  rw [isActive_iff] at h ⊢
  intro tags htags
  obtain ⟨tag, htag, hactive⟩ := h tags htags
  exact ⟨tag, htag, more tag hactive⟩

/-- **Named tags** of a rule. -/
def Rule.namedTags (rule : Rule) : List String :=
  match rule.options.tags with
  | none => []
  | some tags => tags.toList

theorem Rule.isActive_congr {rule : Rule} {active active' : Option TextSet}
    (same : ∀ tag ∈ rule.namedTags, IsActiveTag active tag ↔ IsActiveTag active' tag) :
    rule.options.isActive active = rule.options.isActive active' := by
  rw [Bool.eq_iff_iff, Rule.Options.isActive_iff, Rule.Options.isActive_iff]
  refine forall₂_congr ?_
  intro tags htags
  refine exists_congr ?_
  intro tag
  refine and_congr_right ?_
  intro htag
  apply same
  unfold namedTags
  rw [htags]
  exact htag

/-! ### What is behind the gate -/

/-- **Checks** do not look at the tags. -/
theorem Check.eval_withTags (c : Check) (value : Cell) (record : Record) (ctx : Context)
    (active : Option TextSet) :
    c.eval value record (ctx.withTags active) = c.eval value record ctx := by
  cases c <;> rfl

/-- **Predicates** do not look at the tags, behind however many guards. -/
theorem Predicate.eval_withTags (p : Predicate) (value : Cell) (record : Record) (ctx : Context)
    (active : Option TextSet) :
    p.eval value record (ctx.withTags active) = p.eval value record ctx := by
  induction p with
  | check c => exact c.eval_withTags value record ctx active
  | guarded guard inner ih =>
    unfold Predicate.eval
    rw [ih]

theorem Rule.evaluate_withTags (tab : String) (row : Option Int) (record : Record) (ctx : Context)
    (rule : Rule) (active : Option TextSet) :
    rule.evaluate tab row record (ctx.withTags active) = rule.evaluate tab row record ctx := by
  simp only [evaluate, Predicate.eval_withTags]

theorem Rule.check_withTags (tab : String) (row : Option Int) (record : Record) (ctx : Context)
    (rule : Rule) (active : Option TextSet) :
    rule.check tab row record (ctx.withTags active) =
      if rule.options.isActive active then rule.evaluate tab row record ctx else pure [] := by
  rw [← rule.evaluate_withTags tab row record ctx active]
  rfl

/-! ### Rules on a record -/

variable {ctx : Context} {active active' : Option TextSet}

/-- **More active tags** make no finding about a record disappear, and a rule that stops
    stops on the record with these tags as well. -/
theorem Rule.check_activated (more : ∀ tag, IsActiveTag active tag → IsActiveTag active' tag)
    (tab : String) (row : Option Int) (record : Record) (rule : Rule) :
    Tracks (fun found' found => found.Sublist found')
      (rule.check tab row record (ctx.withTags active')).outcome
      (rule.check tab row record (ctx.withTags active)).outcome := by
  rw [check_withTags, check_withTags]
  by_cases on : rule.options.isActive active = true
  · rw [if_pos on, if_pos (Rule.Options.isActive_mono more on)]
    exact .refl .refl _
  · -- A rule that was off has found nothing.
    rw [if_neg on]
    intro found' _
    exact ⟨[], rfl, List.nil_sublist found'⟩

/-- **The same tags** among those that a rule names make no difference to it. -/
theorem Rule.check_eq_of_same_tags {rule : Rule}
    (same : ∀ tag ∈ rule.namedTags, IsActiveTag active tag ↔ IsActiveTag active' tag)
    (tab : String) (row : Option Int) (record : Record) :
    rule.check tab row record (ctx.withTags active) =
      rule.check tab row record (ctx.withTags active') := by
  rw [check_withTags, check_withTags, isActive_congr same]

/-! ### Validators -/

namespace Validator

/-- The tags that the rules of a validator name. -/
def namedTags (v : Validator) : List String := v.rules.flatMap Rule.namedTags

theorem findings_tracks_sublist {v : Validator} {ctx ctx' : Context}
    (h : ∀ rule ∈ v.rules, ∀ row record, Tracks (fun found found' => found'.Sublist found)
      (rule.check v.tab row record ctx).outcome (rule.check v.tab row record ctx').outcome)
    (set : RecordGroups) :
    Tracks (fun found found' => found'.Sublist found)
      (v.findings set ctx).outcome (v.findings set ctx').outcome := by
  have records : ∀ row record, Tracks (fun found found' => found'.Sublist found)
      (checkRecord v.rules v.tab row ctx record).outcome
      (checkRecord v.rules v.tab row ctx' record).outcome := by
    intro row record
    exact Traced.collect_tracks_sublist fun rule hrule => h rule hrule row record
  unfold findings
  cases v.scope with
  | allRecords => exact Traced.collect_tracks_sublist fun record _ => records record.row record
  | singleRecord message row =>
    -- A wrong number of records is found in either context.
    match set.on v.tab with
    | [record] => exact records (some row) record
    | [] => exact .refl .refl _
    | _ :: _ :: _ => exact .refl .refl _

theorem findings_eq_of_check_eq {v : Validator} {ctx ctx' : Context}
    (h : ∀ rule ∈ v.rules, ∀ row record,
      rule.check v.tab row record ctx = rule.check v.tab row record ctx')
    (set : RecordGroups) : v.findings set ctx = v.findings set ctx' := by
  have records : ∀ row record,
      checkRecord v.rules v.tab row ctx record = checkRecord v.rules v.tab row ctx' record := by
    intro row record
    exact Traced.collect_congr (List.forall₂_same.2 fun rule hrule => h rule hrule row record)
  unfold findings
  simp only [records]

/-- **Activating tags** only adds findings: if a validator comes to findings with some
    tags active, then it does so with fewer, and finds some of the same in the same order.
    If two sets of active tags share the same tags with those that the rules name, then
    findings, failure and log are the same. A rule without tags is evaluated under all
    tags, one with an empty set of tags under none. -/
theorem findings_of_activated (v : Validator) (set : RecordGroups) (ctx : Context)
    (active active' : Option TextSet) :
    ((∀ tag, IsActiveTag active tag → IsActiveTag active' tag) →
      ∀ found', (v.findings set (ctx.withTags active')).outcome = .ok found' →
        ∃ found, (v.findings set (ctx.withTags active)).outcome = .ok found ∧
          found.Sublist found') ∧
    ((∀ tag ∈ v.namedTags, IsActiveTag active tag ↔ IsActiveTag active' tag) →
      v.findings set (ctx.withTags active) = v.findings set (ctx.withTags active')) ∧
    ∀ rule ∈ v.rules, ∀ row record,
      (rule.options.tags = none →
        rule.check v.tab row record (ctx.withTags active) =
          rule.evaluate v.tab row record ctx) ∧
      (rule.options.tags = some .empty →
        rule.check v.tab row record (ctx.withTags active) = pure []) := by
  refine ⟨?_, ?_, ?_⟩
  · intro more
    exact findings_tracks_sublist (fun rule _ row record =>
      rule.check_activated more v.tab row record) set
  · intro same
    refine findings_eq_of_check_eq ?_ set
    intro rule hrule row record
    apply Rule.check_eq_of_same_tags
    intro tag htag
    exact same tag (List.mem_flatMap.2 ⟨rule, hrule, htag⟩)
  · intro rule _ row record
    rw [rule.check_withTags v.tab row record ctx active]
    refine ⟨?_, ?_⟩
    · intro untagged
      refine if_pos (Rule.Options.isActive_iff.2 ?_)
      intro tags htags
      rw [untagged] at htags
      exact nomatch htags
    · intro noTags
      refine if_neg ?_
      intro on
      -- None of its tags can be active, because it has none.
      obtain ⟨tag, htag, -⟩ := Rule.Options.isActive_iff.1 on _ noTags
      exact nomatch htag

end Validator

namespace Tags

/-- A rule without tags. -/
def amountRule : Rule where
  field := "amount"
  predicate := .check .isPositiveNumber
  message := some "Amount"

/-- A rule with two tags, behind a guard. -/
def payeeRule : Rule where
  field := "payee"
  predicate := .guarded ⟨.notBlank, "amount"⟩ (.check .isNotBlank)
  message := some "Payee"
  options := { tags := some (.ofList ["audit", "close"]) }

/-- A rule with an empty set of tags. -/
def dayRule : Rule where
  field := "day"
  predicate := .check .isValidDate
  message := some "Day"
  options := { tags := some .empty }

/-- A tab of payments with the three rules. -/
def payments : Validator where
  tab := "payments"
  scope := .allRecords
  rules := [amountRule, payeeRule, dayRule]

/-- Payments without payee and day, the second one without an amount as well. -/
def records : List Record :=
  [⟨"payments", [("amount", .int 12)], some 2⟩, ⟨"payments", [("amount", .int 0)], some 3⟩]

/-- One of the tags that the rules name. -/
def audit : Option TextSet := some (.ofList ["audit"])

/-- The same tag, and one that no rule names. -/
def lateAudit : Option TextSet := some (.ofList ["audit", "late"])

/-- What is found while the payments are audited. -/
def found : List Finding :=
  [⟨"Payee", "payments", some 2⟩, ⟨"Amount", "payments", some 3⟩, ⟨"Payee", "payments", some 3⟩]

end Tags

open Tags Sample in
/-- Without tags there are fewer than three findings, a tag that no rule names changes
    nothing, and of the other two rules one is always on and one is always off. -/
theorem Validator.findings_of_activated_audit :
    ((∀ tag, IsActiveTag none tag → IsActiveTag audit tag) ∧
      (payments.findings (.of records) (context.withTags audit)).outcome = .ok found ∧
      ∃ less, (payments.findings (.of records) (context.withTags none)).outcome = .ok less ∧
        less.Sublist found) ∧
    ((∀ tag ∈ payments.namedTags, IsActiveTag audit tag ↔ IsActiveTag lateAudit tag) ∧
      payments.findings (.of records) (context.withTags audit) =
        payments.findings (.of records) (context.withTags lateAudit)) ∧
    ((amountRule ∈ payments.rules ∧ amountRule.options.tags = none) ∧
      (dayRule ∈ payments.rules ∧ dayRule.options.tags = some .empty) ∧
      ∀ row record,
        amountRule.check "payments" row record (context.withTags none) =
          amountRule.evaluate "payments" row record context ∧
        dayRule.check "payments" row record (context.withTags none) = pure []) := by
  have more : ∀ tag, IsActiveTag none tag → IsActiveTag audit tag := by
    rintro tag ⟨tags, hnone, -⟩
    exact nomatch hnone
  have returns : (payments.findings (.of records) (context.withTags audit)).outcome = .ok found := rfl
  have same : ∀ tag ∈ payments.namedTags, IsActiveTag audit tag ↔ IsActiveTag lateAudit tag := by
    intro tag htag
    have named : tag = "audit" ∨ tag = "close" := by
      simpa using (show tag ∈ ["audit", "close"] from htag)
    rcases named with rfl | rfl <;> simp [IsActiveTag, audit, lateAudit, TextSet.mem_ofList]
  obtain ⟨fewer, -, gate⟩ := payments.findings_of_activated (.of records) context none audit
  obtain ⟨-, unchanged, -⟩ := payments.findings_of_activated (.of records) context audit lateAudit
  have always : amountRule ∈ payments.rules := .head _
  have never : dayRule ∈ payments.rules := .tail _ (.tail _ (.head _))
  refine ⟨⟨more, returns, fewer more found returns⟩, ⟨same, unchanged same⟩,
    ⟨always, rfl⟩, ⟨never, rfl⟩, ?_⟩
  intro row record
  exact ⟨(gate amountRule always row record).1 rfl, (gate dayRule never row record).2 rfl⟩

open Tags Sample in
example : (payments.findings (.of records) (context.withTags none)).outcome =
    .ok [⟨"Amount", "payments", some 3⟩] := rfl

end ReportCheck
