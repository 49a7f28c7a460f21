import ReportCheck.Rule
import ReportCheck.Proofs.Trace
import ReportCheck.Proofs.Sample
import Mathlib.Data.List.Find

/-! # What a rule reads

  The outcome of a rule, its message and its log depend on a few fields of the record and
  on what the context knows, and on nothing else.

  - `Record.SeenAlike` relates records in which checks see the same cells under some
    names, `Context.Alike` contexts that know the same subrecipients.
  - `Check.eval_congr` and `Guard.holds_congr` say for each check and each guard which
    names matter; `Predicate.eval_congr` follows by induction over the guards.
  - `Rule.check_congr` is the statement for a rule, and
    `checkRecord_eq_of_sameOn` the one for all rules of a tab.
-/

namespace ReportCheck

/-! ### Fields as checks see them -/

theorem Record.value_cases (r : Record) (key : String) :
    r.value key = r.fields.getD key ∨ (r.fields.getD key = .empty ∧ r.value key = .text "") := by
  unfold Record.value Members.get? Members.getD
  cases r.fields.lookup key with
  | none => exact .inr ⟨rfl, rfl⟩
  | some cell =>
    by_cases hempty : cell = .empty
    · subst hempty
      exact .inr ⟨rfl, rfl⟩
    · left
      split
      · next h => exact nomatch h
      · next h => exact absurd (Option.some.inj h) hempty
      · next h => exact (Option.some.inj h).symm

/-- What does not tell an empty text from nothing sees in a cell what it sees in the
    field. -/
theorem Record.apply_value {α : Type} (f : Cell → α) (blind : f (.text "") = f .empty)
    (r : Record) (key : String) : f (r.value key) = f (r.fields.getD key) := by
  rcases r.value_cases key with hsame | ⟨hempty, htext⟩
  · rw [hsame]
  · rw [hempty, htext]
    exact blind

theorem Record.isBlank_value (r : Record) (key : String) :
    (r.value key).isBlank = (r.fields.getD key).isBlank :=
  r.apply_value Cell.isBlank rfl key

theorem Record.display_value (r : Record) (key : String) :
    (r.value key).display = (r.fields.getD key).display :=
  r.apply_value Cell.display rfl key

theorem Record.strictNumber_value (r : Record) (key : String) :
    (r.value key).strictNumber = (r.fields.getD key).strictNumber :=
  r.apply_value Cell.strictNumber rfl key

/-- **Records seen alike.** Checks see the same cells under some names. -/
def Record.SeenAlike (keys : List String) (r r' : Record) : Prop :=
  ∀ key ∈ keys, r.value key = r'.value key

/-- **Like contexts** know the same subrecipients, whatever they hold about them, and
    agree in everything else. -/
structure Context.Alike (ctx ctx' : Context) : Prop where
  others : ctx' = { ctx with subrecipients := ctx'.subrecipients }
  subrecipients : ∀ name, ctx'.subrecipients.has name = ctx.subrecipients.has name

theorem Context.Alike.refl (ctx : Context) : ctx.Alike ctx where
  others := rfl
  subrecipients := fun _ => rfl

variable {r r' : Record} {ctx ctx' : Context}

/-! ### What checks compute from a record -/

theorem Amount.ofFields_congr {keys : List String} (alike : r.SeenAlike keys r') :
    ofFields r keys = ofFields r' keys := by
  have collected : ∀ s : Record, ofFields s keys =
      ((keys.filter (· != "")).map s.value).mapM
        fun cell => do return ofNumber? (← cell.leadingNumber) := by
    intro s
    unfold ofFields
    rw [List.mapM_map]
    rfl
  rw [collected r, collected r']
  refine congrArg (List.mapM _) (List.map_congr_left ?_)
  intro key hkey
  exact alike key (List.mem_filter.1 hkey).1

theorem Amount.earlier_congr {matchFields : List (String × String)}
    (alike : r.SeenAlike (matchFields.map (·.2)) r') (matchValues : Members)
    (summaries : List PeriodSummary) :
    earlier matchValues matchFields r summaries = earlier matchValues matchFields r' summaries := by
  unfold earlier
  refine congrArg (fun linked => summaries.filter fun s =>
    s.agreesWith matchValues && s.agreesWith linked) (List.map_congr_left ?_)
  intro link hlink
  have hvalue : r.value link.2 = r'.value link.2 := alike link.2 (List.mem_map_of_mem hlink)
  exact congrArg (link.1, ·) hvalue

theorem Amount.cumulative_congr {key : String} {matchFields : List (String × String)}
    (alike : r.SeenAlike (key :: matchFields.map (·.2)) r') (matchValues : Members)
    (summaries : List PeriodSummary) :
    cumulative key matchValues matchFields r summaries =
      cumulative key matchValues matchFields r' summaries := by
  have own : r.value key = r'.value key := alike key (.head _)
  have links : r.SeenAlike (matchFields.map (·.2)) r' := by
    intro other hother
    exact alike other (.tail _ hother)
  unfold cumulative
  rw [own, earlier_congr links]

theorem Subrecipient.key?_congr (alike : r.SeenAlike keyFields r') :
    key? r.fields = key? r'.fields := by
  have found : keyFields.find? (fun name => !(r.fields.getD name).isBlank) =
      keyFields.find? (fun name => !(r'.fields.getD name).isBlank) := by
    refine List.find?_congr ?_
    intro name hname
    rw [← r.isBlank_value, ← r'.isBlank_value, alike name hname]
  unfold key?
  rw [found]
  -- What is found is one of the three names, so it displays the same in both records.
  cases hname : keyFields.find? (fun name => !(r'.fields.getD name).isBlank) with
  | none => rfl
  | some name =>
    have hdisplay : (r.fields.getD name).display = (r'.fields.getD name).display := by
      rw [← r.display_value, ← r'.display_value, alike name (List.mem_of_find?_eq_some hname)]
    exact congrArg some hdisplay

/-! ### Checks, guards and predicates -/

/-- **Checks** depend on the fields they name, also in what they log. -/
theorem Check.eval_congr (c : Check) (value : Cell) (alike : r.SeenAlike c.reads r')
    (same : ctx.Alike ctx') : c.eval value r ctx = c.eval value r' ctx' := by
  obtain ⟨others, known⟩ := same
  rw [others]
  cases c with
  | isEqual key =>
    exact congrArg (fun other => Traced.ofExcept (isWithinCent value other)) (alike key (.head _))
  | isSum keys =>
    have amounts : Amount.ofFields r keys = Amount.ofFields r' keys := Amount.ofFields_congr alike
    exact congrArg (fun amounts => Traced.ofExcept (amounts >>= Amount.matchesTotal value)) amounts
  | cumulativeAmountIsEqual key matchValues matchFields =>
    have amounts := Amount.cumulative_congr alike matchValues ctx.summaries
    exact congrArg (fun amounts => Traced.ofExcept (amounts >>= Amount.matchesTotal value)) amounts
  | isValidSubrecipient => exact congrArg pure (known value.display).symm
  | hasSubrecipientKey =>
    have hkey : Subrecipient.key? r.fields = Subrecipient.key? r'.fields :=
      Subrecipient.key?_congr alike
    exact congrArg (fun key => (pure key.isSome : Traced Fault Bool)) hkey
  | numberIsLessThanOrEqual key =>
    exact congrArg (fun other => Traced.ofExcept (comparesWith _ value other)) (alike key (.head _))
  | numberIsGreaterThanOrEqual key =>
    exact congrArg (fun other => Traced.ofExcept (comparesWith _ value other)) (alike key (.head _))
  | dateIsOnOrBefore key =>
    exact congrArg (fun other => Traced.ofExcept (daysMeet _ value other)) (alike key (.head _))
  | dateIsOnOrAfter key =>
    exact congrArg (fun other => Traced.ofExcept (daysMeet _ value other)) (alike key (.head _))
  -- The others look at no field besides the cell itself.
  | _ => rfl

/-- **Guards** depend on the field they name. -/
theorem Guard.holds_congr {g : Guard} (alike : r.value g.key = r'.value g.key) :
    g.holds r = g.holds r' := by
  unfold Guard.holds
  simp only [← Record.isBlank_value, ← Record.strictNumber_value, alike]

/-- **Predicates** depend on the fields they name, however many guards there are. -/
theorem Predicate.eval_congr (p : Predicate) (value : Cell) (alike : r.SeenAlike p.reads r')
    (same : ctx.Alike ctx') : p.eval value r ctx = p.eval value r' ctx' := by
  induction p with
  | check c => exact c.eval_congr value alike same
  | guarded guard inner ih =>
    have held : guard.holds r = guard.holds r' := Guard.holds_congr (alike guard.key (.head _))
    have decided : inner.eval value r ctx = inner.eval value r' ctx' := by
      apply ih
      intro key hkey
      exact alike key (.tail _ hkey)
    unfold Predicate.eval
    rw [held, decided]

/-! ### Rules -/

/-- **Read set** of a rule: its own field, and the fields that its predicate names. -/
def Rule.reads (rule : Rule) : List String := rule.field :: rule.predicate.reads

/-- **Rules** depend on the fields of their read set. -/
theorem Rule.evaluate_congr (rule : Rule) (tab : String) (row : Option Int)
    (alike : r.SeenAlike rule.reads r') (same : ctx.Alike ctx') :
    rule.evaluate tab row r ctx = rule.evaluate tab row r' ctx' := by
  have shown : r.value rule.field = r'.value rule.field := alike rule.field (.head _)
  have decided : rule.predicate.eval (r'.value rule.field) r ctx =
      rule.predicate.eval (r'.value rule.field) r' ctx' := by
    apply Predicate.eval_congr
    · intro key hkey
      exact alike key (.tail _ hkey)
    · exact same
  unfold Rule.evaluate
  simp only [shown, decided]

theorem Rule.check_congr (rule : Rule) (tab : String) (row : Option Int)
    (alike : r.SeenAlike rule.reads r') (same : ctx.Alike ctx') :
    rule.check tab row r ctx = rule.check tab row r' ctx' := by
  have active : rule.options.isActive ctx.tags = rule.options.isActive ctx'.tags := by
    rw [same.others]
  unfold Rule.check
  rw [active, rule.evaluate_congr tab row alike same]

/-- **Records** are checked alike by rules that read only fields seen alike. -/
theorem checkRecord_congr (rules : List Rule) (tab : String) (row : Option Int)
    (alike : ∀ rule ∈ rules, r.SeenAlike rule.reads r') (same : ctx.Alike ctx') :
    checkRecord rules tab row ctx r = checkRecord rules tab row ctx' r' := by
  unfold checkRecord
  refine Traced.collect_congr (List.forall₂_same.2 ?_)
  intro rule hrule
  exact rule.check_congr tab row (alike rule hrule) same

/-- **Same fields.** Two records hold the same values under some names, or none. -/
def Record.SameOn (keys : List String) (r r' : Record) : Prop :=
  ∀ key ∈ keys, r.fields.get? key = r'.fields.get? key

theorem Record.SameOn.seenAlike {keys : List String} (h : r.SameOn keys r') :
    r.SeenAlike keys r' := by
  intro key hkey
  unfold Record.value
  rw [h key hkey]

/-- **Read sets.** Rules make of two records the same findings, or the same failure, and
    the same log, if the records are the same in all fields that the rules read. In
    particular this holds of a single rule. -/
theorem checkRecord_eq_of_sameOn (rules : List Rule) (tab : String) (row : Option Int)
    (ctx : Context) (r r' : Record) (same : ∀ rule ∈ rules, r.SameOn rule.reads r') :
    checkRecord rules tab row ctx r = checkRecord rules tab row ctx r' := by
  apply checkRecord_congr
  · intro rule hrule
    exact (same rule hrule).seenAlike
  · exact .refl ctx

namespace Reads

/-- A rule that reads four fields besides its own, behind two guards and by a link, and
    one that reads the identifiers. -/
def rules : List Rule :=
  [ { field := "spent",
      predicate := .guarded ⟨.notBlank, "project"⟩ (.guarded ⟨.greaterThanZero, "budget"⟩
        (.check (.cumulativeAmountIsEqual "paid" [("tab", .text "grants")] [("id", "link")]))),
      message := some "Spent \x7b\x7d" },
    { field := "name", predicate := .check .hasSubrecipientKey } ]

/-- A record on the grants tab. What was spent is not what was paid in both periods. -/
def grant : Record where
  tab := "grants"
  fields := [("spent", .int 30), ("paid", .int 10), ("project", .text "Bridge"),
    ("budget", .int 50), ("link", .int 7), ("ein number", .int 77), ("remarks", .text "late")]
  row := some 4

/-- The record with other remarks, with a field more, and in another order. -/
def altered : Record where
  tab := "projects"
  fields := [("remarks", .float .nan), ("budget", .int 50), ("ein number", .int 77),
    ("link", .int 7), ("total", .empty), ("project", .text "Bridge"), ("paid", .int 10),
    ("spent", .int 30)]
  row := none

/-- A context in which an earlier period belongs to the records. -/
def context : Context := { Sample.context with
  summaries := [.ofFlat [("tab", .text "grants"), ("id", .text "7"), ("current_paid", .int 15)]] }

end Reads

open Reads in
/-- The two records agree on all that the rules read, so they are checked alike, with the
    same finding about what was spent. -/
theorem checkRecord_eq_of_sameOn_altered :
    (∀ rule ∈ rules, grant.SameOn rule.reads altered) ∧
      checkRecord rules "grants" (some 4) context grant =
        checkRecord rules "grants" (some 4) context altered := by
  have same : ∀ rule ∈ rules, grant.SameOn rule.reads altered := by
    intro rule hrule key hkey
    simp only [rules, List.mem_cons, List.not_mem_nil, or_false] at hrule
    -- Field by field, both records give the same cell or none.
    rcases hrule with rfl | rfl
    · simp only [Rule.reads, Predicate.reads, Check.reads, List.map_cons, List.map_nil,
        List.mem_cons, List.not_mem_nil, or_false] at hkey
      rcases hkey with rfl | rfl | rfl | rfl | rfl <;> rfl
    · simp only [Rule.reads, Predicate.reads, Check.reads, List.mem_cons, List.not_mem_nil,
        or_false] at hkey
      rcases hkey with rfl | rfl | rfl | rfl <;> rfl
  exact ⟨same, checkRecord_eq_of_sameOn rules _ _ _ _ _ same⟩

open Reads in
example : (checkRecord rules "grants" (some 4) context grant).outcome =
    .ok [⟨"Spent 30", "grants", some 4⟩] := rfl

end ReportCheck
