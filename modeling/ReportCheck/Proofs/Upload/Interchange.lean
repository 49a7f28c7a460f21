import ReportCheck.Proofs.Cell.Spelling
import ReportCheck.Proofs.Upload.Absent
import ReportCheck.Proofs.Sample

/-! # Numbers in the place of others

  Identifiers, links and lists are compared as texts. Two cells that display alike may stand for
  each other there.

  - `Check.ReadsText` lists the checks that compare texts.
  - `Cell.Interchangeable` says in which places one cell may stand for another, and that no
    verdict changes. There is one lemma for each place, and `interchangeable_iff` puts them
    together: it takes that the two cells display alike.
  - `Check.eval_linked` is about a linked field that is an amount as well: it is read as a number
    too, and integers and double-precision numbers of one value are read alike.
-/

namespace ReportCheck

open RecordGroups

/-- **Checks of texts**: they look at a cell as it displays. -/
inductive Check.ReadsText : Check → Prop
  | isValidSubrecipient : ReadsText .isValidSubrecipient
  | matchesFilePart (key : String) : ReadsText (.matchesFilePart key)
  | dropdownIncludes (listName : String) : ReadsText (.dropdownIncludes listName)
  | isValidState : ReadsText .isValidState
  | isValidZip : ReadsText .isValidZip
  | isOneOf (values : List String) : ReadsText (.isOneOf values)

/-- **Interchangeable cells.** No verdict changes if one of two cells is put in the place of the
    other where cells are compared as texts. -/
structure Cell.Interchangeable (v w : Cell) : Prop where
  /-- As a cell that is checked, such as the identifier in a grant. -/
  checked : ∀ c : Check, c.ReadsText → ∀ (record : Record) (ctx : Context),
    (c.eval v record ctx).outcome = (c.eval w record ctx).outcome
  /-- As an identifier of a subrecipient. -/
  identifier : ∀ name ∈ Subrecipient.keyFields, ∀ (u : Upload) (before after : List Record)
    (tab : String) (fields : Members) (row : Option Int) (settings : Settings),
    let listing (c : Cell) := u.withRecords (before ++ ⟨tab, fields.put name c, row⟩ :: after)
    (∃ f, (listing v).context settings = .error f ∧ (listing w).context settings = .error f) ∨
      ∃ ctx ctx', (listing v).context settings = .ok ctx ∧ (listing w).context settings = .ok ctx' ∧
        ∀ (p : Predicate) (value : Cell) (record : Record),
          p.eval value record ctx = p.eval value record ctx'
  /-- As an identifier in a record that has to carry one. -/
  carried : ∀ (name : String) (value : Cell) (record : Record) (ctx : Context),
    let carrying (c : Cell) := { record with fields := record.fields.put name c }
    Check.hasSubrecipientKey.eval value (carrying v) ctx =
      Check.hasSubrecipientKey.eval value (carrying w) ctx
  /-- As a part of the file's name. -/
  filePart : ∀ (s : ContextSources) (parts : Members) (name : String),
    { s with fileParts := .raw (.object (parts.put name v)) }.build =
      { s with fileParts := .raw (.object (parts.put name w)) }.build
  /-- As an entry of a reference list. -/
  listEntry : ∀ (lists : Members) (name : String) (before after : List Cell),
    ReferenceLists.ofMembers (lists.put name (.list (before ++ v :: after))) =
      ReferenceLists.ofMembers (lists.put name (.list (before ++ w :: after)))
  /-- As an attribute of an earlier period. -/
  summaryAttribute : ∀ (s : PeriodSummary) (name : String) (before after : List PeriodSummary)
    (p : Predicate) (value : Cell) (record : Record) (ctx : Context),
    let summaries (c : Cell) := before ++ { s with attributes := s.attributes.put name c } :: after
    p.eval value record { ctx with summaries := summaries v } =
      p.eval value record { ctx with summaries := summaries w }
  /-- As an attribute of an earlier period that is given as a flat object. -/
  flatAttribute : ∀ (flat : Members) (name : String), PeriodSummary.amountName? name = none →
    ∀ (before after : List PeriodSummary) (p : Predicate) (value : Cell) (record : Record)
    (ctx : Context),
    let summaries (c : Cell) := before ++ .ofFlat (flat.put name c) :: after
    p.eval value record { ctx with summaries := summaries v } =
      p.eval value record { ctx with summaries := summaries w }
  /-- As a value that earlier periods have to match. -/
  matchValue : ∀ (key : String) (matchValues : Members) (name : String)
    (matchFields : List (String × String)) (value : Cell) (record : Record) (ctx : Context),
    (Check.cumulativeAmountIsEqual key (matchValues.put name v) matchFields).eval value record ctx =
      (Check.cumulativeAmountIsEqual key (matchValues.put name w) matchFields).eval value record ctx
  /-- As a field to which earlier periods are linked. -/
  linkedField : ∀ (key : String) (matchValues : Members) (matchFields : List (String × String))
    (field : String), field ≠ key → ∀ (value : Cell) (record : Record) (ctx : Context),
    let linked (c : Cell) := { record with fields := record.fields.put field c }
    (Check.cumulativeAmountIsEqual key matchValues matchFields).eval value (linked v) ctx =
      (Check.cumulativeAmountIsEqual key matchValues matchFields).eval value (linked w) ctx

namespace Members

variable {v w : Cell}

theorem getD_put (members : Members) (name key : String) (value : Cell) :
    (members.put name value).getD key = if key = name then value else members.getD key := by
  show ((members.put name value).get? key).getD .empty = _
  by_cases h : key = name
  · rw [h, get?_put_self, if_pos rfl]
    rfl
  · rw [get?_put_of_ne _ _ h, if_neg h]
    rfl

theorem map_put_congr {α : Type} {f : String × Cell → α}
    (same : ∀ name, f (name, v) = f (name, w)) (members : Members) (name : String) :
    (members.put name v).map f = (members.put name w).map f := by
  induction members with
  | nil => exact congrArg ([·]) (same name)
  | cons member rest ih =>
    obtain ⟨other, old⟩ := member
    unfold put
    by_cases h : (other == name) = true
    · rw [if_pos h, if_pos h, List.map_cons, List.map_cons, same]
    · rw [if_neg h, if_neg h, List.map_cons, List.map_cons, ih]

theorem put_ne_nil (members : Members) (name : String) (value : Cell) :
    members.put name value ≠ [] := by
  cases members with
  | nil => exact List.cons_ne_nil _ _
  | cons member rest =>
    unfold put
    split
    · exact List.cons_ne_nil _ _
    · exact List.cons_ne_nil _ _

end Members

/-! ### Earlier periods -/

/-- **Like summaries** of earlier periods: the amounts are the same, and the attributes agree with
    the same values. -/
structure PeriodSummary.Alike (s s' : PeriodSummary) : Prop where
  current : s.current = s'.current
  agrees : ∀ expected, s.agreesWith expected = s'.agreesWith expected

theorem PeriodSummary.Alike.refl (s : PeriodSummary) : s.Alike s := ⟨rfl, fun _ => rfl⟩

theorem PeriodSummary.ofFlat_put {name : String} (noAmount : amountName? name = none)
    (flat : Members) (value : Cell) : ofFlat (flat.put name value) =
      { ofFlat flat with attributes := (ofFlat flat).attributes.put name value } := by
  unfold ofFlat
  congr 1
  · induction flat with
    | nil => simp [Members.put, noAmount]
    | cons member rest ih =>
      obtain ⟨other, old⟩ := member
      by_cases h : other = name
      · subst h
        simp [Members.put, noAmount]
      · cases kept : amountName? other with
        | none => simpa [Members.put, h, kept] using ih
        | some field => simpa [Members.put, h, kept] using ih
  · have none : ∀ c, amountOf? name c = none := by
      intro c
      unfold amountOf?
      rw [noAmount]
      rfl
    induction flat with
    | nil => simp [Members.put, none]
    | cons member rest ih =>
      obtain ⟨other, old⟩ := member
      by_cases h : other = name
      · subst h
        simp [Members.put, none]
      · simp [Members.put, h, List.filterMap_cons, ih]

theorem Amount.cumulative_alike {summaries summaries' : List PeriodSummary}
    (alike : List.Forall₂ PeriodSummary.Alike summaries summaries') (key : String)
    (matchValues : Members) (matchFields : List (String × String)) (record : Record) :
    cumulative key matchValues matchFields record summaries =
      cumulative key matchValues matchFields record summaries' := by
  have found : List.Forall₂ PeriodSummary.Alike (earlier matchValues matchFields record summaries)
      (earlier matchValues matchFields record summaries') := by
    unfold earlier
    refine List.rel_filter (R := PeriodSummary.Alike) ?_ alike
    intro s s' same
    simp only [same.agrees]
  have amounts : (earlier matchValues matchFields record summaries).map (·.currentAmount key) =
      (earlier matchValues matchFields record summaries').map (·.currentAmount key) := by
    refine List.forall₂_eq_eq_eq ▸ List.rel_map (fun s s' same => ?_) found
    show s.currentAmount key = s'.currentAmount key
    unfold PeriodSummary.currentAmount
    rw [same.current]
  unfold cumulative
  rw [amounts]

/-- **Predicates** do not tell like summaries apart. -/
theorem Predicate.eval_alike {summaries summaries' : List PeriodSummary}
    (alike : List.Forall₂ PeriodSummary.Alike summaries summaries') (p : Predicate) (value : Cell)
    (record : Record) (ctx : Context) :
    p.eval value record { ctx with summaries := summaries } =
      p.eval value record { ctx with summaries := summaries' } := by
  induction p with
  | check c =>
    cases c with
    | cumulativeAmountIsEqual key matchValues matchFields =>
      exact congrArg (fun amounts => Traced.ofExcept (amounts >>= Amount.matchesTotal value))
        (Amount.cumulative_alike alike key matchValues matchFields record)
    | _ => rfl
  | guarded guard inner ih =>
    unfold Predicate.eval
    rw [ih]

section Places

variable {v w : Cell} (same : v.display = w.display)

include same

/-! ### Checked cells -/

theorem Check.outcome_congr_display {c : Check} (h : c.ReadsText) (record : Record)
    (ctx : Context) : (c.eval v record ctx).outcome = (c.eval w record ctx).outcome := by
  have folded : v.foldedDisplay = w.foldedDisplay := congrArg Text.lower same
  -- The log of a list names the cell, but the verdict is the same.
  have listed : ∀ listName,
      (evalDropdown listName v ctx).outcome = (evalDropdown listName w ctx).outcome := by
    intro listName
    unfold evalDropdown
    cases ctx.references with
    | none => rfl
    | some r =>
      show Except.ok (r.includes listName v) = Except.ok (r.includes listName w)
      unfold ReferenceLists.includes
      rw [folded]
  cases h with
  | isValidSubrecipient => exact congrArg (fun s => Except.ok (ctx.subrecipients.has s)) same
  | matchesFilePart key =>
    show (evalFilePart key v ctx).outcome = (evalFilePart key w ctx).outcome
    unfold evalFilePart
    rw [same]
  | dropdownIncludes listName => exact listed listName
  | isValidState => exact listed stateList
  | isValidZip => exact congrArg (fun s : String => Except.ok (isZip s.toList)) same
  | isOneOf values => exact congrArg (fun s => Except.ok (values.contains s)) same

/-! ### Fields -/

theorem Members.display_getD_put (members : Members) (name key : String) :
    ((members.put name v).getD key).display = ((members.put name w).getD key).display := by
  rw [getD_put, getD_put]
  split
  · exact same
  · rfl

theorem Subrecipient.key?_put (hv : v.isBlank = false) (hw : w.isBlank = false) (fields : Members)
    (name : String) : key? (fields.put name v) = key? (fields.put name w) := by
  have blank : ∀ key, ((fields.put name v).getD key).isBlank =
      ((fields.put name w).getD key).isBlank := by
    intro key
    rw [Members.getD_put, Members.getD_put]
    split
    · rw [hv, hw]
    · rfl
  unfold key?
  simp only [blank, fields.display_getD_put same name]

/-- **Identifiers.** Contexts that know a subrecipient by one cell or the other are alike. -/
theorem Upload.context_put (hv : v.isBlank = false) (hw : w.isBlank = false) (name : String)
    (u : Upload) (before after : List Record) (tab : String) (fields : Members) (row : Option Int)
    (settings : Settings) :
    let listing (c : Cell) := u.withRecords (before ++ ⟨tab, fields.put name c, row⟩ :: after)
    (∃ f, (listing v).context settings = .error f ∧ (listing w).context settings = .error f) ∨
      ∃ ctx ctx', (listing v).context settings = .ok ctx ∧ (listing w).context settings = .ok ctx' ∧
        ∀ (p : Predicate) (value : Cell) (record : Record),
          p.eval value record ctx = p.eval value record ctx' := by
  intro listing
  have key := Subrecipient.key?_put same hv hw fields name
  have keys : Subrecipient.SameKeys (recordsOn settings.subrecipientTab (listing v).records)
      (recordsOn settings.subrecipientTab (listing w).records) := by
    intro found
    simp only [listing, withRecords, recordsOn, List.mem_filter, List.mem_append, List.mem_cons,
      or_and_right, exists_or, and_assoc, exists_eq_left, key]
  rcases (listing v).context_alike (listing w).records keys with
    ⟨f, failed, failed'⟩ | ⟨ctx, ctx', built, built', alike⟩
  · exact .inl ⟨f, failed, failed'⟩
  · refine .inr ⟨ctx, ctx', built, built', fun p value record => ?_⟩
    exact p.eval_congr value (fun _ _ => rfl) alike

/-! ### Inputs of a context -/

/-- **Parts of the file's name** are taken over as they display. -/
theorem ContextSources.build_put (s : ContextSources) (parts : Members) (name : String) :
    { s with fileParts := .raw (.object (parts.put name v)) }.build =
      { s with fileParts := .raw (.object (parts.put name w)) }.build := by
  have read : ∀ c : Cell, (Cell.object (parts.put name c)).fileParts =
      .ok ((parts.put name c).map fun part => (part.1, part.2.display)) := by
    intro c
    have filled : (Cell.object (parts.put name c)).isFalsy = false :=
      List.isEmpty_eq_false_iff.2 (parts.put_ne_nil name c)
    unfold Cell.fileParts
    rw [filled]
    rfl
  have texts := Members.map_put_congr (f := fun part => (part.1, part.2.display))
    (fun name => congrArg (Prod.mk name) same) parts name
  unfold ContextSources.build
  simp only [Source.resolve, read, texts]

/-- **Reference lists** keep what their entries display as. -/
theorem ReferenceLists.ofMembers_put (lists : Members) (name : String) (before after : List Cell) :
    ofMembers (lists.put name (.list (before ++ v :: after))) =
      ofMembers (lists.put name (.list (before ++ w :: after))) := by
  have folded : v.foldedDisplay = w.foldedDisplay := congrArg Text.lower same
  have entries : entriesOf (.list (before ++ v :: after)) =
      entriesOf (.list (before ++ w :: after)) := by
    have texts : (before ++ v :: after).map Cell.foldedDisplay =
        (before ++ w :: after).map Cell.foldedDisplay := by
      rw [List.map_append, List.map_append, List.map_cons, List.map_cons, folded]
    exact congrArg (fun texts => Except.ok (TextSet.ofList texts)) texts
  let readList (list : String × Cell) : Except ShapeFault (String × TextSet) := do
    return (list.1, ← entriesOf list.2)
  -- Each list is read on its own, so what is read is a map over the lists.
  have read : ∀ members : Members,
      ofMembers members = (members.map readList).mapM id >>= fun lists => return ⟨lists⟩ := by
    intro members
    rw [List.mapM_map]
    rfl
  have lists := Members.map_put_congr (f := readList)
    (fun name => congrArg (fun read => do return (name, ← read)) entries) lists name
  rw [read, read, lists]

/-! ### Earlier periods -/

theorem PeriodSummary.alike_put (s : PeriodSummary) (name : String) :
    PeriodSummary.Alike { s with attributes := s.attributes.put name v }
      { s with attributes := s.attributes.put name w } where
  current := rfl
  agrees := by
    intro expected
    unfold agreesWith
    simp only [s.attributes.display_getD_put same name]

/-- **Attributes** of earlier periods. -/
theorem Predicate.eval_put_attribute (s : PeriodSummary) (name : String)
    (before after : List PeriodSummary) (p : Predicate) (value : Cell) (record : Record)
    (ctx : Context) :
    let summaries (c : Cell) := before ++ { s with attributes := s.attributes.put name c } :: after
    p.eval value record { ctx with summaries := summaries v } =
      p.eval value record { ctx with summaries := summaries w } := by
  intro summaries
  have others : ∀ summaries, List.Forall₂ PeriodSummary.Alike summaries summaries :=
    fun summaries => List.forall₂_same.2 fun s _ => .refl s
  have alike := List.rel_append (others before) (.cons (s.alike_put same name) (others after))
  exact eval_alike alike p value record ctx

theorem PeriodSummary.agreesWith_put (s : PeriodSummary) (expected : Members) (name : String) :
    s.agreesWith (expected.put name v) = s.agreesWith (expected.put name w) := by
  let agrees (entry : String × Cell) : Bool :=
    (s.attributes.getD entry.1).display == entry.2.display
  have compared : ∀ expected : Members,
      s.agreesWith expected = (expected.map agrees).all id := by
    intro expected
    rw [List.all_map]
    rfl
  have entries := Members.map_put_congr (f := agrees)
    (fun name => congrArg ((s.attributes.getD name).display == ·) same) expected name
  rw [compared, compared, entries]

/-- **Values to match.** -/
theorem Amount.cumulative_put (key : String) (matchValues : Members) (name : String)
    (matchFields : List (String × String)) (record : Record) (summaries : List PeriodSummary) :
    cumulative key (matchValues.put name v) matchFields record summaries =
      cumulative key (matchValues.put name w) matchFields record summaries := by
  unfold cumulative earlier
  simp only [PeriodSummary.agreesWith_put same]

theorem Amount.earlier_linked (matchValues : Members) (matchFields : List (String × String))
    (field : String) (record : Record) (summaries : List PeriodSummary) :
    let linked (c : Cell) := { record with fields := record.fields.put field c }
    earlier matchValues matchFields (linked v) summaries =
      earlier matchValues matchFields (linked w) summaries := by
  intro linked
  unfold earlier
  refine List.filter_congr fun s _ => congrArg (s.agreesWith matchValues && ·) ?_
  unfold PeriodSummary.agreesWith
  rw [List.all_map, List.all_map]
  refine congrArg (List.all matchFields) (funext fun link => ?_)
  have shown := record.fields.display_getD_put same field link.2
  show ((s.attributes.getD link.1).display == ((linked v).value link.2).display) = _
  rw [Record.display_value, shown, ← (linked w).display_value]
  rfl

/-- **Linked fields**, unless one is the amount itself. -/
theorem Amount.cumulative_linked (key : String) (matchValues : Members)
    (matchFields : List (String × String)) {field : String} (other : field ≠ key)
    (record : Record) (summaries : List PeriodSummary) :
    let linked (c : Cell) := { record with fields := record.fields.put field c }
    cumulative key matchValues matchFields (linked v) summaries =
      cumulative key matchValues matchFields (linked w) summaries := by
  intro linked
  have own : (linked v).value key = (linked w).value key := by
    unfold Record.value
    simp only [linked, Members.get?_put_of_ne _ _ other.symm]
  unfold cumulative
  rw [own, earlier_linked same]

end Places

/-! ### All places -/

/-- **Interchangeable cells** are those that display alike. -/
theorem Cell.interchangeable_iff {v w : Cell} (hv : v.isBlank = false) (hw : w.isBlank = false) :
    v.Interchangeable w ↔ v.display = w.display := by
  constructor
  · intro interchangeable
    -- The text of the one is a value that the other has to be.
    have verdict := interchangeable.checked _ (.isOneOf [v.display])
      Sample.record Sample.context
    have found : [v.display].contains v.display = [v.display].contains w.display :=
      Except.ok.inj verdict
    simpa [eq_comm] using found
  · intro same
    exact {
      checked := fun c reads record ctx => Check.outcome_congr_display same reads record ctx
      identifier := fun name _ => Upload.context_put same hv hw name
      carried := by
        intro name value record ctx
        exact congrArg (fun key => Traced.ofExcept (Except.ok (Option.isSome key)))
          (Subrecipient.key?_put same hv hw record.fields name)
      filePart := ContextSources.build_put same
      listEntry := ReferenceLists.ofMembers_put same
      summaryAttribute := Predicate.eval_put_attribute same
      flatAttribute := by
        intro flat name noAmount before after p value record ctx
        simp only [PeriodSummary.ofFlat_put noAmount]
        exact Predicate.eval_put_attribute same _ name before after p value record ctx
      matchValue := by
        intro key matchValues name matchFields value record ctx
        exact congrArg (fun amounts => Traced.ofExcept (amounts >>= Amount.matchesTotal value))
          (Amount.cumulative_put same key matchValues name matchFields record ctx.summaries)
      linkedField := by
        intro key matchValues matchFields field other value record ctx
        exact congrArg (fun amounts => Traced.ofExcept (amounts >>= Amount.matchesTotal value))
          (Amount.cumulative_linked same key matchValues matchFields other record ctx.summaries) }

/-! ### Numbers -/

theorem Cell.HasValue.isBlank {c : Cell} {q : ℚ} (h : c.HasValue q) : c.isBlank = false := by
  cases blank : c.isBlank with
  | false => rfl
  | true => cases (isNumber_eq_false_of_isBlank blank).symm.trans (Holds.isNumber h)

theorem Binary64.shown_of_zero {x : Finite} (h : x.mantissa = 0) :
    (finite x).shown = .finite x.negative 0 (-1) := by
  have digits : Shortest.digitsOf x.mantissa x.exponent = (0, 0) := by
    unfold Shortest.digitsOf
    rw [h]
    rfl
  unfold shown
  simp only [digits]
  rfl

theorem Decimal.sum?_zero_cons (negative : Bool) (amounts : List Decimal) :
    sum? (.finite negative 0 (-1) :: amounts) = sum? (.finite false 0 (-1) :: amounts) := by
  cases negative with
  | false => rfl
  | true => rfl

/-- **Read numbers.** Integers and double-precision numbers of one value are read as one number,
    or as zeros. -/
theorem Cell.strictNumber_of_value {v w : Cell} {q : ℚ} (hv : v.HasValue q) (hw : w.HasValue q)
    (h : v.isDecimal = false) (h' : w.isDecimal = false) :
    v.strictNumber = w.strictNumber ∨ ∃ x y : Binary64.Finite,
      v.strictNumber = .ok (some (.finite x)) ∧ w.strictNumber = .ok (some (.finite y)) ∧
        x.mantissa = 0 ∧ y.mantissa = 0 := by
  -- An integer and a number in double precision, in this order or the other.
  have mixed : ∀ {n : WholeNumber} {x : Binary64.Finite}, x.toRat = n.value →
      (Cell.int n).strictNumber = .ok (some (.finite x)) ∨
        ∃ y : Binary64.Finite, (Cell.int n).strictNumber = .ok (some (.finite y)) ∧
          y.mantissa = 0 ∧ x.mantissa = 0 := by
    intro n x hx
    by_cases nonzero : n.value = 0
    · obtain rfl : n = 0 := WholeNumber.ext nonzero
      exact .inr ⟨_, rfl, rfl, Binary64.Finite.toRat_eq_zero_iff.1 (hx.trans Int.cast_zero)⟩
    · refine .inl ?_
      show (Cell.int n).toBinary64 = _
      unfold toBinary64
      simp only [Binary64.ofInt?_of_toRat hx nonzero]
  rcases hv.form with ⟨n, rfl, hn⟩ | ⟨x, rfl, hx⟩ | ⟨d, rfl, -⟩
  · rcases hw.form with ⟨n', rfl, hn'⟩ | ⟨x', rfl, hx'⟩ | ⟨d', rfl, -⟩
    · have same : n = n' := WholeNumber.ext (Rat.intCast_inj.1 (hn.symm.trans hn'))
      exact .inl (by rw [same])
    · rcases mixed (hx'.trans hn) with number | ⟨y, hy, zeros⟩
      · exact .inl number
      · exact .inr ⟨y, x', hy, rfl, zeros⟩
    · cases h'
  · rcases hw.form with ⟨n', rfl, hn'⟩ | ⟨x', rfl, hx'⟩ | ⟨d', rfl, -⟩
    · rcases mixed (hx.trans hn') with number | ⟨y, hy, zero, zero'⟩
      · exact .inl number.symm
      · exact .inr ⟨x, y, rfl, hy, zero', zero⟩
    · by_cases nonzero : x.toRat = 0
      · have zero := Binary64.Finite.toRat_eq_zero_iff.1 nonzero
        have zero' := Binary64.Finite.toRat_eq_zero_iff.1 (hx'.trans (hx.symm.trans nonzero))
        exact .inr ⟨x, x', rfl, rfl, zero, zero'⟩
      · rw [Binary64.Finite.eq_of_toRat_eq (hx.trans hx'.symm) nonzero]
        exact .inl rfl
    · cases h'
  · cases h

/-- **Links that are amounts.** A linked field of integers and double-precision numbers may be the
    amount itself. -/
theorem Check.eval_linked {v w : Cell} {q : ℚ} (hv : v.HasValue q) (hw : w.HasValue q)
    (h : v.isDecimal = false) (h' : w.isDecimal = false) (key : String) (matchValues : Members)
    (matchFields : List (String × String)) (field : String) (value : Cell) (record : Record)
    (ctx : Context) :
    let linked (c : Cell) := { record with fields := record.fields.put field c }
    (cumulativeAmountIsEqual key matchValues matchFields).eval value (linked v) ctx =
      (cumulativeAmountIsEqual key matchValues matchFields).eval value (linked w) ctx := by
  intro linked
  have same := Cell.display_eq_of_value hv hw h h'
  suffices verdict :
      (Amount.cumulative key matchValues matchFields (linked v) ctx.summaries >>=
          Amount.matchesTotal value) =
        (Amount.cumulative key matchValues matchFields (linked w) ctx.summaries >>=
          Amount.matchesTotal value) from congrArg Traced.ofExcept verdict
  by_cases other : field = key
  · subst other
    have number : ∀ c, ((linked c).value field).strictNumber = c.strictNumber := by
      intro c
      rw [Record.strictNumber_value, Members.getD_put, if_pos rfl]
    have found := Amount.earlier_linked same matchValues matchFields field record ctx.summaries
    unfold Amount.cumulative
    rw [number, number, found]
    rcases Cell.strictNumber_of_value hv hw h h' with read | ⟨x, y, hx, hy, zero, zero'⟩
    · rw [read]
    · rw [hx, hy]
      show Amount.matchesTotal value ((Binary64.finite x).shown :: _) =
        Amount.matchesTotal value ((Binary64.finite y).shown :: _)
      unfold Amount.matchesTotal Amount.total?
      rw [Binary64.shown_of_zero zero, Binary64.shown_of_zero zero', Decimal.sum?_zero_cons,
        Decimal.sum?_zero_cons y.negative]
  · rw [Amount.cumulative_linked same key matchValues matchFields other]

/-- **Equal numbers.** Numbers of one value are interchangeable exactly if they are spelled alike.
    Integers and double-precision numbers always are, also in a link that is an amount; decimal
    amounts keep their own spelling. -/
theorem Cell.equal_numbers_interchangeable {v w : Cell} {q : ℚ} (hv : v.HasValue q)
    (hw : w.HasValue q) :
    (v.isDecimal = false → w.isDecimal = false →
      v.display = w.display ∧ v.Interchangeable w ∧
      ∀ (key : String) (matchValues : Members) (matchFields : List (String × String))
        (field : String) (value : Cell) (record : Record) (ctx : Context),
        let linked (c : Cell) := { record with fields := record.fields.put field c }
        (Check.cumulativeAmountIsEqual key matchValues matchFields).eval value (linked v) ctx =
          (Check.cumulativeAmountIsEqual key matchValues matchFields).eval value (linked w) ctx) ∧
    (v.display = w.display ↔ v.spelling = w.spelling) ∧
    (v.Interchangeable w ↔ v.spelling = w.spelling) := by
  have iff := interchangeable_iff hv.isBlank hw.isBlank
  have spelled := display_eq_iff_spelling hv hw
  refine ⟨?_, spelled, iff.trans spelled⟩
  intro h h'
  have same := display_eq_of_value hv hw h h'
  exact ⟨same, iff.2 same, Check.eval_linked hv hw h h'⟩

namespace Interchange

/-- The number nine in double precision. -/
def nine : Binary64.Finite :=
  ⟨false, 9 * 2 ^ (49 : Nat), -49, by decide, by decide, by decide, by decide⟩

theorem hasValue_nine : (Cell.float (.finite nine)).HasValue (9 : ℤ) := by
  have value : nine.toRat = (9 : ℤ) := by
    norm_num [Binary64.Finite.toRat, Binary64.Finite.magnitude, nine]
  have holds := Cell.Holds.float nine
  rwa [value] at holds

/-- The number 1010 with a digit after the point. -/
def pointed : Decimal := .finite false 10100 (-1)

theorem hasValue_pointed : (Cell.decimal pointed).HasValue (1010 : ℤ) := by
  refine .decimal ?_
  show some ((Decimal.signed false ((10100 : ℕ) * 10 ^ (-1 : ℤ)) : WithTop ℚ) : ExtendedRat) = _
  norm_num

/-- An upload with a subrecipient that is identified by the number 1010. -/
def upload : Upload := Sample.upload [⟨"subrecipient", [("duns number", .int 1010)], some 2⟩]

end Interchange

open Interchange in
/-- Nine is one number in both forms. -/
theorem Cell.equal_numbers_interchangeable_of_nine :
    (Cell.int 9).HasValue (9 : ℤ) ∧ (Cell.float (.finite nine)).HasValue (9 : ℤ) ∧
      (Cell.int 9).display = (Cell.float (.finite nine)).display ∧
      (Cell.int 9).Interchangeable (.float (.finite nine)) := by
  have value : (Cell.int 9).HasValue (9 : ℤ) := .int 9
  obtain ⟨same, -, -⟩ := equal_numbers_interchangeable value hasValue_nine
  obtain ⟨display, interchangeable, -⟩ := same rfl rfl
  exact ⟨value, hasValue_nine, display, interchangeable⟩

open Interchange in
/-- **A decimal amount** of the same value is another identifier. -/
theorem Cell.decimal_not_interchangeable :
    (Cell.int 1010).HasValue (1010 : ℤ) ∧ (Cell.decimal pointed).HasValue (1010 : ℤ) ∧
      (Cell.int 1010).display = "1010" ∧ (Cell.decimal pointed).display = "1010.0" ∧
      ∃ ctx, upload.context {} = .ok ctx ∧
        Check.isValidSubrecipient.eval (.int 1010) Sample.record ctx = pure true ∧
        Check.isValidSubrecipient.eval (.decimal pointed) Sample.record ctx = pure false := by
  exact ⟨.int 1010, hasValue_pointed, rfl, rfl, _, rfl, rfl, rfl⟩

end ReportCheck
