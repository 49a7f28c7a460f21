import ReportCheck.Proofs.Number.Whole
import ReportCheck.Proofs.Upload.Refusals
import ReportCheck.Proofs.Upload.RowTexts

/-! # Records of a manifest

  The records of a manifest are read entry by entry. A row is read from a number or from a text
  that denotes a whole number, and a number loses its fraction on the way.

  - `RowValue` is the value that is given for a row, and `CarriesRow` what becomes of it.
    `readRow_eq_ok_iff`: this is how rows are read, and `readRow_eq_error` what is refused.
  - `KeepsRow` is a row that is the given one. `keepsRow_iff`: fractions are what is not kept.
  - `CarriesOver` is a record with its tab, its fields and its row; `records_carried_over` is
    about all the records of a manifest.
-/

namespace ReportCheck

namespace Manifest

/-! ### Whole parts of decimals -/

/-- **Dropping the fraction** of a decimal amount leaves its whole part. -/
theorem truncate_eq_wholePart (negative : Bool) (c : Nat) (e : Int) :
    truncate negative c e = wholePart (Decimal.finite negative c e).toRat := by
  have scaled := scaled_eq_div 10 (by decide) c e
  rw [Nat.cast_ofNat] at scaled
  rw [Decimal.toRat_finite, scaled, wholePart_quotient]
  unfold truncate
  simp only
  refine congrArg (Decimal.signedCoefficient negative) ?_
  split
  · next whole =>
    have none : (-e).toNat = 0 := by omega
    rw [none, Nat.pow_zero, Nat.div_one]
  · next fraction =>
    have none : e.toNat = 0 := by omega
    rw [none, Nat.pow_zero, Nat.mul_one]
    split
    · next long =>
      -- The power of ten has more digits than the coefficient.
      have digits : digitCount c ≤ (-e).toNat := by omega
      have below := (lt_pow_digitCount c).trans_le (Nat.pow_le_pow_right (by decide) digits)
      exact (Nat.div_eq_of_lt below).symm
    · rfl

/-! ### Values of rows -/

/-- **Given rows**: a finite number, or the number that a text denotes. -/
inductive RowValue : Cell → ℚ → Prop
  | int (n : WholeNumber) : RowValue (.int n) n
  | float (x : Binary64.Finite) : RowValue (.float (.finite x)) x.toRat
  | decimal (negative : Bool) (c : ℕ) (e : ℤ) :
      RowValue (.decimal (.finite negative c e)) (Decimal.finite negative c e).toRat
  | text {s : String} {n : ℤ} (denotes : DenotesRow s n) : RowValue (.text s) n

/-- **Carried rows**: nothing where nothing is given, and the whole part of what is given. -/
inductive CarriesRow : Cell → Option ℤ → Prop
  | none : CarriesRow .empty none
  | whole {c : Cell} {q : ℚ} (value : RowValue c q) : CarriesRow c (some (wholePart q))

/-- **Kept rows** are equal to what is given. -/
inductive KeepsRow : Cell → Option ℤ → Prop
  | none : KeepsRow .empty none
  | whole {c : Cell} {n : ℤ} (value : RowValue c n) : KeepsRow c (some n)

/-- **Rows** are read from their values. -/
theorem rowOf_eq_row_iff {c : Cell} {n : ℤ} :
    rowOf c = .row n ↔ ∃ q, RowValue c q ∧ wholePart q = n := by
  constructor
  · intro h
    cases c with
    | int k =>
      cases h
      exact ⟨_, .int k, wholePart_intCast _⟩
    | float x =>
      cases x with
      | finite x =>
        cases h
        exact ⟨_, .float x, x.truncate_eq_wholePart.symm⟩
      | _ => cases h
    | decimal d =>
      cases d with
      | finite negative c e =>
        cases h
        exact ⟨_, .decimal negative c e, (truncate_eq_wholePart negative c e).symm⟩
      | _ => cases h
    | text s => exact ⟨_, .text (rowOfText_eq_row_iff.1 h), wholePart_intCast n⟩
    | _ => cases h
  · rintro ⟨q, value, rfl⟩
    cases value with
    | int k => exact congrArg RowReading.row (wholePart_intCast k).symm
    | float x => exact congrArg RowReading.row x.truncate_eq_wholePart
    | decimal negative c e => exact congrArg RowReading.row (truncate_eq_wholePart negative c e)
    | @text s k denotes =>
      rw [wholePart_intCast]
      exact rowOfText_eq_row_iff.2 denotes

theorem RowValue.unique {c : Cell} {q q' : ℚ} (h : RowValue c q) (h' : RowValue c q') : q = q' := by
  cases h with
  | int n =>
    cases h'
    rfl
  | float x =>
    cases h'
    rfl
  | decimal negative c e =>
    cases h'
    rfl
  | text denotes =>
    cases h' with
    | text denotes' =>
      have read := rowOfText_eq_row_iff.2 denotes
      rw [rowOfText_eq_row_iff.2 denotes'] at read
      cases read
      rfl

variable {c : Cell} {row : Option ℤ}

/-- **Fractions** are what is not kept. -/
theorem keepsRow_iff (h : CarriesRow c row) :
    KeepsRow c row ↔ ∀ q, RowValue c q → ∃ n : ℤ, q = n := by
  cases h with
  | none =>
    refine iff_of_true .none ?_
    intro q value
    cases value
  | @whole _ q value =>
    constructor
    · intro kept q' value'
      cases kept with
      | whole given => exact ⟨_, value'.unique given⟩
    · intro whole
      have same := wholePart_eq_iff.2 (whole q value)
      exact .whole (by rwa [same])

/-- **Rows that are read.** -/
theorem readRow_eq_ok_iff (tab : Cell) : readRow tab c = .ok row ↔ CarriesRow c row := by
  constructor
  · intro h
    unfold readRow at h
    split at h
    · cases h
      exact .none
    · split at h
      · next n hn =>
        cases h
        obtain ⟨q, value, rfl⟩ := rowOf_eq_row_iff.1 hn
        exact .whole value
      · cases h
      · cases h
  · intro h
    cases h with
    | none => rfl
    | @whole _ q value =>
      have hrow := rowOf_eq_row_iff.2 ⟨q, value, rfl⟩
      unfold readRow
      split
      · cases value
      · rw [hrow]

/-- **Rows that are not read** are blamed on the manifest, unless they are infinite. -/
theorem readRow_eq_error (tab : Cell) (unread : ∀ row, ¬ CarriesRow c row) :
    (¬ c.IsInfinite → readRow tab c = refuse (.rowShape tab c)) ∧
      (c.IsInfinite → readRow tab c = .error (.fault .infiniteRow)) := by
  unfold readRow
  split
  · exact absurd .none (unread _)
  · split
    · next n hn =>
      obtain ⟨q, value, -⟩ := rowOf_eq_row_iff.1 hn
      exact absurd (.whole value) (unread _)
    · next hn =>
      refine ⟨fun _ => rfl, fun infinite => ?_⟩
      cases hn.symm.trans (rowOf_eq_infinite.2 infinite)
    · next hn => exact ⟨fun finite => absurd (rowOf_eq_infinite.1 hn) finite, fun _ => rfl⟩

/-! ### Records -/

/-- The row that an entry gives. -/
def givenRow : Cell → Cell
  | .object members => getEither members "row" "sourceRow"
  | _ => .empty

/-- **Carried over**: the tab, the fields and the row of an entry. -/
inductive CarriesOver : Cell → Record → Prop
  | record {entry : Members} {r : Record} (tab : r.tab = (tabOf entry).plain)
      (fields : r.fields = partsIn (getEither entry "fields" "content"))
      (row : CarriesRow (givenRow (.object entry)) r.row) : CarriesOver (.object entry) r

theorem fields_of_readFields {tab given : Cell} {fields : Members}
    (h : readFields tab given = .ok fields) : fields = partsIn given := by
  unfold readFields at h
  split at h
  · next absent =>
    cases h
    cases given with
    | object members =>
      -- An object that counts as absent has no members.
      cases members with
      | nil => rfl
      | cons member rest => cases absent
    | _ => rfl
  · split at h
    · cases h
      rfl
    · cases h

theorem carriesOver_of_readRecord {entry : Cell} {r : Record} (h : readRecord entry = .ok r) :
    CarriesOver entry r := by
  cases entry with
  | object entry =>
    obtain ⟨-, tab, fields, row⟩ := readRecord_eq_ok_iff.1 h
    exact .record tab (fields_of_readFields fields) ((readRow_eq_ok_iff _).1 row)
  | _ => cases h

theorem keepsRows_iff {entries : List Cell} {records : List Record}
    (h : List.Forall₂ CarriesOver entries records) :
    List.Forall₂ (fun entry r => KeepsRow (givenRow entry) r.row) entries records ↔
      ∀ entry ∈ entries, ∀ q, RowValue (givenRow entry) q → ∃ n : ℤ, q = n := by
  induction h with
  | nil => simp
  | cons first _ ih =>
    rw [List.forall₂_cons, List.forall_mem_cons, ih]
    cases first with
    | record _ _ row => exact and_congr_left' (keepsRow_iff row)

/-- **Reached rows**: what is in front of the row of an entry is read. -/
inductive Reaches (entry : Members) : Cell → Prop
  | intro {members periodMembers : Members} {period : ReportingPeriod} {before after : List Cell}
      {records : List Record} {fields : Members}
      (periodGiven : members.getD "reporting_period" = .object periodMembers)
      (period : readPeriod (.object periodMembers) = .ok period)
      (tags : isTags (tagsOf members periodMembers) = true)
      (lists : isLists (members.getD "reference_lists") = true)
      (entries : members.getD "records" = .list (before ++ .object entry :: after))
      (read : before.mapM readRecord = .ok records) (tab : (tabOf entry).isFalsy = false)
      (fields : readFields (tabOf entry) (getEither entry "fields" "content") = .ok fields) :
      Reaches entry (.object members)

theorem ofCell_eq_error {document : Cell} {entry : Members} {f : Failure}
    (reached : Reaches entry document)
    (fails : readRow (tabOf entry) (givenRow (.object entry)) = .error f) :
    ofCell document = .error f := by
  cases reached with
  | @intro members periodMembers period before after _ fields periodGiven hperiod tags lists entries
      read tab hfields =>
    have record : readRecord (.object entry) = .error f := by
      unfold readRecord
      simp only
      rw [tab, hfields, show readRow _ (getEither entry "row" "sourceRow") = _ from fails]
      rfl
    have records : readRecords (members.getD "records") = .error f := by
      rw [entries]
      exact Outcome.mapM_append_eq_error read record
    unfold ofCell
    simp only
    rw [periodGiven]
    refine Outcome.bind_eq_error_iff.2 (.inr ⟨period, hperiod, ?_⟩)
    unfold tagsOf at tags
    simp only [tags, lists]
    exact Outcome.bind_eq_error_iff.2 (.inl records)

/-- **Records.** Those of an accepted manifest are its entries, one by one and in order, each with
    its tab, its fields and the whole part of its row; the rows are kept if no fraction is given.
    A row that is no number, and no text that denotes a whole one, is refused. -/
theorem records_carried_over (document : Cell) :
    (∀ m, ofCell document = .ok m → ∃ (members : Members) (entries : List Cell),
      document = .object members ∧ members.getD "records" = .list entries ∧
      List.Forall₂ CarriesOver entries m.records ∧
      (List.Forall₂ (fun entry r => KeepsRow (givenRow entry) r.row) entries m.records ↔
        ∀ entry ∈ entries, ∀ q, RowValue (givenRow entry) q → ∃ n : ℤ, q = n)) ∧
    ∀ entry, Reaches entry document → (∀ row, ¬ CarriesRow (givenRow (.object entry)) row) →
      (¬ (givenRow (.object entry)).IsInfinite → ofCell document =
        .error (.manifest (.rowShape (tabOf entry) (givenRow (.object entry))))) ∧
      ((givenRow (.object entry)).IsInfinite → ofCell document = .error (.fault .infiniteRow)) := by
  constructor
  · intro m accepted
    obtain ⟨members, periodMembers, rfl, -, read⟩ := exists_readFrom accepted
    have records := read.records
    unfold readRecords at records
    split at records
    · next entries given =>
      have carried := (Outcome.mapM_eq_ok_iff.1 records).imp fun _ _ => carriesOver_of_readRecord
      exact ⟨members, entries, rfl, given, carried, keepsRows_iff carried⟩
    · cases records
  · intro entry reached unread
    obtain ⟨refused, stopped⟩ := readRow_eq_error (tabOf entry) unread
    exact ⟨fun finite => ofCell_eq_error reached (refused finite),
      fun infinite => ofCell_eq_error reached (stopped infinite)⟩

namespace Entries

/-- A manifest with entries. -/
def manifest (entries : List Cell) : Cell := .object
  [("reporting_period", .object samplePeriod), ("records", .list entries)]

/-- An entry with a row. -/
def entry (row : Cell) : Members := [("tab", .text "cover"), ("row", row)]

/-- The number sixteen. -/
def sixteen : Binary64.Finite :=
  ⟨false, 2 ^ (52 : Nat), -48, by decide, by decide, by decide, by decide⟩

/-- The number two and a half. -/
def twoAndAHalf : Binary64.Finite :=
  ⟨false, 5 * 2 ^ (50 : Nat), -51, by decide, by decide, by decide, by decide⟩

theorem toRat_sixteen : sixteen.toRat = (16 : ℤ) := by
  norm_num [Binary64.Finite.toRat, Binary64.Finite.magnitude, sixteen]

theorem toRat_twoAndAHalf : twoAndAHalf.toRat = 5 / 2 := by
  norm_num [Binary64.Finite.toRat, Binary64.Finite.magnitude, twoAndAHalf]

/-- Rows in four forms, none of them with a fraction. -/
def wholeRows : List Cell := [.empty, .int 2, .text " 3_0 ", .float (.finite sixteen)]

theorem whole_of_wholeRows : ∀ given ∈ wholeRows, ∀ q, RowValue given q → ∃ n : ℤ, q = n := by
  intro given mem q value
  simp only [wholeRows, List.mem_cons, List.not_mem_nil, or_false] at mem
  rcases mem with rfl | rfl | rfl | rfl
  · cases value
  · cases value
    exact ⟨_, rfl⟩
  · cases value
    exact ⟨_, rfl⟩
  · cases value
    exact ⟨16, toRat_sixteen⟩

end Entries

open Entries in
/-- Rows without fractions are kept, and a truth value in the place of the next row is
    refused. -/
theorem records_carried_over_of_whole_rows :
    (∃ m, ofCell (manifest (wholeRows.map fun row => .object (entry row))) = .ok m ∧
      m.records.map (·.row) = [none, some 2, some 30, some 16] ∧
      List.Forall₂ (fun entry r => KeepsRow (givenRow entry) r.row)
        (wholeRows.map fun row => .object (entry row)) m.records) ∧
    ofCell (manifest [.object (entry (.int 2)), .object (entry (.bool true))]) =
      .error (.manifest (.rowShape (.text "cover") (.bool true))) := by
  constructor
  · obtain ⟨members, entries, hdocument, given, -, kept⟩ := (records_carried_over _).1 _
      (rfl : ofCell (manifest (wholeRows.map fun row => .object (entry row))) = .ok _)
    cases hdocument
    cases given
    refine ⟨_, rfl, rfl, kept.2 ?_⟩
    intro listed mem
    obtain ⟨row, hrow, rfl⟩ := List.mem_map.1 mem
    exact whole_of_wholeRows row hrow
  · have reached : Reaches (entry (.bool true))
        (manifest [.object (entry (.int 2)), .object (entry (.bool true))]) := by
      obtain ⟨members, periodMembers, hdocument, given, read⟩ :=
        exists_readFrom (rfl : ofCell (manifest []) = .ok _)
      cases hdocument
      cases given
      exact @Reaches.intro _ _ _ _ [.object (entry (.int 2))] [] _ _
        rfl read.period rfl rfl rfl rfl rfl rfl
    have unread : ∀ row, ¬ CarriesRow (givenRow (.object (entry (.bool true)))) row := by
      intro row carried
      cases carried with
      | whole value => cases value
    refine (((records_carried_over _).2 _ reached) unread).1 ?_
    rintro ⟨negative, h | h⟩ <;> cases h

open Entries in
/-- **Dropped fractions.** A row of two and a half is accepted and changed. -/
theorem fraction_of_row_dropped :
    ∃ m, ofCell (manifest [.object (entry (.float (.finite twoAndAHalf)))]) = .ok m ∧
      m.records.map (·.row) = [some 2] ∧ RowValue (.float (.finite twoAndAHalf)) (5 / 2) := by
  refine ⟨_, rfl, rfl, ?_⟩
  rw [← toRat_twoAndAHalf]
  exact .float twoAndAHalf

end Manifest

end ReportCheck
