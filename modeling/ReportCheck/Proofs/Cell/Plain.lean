import ReportCheck.Cell.Day
import ReportCheck.Record
import ReportCheck.Proofs.Trace
import ReportCheck.Proofs.Lookup
import ReportCheck.Proofs.Number.Nearest

/-! # Plain cells

  The cells that an ordinary spreadsheet or document holds, and the proof that all
  readers come to a result on them.

  - `Cell.Plain` leaves out infinite and not-a-number values and numbers of more than 308
    digits before the point; texts are not restricted.
  - `toBinary64_of_plain`: what a plain cell holds as a number is finite in double
    precision. The readers for amounts, days and comparisons return because of this.
-/

namespace ReportCheck

open Outcome

/-- Finite decimal numbers of up to 308 digits before the point. -/
def Decimal.Moderate (d : Decimal) : Prop := d.isFinite = true ∧ d.magnitude < 10 ^ 308

theorem Decimal.moderate_of_leading (negative : Bool) {c : Nat} {e : Int}
    (h : e + digitCount c ≤ 308) : (finite negative c e).Moderate := by
  refine ⟨rfl, lt_of_lt_of_le (scaled_lt_pow c e) ?_⟩
  rw [← zpow_ofNat]
  exact zpow_le_zpow_right₀ (by norm_num) h

/-- **Plain cells.** -/
inductive Cell.Plain : Cell → Prop
  | empty : Plain .empty
  | bool (b : Bool) : Plain (.bool b)
  | int {n : WholeNumber} (bounded : n.value.natAbs < 10 ^ 308) : Plain (.int n)
  | float (x : Binary64.Finite) : Plain (.float (.finite x))
  | decimal {d : Decimal} (moderate : d.Moderate) : Plain (.decimal d)
  | text (s : String) : Plain (.text s)
  | date (d : Date) : Plain (.date d)
  | moment (m : Moment) : Plain (.moment m)
  | list {items : List Cell} (plain : ∀ item ∈ items, Plain item) : Plain (.list items)
  | object {members : Members} (plain : ∀ member ∈ members, Plain member.2) :
      Plain (.object members)

/-- All members are plain. -/
def Members.Plain (members : Members) : Prop := ∀ member ∈ members, member.2.Plain

/-- All cells of a record are plain. -/
def Record.Plain (r : Record) : Prop := Members.Plain r.fields

/-! ### Looking up -/

theorem Members.Plain.getD {members : Members} (h : members.Plain) (name : String) :
    (members.getD name).Plain := by
  unfold Members.getD
  cases hfound : members.lookup name with
  | none => exact .empty
  | some cell => exact h _ (mem_of_lookup_eq_some hfound)

theorem Record.Plain.value {r : Record} (h : r.Plain) (key : String) : (r.value key).Plain := by
  unfold Record.value Members.get?
  split
  · exact .text ""
  · exact .text ""
  · next cell _ hfound => exact h _ (mem_of_lookup_eq_some hfound)

namespace Cell

/-! ### Numbers -/

/-- **Numbers** of plain cells are finite. -/
theorem toBinary64_of_plain {c : Cell} (h : c.Plain) :
    c.toBinary64 = .ok none ∨ ∃ x, c.toBinary64 = .ok (some (.finite x)) := by
  cases h with
  -- Whole and decimal numbers are converted, and their bounds keep them finite.
  | @int n bounded =>
    obtain ⟨x, hx⟩ := Binary64.ofInt?_eq_some bounded
    refine .inr ⟨x, ?_⟩
    simp only [toBinary64, hx]
  | float x => exact .inr ⟨x, rfl⟩
  | @decimal d moderate =>
    obtain ⟨hfinite, hmagnitude⟩ := moderate
    cases d with
    | finite negative c e =>
      obtain ⟨x, hx⟩ := Binary64.ofScaled_eq_finite negative hmagnitude
      refine .inr ⟨x, ?_⟩
      show Except.ok (Binary64.ofScaled negative c e).some? = _
      rw [hx]
      rfl
    | infinite negative => exact nomatch hfinite
    | nan negative signaling payload => exact nomatch hfinite
  | empty => exact .inl rfl
  | bool b => exact .inl rfl
  | text s => exact .inl rfl
  | date d => exact .inl rfl
  | moment m => exact .inl rfl
  | list plain => exact .inl rfl
  | object plain => exact .inl rfl

theorem toBinary64_returns {c : Cell} (h : c.Plain) : Returns c.toBinary64 := by
  rcases toBinary64_of_plain h with hnone | ⟨x, hsome⟩
  · exact ⟨_, hnone⟩
  · exact ⟨_, hsome⟩

theorem leadingNumber_returns {c : Cell} (h : c.Plain) : Returns c.leadingNumber := by
  unfold leadingNumber
  split
  · exact ⟨_, rfl⟩
  · exact toBinary64_returns h

theorem strictNumber_returns {c : Cell} (h : c.Plain) : Returns c.strictNumber := by
  unfold strictNumber
  split
  · exact ⟨_, rfl⟩
  · exact ⟨_, rfl⟩
  · simp only
    split
    · exact ⟨_, rfl⟩
    · exact ⟨_, rfl⟩
  · exact toBinary64_returns h

theorem numericValue?_of_plain {c : Cell} (h : c.Plain) {d : Decimal}
    (hd : c.numericValue? = some d) : d.isNaN = false := by
  cases h with
  | int bounded =>
    cases hd
    rfl
  | float x =>
    cases hd
    unfold Binary64.toDecimal
    simp only
    split
    · rfl
    · rfl
  | @decimal d moderate =>
    cases hd
    cases d with
    | finite negative c e => rfl
    | infinite negative => rfl
    | nan negative signaling payload => exact nomatch moderate.1
  | _ => exact nomatch hd

theorem compareNumbers_returns {v w : Cell} (hv : v.Plain) (hw : w.Plain) :
    Returns (v.compareNumbers w) := by
  unfold compareNumbers
  split
  · next a b ha hb =>
    rw [numericValue?_of_plain hv ha, numericValue?_of_plain hw hb]
    exact ⟨_, rfl⟩
  · exact ⟨_, rfl⟩

/-! ### Days -/

theorem day_returns {c : Cell} (h : c.Plain) : Returns c.day := by
  unfold day
  split
  · exact ⟨_, rfl⟩
  · exact ⟨_, rfl⟩
  · exact ⟨_, rfl⟩
  · rcases toBinary64_of_plain h with hnone | ⟨x, hsome⟩
    · rw [hnone]
      exact ⟨_, rfl⟩
    · -- A finite count of days is no fault, whether or not it names a day.
      rw [hsome]
      exact ⟨_, rfl⟩

theorem isDay_returns {c : Cell} (h : c.Plain) : Returns c.isDay := by
  unfold isDay
  split
  · exact ⟨_, rfl⟩
  · exact (day_returns h).bind fun day _ => ⟨_, rfl⟩

end Cell

end ReportCheck
