import ReportCheck.Cell.Number
import ReportCheck.Proofs.Cell.Characters
import ReportCheck.Proofs.Number.Render
import ReportCheck.Proofs.Text.Blank

/-! # Amounts and their texts

  The amount of a cell is the number that its plain text denotes. A decimal amount is taken as it
  is, which comes to the same, because it is read back from its own text.

  - `Decimal.Proper` are the numbers of which the form is within the range of exponents; no
    others are ever read: `proper_of_ofText?`.
  - `Decimal.ofText?_render` is the round trip of finite numbers, with their exponents.
    `isFinite_of_ofText?_render`: the texts of all others denote no finite number.
  - `Cell.amount?_iff` puts them together.
-/

namespace ReportCheck

open Text

namespace Numeral

theorem ofAll?_of_letter {cs rest : List Char} {negative : Bool} {c : Char}
    (sign : readSign cs = (negative, c :: rest)) (noDigit : isDigit c = false) (noPoint : c ≠ '.') :
    ofAll? cs = none := by
  have fraction : readFraction (c :: rest) = ([], c :: rest) := by
    unfold readFraction
    split
    · next h =>
      cases h
      exact absurd rfl noPoint
    · rfl
  have read : read? cs = none := by
    unfold read?
    simp only [sign, List.takeWhile_cons, List.dropWhile_cons, noDigit, Bool.false_eq_true, if_false,
      fraction, List.isEmpty_nil, Bool.and_self, if_true]
  unfold ofAll?
  rw [read]

end Numeral

namespace Decimal

/-- **Proper numbers**: finite ones have a form within the range of exponents. -/
def Proper : Decimal → Prop
  | finite _ coefficient exponent => inRange coefficient exponent = true
  | infinite _ => True
  | nan .. => True

theorem not_isFinite_of_readSpecial? {cs : List Char} {d : Decimal} (h : readSpecial? cs = some d) :
    d.isFinite = false := by
  unfold readSpecial? at h
  simp only at h
  split at h
  · cases h
    rfl
  · cases h
    rfl
  · obtain ⟨payload, -, rfl⟩ := Option.map_eq_some_iff.1 h
    rfl
  · obtain ⟨payload, -, rfl⟩ := Option.map_eq_some_iff.1 h
    rfl
  · cases h

/-- **What is read is proper**, so the amounts of cells are. -/
theorem proper_of_ofText? {s : String} {d : Decimal} (h : ofText? s = some d) : d.Proper := by
  unfold ofText? ofChars? at h
  simp only at h
  split at h
  · split at h
    · next inRange =>
      cases h
      exact inRange
    · cases h
  · have special := not_isFinite_of_readSpecial? h
    cases d with
    | finite negative c e => cases special
    | infinite negative => trivial
    | nan negative signaling payload => trivial

/-! ### Reading what is written -/

theorem body_render (d : Decimal) :
    (trim d.render.toList).filter (· != '_') = d.render.toList := by
  have written := writtenIn_render d
  have solid : ∀ c ∈ d.render.toList, isBlank c = false := by
    intro c hc
    rcases written c hc with digit | mark
    · exact not_isBlank_of_isAsciiDigit (isAsciiDigit_of_isDigit digit)
    · have none : marks.all (fun c => !isBlank c) = true := by decide
      simpa using List.all_eq_true.1 none c mark
  rw [trim_of_solid solid, List.filter_eq_self]
  intro c hc
  rw [bne_iff_ne]
  rintro rfl
  exact written.not_mem (by decide) (by decide) hc

/-- **Reading back.** A proper finite number is read from its text, with its exponent. -/
theorem ofText?_render {d : Decimal} (finite : d.isFinite = true) (proper : d.Proper) :
    ofText? d.render = some d := by
  cases d with
  | finite negative c e =>
    unfold ofText? ofChars?
    simp only [body_render, ofAll?_render]
    exact if_pos proper
  | infinite negative => cases finite
  | nan negative signaling payload => cases finite

theorem ofAll?_render_of_not_finite {d : Decimal} (h : d.isFinite = false) :
    Numeral.ofAll? d.render.toList = none := by
  cases d with
  | finite negative c e => cases h
  | infinite negative =>
    cases negative with
    | true => rfl
    | false => rfl
  | nan negative signaling payload =>
    unfold render
    rw [String.toList_ofList]
    cases negative with
    | true =>
      cases signaling with
      | true => exact Numeral.ofAll?_of_letter rfl rfl (by decide)
      | false => exact Numeral.ofAll?_of_letter rfl rfl (by decide)
    | false =>
      cases signaling with
      | true => exact Numeral.ofAll?_of_letter rfl rfl (by decide)
      | false => exact Numeral.ofAll?_of_letter rfl rfl (by decide)

/-- A finite number is read from the text of a finite number only. -/
theorem isFinite_of_ofText?_render {d a : Decimal} (h : ofText? d.render = some a)
    (finite : a.isFinite = true) : d.isFinite = true := by
  by_contra special
  have noNumeral := ofAll?_render_of_not_finite (Bool.eq_false_iff.2 special)
  unfold ofText? ofChars? at h
  simp only [body_render, noNumeral] at h
  rw [not_isFinite_of_readSpecial? h] at finite
  cases finite

end Decimal

namespace Cell

/-- **Proper cells.** A decimal amount in a cell is a proper number. -/
def Proper (c : Cell) : Prop := ∀ d, c = .decimal d → d.Proper

/-- **The amount of a cell** is the finite number that its plain text denotes. -/
theorem amount?_iff {c : Cell} (proper : c.Proper) {a : Decimal} (finite : a.isFinite = true) :
    c.amount? = some a ↔ Decimal.ofText? c.plain = some a := by
  cases c with
  | decimal d =>
    show some d = some a ↔ Decimal.ofText? d.render = some a
    constructor
    · intro h
      cases h
      exact Decimal.ofText?_render finite (proper _ rfl)
    · intro h
      have read := Decimal.ofText?_render (Decimal.isFinite_of_ofText?_render h finite) (proper _ rfl)
      rw [← h, read]
  | _ => exact Iff.rfl

end Cell

end ReportCheck
