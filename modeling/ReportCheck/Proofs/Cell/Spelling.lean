import ReportCheck.Proofs.Number.ShownForm
import ReportCheck.Proofs.Number.Whole
import ReportCheck.Proofs.Cell.Characters
import ReportCheck.Proofs.Predicate.NumberOrder

/-! # Spellings of numbers

  The three forms of numbers display in one way where they can: whole numbers as integers,
  whatever their size, and others as they are written. Decimal amounts keep the form that they
  have, with zeros at the end and powers of ten.

  - `Cell.HasValue` are the finite numbers with their values.
  - `Cell.spelling` is the decimal number as which a cell displays. `display_of_spelling` and
    `e_mem_display` say what cells with and without one display as.
  - `display_eq_of_value`: integers and double-precision numbers of one value display alike.
  - `display_eq_iff_spelling`: numbers of one value display alike exactly if they are spelled
    alike.
-/

namespace ReportCheck

namespace Cell

/-- **Finite numbers** in cells, in any of the three forms, with their values. -/
def HasValue (c : Cell) (q : ℚ) : Prop := c.Holds ((q : WithTop ℚ) : ExtendedRat)

/-- **Spelling** of a number: the decimal number with the form in which the number is displayed.
    A double-precision number with a power of ten has none, because decimal amounts are never
    displayed in that way. -/
def spelling : Cell → Option Decimal
  | int n => some (.ofInt n)
  | float (.finite x) =>
    if x.isWhole then some (.ofInt x.truncate)
    else if x.isPositional then some (Binary64.finite x).shown
    else none
  | decimal (.finite negative c e) => some (.finite negative c e)
  | _ => none

theorem render_ofInt (n : Int) : (Decimal.ofInt n).render = String.ofList (intChars n) := by
  have positive : 0 < (Nat.toDigits 10 n.natAbs).length := Nat.length_toDigits_pos
  have last : Decimal.placePoint (Nat.toDigits 10 n.natAbs) (Nat.toDigits 10 n.natAbs).length =
      Nat.toDigits 10 n.natAbs := by
    unfold Decimal.placePoint
    rw [if_neg (by omega)]
    simp
  unfold Decimal.ofInt Decimal.render intChars
  simp only [Int.zero_add, last]
  rw [if_pos (by simp; omega)]

variable {c v w : Cell} {d : Decimal} {q : ℚ}

/-- The three forms of finite numbers. -/
theorem HasValue.form (h : c.HasValue q) : (∃ n : WholeNumber, c = .int n ∧ q = n) ∨
    (∃ x, c = .float (.finite x) ∧ x.toRat = q) ∨ ∃ d, c = .decimal d ∧ d.isFinite = true := by
  unfold HasValue at h
  generalize hvalue : ((q : WithTop ℚ) : ExtendedRat) = value at h
  have finite : ∀ {q' : ℚ}, ((q : WithTop ℚ) : ExtendedRat) = ((q' : WithTop ℚ) : ExtendedRat) →
      q = q' := fun same => WithTop.coe_injective (WithBot.coe_injective same)
  cases h with
  | int n => exact .inl ⟨n, rfl, finite hvalue⟩
  | float x => exact .inr (.inl ⟨x, rfl, (finite hvalue).symm⟩)
  | negativeInfinity => cases hvalue
  | infinity => cases hvalue
  | @decimal d _ given =>
    refine .inr (.inr ⟨d, rfl, ?_⟩)
    cases d with
    | finite negative k e => rfl
    | infinite negative =>
      cases negative with
      | true => cases hvalue.trans (Option.some.inj given).symm
      | false => cases hvalue.trans (Option.some.inj given).symm
    | nan negative signaling payload => cases given

/-- **Spelled numbers** display as they are spelled. -/
theorem display_of_spelling (h : c.spelling = some d) :
    d.isFinite = true ∧ c.display = d.render := by
  unfold spelling at h
  split at h
  · cases h
    exact ⟨rfl, (render_ofInt _).symm⟩
  · split at h
    · next x whole =>
      cases h
      rw [display_float, if_pos whole, render_ofInt]
      exact ⟨rfl, rfl⟩
    · split at h
      · next x whole positional =>
        cases h
        rw [display_float, if_neg whole, Binary64.render_eq_render_shown positional]
        exact ⟨Binary64.isFinite_shown x, rfl⟩
      · cases h
  · cases h
    exact ⟨rfl, rfl⟩
  · cases h

theorem e_not_mem_display (h : c.spelling = some d) : 'e' ∉ c.display.toList := by
  obtain ⟨finite, display⟩ := display_of_spelling h
  obtain ⟨negative, k, e, rfl⟩ := Decimal.exists_of_isFinite finite
  rw [display]
  exact (Decimal.writtenIn_render_finite negative k e).not_mem (by decide) (by decide)

/-- **Numbers without a spelling** are in double precision, and have a power of ten. -/
theorem exists_of_spelling_none (hc : c.HasValue q) (h : c.spelling = none) :
    ∃ x, c = .float (.finite x) ∧ x.isWhole = false ∧ x.isPositional = false := by
  rcases hc.form with ⟨n, rfl, -⟩ | ⟨x, rfl, -⟩ | ⟨d, rfl, finite⟩
  · cases h
  · unfold spelling at h
    simp only at h
    split at h
    · cases h
    · next whole =>
      split at h
      · cases h
      · next positional =>
        exact ⟨x, rfl, eq_false_of_ne_true whole, eq_false_of_ne_true positional⟩
  · obtain ⟨negative, k, e, rfl⟩ := Decimal.exists_of_isFinite finite
    cases h

/-- Numbers without a spelling are displayed with an exponent. -/
theorem e_mem_display (hc : c.HasValue q) (h : c.spelling = none) : 'e' ∈ c.display.toList := by
  obtain ⟨x, rfl, whole, positional⟩ := exists_of_spelling_none hc h
  rw [display_float, whole]
  exact Binary64.e_mem_render positional

/-! ### Integers and double-precision numbers -/

theorem display_of_whole (hc : c.HasValue q) (h : c.isDecimal = false) :
    (∃ n : ℤ, q = n ∧ c.display = String.ofList (intChars n)) ∨
      ∃ x, c = .float (.finite x) ∧ x.toRat = q ∧ ¬ ∃ n : ℤ, q = n := by
  rcases hc.form with ⟨n, rfl, hn⟩ | ⟨x, rfl, hx⟩ | ⟨d, rfl, -⟩
  · exact .inl ⟨n, hn, rfl⟩
  · by_cases whole : ∃ n : ℤ, q = n
    · obtain ⟨n, hn⟩ := whole
      refine .inl ⟨n, hn, ?_⟩
      have isWhole := Binary64.Finite.isWhole_iff.2 ⟨n, hx.trans hn⟩
      rw [display_float, if_pos isWhole, x.truncate_eq_wholePart, hx, hn, wholePart_intCast]
    · exact .inr ⟨x, rfl, hx, whole⟩
  · cases h

/-- **Integers and double-precision numbers** of one value display alike. -/
theorem display_eq_of_value (hv : v.HasValue q) (hw : w.HasValue q) (h : v.isDecimal = false)
    (h' : w.isDecimal = false) : v.display = w.display := by
  rcases display_of_whole hv h with ⟨n, hn, shown⟩ | ⟨x, rfl, hx, fraction⟩
  · rcases display_of_whole hw h' with ⟨n', hn', shown'⟩ | ⟨x', -, -, fraction'⟩
    · have same : n = n' := Rat.intCast_inj.1 (hn.symm.trans hn')
      rw [shown, shown', same]
    · exact absurd ⟨n, hn⟩ fraction'
  · rcases display_of_whole hw h' with ⟨n', hn', -⟩ | ⟨x', rfl, hx', -⟩
    · exact absurd ⟨n', hn'⟩ fraction
    · have nonzero : x.toRat ≠ 0 := by
        intro zero
        exact fraction ⟨0, by rw [← hx, zero, Int.cast_zero]⟩
      rw [Binary64.Finite.eq_of_toRat_eq (hx.trans hx'.symm) nonzero]

/-! ### All numbers -/

/-- **Numbers of one value** display alike exactly if they are spelled alike. -/
theorem display_eq_iff_spelling (hv : v.HasValue q) (hw : w.HasValue q) :
    v.display = w.display ↔ v.spelling = w.spelling := by
  cases spelled : v.spelling with
  | none =>
    cases spelled' : w.spelling with
    | none =>
      obtain ⟨x, rfl, -, -⟩ := exists_of_spelling_none hv spelled
      obtain ⟨x', rfl, -, -⟩ := exists_of_spelling_none hw spelled'
      exact iff_of_true (display_eq_of_value hv hw rfl rfl) rfl
    | some d' =>
      refine iff_of_false ?_ nofun
      intro same
      exact e_not_mem_display spelled' (same ▸ e_mem_display hv spelled)
  | some d =>
    cases spelled' : w.spelling with
    | none =>
      refine iff_of_false ?_ nofun
      intro same
      exact e_not_mem_display spelled (same ▸ e_mem_display hw spelled')
    | some d' =>
      obtain ⟨finite, display⟩ := display_of_spelling spelled
      obtain ⟨finite', display'⟩ := display_of_spelling spelled'
      rw [display, display', Decimal.render_inj finite finite', Option.some_inj]

end Cell

end ReportCheck
