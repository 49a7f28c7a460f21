import ReportCheck.Number.Shortest
import ReportCheck.Proofs.Number.Render

/-! # Written double-precision numbers

  A double-precision number that is written without a power of ten is written like the decimal
  number that it shows. With a power of ten the two forms differ.

  - `Shortest.place_of_zero`: the shortest digits are zero only in the form `0`, so that the zeros
    of a whole number stand behind other digits.
  - `Binary64.Finite.isPositional` tells the numbers without a power of ten;
    `Binary64.render_eq_render_shown` is about them, `Binary64.e_mem_render` about the others.
-/

namespace ReportCheck

open Text

-- Powers are the core ones, whichever other library is in scope.
attribute [local instance (high)] instPowNat

theorem Text.toDigits_mul_pow {n : Nat} (positive : 0 < n) (k : Nat) :
    Nat.toDigits 10 (n * 10 ^ k) = Nat.toDigits 10 n ++ List.replicate k '0' := by
  induction k with
  | zero => rw [Nat.pow_zero, Nat.mul_one, List.replicate_zero, List.append_nil]
  | succ k ih =>
    have more : 0 < n * 10 ^ k := Nat.mul_pos positive (Nat.pow_pos (by decide))
    have last := Nat.toDigits_append_toDigits (by decide : 1 < 10) more (by decide : 0 < 10)
    rw [Nat.pow_succ, ← Nat.mul_assoc, Nat.mul_comm _ 10, ← Nat.add_zero (10 * (n * 10 ^ k)),
      ← last, ih, List.append_assoc, List.replicate_succ']
    rfl

/-! ### Shortest digits -/

namespace Shortest

variable {i : Interval} {place p : Int} {digits d : Nat}

theorem ne_zero_of_contains (low : 0 < i.low) (h : contains i digits place = true) :
    digits ≠ 0 := by
  rintro rfl
  have down : 0 < i.low * 10 ^ (-place).toNat := Nat.mul_pos low (Nat.pow_pos (by decide))
  unfold contains at h
  simp only [Nat.zero_mul] at h
  split at h
  · simp only [Bool.and_eq_true, decide_eq_true_eq] at h
    omega
  · simp only [Bool.and_eq_true, decide_eq_true_eq] at h
    omega

theorem roundDiv_ne_zero {num den : Nat} (h : num / den ≠ 0) : roundDiv num den .even ≠ 0 := by
  unfold roundDiv
  simp only
  split
  · exact h
  · split
    · exact Nat.succ_ne_zero _
    · generalize num / den = q at h ⊢
      omega

theorem ne_zero_of_onGrid? (low : 0 < i.low) (h : onGrid? i place = some (d, p)) : d ≠ 0 := by
  unfold onGrid? at h
  simp only at h
  split at h
  · next below _ =>
    cases h
    exact roundDiv_ne_zero (ne_zero_of_contains low below)
  · next below _ =>
    cases h
    exact ne_zero_of_contains low below
  · cases h
    exact Nat.succ_ne_zero _
  · cases h

/-- **The search** ends with other digits than zero, or with nothing. -/
theorem place_of_search_zero (low : 0 < i.low) {leading : Int} (fuel count : Nat)
    (h : search i leading count fuel = (0, p)) : p = 0 := by
  induction fuel generalizing count with
  | zero =>
    cases h
    rfl
  | succ fuel ih =>
    unfold search at h
    split at h
    · next found hfound =>
      rw [h] at hfound
      exact absurd rfl (ne_zero_of_onGrid? low hfound)
    · exact ih _ h

theorem dropZeros_zero (fuel : Nat) (h : dropZeros digits place fuel = (0, p)) :
    digits = 0 ∧ place = p := by
  induction fuel generalizing digits place with
  | zero =>
    cases h
    exact ⟨rfl, rfl⟩
  | succ fuel ih =>
    unfold dropZeros at h
    split at h
    · next more =>
      simp only [Bool.and_eq_true, bne_iff_ne, beq_iff_eq] at more
      have := (ih h).1
      omega
    · cases h
      exact ⟨rfl, rfl⟩

/-- **Zero** has one form. -/
theorem place_of_zero {mantissa : Nat} {exponent : Int}
    (h : digitsOf mantissa exponent = (0, p)) : p = 0 := by
  unfold digitsOf at h
  split at h
  · cases h
    rfl
  · next nonzero =>
    have low : 0 < (intervalOf mantissa exponent).low := by
      have positive : mantissa ≠ 0 := by simpa using nonzero
      refine Nat.mul_pos ?_ (Nat.pow_pos (by decide))
      split
      · omega
      · omega
    obtain ⟨zero, rfl⟩ := dropZeros_zero 17 h
    refine place_of_search_zero low 17 1 (Prod.ext zero rfl)

end Shortest

/-! ### Written forms -/

namespace Binary64

/-- Whether a number is written without a power of ten. -/
def Finite.isPositional (x : Finite) : Bool :=
  let (digits, place) := Shortest.digitsOf x.mantissa x.exponent
  Binary64.isPositional (place + digitCount digits)

theorem placePoint_zeros {text : List Char} (filled : text ≠ []) (k : Nat) :
    Decimal.placePoint (text ++ List.replicate (k + 1) '0') (k + text.length) =
      Decimal.placePoint text (k + text.length) ++ ['.', '0'] := by
  have positive := List.length_pos_iff.2 filled
  have whole : ((k : Int) + text.length).toNat = (text ++ List.replicate k '0').length := by
    simp
    omega
  have inside : ¬ ((k : Int) + text.length ≤ 0) := by omega
  unfold Decimal.placePoint
  rw [if_neg inside, if_neg inside]
  simp only [whole]
  rw [List.replicate_succ', ← List.append_assoc, List.take_left, List.drop_left, if_neg (by simp),
    if_pos (by simp)]
  simp

theorem render_shown_whole {digits : Nat} {place : Int} (whole : 0 ≤ place)
    (zero : digits = 0 → place = 0) (negative : Bool) :
    (Decimal.finite negative (digits * 10 ^ (place + 1).toNat) (-1)).render =
      String.ofList (Decimal.signText negative ++
        (Decimal.placePoint (Nat.toDigits 10 digits) (place + (Nat.toDigits 10 digits).length) ++
          ['.', '0'])) := by
  by_cases hzero : digits = 0
  · rw [hzero, zero hzero]
    cases negative with
    | true => rfl
    | false => rfl
  obtain ⟨k, rfl⟩ := Int.eq_ofNat_of_zero_le whole
  have wide : Nat.toDigits 10 (digits * 10 ^ ((k : Int) + 1).toNat) =
      Nat.toDigits 10 digits ++ List.replicate (k + 1) '0' :=
    toDigits_mul_pow (Nat.pos_of_ne_zero hzero) (k + 1)
  have left : (-1 : Int) + (Nat.toDigits 10 digits ++ List.replicate (k + 1) '0').length =
      k + (Nat.toDigits 10 digits).length := by
    simp
    omega
  unfold Decimal.render
  simp only [wide, left]
  rw [if_pos (by simp; omega), placePoint_zeros Nat.toDigits_ne_nil]

/-- **Without a power of ten**, a number is written like the decimal number that it shows. -/
theorem render_eq_render_shown {x : Finite} (positional : x.isPositional = true) :
    (finite x).render = (finite x).shown.render := by
  unfold Finite.isPositional at positional
  rcases hfound : Shortest.digitsOf x.mantissa x.exponent with ⟨digits, place⟩
  unfold render shown
  unfold digitCount at *
  simp only [hfound] at positional ⊢
  simp only [positional, if_true, Bool.true_and, decide_eq_true_eq]
  simp only [isPositional, Bool.and_eq_true, decide_eq_true_eq] at positional
  split
  · next whole =>
    rw [render_shown_whole whole (fun zero => Shortest.place_of_zero (zero ▸ hfound))]
  · next fraction =>
    unfold Decimal.render
    simp only
    rw [if_pos (by simp; omega)]

theorem isFinite_shown (x : Finite) : (finite x).shown.isFinite = true := by
  unfold shown
  simp only
  split
  · rfl
  · rfl

/-- **With a power of ten**, it is written with a small letter. -/
theorem e_mem_render {x : Finite} (h : x.isPositional = false) :
    'e' ∈ (finite x).render.toList := by
  unfold Finite.isPositional at h
  rcases hfound : Shortest.digitsOf x.mantissa x.exponent with ⟨digits, place⟩
  unfold render
  unfold digitCount at h
  simp only [hfound, String.toList_ofList] at h ⊢
  rw [h]
  simp

end Binary64

end ReportCheck
