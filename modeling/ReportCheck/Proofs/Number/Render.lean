import ReportCheck.Number.Decimal
import ReportCheck.Proofs.Number.Literal

/-! # Written decimal numbers

  The written form of a decimal number shows its digits and its power of ten, so that numbers of
  the same value that are written differently are told apart.

  - `Numeral.read?_placed`: digits with a point among them are read back, and so is the power of
    ten behind them, as the parts of a literal.
  - `Decimal.ofAll?_render` is the round trip of finite numbers, and `Decimal.render_inj` what
    follows for their written forms.
-/

namespace ReportCheck

open Text

-- Powers are the core ones, whichever other library is in scope.
attribute [local instance (high)] instPowNat

namespace Numeral

open Literal

/-! ### The parts of a numeral -/

theorem exists_sign_signText (negative : Bool) :
    ∃ sign : Sign, sign.text = Decimal.signText negative ∧ sign.negative = negative := by
  cases negative with
  | false => exact ⟨.none, rfl, rfl⟩
  | true => exact ⟨.minus, rfl, rfl⟩

theorem exists_exponent_signedText (n : Int) :
    ∃ e : Exponent, e.text = 'E' :: Decimal.signedText n ∧ e.value = n := by
  have all : ∀ c ∈ Nat.toDigits 10 n.natAbs, isDigit c = true := fun c => isDigit_of_mem_toDigits
  unfold Exponent.text Exponent.value Decimal.signedText
  by_cases below : n < 0
  · refine ⟨⟨'E', .minus, _, by decide, all, Nat.toDigits_ne_nil⟩, by rw [if_pos below]; rfl, ?_⟩
    simp only [Sign.negative, if_true, numeralValue_toDigits]
    omega
  · refine ⟨⟨'E', .plus, _, by decide, all, Nat.toDigits_ne_nil⟩, by rw [if_neg below]; rfl, ?_⟩
    simp only [Sign.negative, Bool.false_eq_true, if_false, numeralValue_toDigits]
    omega

/-- **Powers of ten** behind the digits: none, or one with its sign. -/
inductive Power : List Char → Int → Prop
  | none : Power [] 0
  | some (n : Int) : Power ('E' :: Decimal.signedText n) n

variable {power : List Char} {n : Int}

theorem Power.endsNumber (h : Power power n) : EndsNumber power := by
  cases h with
  | none => exact endsNumber_nil
  | some n => exact endsNumber_cons (by decide) _

theorem Power.noPoint (h : Power power n) : '.' ∉ power.head? := by
  cases h with
  | none => exact Option.not_mem_none _
  | some n => exact fun head => absurd (Option.some.inj head) (by decide)

/-- **The power of ten** is read. -/
theorem Power.readExponent (h : Power power n) : readExponent power = (n, []) := by
  cases h with
  | none => rfl
  | some n =>
    obtain ⟨e, text, value⟩ := exists_exponent_signedText n
    have read := readExponent_text e endsNumber_nil
    rwa [List.append_nil, text, value] at read

/-! ### Digits with a point -/

variable {whole fraction digits : List Char}

theorem read?_whole (negative : Bool) (filled : whole ≠ [])
    (all : ∀ c ∈ whole, isDigit c = true) (h : Power power n) :
    read? (Decimal.signText negative ++ whole ++ power) =
      some (⟨negative, numeralValue whole, n⟩, []) := by
  obtain ⟨sign, text, rfl⟩ := exists_sign_signText negative
  have read := read?_parts sign whole none (by simpa using all) (by simpa using filled) h.endsNumber
    (fun _ => h.noPoint) h.readExponent
  simpa [pointed, text] using read

theorem read?_fraction (negative : Bool) (filled : whole ≠ [])
    (all : ∀ c ∈ whole ++ fraction, isDigit c = true) (h : Power power n) :
    read? (Decimal.signText negative ++ (whole ++ '.' :: fraction) ++ power) =
      some (⟨negative, numeralValue (whole ++ fraction), n - fraction.length⟩, []) := by
  obtain ⟨sign, text, rfl⟩ := exists_sign_signText negative
  have read := read?_parts sign whole (some fraction) all
    (List.append_ne_nil_of_left_ne_nil filled _) h.endsNumber nofun h.readExponent
  simpa [pointed, text] using read

/-- **Placed digits** are read back if the point stands among them or in front. -/
theorem read?_placed (negative : Bool) (filled : digits ≠ [])
    (all : ∀ c ∈ digits, isDigit c = true) {place : Int} (among : place ≤ digits.length)
    (h : Power power n) :
    read? (Decimal.signText negative ++ Decimal.placePoint digits place ++ power) =
      some (⟨negative, numeralValue digits, n - (digits.length - place)⟩, []) := by
  unfold Decimal.placePoint
  by_cases front : place ≤ 0
  · rw [if_pos front]
    have zeros : ∀ c ∈ ['0'] ++ (List.replicate (-place).toNat '0' ++ digits),
        isDigit c = true := by
      refine List.forall_mem_append.2
        ⟨List.forall_mem_singleton.2 (by decide), List.forall_mem_append.2 ⟨?_, all⟩⟩
      intro c hc
      rw [(List.mem_replicate.1 hc).2]
      decide
    have value : numeralValue (['0'] ++ (List.replicate (-place).toNat '0' ++ digits)) =
        numeralValue digits :=
      numeralValue_zeros_append ((-place).toNat + 1) digits
    have length : ((List.replicate (-place).toNat '0' ++ digits).length : Int) =
        digits.length - place := by
      rw [List.length_append, List.length_replicate]
      omega
    rw [← value, ← length]
    have read := read?_fraction negative (List.cons_ne_nil '0' []) zeros h
    exact read
  · rw [if_neg front]
    simp only
    split
    · next last =>
      -- The point stands behind the last digit, and is left out.
      have none : place.toNat - digits.length = 0 := by omega
      have zero : (digits.length : Int) - place = 0 := by omega
      rw [none, List.replicate_zero, List.append_nil, zero, Int.sub_zero]
      exact read?_whole negative filled all h
    · next inside =>
      have split := List.take_append_drop place.toNat digits
      have front : digits.take place.toNat ≠ [] := by
        rw [ne_eq, List.take_eq_nil_iff]
        rintro (zero | empty)
        · omega
        · exact filled empty
      have length : ((digits.drop place.toNat).length : Int) = digits.length - place := by
        rw [List.length_drop]
        omega
      have read := read?_fraction negative front (by rwa [split]) h
      rwa [split, length] at read

end Numeral

namespace Decimal

/-- **Reading back** what is written of a finite number gives its form. -/
theorem ofAll?_render (negative : Bool) (c : Nat) (e : Int) :
    Numeral.ofAll? (finite negative c e).render.toList = some ⟨negative, c, e⟩ := by
  have filled : Nat.toDigits 10 c ≠ [] := Nat.toDigits_ne_nil
  have all : ∀ d ∈ Nat.toDigits 10 c, isDigit d = true := fun d => isDigit_of_mem_toDigits
  have positive : 0 < (Nat.toDigits 10 c).length := Nat.length_toDigits_pos
  -- In both forms, the exponent is what the point and the power of ten make together.
  have read : ∀ {power : List Char} {n place : Int}, Numeral.Power power n →
      place ≤ (Nat.toDigits 10 c).length → n - ((Nat.toDigits 10 c).length - place) = e →
      Numeral.ofAll? (signText negative ++ (placePoint (Nat.toDigits 10 c) place ++ power)) =
        some ⟨negative, c, e⟩ := by
    intro power n place hpower among exponent
    have placed := Numeral.read?_placed negative filled all among hpower
    rw [numeralValue_toDigits, exponent, List.append_assoc] at placed
    unfold Numeral.ofAll?
    rw [placed]
  unfold render
  simp only [String.toList_ofList]
  split
  · next positional =>
    simp only [Bool.and_eq_true, decide_eq_true_eq] at positional
    have form := @read [] 0 (e + (Nat.toDigits 10 c).length) .none (by omega) (by omega)
    rwa [List.append_nil] at form
  · have power : Numeral.Power
        (if e + (Nat.toDigits 10 c).length == 1 then []
          else 'E' :: signedText (e + (Nat.toDigits 10 c).length - 1))
        (e + (Nat.toDigits 10 c).length - 1) := by
      split
      · next one =>
        rw [beq_iff_eq.1 one]
        exact .none
      · exact .some _
    exact @read _ _ 1 power (by omega) (by omega)

/-- **Written forms** tell finite numbers apart, also where their values are the same. -/
theorem render_inj {d d' : Decimal} (hd : d.isFinite = true) (hd' : d'.isFinite = true) :
    d.render = d'.render ↔ d = d' := by
  refine ⟨fun same => ?_, congrArg render⟩
  cases d with
  | finite negative c e =>
    cases d' with
    | finite negative' c' e' =>
      have read := ofAll?_render negative c e
      rw [same, ofAll?_render] at read
      cases read
      rfl
    | _ => cases hd'
  | _ => cases hd

end Decimal

end ReportCheck
