import ReportCheck.Predicate.Eval

/-! # Two texts of a cell

  The plain text of a cell and the text that it displays as are the same for most cells,
  but not for all.

  - `Cell.DisplaysOtherwise` lists the cells for which they are not; `display_eq_plain` is
    about all others.
  - `dropLeadingZeros_ne_of_mem`: a character that is no zero tells two texts apart, also
    after their leading zeros are dropped.
  - `not_digits_render`: the written form of a double-precision number has a point or a
    power of ten, which the form of a whole number does not have.
  - `dropLeadingZeros_plain_ne_display` joins the three.
  - `Cell.display_ne_empty`: only blank cells display as the empty text.
-/

namespace ReportCheck

/-- **Cells that display otherwise than they are written**: nothing, truth values, whole
    double-precision numbers, and dates with a time. -/
inductive Cell.DisplaysOtherwise : Cell → Prop
  | empty : DisplaysOtherwise .empty
  | bool (b : Bool) : DisplaysOtherwise (.bool b)
  | float {x : Binary64.Finite} (whole : x.isWhole = true) : DisplaysOtherwise (.float (.finite x))
  | moment (m : Moment) : DisplaysOtherwise (.moment m)

theorem Cell.display_float (x : Binary64.Finite) :
    (Cell.float (.finite x)).display =
      if x.isWhole then String.ofList (intChars x.truncate) else (Binary64.finite x).render := rfl

theorem Cell.plain_float (x : Binary64) : (Cell.float x).plain = x.render :=
  String.ofList_toList

/-- All other cells display as they are written. -/
theorem Cell.display_eq_plain {c : Cell} (h : ¬ c.DisplaysOtherwise) : c.display = c.plain := by
  cases c with
  | empty => exact absurd .empty h
  | bool b => exact absurd (.bool b) h
  | moment m => exact absurd (.moment m) h
  | float x =>
    cases x with
    | finite x =>
      cases hwhole : x.isWhole with
      | true => exact absurd (.float hwhole) h
      | false =>
        rw [display_float, plain_float, hwhole]
        rfl
    | infinite negative => rfl
    | nan => rfl
  | _ => rfl

/-! ### Texts without their leading zeros -/

theorem mem_dropLeadingZeros {s : String} {c : Char} (h : c ≠ '0') :
    c ∈ dropLeadingZeros s ↔ c ∈ s.toList := by
  unfold dropLeadingZeros
  generalize s.toList = cs
  induction cs with
  | nil => rfl
  | cons d rest ih =>
    by_cases hd : d = '0'
    · subst hd
      simp [ih, h]
    · simp [hd]

/-- A character of one text that the other lacks tells them apart, unless it is a zero. -/
theorem dropLeadingZeros_ne_of_mem {s t : String} {c : Char} (h : c ≠ '0') (hs : c ∈ s.toList)
    (ht : c ∉ t.toList) : dropLeadingZeros s ≠ dropLeadingZeros t := by
  intro same
  have there : c ∈ dropLeadingZeros s := (mem_dropLeadingZeros h).2 hs
  rw [same] at there
  exact ht ((mem_dropLeadingZeros h).1 there)

/-! ### Numbers -/

theorem isDigit_of_mem_intChars {n : Int} {c : Char} (h : c ∈ Cell.intChars n) :
    c = '-' ∨ c.isDigit = true := by
  unfold Cell.intChars Decimal.signText at h
  rcases List.mem_append.1 h with hsign | hdigit
  · left
    split at hsign
    · simpa using hsign
    · exact nomatch hsign
  · exact .inr (Nat.isDigit_of_mem_toDigits (by decide) (by decide) hdigit)

theorem point_mem_placePoint {digits : List Char} {place : Int} (h : place < digits.length) :
    '.' ∈ Decimal.placePoint digits place := by
  unfold Decimal.placePoint
  split
  · simp
  · next hplace =>
    have within : ¬ digits.length ≤ place.toNat := by omega
    simp [within]

/-- **Written numbers** have a point or a power of ten. -/
theorem not_digits_render (x : Binary64.Finite) :
    ∃ c ∈ (Binary64.finite x).render.toList, c = '.' ∨ c = 'e' := by
  unfold Binary64.render
  simp only [String.toList_ofList]
  generalize Shortest.digitsOf x.mantissa x.exponent = found
  obtain ⟨digits, place⟩ := found
  simp only
  split
  · split
    · exact ⟨'.', by simp, .inl rfl⟩
    · next hplace =>
      -- A negative place puts digits behind the point.
      refine ⟨'.', List.mem_append_right _ (point_mem_placePoint ?_), .inl rfl⟩
      omega
  · exact ⟨'e', by simp, .inr rfl⟩

/-! ### Moments -/

theorem isDigit_of_mem_padded {width n : Nat} {c : Char} (h : c ∈ Date.padded width n) :
    c.isDigit = true := by
  unfold Date.padded at h
  rcases List.mem_append.1 h with hzero | hdigit
  · rw [(List.mem_replicate.1 hzero).2]
    rfl
  · exact Nat.isDigit_of_mem_toDigits (by decide) (by decide) hdigit

theorem T_not_mem_textWith (m : Moment) : 'T' ∉ (m.textWith ' ').toList := by
  have digits : ∀ width n, 'T' ∉ Date.padded width n := by
    intro width n h
    exact absurd (isDigit_of_mem_padded h) (by decide)
  unfold Moment.textWith Date.isoChars
  rw [String.toList_ofList]
  by_cases hfraction : m.microsecond = 0
  · simp [hfraction, digits]
  · simp [hfraction, digits]

/-- The two texts differ also without their leading zeros. -/
theorem Cell.dropLeadingZeros_plain_ne_display {c : Cell} (h : c.DisplaysOtherwise) :
    dropLeadingZeros c.display ≠ dropLeadingZeros c.plain := by
  cases h with
  | empty => decide
  | bool b =>
    cases b with
    | true => decide
    | false => decide
  | @float x whole =>
    obtain ⟨mark, hmark, hcase⟩ := not_digits_render x
    rw [display_float, plain_float, if_pos whole]
    refine (dropLeadingZeros_ne_of_mem ?_ hmark ?_).symm
    · rcases hcase with rfl | rfl
      · decide
      · decide
    · rw [String.toList_ofList]
      intro hdigit
      have digit := isDigit_of_mem_intChars hdigit
      rcases hcase with rfl | rfl
      · exact absurd digit (by decide)
      · exact absurd digit (by decide)
  | moment m =>
    have letter : 'T' ∈ (m.textWith 'T').toList := by
      unfold Moment.textWith
      simp
    exact dropLeadingZeros_ne_of_mem (by decide) letter (T_not_mem_textWith m)

/-! ### Texts that are not empty -/

theorem ofList_ne_empty {cs : List Char} (h : cs ≠ []) : String.ofList cs ≠ "" := by
  intro empty
  have none := congrArg String.toList empty
  rw [String.toList_ofList] at none
  exact h none

theorem ne_empty_of_mem {s : String} {c : Char} (h : c ∈ s.toList) : s ≠ "" := by
  rintro rfl
  exact absurd h List.not_mem_nil

theorem Decimal.placePoint_ne_nil {digits : List Char} (h : digits ≠ []) (place : Int) :
    placePoint digits place ≠ [] := by
  unfold placePoint
  by_cases front : place ≤ 0
  · rw [if_pos front]
    exact List.cons_ne_nil _ _
  · rw [if_neg front]
    by_cases whole : digits.length ≤ place.toNat
    · simp [whole, h]
    · simp [whole]

theorem Decimal.render_ne_empty (d : Decimal) : d.render ≠ "" := by
  cases d with
  | finite negative c e =>
    have point := placePoint_ne_nil (@Nat.toDigits_ne_nil c 10)
    unfold render
    refine ofList_ne_empty (List.append_ne_nil_of_right_ne_nil _ ?_)
    split
    · exact point _
    · exact List.append_ne_nil_of_left_ne_nil (point _) _
  | infinite negative => exact ofList_ne_empty (List.append_ne_nil_of_right_ne_nil _ (by decide))
  | nan negative signaling payload =>
    refine ofList_ne_empty (List.append_ne_nil_of_left_ne_nil
      (List.append_ne_nil_of_right_ne_nil _ ?_) _)
    cases signaling with
    | true => decide
    | false => decide

theorem Binary64.render_ne_empty (x : Binary64) : x.render ≠ "" := by
  cases x with
  | finite x =>
    obtain ⟨mark, hmark, -⟩ := not_digits_render x
    exact ne_empty_of_mem hmark
  | infinite negative => exact ofList_ne_empty (List.append_ne_nil_of_right_ne_nil _ (by decide))
  | nan => decide

theorem Cell.intChars_ne_nil (n : Int) : intChars n ≠ [] :=
  List.append_ne_nil_of_right_ne_nil _ Nat.toDigits_ne_nil

/-- **Cells that are not blank** display as some text. -/
theorem Cell.display_ne_empty {c : Cell} (h : c.isBlank = false) : c.display ≠ "" := by
  cases c with
  | empty => exact nomatch h
  | bool b =>
    cases b with
    | true => decide
    | false => decide
  | int n => exact ofList_ne_empty (intChars_ne_nil n)
  | float x =>
    cases x with
    | finite x =>
      rw [display_float]
      by_cases whole : x.isWhole = true
      · rw [if_pos whole]
        exact ofList_ne_empty (intChars_ne_nil _)
      · rw [if_neg whole]
        exact Binary64.render_ne_empty _
    | infinite negative =>
      show (Cell.float (.infinite negative)).plain ≠ ""
      rw [plain_float]
      exact Binary64.render_ne_empty _
    | nan => decide
  | decimal d => exact Decimal.render_ne_empty d
  | text s =>
    rintro rfl
    exact nomatch h
  | date d =>
    have sign : '-' ∈ d.isoText.toList := by
      unfold Date.isoText Date.isoChars
      simp
    exact ne_empty_of_mem sign
  | moment m =>
    have letter : 'T' ∈ (m.textWith 'T').toList := by
      unfold Moment.textWith
      simp
    exact ne_empty_of_mem letter
  | list items => exact ofList_ne_empty (List.cons_ne_nil _ _)
  | object members => exact ofList_ne_empty (List.cons_ne_nil _ _)

end ReportCheck
