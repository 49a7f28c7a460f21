import ReportCheck.Proofs.Cell.Written

/-! # The characters of written numbers and dates

  Numbers and dates are written with ASCII digits and a few marks, each form with marks of
  its own.

  - `Text.WrittenIn` names the marks of a text. What is neither an ASCII digit nor one of the
    marks does not occur: `Text.WrittenIn.not_mem`.
  - `Decimal.writtenIn_render_finite` and `Binary64.writtenIn_render_finite`: the two forms of
    numbers differ in the letter before a power of ten.
  - `Cell.writtenIn_display` joins all cells that carry no text from outside.
-/

namespace ReportCheck

namespace Text

/-- **Written in digits and marks**: each character is an ASCII digit or one of the marks. -/
def WrittenIn (marks cs : List Char) : Prop := ∀ c ∈ cs, c.isDigit = true ∨ c ∈ marks

namespace WrittenIn

variable {marks more cs cs' : List Char}

theorem nil : WrittenIn marks [] := fun _ hc => nomatch hc

theorem append (h : WrittenIn marks cs) (h' : WrittenIn marks cs') : WrittenIn marks (cs ++ cs') :=
  fun c hc => (List.mem_append.1 hc).elim (h c) (h' c)

theorem mark {c : Char} (hc : c ∈ marks) (h : WrittenIn marks cs) : WrittenIn marks (c :: cs) :=
  fun c' hc' => (List.mem_cons.1 hc').elim (fun same => .inr (same ▸ hc)) (h c')

/-- A digit in front. -/
theorem digit {c : Char} (hc : c.isDigit = true) (h : WrittenIn marks cs) :
    WrittenIn marks (c :: cs) :=
  fun c' hc' => (List.mem_cons.1 hc').elim (fun same => .inl (same ▸ hc)) (h c')

theorem of_subset (h : cs ⊆ marks) : WrittenIn marks cs := fun _ hc => .inr (h hc)

theorem mono (h : WrittenIn marks cs) (sub : marks ⊆ more) : WrittenIn more cs :=
  fun c hc => (h c hc).imp_right fun hmark => sub hmark

theorem of_sublist (h : WrittenIn marks cs) (sub : cs'.Sublist cs) : WrittenIn marks cs' :=
  fun c hc => h c (sub.subset hc)

/-- **Other characters** do not occur. -/
theorem not_mem (h : WrittenIn marks cs) {c : Char} (noDigit : c.isDigit = false)
    (noMark : c ∉ marks) : c ∉ cs := by
  intro hc
  rcases h c hc with digit | mark
  · exact absurd digit (by rw [noDigit]; decide)
  · exact noMark mark

end WrittenIn

theorem writtenIn_toDigits (marks : List Char) (n : Nat) : WrittenIn marks (Nat.toDigits 10 n) :=
  fun _ hc => .inl (Nat.isDigit_of_mem_toDigits (by decide) (by decide) hc)

theorem writtenIn_zeros (marks : List Char) (n : Nat) :
    WrittenIn marks (List.replicate n '0') := by
  intro c hc
  rw [(List.mem_replicate.1 hc).2]
  exact .inl rfl

end Text

open Text

/-! ### Numbers -/

namespace Decimal

/-- The marks of decimal numbers. -/
def marks : List Char := ['-', '+', '.', 'E', 'I', 'n', 'f', 'i', 't', 'y', 's', 'N', 'a']

theorem writtenIn_signText (negative : Bool) : WrittenIn ['-'] (signText negative) := by
  cases negative with
  | true => exact .of_subset (List.Subset.refl _)
  | false => exact .nil

theorem writtenIn_signedText (n : Int) : WrittenIn ['-', '+'] (signedText n) := by
  unfold signedText
  refine .mark ?_ (writtenIn_toDigits _ _)
  split
  · exact .head _
  · exact .tail _ (.head _)

theorem writtenIn_placePoint {marks digits : List Char} (point : '.' ∈ marks)
    (h : WrittenIn marks digits) (place : Int) : WrittenIn marks (placePoint digits place) := by
  unfold placePoint
  split
  · exact .append (.digit rfl (.mark point (writtenIn_zeros _ _))) h
  · simp only
    split
    · exact .append h (writtenIn_zeros _ _)
    · exact .append (h.of_sublist (List.take_sublist _ _))
        (.mark point (h.of_sublist (List.drop_sublist _ _)))

/-- **Decimal numbers** have a capital letter before a power of ten. -/
theorem writtenIn_render_finite (negative : Bool) (c : Nat) (e : Int) :
    WrittenIn ['-', '+', '.', 'E'] (finite negative c e).render.toList := by
  have sign : WrittenIn ['-', '+', '.', 'E'] (signText negative) :=
    (writtenIn_signText negative).mono (by decide)
  have point := @writtenIn_placePoint ['-', '+', '.', 'E'] _ (by decide) (writtenIn_toDigits _ c)
  unfold render
  rw [String.toList_ofList]
  refine sign.append ?_
  split
  · exact point _
  · refine (point 1).append ?_
    split
    · exact .nil
    · exact .mark (by decide) ((writtenIn_signedText _).mono (by decide))

theorem writtenIn_render (d : Decimal) : WrittenIn marks d.render.toList := by
  have sign (negative : Bool) : WrittenIn marks (signText negative) :=
    (writtenIn_signText negative).mono (by decide)
  cases d with
  | finite negative c e => exact (writtenIn_render_finite negative c e).mono (by decide)
  | infinite negative =>
    unfold render
    rw [String.toList_ofList]
    exact (sign negative).append (.of_subset (by decide))
  | nan negative signaling payload =>
    unfold render
    rw [String.toList_ofList]
    refine .append (.append (sign negative) ?_) ?_
    · cases signaling with
      | true => exact .of_subset (by decide)
      | false => exact .of_subset (by decide)
    · split
      · exact .nil
      · exact writtenIn_toDigits _ payload

end Decimal

namespace Binary64

/-- The marks of double-precision numbers. -/
def marks : List Char := ['-', '+', '.', 'e', 'i', 'n', 'f', 'a']

theorem writtenIn_powerText (n : Int) : WrittenIn ['-', '+'] (powerText n) := by
  have digits := writtenIn_toDigits ['-', '+'] n.natAbs
  unfold powerText
  refine .mark ?_ ?_
  · split
    · exact .head _
    · exact .tail _ (.head _)
  · split
    · exact .digit rfl digits
    · exact digits

/-- **Double-precision numbers** have a small letter before a power of ten. -/
theorem writtenIn_render_finite (x : Finite) :
    WrittenIn ['-', '+', '.', 'e'] (finite x).render.toList := by
  have sign : WrittenIn ['-', '+', '.', 'e'] (Decimal.signText x.negative) :=
    (Decimal.writtenIn_signText x.negative).mono (by decide)
  have point := fun n => @Decimal.writtenIn_placePoint ['-', '+', '.', 'e'] _ (by decide)
    (writtenIn_toDigits _ n)
  unfold render
  rw [String.toList_ofList]
  refine sign.append ?_
  split
  · split
    · exact (point _ _).append (.mark (by decide) (.digit rfl .nil))
    · exact point _ _
  · exact (point _ _).append (.mark (by decide) ((writtenIn_powerText _).mono (by decide)))

theorem writtenIn_render (x : Binary64) : WrittenIn marks x.render.toList := by
  cases x with
  | finite x => exact (writtenIn_render_finite x).mono (by decide)
  | infinite negative =>
    unfold render
    rw [String.toList_ofList]
    have sign : WrittenIn marks (Decimal.signText negative) :=
      (Decimal.writtenIn_signText negative).mono (by decide)
    exact sign.append (.of_subset (by decide))
  | nan => exact .of_subset (by decide)

end Binary64

theorem Cell.writtenIn_intChars (n : Int) : WrittenIn ['-'] (intChars n) :=
  (Decimal.writtenIn_signText _).append (writtenIn_toDigits _ _)

/-! ### Dates -/

theorem Date.writtenIn_padded (marks : List Char) (width n : Nat) :
    WrittenIn marks (padded width n) :=
  (writtenIn_zeros _ _).append (writtenIn_toDigits _ _)

theorem Date.writtenIn_isoChars (d : Date) : WrittenIn ['-'] d.isoChars :=
  .append (.append (writtenIn_padded _ _ _) (.mark (.head _) (writtenIn_padded _ _ _)))
    (.mark (.head _) (writtenIn_padded _ _ _))

theorem Date.writtenIn_usText (d : Date) : WrittenIn ['/'] d.usText.toList := by
  unfold usText
  rw [String.toList_ofList]
  exact .append (.append (writtenIn_padded _ _ _) (.mark (.head _) (writtenIn_padded _ _ _)))
    (.mark (.head _) (writtenIn_toDigits _ _))

theorem Moment.writtenIn_textWith (separator : Char) (m : Moment) :
    WrittenIn ['-', ':', '.', separator] (m.textWith separator).toList := by
  have padded := Date.writtenIn_padded ['-', ':', '.', separator]
  have date : WrittenIn ['-', ':', '.', separator] m.date.isoChars :=
    (Date.writtenIn_isoChars m.date).mono (by simp)
  unfold textWith
  rw [String.toList_ofList]
  refine .append (.append (.append (date.append (.mark (by simp) (padded _ _))) ?_) ?_) ?_
  · exact .mark (by simp) (padded _ _)
  · exact .mark (by simp) (padded _ _)
  · split
    · exact .nil
    · exact .mark (by simp) (padded _ _)

/-! ### Cells -/

/-- Whether a cell holds texts that come from outside: a text or a collection. -/
def Cell.carriesText : Cell → Bool
  | text _ => true
  | list _ => true
  | object _ => true
  | _ => false

/-- The marks of all other cells, as they display. -/
def Cell.displayMarks : List Char :=
  Decimal.marks ++ Binary64.marks ++ ['-', ':', '.', 'T'] ++ "true".toList ++ "false".toList

/-- **Cells without texts** display in ASCII digits and marks. -/
theorem Cell.writtenIn_display {c : Cell} (h : c.carriesText = false) :
    WrittenIn displayMarks c.display.toList := by
  cases c with
  | empty => exact .nil
  | bool b =>
    cases b with
    | true => exact .of_subset (by decide)
    | false => exact .of_subset (by decide)
  | int n =>
    show WrittenIn displayMarks (String.ofList (intChars n)).toList
    rw [String.toList_ofList]
    exact (writtenIn_intChars n).mono (by decide)
  | float x =>
    have written : WrittenIn displayMarks x.render.toList :=
      (Binary64.writtenIn_render x).mono (by decide)
    cases x with
    | finite x =>
      rw [display_float]
      split
      · rw [String.toList_ofList]
        exact (writtenIn_intChars _).mono (by decide)
      · exact written
    | infinite negative =>
      rw [← plain_float] at written
      exact written
    | nan => exact .of_subset (by decide)
  | decimal d => exact (Decimal.writtenIn_render d).mono (by decide)
  | date d =>
    show WrittenIn displayMarks (String.ofList d.isoChars).toList
    rw [String.toList_ofList]
    exact d.writtenIn_isoChars.mono (by decide)
  | moment m => exact (m.writtenIn_textWith 'T').mono (by decide)
  | _ => cases h

end ReportCheck
