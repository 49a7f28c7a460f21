import ReportCheck.Proofs.Cell.Characters

/-! # Line feeds in cells

  Among all cells only a text can display with a line feed in it, and it displays as it
  is. Every other cell is written by characters of the library's own choice, and texts
  within lists and objects are written as literals, with their line feeds escaped.

  - `Cell.newline_not_mem_literalChars` is about literals, by induction over the cell.
  - `Cell.exists_text_of_newline_mem_display`: a line feed that is displayed was in a text.
-/

namespace ReportCheck

/-! ### Numbers -/

theorem newline_not_mem_toDigits {base : Nat} (positive : 0 < base) (small : base ≤ 16) (n : Nat) :
    '\n' ∉ Nat.toDigits base n := by
  have digit : ∀ m < 16, '\n' ≠ Nat.digitChar m := by decide
  have digits : ∀ fuel n ds, '\n' ∉ ds → '\n' ∉ Nat.toDigitsCore base fuel n ds := by
    intro fuel
    induction fuel with
    | zero => exact fun n ds h => h
    | succ fuel ih =>
      intro n ds h
      have below : n % base < 16 := Nat.lt_of_lt_of_le (Nat.mod_lt n positive) small
      have longer : '\n' ∉ Nat.digitChar (n % base) :: ds := by
        simp [digit _ below, h]
      simp only [Nat.toDigitsCore]
      split
      · exact longer
      · exact ih _ _ longer
  exact digits _ _ _ List.not_mem_nil

theorem newline_not_mem_decimal (n : Nat) : '\n' ∉ Nat.toDigits 10 n :=
  (Text.writtenIn_toDigits [] n).not_mem rfl List.not_mem_nil

theorem newline_not_mem_intercalate {separator : List Char} (h : '\n' ∉ separator)
    {parts : List (List Char)} (hparts : ∀ part ∈ parts, '\n' ∉ part) :
    '\n' ∉ separator.intercalate parts := by
  induction parts with
  | nil => simp
  | cons part rest ih =>
    have first := hparts part (.head _)
    cases rest with
    | nil => simpa using first
    | cons next rest =>
      have others := ih fun other hother => hparts other (.tail _ hother)
      simp [first, h, others]

theorem Decimal.newline_not_mem_render (d : Decimal) : '\n' ∉ d.render.toList :=
  d.writtenIn_render.not_mem rfl (by decide)

theorem Binary64.newline_not_mem_render (x : Binary64) : '\n' ∉ x.render.toList :=
  x.writtenIn_render.not_mem rfl (by decide)

theorem Cell.newline_not_mem_intChars (n : Int) : '\n' ∉ intChars n :=
  (writtenIn_intChars n).not_mem rfl (by decide)

theorem Date.newline_not_mem_usText (d : Date) : '\n' ∉ d.usText.toList :=
  d.writtenIn_usText.not_mem rfl (by decide)

/-! ### Literals -/

theorem Text.newline_not_mem_hex (width n : Nat) : '\n' ∉ hex width n := by
  have digits : '\n' ∉ Nat.toDigits 16 n := newline_not_mem_toDigits (by decide) (by decide) n
  unfold hex
  simp [digits]

theorem Text.newline_ne_quoteFor (cs : List Char) : '\n' ≠ quoteFor cs := by
  unfold quoteFor
  split
  · decide
  · decide

theorem Text.newline_not_mem_escapeChar {quote : Char} (h : '\n' ≠ quote) (c : Char) :
    '\n' ∉ escapeChar quote c := by
  have digits := newline_not_mem_hex
  unfold escapeChar
  split
  · next special =>
    -- The quote and the backslash stand for themselves.
    have other : '\n' ≠ c := by
      rintro rfl
      simp [h] at special
    simp [other]
  · split
    · decide
    · split
      · decide
      · next feed =>
        split
        · decide
        · split
          · have other : '\n' ≠ c := by
              rintro rfl
              exact feed rfl
            simp [other]
          · simp only
            split
            · simp [digits]
            · split
              · simp [digits]
              · simp [digits]

theorem Text.newline_not_mem_quoted (s : String) : '\n' ∉ (quoted s).toList := by
  have quote := newline_ne_quoteFor s.toList
  unfold quoted
  simp [quote, newline_not_mem_escapeChar quote]

namespace Cell

theorem newline_not_mem_callChars {name : String} (h : '\n' ∉ name.toList) (arguments : List Nat) :
    '\n' ∉ callChars name arguments := by
  have numbers : '\n' ∉ ", ".toList.intercalate (arguments.map (Nat.toDigits 10)) := by
    refine newline_not_mem_intercalate (by decide) ?_
    simp [newline_not_mem_decimal]
  unfold callChars
  simp only [List.mem_append, List.mem_cons, not_or]
  exact ⟨⟨h, by decide, numbers⟩, by decide, List.not_mem_nil⟩

theorem newline_not_mem_momentChars (m : Moment) : '\n' ∉ momentChars m :=
  newline_not_mem_callChars (by decide) _

mutual

/-- **Literals** are written without a line feed. -/
theorem newline_not_mem_literalChars : ∀ c : Cell, '\n' ∉ c.literalChars
  | empty => by decide
  | bool b => by cases b <;> decide
  | int n => newline_not_mem_intChars n
  | float x => x.newline_not_mem_render
  | decimal d => by
    have amount := d.newline_not_mem_render
    show '\n' ∉ "Decimal('".toList ++ d.render.toList ++ "')".toList
    simp [amount]
  | text s => Text.newline_not_mem_quoted s
  | date d => by
    show '\n' ∉ callChars "datetime.date" [d.year, d.month, d.day]
    exact newline_not_mem_callChars (by decide) _
  | moment m => newline_not_mem_momentChars m
  | list items => by
    have inner := newline_not_mem_itemsChars items
    show '\n' ∉ '[' :: itemsChars items ++ [']']
    simp [inner]
  | object members => by
    have inner := newline_not_mem_membersChars members
    show '\n' ∉ '\x7b' :: membersChars members ++ ['\x7d']
    simp [inner]

theorem newline_not_mem_itemsChars : ∀ items : List Cell, '\n' ∉ itemsChars items
  | [] => List.not_mem_nil
  | item :: rest => by
    have first := newline_not_mem_literalChars item
    have others := newline_not_mem_itemsChars rest
    show '\n' ∉ literalChars item ++ (if rest.isEmpty then [] else ',' :: ' ' :: itemsChars rest)
    split
    · simp [first]
    · simp [first, others]

theorem newline_not_mem_membersChars : ∀ members : List (String × Cell), '\n' ∉ membersChars members
  | [] => List.not_mem_nil
  | (name, value) :: rest => by
    have quoted := Text.newline_not_mem_quoted name
    have first := newline_not_mem_literalChars value
    have others := newline_not_mem_membersChars rest
    show '\n' ∉ (Text.quoted name).toList ++ ':' :: ' ' :: literalChars value
      ++ (if rest.isEmpty then [] else ',' :: ' ' :: membersChars rest)
    split
    · simp [quoted, first]
    · simp [quoted, first, others]

end

theorem newline_not_mem_literal (c : Cell) : '\n' ∉ c.literal.toList := by
  unfold literal
  rw [String.toList_ofList]
  exact newline_not_mem_literalChars c

/-! ### Displayed texts -/

/-- **Displayed line feeds** are those of a text. -/
theorem exists_text_of_newline_mem_display {c : Cell} (h : '\n' ∈ c.display.toList) :
    ∃ s, c = .text s := by
  cases c with
  | text s => exact ⟨s, rfl⟩
  | list items => exact absurd h (newline_not_mem_literal _)
  | object members => exact absurd h (newline_not_mem_literal _)
  | _ => exact absurd h ((writtenIn_display rfl).not_mem rfl (by decide))

end Cell

end ReportCheck
