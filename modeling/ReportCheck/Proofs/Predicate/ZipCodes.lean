import ReportCheck.Proofs.Cell.Characters
import ReportCheck.Proofs.Text.Digit
import ReportCheck.Proofs.Sample

/-! # ZIP codes

  A ZIP code has five digits, and after a hyphen four more or none. The check accepts these
  texts, and a few texts that are close to them.

  - `Text.IsZipCode` is the grammar, over a class of digits.
  - `isZip_iff`: the check takes the digits of all scripts, and a line feed may follow.
  - `isZipCode_iff`: without these two liberties it is about ASCII digits only, and
    `isZip_iff_of_carriesText` says that only texts can take them.
  - `Check.zip_codes_accepted` puts them together.
-/

namespace ReportCheck

open Text

/-- **ZIP codes** with digits of some class: five of them, or five and after a hyphen four. -/
inductive Text.IsZipCode (digit : Char → Bool) : List Char → Prop
  | short {area : List Char} (length : area.length = 5) (digits : ∀ c ∈ area, digit c = true) :
      IsZipCode digit area
  | long {area route : List Char} (length : area.length = 5)
      (digits : ∀ c ∈ area, digit c = true) (length' : route.length = 4)
      (digits' : ∀ c ∈ route, digit c = true) : IsZipCode digit (area ++ '-' :: route)

namespace Text.IsZipCode

variable {digit other : Char → Bool} {cs : List Char}

theorem imp (h : IsZipCode digit cs) (digits : ∀ c ∈ cs, digit c = true → other c = true) :
    IsZipCode other cs := by
  cases h with
  | short length accepted => exact .short length fun c hc => digits c hc (accepted c hc)
  | long length accepted length' accepted' =>
    exact .long length (fun c hc => digits c (List.mem_append_left _ hc) (accepted c hc)) length'
      fun c hc => digits c (List.mem_append_right _ (.tail _ hc)) (accepted' c hc)

theorem mem (h : IsZipCode digit cs) {c : Char} (hc : c ∈ cs) : digit c = true ∨ c = '-' := by
  cases h with
  | short length accepted => exact .inl (accepted c hc)
  | long length accepted length' accepted' =>
    rcases List.mem_append.1 hc with area | hyphen
    · exact .inl (accepted c area)
    · rcases List.mem_cons.1 hyphen with rfl | route
      · exact .inr rfl
      · exact .inl (accepted' c route)

end Text.IsZipCode

/-! ### The check of a text -/

theorem lineEnd_iff {rest : List Char} :
    (rest == [] || rest == ['\n']) = true ↔ rest = [] ∨ rest = ['\n'] := by
  rw [Bool.or_eq_true, beq_iff_eq, beq_iff_eq]

/-- **Accepted texts** are ZIP codes in the digits of all scripts, with a line feed behind them
    or not. -/
theorem isZip_iff {cs : List Char} :
    isZip cs = true ↔ ∃ code, IsZipCode isDigit code ∧ (cs = code ∨ cs = code ++ ['\n']) := by
  constructor
  · intro h
    unfold isZip at h
    simp only [Bool.and_eq_true, beq_iff_eq, List.all_eq_true] at h
    obtain ⟨⟨length, digits⟩, h⟩ := h
    rw [Bool.or_eq_true] at h
    rcases h with ends | long
    · refine ⟨cs.take 5, .short length digits, ?_⟩
      rcases lineEnd_iff.1 ends with nothing | feed
      · exact .inl ((List.take_append_drop 5 cs).symm.trans (by rw [nothing, List.append_nil]))
      · exact .inr (by rw [← feed, List.take_append_drop])
    · -- A hyphen follows, and four digits behind it.
      split at long
      · next more hyphen =>
        simp only [Bool.and_eq_true, beq_iff_eq, List.all_eq_true] at long
        obtain ⟨⟨length', digits'⟩, ends⟩ := long
        refine ⟨cs.take 5 ++ '-' :: more.take 4, .long length digits length' digits', ?_⟩
        have parts : cs = cs.take 5 ++ '-' :: (more.take 4 ++ more.drop 4) := by
          rw [List.take_append_drop, ← hyphen, List.take_append_drop]
        rcases lineEnd_iff.1 ends with nothing | feed
        · exact .inl (parts.trans (by rw [nothing, List.append_nil]))
        · exact .inr (parts.trans (by rw [feed, List.append_assoc]; rfl))
      · cases long
  · rintro ⟨code, form, ends⟩
    have ended : ∃ rest, (rest = [] ∨ rest = ['\n']) ∧ cs = code ++ rest := by
      rcases ends with rfl | rfl
      · exact ⟨[], .inl rfl, (List.append_nil cs).symm⟩
      · exact ⟨_, .inr rfl, rfl⟩
    obtain ⟨rest, hrest, rfl⟩ := ended
    have last := lineEnd_iff.2 hrest
    unfold isZip
    cases form with
    | short length digits =>
      have all := List.all_eq_true.2 digits
      simp only [List.take_left' length, List.drop_left' length, length, all, last]
      rfl
    | @long area route length digits length' digits' =>
      have all := List.all_eq_true.2 digits
      have all' := List.all_eq_true.2 digits'
      rw [List.append_assoc, List.cons_append]
      simp only [List.take_left' length, List.drop_left' length, List.take_left' length',
        List.drop_left' length', length, length', all, all', last]
      rfl

/-! ### Digits of other scripts and line feeds -/

/-- **ZIP codes in ASCII digits** are the accepted texts in ASCII that hold no line feed. -/
theorem isZipCode_iff {cs : List Char} :
    IsZipCode isAsciiDigit cs ↔ isZip cs = true ∧ (∀ c ∈ cs, c.toNat < 0x80) ∧ '\n' ∉ cs := by
  constructor
  · intro form
    refine ⟨isZip_iff.2 ⟨cs, form.imp fun c _ => isDigit_of_isAsciiDigit, .inl rfl⟩, ?_, ?_⟩
    · intro c hc
      rcases form.mem hc with digit | rfl
      · exact (isAsciiDigit_iff.1 digit).2
      · decide
    · intro feed
      rcases form.mem feed with digit | hyphen
      · exact absurd digit (by decide)
      · exact absurd hyphen (by decide)
  · rintro ⟨accepted, ascii, noFeed⟩
    obtain ⟨code, form, rfl | rfl⟩ := isZip_iff.1 accepted
    · exact form.imp fun c hc => fun digit => isAsciiDigit_iff.2 ⟨digit, ascii c hc⟩
    · exact absurd (List.mem_append_right _ (.head _)) noFeed

theorem isZip_cons_of_not_digit {c : Char} (h : isDigit c = false) (rest : List Char) :
    isZip (c :: rest) = false := by
  unfold isZip
  simp [h]

/-- **Cells other than texts** display as ZIP codes only in ASCII digits, and with nothing
    behind them. -/
theorem isZip_display_iff {v : Cell} (noText : ∀ s, v ≠ .text s) :
    isZip v.display.toList = true ↔ IsZipCode isAsciiDigit v.display.toList := by
  refine ⟨fun accepted => ?_, fun form => (isZipCode_iff.1 form).1⟩
  cases carries : v.carriesText with
  | true =>
    -- Lists and objects display with a bracket first.
    cases v with
    | text s => exact absurd rfl (noText s)
    | list items =>
      have bracket : (Cell.list items).display.toList = '[' :: (Cell.itemsChars items ++ [']']) :=
        String.toList_ofList
      rw [bracket, isZip_cons_of_not_digit (by decide)] at accepted
      cases accepted
    | object members =>
      have bracket : (Cell.object members).display.toList =
          '\x7b' :: (Cell.membersChars members ++ ['\x7d']) := String.toList_ofList
      rw [bracket, isZip_cons_of_not_digit (by decide)] at accepted
      cases accepted
    | _ => cases carries
  | false =>
    have written := Cell.writtenIn_display carries
    have marks : Cell.displayMarks.all (·.toNat < 0x80) = true := rfl
    have ascii : ∀ c ∈ Cell.displayMarks, c.toNat < 0x80 := fun c hc =>
      of_decide_eq_true (List.all_eq_true.1 marks c hc)
    refine isZipCode_iff.2 ⟨accepted, ?_, written.not_mem rfl (by decide)⟩
    intro c hc
    rcases written c hc with digit | mark
    · exact (isAsciiDigit_iff.1 (isAsciiDigit_of_isDigit digit)).2
    · exact ascii c mark

/-- **Checking ZIP codes.** The check never stops. It accepts the cells that display as ZIP codes
    in the digits of all scripts, also if a line feed follows. Those in ASCII digits with nothing
    behind them are accepted, and of texts in ASCII without a line feed no others are. Of cells
    that are no texts no others are accepted in any case. -/
theorem Check.zip_codes_accepted (v : Cell) (record : Record) (ctx : Context) :
    ∃ accepted, isValidZip.eval v record ctx = pure accepted ∧
      (accepted = true ↔ ∃ code, IsZipCode isDigit code ∧
        (v.display.toList = code ∨ v.display.toList = code ++ ['\n'])) ∧
      (IsZipCode isAsciiDigit v.display.toList ↔
        accepted = true ∧ (∀ c ∈ v.display.toList, c.toNat < 0x80) ∧ '\n' ∉ v.display.toList) ∧
      ((∀ s, v ≠ .text s) → (accepted = true ↔ IsZipCode isAsciiDigit v.display.toList)) :=
  ⟨isZip v.display.toList, rfl, isZip_iff, isZipCode_iff, isZip_display_iff⟩

open Sample in
/-- A whole number of five digits is accepted, and is a ZIP code therefore. -/
theorem Check.zip_codes_accepted_of_number :
    isValidZip.eval (.int 98101) record context = pure true ∧
      IsZipCode isAsciiDigit (Cell.int 98101).display.toList := by
  obtain ⟨accepted, verdict, -, -, exact⟩ := zip_codes_accepted (.int 98101) record context
  have holds : accepted = true := (Except.ok.inj (congrArg Traced.outcome verdict)).symm
  exact ⟨rfl, (exact nofun).1 holds⟩

open Sample in
/-- **Close to a ZIP code.** A line feed behind the code is accepted, and so are digits of another
    script. -/
theorem Check.zip_codes_not_exact :
    (isValidZip.eval (.text "98101\n") record context = pure true ∧
      ¬ IsZipCode isAsciiDigit (Cell.text "98101\n").display.toList) ∧
    (isValidZip.eval (.text "\u0669\u0668\u0661\u0660\u0661") record context = pure true ∧
      ¬ IsZipCode isAsciiDigit
        (Cell.text "\u0669\u0668\u0661\u0660\u0661").display.toList) := by
  refine ⟨⟨rfl, fun form => ?_⟩, rfl, fun form => ?_⟩
  · exact (isZipCode_iff.1 form).2.2 (by decide)
  · exact absurd ((isZipCode_iff.1 form).2.1 '\u0669' (.head _)) (by decide)

end ReportCheck
