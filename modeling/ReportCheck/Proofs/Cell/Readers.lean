import ReportCheck.Cell.Number
import ReportCheck.Proofs.Number.Rounded
import ReportCheck.Proofs.Text.Blank
import ReportCheck.Proofs.Text.Underscores

/-! # Readers of numbers in texts

  The lenient reader takes the longest literal at the front of a text, the strict one takes a text
  that is a literal as a whole. Where the strict reader finds a number, the lenient one finds the
  same.

  - `Cell.leadingNumber_of_longest` and `Cell.leadingNumber_eq_none_iff` are about the lenient
    reader.
  - `Cell.exists_literal_of_strictNumber`: besides literals, the strict reader accepts the
    spellings of infinity.
  - `IsLongestIn.append_blanks`: blanks do not make a literal longer. So the two readers agree:
    `Cell.reads_longest_literal`.
-/

namespace ReportCheck

open Text

/-! ### Literals between blanks -/

namespace Literal

variable {l : Literal} {right : List Char}

theorem not_isBlank (l : Literal) : ∀ c ∈ l.text, isBlank c = false :=
  l.forall_mem_text (fun _ => not_isBlank_of_isDigit) (by decide)

theorem underscore_not_mem (l : Literal) : '_' ∉ l.text := fun h =>
  l.forall_mem_text (fun _ => Binary64.ne_underscore_of_isDigit) (by decide) '_' h rfl

/-- **Blanks** behind a literal do not make it longer. -/
theorem IsLongestIn.append_blanks (l : Literal) (blanks : ∀ c ∈ right, isBlank c = true) :
    l.IsLongestIn (l.text ++ right) := by
  refine ⟨List.prefix_append _ _, fun other hother => ?_⟩
  by_contra longer
  obtain ⟨more, hmore⟩ :=
    List.prefix_of_prefix_length_le (List.prefix_append l.text right) hother (by omega)
  have filled : more ≠ [] := by
    rintro rfl
    rw [List.append_nil] at hmore
    exact longer (hmore ▸ le_rfl)
  obtain ⟨c, rest, rfl⟩ := List.exists_cons_of_ne_nil filled
  rw [← hmore, List.prefix_append_right_inj] at hother
  have blank := blanks c (hother.subset (.head _))
  have solid := other.not_isBlank c (hmore ▸ List.mem_append_right _ (.head _))
  exact absurd blank (by simp [solid])

end Literal

namespace Binary64

/-- **Spellings of infinity**: two names in any letter case, with a sign. -/
def SpellsInfinity (cs : List Char) : Prop :=
  ∃ (sign : Literal.Sign) (name : List Char), cs = sign.text ++ name ∧
    (name.map asciiLower = "inf".toList ∨ name.map asciiLower = "infinity".toList)

theorem spellsInfinity_of_readSpecial? {cs : List Char} {x : Binary64}
    (h : readSpecial? cs = some x) (number : x.isNaN = false) : SpellsInfinity cs := by
  obtain ⟨sign, name, hcs, hsign⟩ := Numeral.exists_sign cs
  unfold readSpecial? at h
  rw [hsign] at h
  simp only at h
  split at h
  · next inf => exact ⟨sign, name, hcs, .inl inf⟩
  · next infinity => exact ⟨sign, name, hcs, .inr infinity⟩
  · cases h
    cases number
  · cases h

theorem IsRounded.some?_eq {x : Binary64} {negative : Bool} {size : ℚ}
    (h : x.IsRounded negative size) : x.some? = some x := by
  rcases lt_or_ge size overflowBound with below | above
  · obtain ⟨y, rfl, -⟩ := h.finite below
    rfl
  · rw [h.infinite above]
    rfl

theorem ofChars?_of_not_mem {cs : List Char} (h : '_' ∉ cs) :
    ofChars? cs = match Numeral.ofAll? cs with
      | some numeral => some (ofNumeral numeral)
      | none => readSpecial? cs := by
  unfold ofChars?
  rw [dropUnderscores?_of_not_mem false h]
  rfl

end Binary64

namespace Cell

open Binary64

variable {s : String} {l : Literal}

/-! ### The lenient reader -/

theorem leadingNumber_text (s : String) : (text s).leadingNumber =
    .ok ((Numeral.read? (trimLeft s.toList)).map fun found => ofNumeral found.1) := rfl

/-- **The lenient reader** takes the longest literal behind the blanks. -/
theorem leadingNumber_of_longest (h : l.IsLongestIn (trimLeft s.toList)) :
    (text s).leadingNumber = .ok (some (ofNumeral l.numeral)) := by
  obtain ⟨rest, hrest⟩ := h.isPrefix
  rw [← hrest] at h
  rw [leadingNumber_text, ← hrest, h.read?_eq]
  rfl

theorem leadingNumber_eq_none_iff :
    (text s).leadingNumber = .ok none ↔ ∀ l : Literal, ¬ l.text <+: trimLeft s.toList := by
  rw [leadingNumber_text, Except.ok.injEq, Option.map_eq_none_iff, Numeral.read?_eq_none_iff]

/-- **Numbers in lenient form** are the double-precision forms of longest literals. -/
theorem leadingNumber_eq_some_iff {x : Binary64} : (text s).leadingNumber = .ok (some x) ↔
    ∃ l : Literal, l.IsLongestIn (trimLeft s.toList) ∧ x.IsRounded l.sign.negative l.size := by
  constructor
  · intro h
    rw [leadingNumber_text, Except.ok.injEq, Option.map_eq_some_iff] at h
    obtain ⟨⟨numeral, rest⟩, read, rfl⟩ := h
    obtain ⟨l, longest, -, rfl⟩ := Numeral.read?_eq_some_iff.1 read
    exact ⟨l, longest, l.isRounded_ofNumeral⟩
  · rintro ⟨l, longest, rounded⟩
    rw [leadingNumber_of_longest longest, rounded.unique l.isRounded_ofNumeral]

/-! ### The strict reader -/

theorem strictNumber_text (filled : trim s.toList ≠ []) :
    (text s).strictNumber = .ok ((ofChars? (trim s.toList)).bind (·.some?)) := by
  unfold strictNumber
  simp only
  rw [if_neg (by simpa using filled)]

theorem strictNumber_literal (l : Literal) :
    (text (String.ofList l.text)).strictNumber = .ok (some (ofNumeral l.numeral)) := by
  have body : trim (String.ofList l.text).toList = l.text := by
    rw [String.toList_ofList, trim_of_solid l.not_isBlank]
  have filled : trim (String.ofList l.text).toList ≠ [] := by
    rw [body]
    exact l.text_ne_nil
  have whole : Numeral.ofAll? l.text = some l.numeral := Numeral.ofAll?_eq_some_iff.2 ⟨l, rfl, rfl⟩
  rw [strictNumber_text filled, body, ofChars?_of_not_mem l.underscore_not_mem, whole]
  simp only [Option.bind_some, l.isRounded_ofNumeral.some?_eq]

/-- **Numbers in strict form.** What the strict reader accepts without an underscore is a literal
    or a spelling of infinity. -/
theorem exists_literal_of_strictNumber {x : Binary64} (filled : trim s.toList ≠ [])
    (plain : '_' ∉ trim s.toList) (h : (text s).strictNumber = .ok (some x)) :
    (∃ l : Literal, trim s.toList = l.text ∧ x = ofNumeral l.numeral) ∨
      SpellsInfinity (trim s.toList) := by
  rw [strictNumber_text filled, ofChars?_of_not_mem plain, Except.ok.injEq] at h
  obtain ⟨y, hy, hx⟩ := Option.bind_eq_some_iff.1 h
  split at hy
  · next numeral whole =>
    obtain ⟨l, hl, rfl⟩ := Numeral.ofAll?_eq_some_iff.1 whole
    cases hy
    rw [l.isRounded_ofNumeral.some?_eq] at hx
    cases hx
    exact .inl ⟨l, hl, rfl⟩
  · refine .inr (spellsInfinity_of_readSpecial? hy ?_)
    unfold Binary64.some? at hx
    split at hx
    · cases hx
    · next number => exact Bool.eq_false_iff.2 number

/-! ### Both readers -/

/-- **Reading numbers in texts.** The lenient reader always returns: the double-precision form of
    the longest literal behind the blanks, which is also what the strict reader makes of that
    literal alone, and nothing exactly if there is no literal. Where the strict reader accepts a
    text that is not blank, has no underscores and does not spell infinity, the lenient reader finds
    the same number. -/
theorem reads_longest_literal (s : String) :
    (∃ number, (text s).leadingNumber = .ok number ∧
      (number = none ↔ ∀ l : Literal, ¬ l.text <+: trimLeft s.toList) ∧
      (∀ x, number = some x ↔ ∃ l : Literal, l.IsLongestIn (trimLeft s.toList) ∧
        x.IsRounded l.sign.negative l.size) ∧
      ∀ l : Literal, l.IsLongestIn (trimLeft s.toList) →
        (text (String.ofList l.text)).strictNumber = .ok number) ∧
    ∀ x, trim s.toList ≠ [] → '_' ∉ trim s.toList → ¬ SpellsInfinity (trim s.toList) →
      (text s).strictNumber = .ok (some x) → (text s).leadingNumber = .ok (some x) := by
  constructor
  · refine ⟨_, leadingNumber_text s, ?_, ?_, ?_⟩
    · rw [← leadingNumber_eq_none_iff, leadingNumber_text, Except.ok.injEq]
    · intro x
      rw [← leadingNumber_eq_some_iff, leadingNumber_text, Except.ok.injEq]
    · intro l longest
      rw [strictNumber_literal, ← leadingNumber_of_longest longest, leadingNumber_text]
  · intro x filled plain finite accepted
    obtain ⟨l, hl, rfl⟩ :=
      (exists_literal_of_strictNumber filled plain accepted).resolve_right finite
    obtain ⟨right, hright, blanks⟩ := exists_dropWhile_eq Text.isBlank s.toList
    refine leadingNumber_of_longest ?_
    have front : trimLeft s.toList = l.text ++ right := by
      rw [← hl]
      exact hright
    rw [front]
    exact .append_blanks l blanks

end Cell

namespace Literal

/-- The number `-150`, with a point between digits of another script and a power of ten. -/
def powered : Literal where
  sign := .minus
  whole := ['\u0661']
  fraction := some ['\u0665']
  exponent := some
    ⟨'e', .plus, ['2'], .head _, List.forall_mem_singleton.2 rfl, List.cons_ne_nil _ _⟩
  all := List.forall_mem_append.2
    ⟨List.forall_mem_singleton.2 rfl, List.forall_mem_singleton.2 rfl⟩
  filled := List.cons_ne_nil _ _

theorem size_powered : powered.size = 150 := by
  have whole : numeralValue powered.whole = 1 := by decide
  have fraction : numeralValue (powered.fraction.getD []) = 5 := by decide
  have exponent : powered.exponentValue = 2 := by decide
  unfold size
  rw [whole, fraction, exponent]
  norm_num [powered]

end Literal

/-- A second mark is no part of the number, and a number that is too large is no spelling of
    infinity. -/
theorem Cell.reads_longest_literal_of_marks :
    Literal.powered.IsLongestIn (trimLeft "\u2003-\u0661.\u0665e+2e+".toList) ∧
      (∃ x : Binary64, x.IsRounded true 150 ∧
        (text "\u2003-\u0661.\u0665e+2e+").leadingNumber = .ok (some x) ∧
        (text "-\u0661.\u0665e+2").strictNumber = .ok (some x)) ∧
      trim " 1e999\n".toList ≠ [] ∧ '_' ∉ trim " 1e999\n".toList ∧
      ¬ Binary64.SpellsInfinity (trim " 1e999\n".toList) ∧
      (text " 1e999\n").strictNumber = .ok (some (.infinite false)) ∧
      (text " 1e999\n").leadingNumber = .ok (some (.infinite false)) := by
  have longest : Literal.powered.IsLongestIn (Literal.powered.text ++ ['e', '+']) :=
    Numeral.isLongestIn_of_read? rfl
  have filled : trim " 1e999\n".toList ≠ [] := by decide
  have plain : '_' ∉ trim " 1e999\n".toList := by decide
  have finite : ¬ Binary64.SpellsInfinity (trim " 1e999\n".toList) := by
    rintro ⟨sign, name, hname, spelled⟩
    cases sign with
    | none =>
      subst hname
      revert spelled
      decide
    | plus => cases hname
    | minus => cases hname
  have accepted : (text " 1e999\n").strictNumber = .ok (some (.infinite false)) := rfl
  obtain ⟨number, read, -, rounds, alone⟩ := (reads_longest_literal "\u2003-\u0661.\u0665e+2e+").1
  have rounded := Literal.powered.isRounded_ofNumeral
  obtain rfl := (rounds _).2 ⟨_, longest, rounded⟩
  have strict := alone _ longest
  rw [show String.ofList Literal.powered.text = "-\u0661.\u0665e+2" by decide] at strict
  rw [Literal.size_powered] at rounded
  exact ⟨longest, ⟨_, rounded, read, strict⟩, filled, plain, finite, accepted,
    (reads_longest_literal " 1e999\n").2 _ filled plain finite accepted⟩

end ReportCheck
