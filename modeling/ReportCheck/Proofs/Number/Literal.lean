import ReportCheck.Number.Numeral
import ReportCheck.Proofs.Text.Digit
import Mathlib.Order.WellFounded

/-! # Decimal literals

  The grammar of numbers in decimal, and the reader that takes the longest one at the front of a
  text.

  - `Literal` is a number by its written parts, and `Literal.text` puts them together.
  - `exists_push`, `exists_point` and `exists_exponent` make a literal longer. So what follows the
    longest literal cannot be a part of it: `endsNumber`, `noPoint` and `readExponent_eq`.
  - `Numeral.read?_eq_some_iff`: the reader finds the longest literal, and all that follows it is
    left. `Numeral.read?_eq_none_iff`: it finds nothing only where there is no literal.
-/

namespace ReportCheck

open Text

/-! ### The grammar -/

/-- **Signs** of numbers. -/
inductive Literal.Sign where
  | none
  | plus
  | minus
  deriving DecidableEq, Repr

/-- **Exponents**: a mark, a sign and at least one digit. -/
structure Literal.Exponent where
  mark : Char
  sign : Literal.Sign
  digits : List Char
  isMark : mark ∈ ['e', 'E']
  all : ∀ c ∈ digits, isDigit c = true
  filled : digits ≠ []

/-- **Decimal literals**: a sign, digits with a point among or around them, and an exponent. -/
structure Literal where
  sign : Literal.Sign
  /-- The digits in front of the point. -/
  whole : List Char
  /-- The digits behind the point, if there is one. -/
  fraction : Option (List Char)
  exponent : Option Literal.Exponent
  all : ∀ c ∈ whole ++ fraction.getD [], isDigit c = true
  /-- A point alone is no number. -/
  filled : whole ++ fraction.getD [] ≠ []

namespace Literal

def Sign.text : Sign → List Char
  | none => []
  | plus => ['+']
  | minus => ['-']

def Sign.negative : Sign → Bool
  | minus => true
  | _ => false

def Exponent.text (e : Exponent) : List Char := e.mark :: (e.sign.text ++ e.digits)

def Exponent.value (e : Exponent) : Int :=
  if e.sign.negative then -(numeralValue e.digits : Int) else numeralValue e.digits

/-- A point with the digits behind it. -/
def pointed : Option (List Char) → List Char
  | none => []
  | some fraction => '.' :: fraction

/-- All digits, without the point. -/
def digits (l : Literal) : List Char := l.whole ++ l.fraction.getD []

def exponentText (l : Literal) : List Char := (l.exponent.map Exponent.text).getD []

def exponentValue (l : Literal) : Int := (l.exponent.map Exponent.value).getD 0

/-- **The text** of a literal. -/
def text (l : Literal) : List Char :=
  l.sign.text ++ (l.whole ++ (pointed l.fraction ++ l.exponentText))

/-- What the reader returns for a literal. -/
def numeral (l : Literal) : Numeral :=
  ⟨l.sign.negative, numeralValue l.digits, l.exponentValue - (l.fraction.getD []).length⟩

/-- **The longest literal** at the front of a text. -/
structure IsLongestIn (l : Literal) (cs : List Char) : Prop where
  isPrefix : l.text <+: cs
  longest : ∀ other : Literal, other.text <+: cs → other.text.length ≤ l.text.length

theorem text_ne_nil (l : Literal) : l.text ≠ [] := by
  intro empty
  unfold text at empty
  simp only [List.append_eq_nil_iff] at empty
  obtain ⟨-, whole, point, -⟩ := empty
  cases hfraction : l.fraction with
  | none => exact l.filled (by rw [whole, hfraction, Option.getD_none, List.append_nil])
  | some f =>
    rw [hfraction] at point
    cases point

theorem forall_mem_text {P : Char → Prop} [DecidablePred P] (l : Literal)
    (digit : ∀ c, isDigit c = true → P c) (marks : ['+', '-', '.', 'e', 'E'].all P = true) :
    ∀ c ∈ l.text, P c := by
  have mark : ∀ c ∈ ['+', '-', '.', 'e', 'E'], P c := fun c hc =>
    of_decide_eq_true (List.all_eq_true.1 marks c hc)
  obtain ⟨front, back⟩ := List.forall_mem_append.1 l.all
  have signs : ∀ sign : Sign, ∀ c ∈ sign.text, P c := by
    intro sign c hc
    cases sign with
    | none => cases hc
    | plus =>
      obtain rfl := List.mem_singleton.1 hc
      exact mark '+' (by decide)
    | minus =>
      obtain rfl := List.mem_singleton.1 hc
      exact mark '-' (by decide)
  refine List.forall_mem_append.2 ⟨signs _, List.forall_mem_append.2
    ⟨fun c hc => digit c (front c hc), List.forall_mem_append.2 ⟨?_, ?_⟩⟩⟩
  · cases hfraction : l.fraction with
    | none => exact List.forall_mem_nil _
    | some f =>
      rw [hfraction] at back
      exact List.forall_mem_cons.2 ⟨mark '.' (by decide), fun c hc => digit c (back c hc)⟩
  · unfold exponentText
    cases l.exponent with
    | none => exact List.forall_mem_nil _
    | some e =>
      have among : ∀ c ∈ ['e', 'E'], c ∈ ['+', '-', '.', 'e', 'E'] := by simp
      exact List.forall_mem_cons.2 ⟨mark _ (among _ e.isMark), List.forall_mem_append.2
        ⟨signs _, fun c hc => digit c (e.all c hc)⟩⟩

end Literal

namespace Numeral

open Literal

variable {cs rest : List Char}

/-! ### Signs -/

/-- The text does not start with a sign. -/
def StartsUnsigned (cs : List Char) : Prop := ∀ c ∈ cs.head?, c ≠ '+' ∧ c ≠ '-'

theorem readSign_text (sign : Sign) (h : StartsUnsigned cs) :
    readSign (sign.text ++ cs) = (sign.negative, cs) := by
  cases sign with
  | plus => rfl
  | minus => rfl
  | none =>
    rw [Sign.text, List.nil_append]
    unfold readSign
    split
    · exact absurd rfl (h '+' rfl).1
    · exact absurd rfl (h '-' rfl).2
    · rfl

theorem exists_sign (cs : List Char) :
    ∃ sign rest, cs = Sign.text sign ++ rest ∧ readSign cs = (sign.negative, rest) := by
  unfold readSign
  split
  · exact ⟨.plus, _, rfl, rfl⟩
  · exact ⟨.minus, _, rfl, rfl⟩
  · exact ⟨.none, _, rfl, rfl⟩

theorem startsUnsigned_of_isDigit {digits : List Char} (all : ∀ c ∈ digits, isDigit c = true)
    (filled : digits ≠ []) (rest : List Char) : StartsUnsigned (digits ++ rest) := by
  intro c hc
  obtain ⟨first, others, rfl⟩ := List.exists_cons_of_ne_nil filled
  cases hc
  have digit := all c (.head _)
  constructor
  · rintro rfl
    exact absurd digit (by decide)
  · rintro rfl
    exact absurd digit (by decide)

/-! ### Exponents -/

/-- **An exponent** is read if no digit follows it. -/
theorem readExponent_text (e : Exponent) (ends : EndsNumber rest) :
    readExponent (e.text ++ rest) = (e.value, rest) := by
  have sign := readSign_text e.sign (startsUnsigned_of_isDigit e.all e.filled rest)
  have mark : (e.mark == 'e' || e.mark == 'E') = true := by simpa using e.isMark
  unfold Exponent.text readExponent
  rw [List.cons_append, List.append_assoc]
  simp only [mark, if_true, sign, takeWhile_isDigit e.all ends, dropWhile_isDigit e.all ends]
  rw [if_neg (by simpa using e.filled)]
  rfl

theorem readExponent_eq_zero (none : ∀ e : Exponent, ¬ e.text <+: cs) :
    readExponent cs = (0, cs) := by
  unfold readExponent
  split
  · rfl
  · next c body =>
    split
    · next mark =>
      obtain ⟨sign, rest, hbody, hsign⟩ := exists_sign body
      rw [hsign]
      simp only
      split
      · rfl
      · next filled =>
        -- The mark, the sign and the digits make an exponent.
        refine absurd ?_ (none ⟨c, sign, rest.takeWhile isDigit, by simpa using mark,
          fun d hd => List.mem_takeWhile_imp hd, by simpa using filled⟩)
        rw [Exponent.text, hbody, List.prefix_cons_inj, List.prefix_append_right_inj]
        exact List.takeWhile_prefix isDigit
    · rfl

/-! ### Literals -/

/-- **The parts** of a literal are read one after the other, if none of them goes on. -/
theorem read?_parts (sign : Sign) (whole : List Char) (fraction : Option (List Char))
    {tail : List Char} {n : Int}
    (all : ∀ c ∈ whole ++ fraction.getD [], isDigit c = true)
    (filled : whole ++ fraction.getD [] ≠ []) (ends : EndsNumber tail)
    (noPoint : fraction = none → '.' ∉ tail.head?) (exponent : readExponent tail = (n, rest)) :
    read? (sign.text ++ (whole ++ (pointed fraction ++ tail))) =
      some (⟨sign.negative, numeralValue (whole ++ fraction.getD []),
        n - (fraction.getD []).length⟩, rest) := by
  obtain ⟨front, back⟩ := List.forall_mem_append.1 all
  have unsigned : StartsUnsigned (whole ++ (pointed fraction ++ tail)) := by
    by_cases hwhole : whole = []
    · cases fraction with
      | none => exact absurd (by simp [hwhole]) filled
      | some f =>
        rw [hwhole]
        intro c hc
        cases hc
        decide
    · exact startsUnsigned_of_isDigit front hwhole _
  have point : EndsNumber (pointed fraction ++ tail) := by
    cases fraction with
    | none => exact ends
    | some f => exact endsNumber_cons (by decide) _
  have after : readFraction (pointed fraction ++ tail) = (fraction.getD [], tail) := by
    cases fraction with
    | none =>
      rw [pointed, List.nil_append, Option.getD_none]
      unfold readFraction
      split
      · exact absurd rfl (noPoint rfl)
      · rfl
    | some f =>
      rw [Option.getD_some] at back ⊢
      rw [pointed, List.cons_append]
      unfold readFraction
      simp only [takeWhile_isDigit back ends, dropWhile_isDigit back ends]
  unfold read?
  rw [readSign_text sign unsigned]
  simp only [takeWhile_isDigit front point, dropWhile_isDigit front point, after, exponent]
  rw [if_neg (by simpa using filled)]

theorem exists_fraction (cs : List Char) :
    ∃ fraction, pointed fraction <+: cs ∧ (readFraction cs).1 = fraction.getD [] ∧
      ∀ c ∈ fraction.getD [], isDigit c = true := by
  unfold readFraction
  split
  · next rest =>
    refine ⟨some (rest.takeWhile isDigit), ?_, rfl, fun c hc => List.mem_takeWhile_imp hc⟩
    exact (List.prefix_cons_inj _).2 (List.takeWhile_prefix isDigit)
  · exact ⟨none, List.nil_prefix, rfl, List.forall_mem_nil _⟩

theorem exists_literal_of_read? (h : read? cs ≠ none) : ∃ l : Literal, l.text <+: cs := by
  obtain ⟨sign, body, rfl, hsign⟩ := exists_sign cs
  obtain ⟨fraction, point, hfraction, back⟩ := exists_fraction (body.dropWhile isDigit)
  have front : ∀ c ∈ body.takeWhile isDigit, isDigit c = true := fun c hc =>
    List.mem_takeWhile_imp hc
  have filled : body.takeWhile isDigit ++ fraction.getD [] ≠ [] := by
    intro empty
    rw [List.append_eq_nil_iff] at empty
    unfold read? at h
    simp [hsign, hfraction, empty] at h
  refine ⟨⟨sign, body.takeWhile isDigit, fraction, none,
    List.forall_mem_append.2 ⟨front, back⟩, filled⟩, ?_⟩
  refine (List.prefix_append_right_inj _).2 ?_
  -- The parts of the literal stand at the front of the parts of the text.
  obtain ⟨rest, hrest⟩ := point
  have split := List.takeWhile_append_dropWhile (p := isDigit) (l := body)
  rw [← hrest, ← List.append_assoc] at split
  exact ⟨rest, by simpa [exponentText] using split⟩

end Numeral

namespace Literal

/-! ### Longest literals -/

variable {l : Literal} {cs rest : List Char}

/-- A digit behind an exponent makes it longer. -/
theorem Exponent.exists_push (e : Exponent) {c : Char} (digit : isDigit c = true) :
    ∃ longer : Exponent, longer.text = e.text ++ [c] :=
  ⟨{ e with
    digits := e.digits ++ [c]
    all := List.forall_mem_append.2 ⟨e.all, List.forall_mem_singleton.2 digit⟩
    filled := by simp }, by simp [text]⟩

/-- A digit behind a literal makes it longer. -/
theorem exists_push (l : Literal) {c : Char} (digit : isDigit c = true) :
    ∃ longer : Literal, longer.text = l.text ++ [c] := by
  obtain ⟨sign, whole, fraction, exponent, all, filled⟩ := l
  have single : ∀ d ∈ [c], isDigit d = true := List.forall_mem_singleton.2 digit
  cases exponent with
  | some e =>
    obtain ⟨longer, hlonger⟩ := e.exists_push digit
    exact ⟨⟨sign, whole, fraction, some longer, all, filled⟩, by simp [text, exponentText, hlonger]⟩
  | none =>
    cases fraction with
    | some f =>
      refine ⟨⟨sign, whole, some (f ++ [c]), none, ?_, by simp⟩,
        by simp [text, exponentText, pointed]⟩
      rw [Option.getD_some, ← List.append_assoc]
      exact List.forall_mem_append.2 ⟨all, single⟩
    | none =>
      rw [Option.getD_none, List.append_nil] at all
      refine ⟨⟨sign, whole ++ [c], none, none, ?_, by simp⟩,
        by simp [text, exponentText, pointed]⟩
      rw [Option.getD_none, List.append_nil]
      exact List.forall_mem_append.2 ⟨all, single⟩

/-- A point behind digits makes it longer too. -/
theorem exists_point (noFraction : l.fraction = none) (noExponent : l.exponent = none) :
    ∃ longer : Literal, longer.text = l.text ++ ['.'] := by
  obtain ⟨sign, whole, fraction, exponent, all, filled⟩ := l
  cases noFraction
  cases noExponent
  exact ⟨⟨sign, whole, some [], none, all, filled⟩, by simp [text, exponentText, pointed]⟩

/-- An exponent makes it longer too. -/
theorem exists_exponent (noExponent : l.exponent = none) (e : Exponent) :
    ∃ longer : Literal, longer.text = l.text ++ e.text := by
  obtain ⟨sign, whole, fraction, exponent, all, filled⟩ := l
  cases noExponent
  exact ⟨⟨sign, whole, fraction, some e, all, filled⟩, by simp [text, exponentText]⟩

/-- Digits end where an exponent starts. -/
theorem Exponent.endsNumber (e : Exponent) (rest : List Char) : EndsNumber (e.text ++ rest) := by
  have mark : isDigit e.mark = false := by
    have either : e.mark = 'e' ∨ e.mark = 'E' := by simpa using e.isMark
    rcases either with small | large
    · rw [small]
      decide
    · rw [large]
      decide
  exact endsNumber_cons mark _

namespace IsLongestIn

theorem not_isPrefix (h : l.IsLongestIn (l.text ++ rest)) {more : List Char} (filled : more ≠ [])
    (longer : ∃ other : Literal, other.text = l.text ++ more) : ¬ more <+: rest := by
  intro follows
  obtain ⟨other, hother⟩ := longer
  have short := h.longest other (hother ▸ (List.prefix_append_right_inj _).2 follows)
  rw [hother, List.length_append] at short
  have := List.length_pos_iff.2 filled
  omega

theorem endsNumber_rest (h : l.IsLongestIn (l.text ++ rest)) : EndsNumber rest := by
  intro c hc
  obtain ⟨others, rfl⟩ := List.head?_eq_some_iff.1 (Option.mem_def.1 hc)
  by_contra digit
  have longer := l.exists_push (Bool.not_eq_false _ ▸ digit)
  exact h.not_isPrefix (List.cons_ne_nil c []) longer (List.prefix_append [c] others)

/-- The digits of the longest literal end where its exponent or the rest starts. -/
theorem endsNumber (h : l.IsLongestIn (l.text ++ rest)) : EndsNumber (l.exponentText ++ rest) := by
  unfold exponentText
  cases l.exponent with
  | none => exact h.endsNumber_rest
  | some e => exact e.endsNumber rest

/-- Digits without a point have none behind them either. -/
theorem noPoint (h : l.IsLongestIn (l.text ++ rest)) (noFraction : l.fraction = none) :
    '.' ∉ (l.exponentText ++ rest).head? := by
  intro head
  unfold exponentText at head
  cases hexponent : l.exponent with
  | none =>
    rw [hexponent] at head
    obtain ⟨others, rfl⟩ := List.head?_eq_some_iff.1 (Option.mem_def.1 head)
    have longer := exists_point noFraction hexponent
    exact h.not_isPrefix (List.cons_ne_nil '.' []) longer (List.prefix_append ['.'] others)
  | some e =>
    rw [hexponent] at head
    have mark : e.mark = '.' := Option.some.inj head
    exact absurd (mark ▸ e.isMark) (by decide)

/-- All of the exponent is read, and nothing else. -/
theorem readExponent_eq (h : l.IsLongestIn (l.text ++ rest)) :
    Numeral.readExponent (l.exponentText ++ rest) = (l.exponentValue, rest) := by
  unfold exponentText exponentValue
  cases hexponent : l.exponent with
  | none =>
    refine Numeral.readExponent_eq_zero fun e => ?_
    exact h.not_isPrefix (List.cons_ne_nil _ _) (exists_exponent hexponent e)
  | some e => exact Numeral.readExponent_text e h.endsNumber_rest

/-- **The longest literal** is read. -/
theorem read?_eq (h : l.IsLongestIn (l.text ++ rest)) :
    Numeral.read? (l.text ++ rest) = some (l.numeral, rest) := by
  have read := Numeral.read?_parts l.sign l.whole l.fraction l.all l.filled h.endsNumber h.noPoint
    h.readExponent_eq
  unfold text
  rw [List.append_assoc, List.append_assoc, List.append_assoc]
  exact read

end IsLongestIn

theorem exists_longest {l : Literal} {cs : List Char} (h : l.text <+: cs) :
    ∃ longest : Literal, longest.IsLongestIn cs := by
  obtain ⟨longest, atFront, least⟩ :=
    (measure fun l : Literal => cs.length - l.text.length).wf.has_min {l | l.text <+: cs} ⟨l, h⟩
  have short : longest.text.length ≤ cs.length := List.IsPrefix.length_le atFront
  refine ⟨longest, atFront, fun other hother => ?_⟩
  have shorter : ¬ cs.length - other.text.length < cs.length - longest.text.length :=
    least other hother
  have := hother.length_le
  omega

theorem isLongestIn_text (l : Literal) : l.IsLongestIn l.text :=
  ⟨List.prefix_rfl, fun _ h => h.length_le⟩

end Literal

/-! ### The reader -/

namespace Numeral

variable {cs rest : List Char} {numeral : Numeral}

/-- **Nothing is read** exactly if no literal is at the front. -/
theorem read?_eq_none_iff : read? cs = none ↔ ∀ l : Literal, ¬ l.text <+: cs := by
  constructor
  · intro none l atFront
    obtain ⟨longest, h⟩ := Literal.exists_longest atFront
    obtain ⟨rest, rfl⟩ := h.isPrefix
    rw [h.read?_eq] at none
    cases none
  · intro none
    by_contra some
    obtain ⟨l, atFront⟩ := exists_literal_of_read? some
    exact none l atFront

/-- **The reader** takes the longest literal at the front of a text, and leaves all behind it. -/
theorem read?_eq_some_iff : read? cs = some (numeral, rest) ↔
    ∃ l : Literal, l.IsLongestIn cs ∧ cs = l.text ++ rest ∧ numeral = l.numeral := by
  constructor
  · intro h
    have found : read? cs ≠ none := by simp [h]
    obtain ⟨l, atFront⟩ := exists_literal_of_read? found
    obtain ⟨longest, hlongest⟩ := Literal.exists_longest atFront
    obtain ⟨others, rfl⟩ := hlongest.isPrefix
    rw [hlongest.read?_eq] at h
    cases h
    exact ⟨longest, hlongest, rfl, rfl⟩
  · rintro ⟨l, hl, rfl, rfl⟩
    exact hl.read?_eq

theorem isLongestIn_of_read? {l : Literal} (h : read? (l.text ++ rest) = some (numeral, rest)) :
    l.IsLongestIn (l.text ++ rest) := by
  obtain ⟨longest, hlongest, same, -⟩ := read?_eq_some_iff.1 h
  have texts : l.text = longest.text := List.append_cancel_right same
  exact ⟨List.prefix_append _ _, texts ▸ hlongest.longest⟩

/-- **Whole texts** are read if they are literals. -/
theorem ofAll?_eq_some_iff : ofAll? cs = some numeral ↔
    ∃ l : Literal, cs = l.text ∧ numeral = l.numeral := by
  constructor
  · intro h
    unfold ofAll? at h
    split at h
    · next found read =>
      cases h
      obtain ⟨l, -, hl, hnumeral⟩ := read?_eq_some_iff.1 read
      exact ⟨l, by rw [hl, List.append_nil], hnumeral⟩
    · cases h
  · rintro ⟨l, rfl, rfl⟩
    have read : read? l.text = some (l.numeral, []) :=
      read?_eq_some_iff.2 ⟨l, l.isLongestIn_text, (List.append_nil _).symm, rfl⟩
    unfold ofAll?
    rw [read]

end Numeral

end ReportCheck
