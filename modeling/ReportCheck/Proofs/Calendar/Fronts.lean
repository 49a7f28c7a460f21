import ReportCheck.Proofs.Calendar.Items
import Mathlib.Data.List.TakeWhile

/-! # What the items of a written date take

  An item takes the front of a text and leaves the rest. What the items take tells the forms
  apart.

  - `Takes` lists what each item may take; by `exists_front_of_read?` it takes nothing else.
  - `exists_front_of_readAll?` takes a text apart in which a form was read.
  - `sign_mem_iff`: a text in which a form was read has the signs of the form, and no others.
    So a form does not fit a text without one of its signs, nor one with a sign too many.
-/

namespace ReportCheck

open Text

namespace DateItem

variable {parts parts' : DateParts} {cs rest : List Char} {item : DateItem} {items : List DateItem}

theorem mem_of_append_eq_append {short long right : List Char} {c : Char}
    (h : short ++ c :: rest = long ++ right) (longer : short.length < long.length) : c ∈ long := by
  have front : short ++ [c] <+: long := by
    have shorter : short ++ [c] <+: long ++ right := by
      rw [← h]
      exact ⟨rest, by simp⟩
    apply List.prefix_of_prefix_length_le shorter (List.prefix_append _ _)
    rw [List.length_append, List.length_singleton]
    omega
  exact front.subset (List.mem_append_right _ (.head _))

/-! ### Numbers and names -/

theorem forall_mem_two {p : Char → Prop} {c c' : Char} (first : p c) (second : p c') :
    ∀ d ∈ [c, c'], p d :=
  List.forall_mem_cons.2 ⟨first, List.forall_mem_singleton.2 second⟩

theorem exists_front_of_readMonth? {n : Nat} (h : readMonth? cs = some (n, rest)) :
    ∃ front, cs = front ++ rest ∧ front.length ≤ 2 ∧ ∀ c ∈ front, isDigit c = true := by
  have count : ∀ {c}, isCount c = true → isDigit c = true :=
    isDigit_of_between (by decide) (by decide)
  unfold readMonth? at h
  split at h
  · next c _ =>
    split at h
    · next second =>
      cases h
      have digit : isDigit c = true := isDigit_of_between (by decide) (by decide) second
      exact ⟨['1', c], rfl, le_refl _, forall_mem_two (by decide) digit⟩
    · cases h
      exact ⟨['1'], rfl, by decide, List.forall_mem_singleton.2 (by decide)⟩
  · next c _ =>
    split at h
    · next second =>
      cases h
      exact ⟨['0', c], rfl, le_refl _, forall_mem_two (by decide) (count second)⟩
    · cases h
  · next c _ _ _ =>
    split at h
    · next first =>
      cases h
      exact ⟨[c], rfl, by simp, List.forall_mem_singleton.2 (count first)⟩
    · cases h
  · cases h

theorem exists_front_of_readDay? {n : Nat} (h : readDay? cs = some (n, rest)) :
    ∃ front, cs = front ++ rest ∧ front.length ≤ 2 ∧ ∀ c ∈ front, isDigit c = true ∨ c = ' ' := by
  have count : ∀ {c}, isCount c = true → isDigit c = true :=
    isDigit_of_between (by decide) (by decide)
  unfold readDay? at h
  split at h
  · next c _ =>
    split at h
    · next second =>
      cases h
      have digit : isDigit c = true := by
        rw [Bool.or_eq_true, beq_iff_eq, beq_iff_eq] at second
        rcases second with rfl | rfl <;> decide
      exact ⟨['3', c], rfl, le_refl _, forall_mem_two (.inl (by decide)) (.inl digit)⟩
    · cases h
      exact ⟨['3'], rfl, by decide, List.forall_mem_singleton.2 (.inl (by decide))⟩
  · next c _ =>
    split at h
    · next second =>
      cases h
      exact ⟨['1', c], rfl, le_refl _, forall_mem_two (.inl (by decide)) (.inl second)⟩
    · cases h
      exact ⟨['1'], rfl, by decide, List.forall_mem_singleton.2 (.inl (by decide))⟩
  · next c _ =>
    split at h
    · next second =>
      cases h
      exact ⟨['2', c], rfl, le_refl _, forall_mem_two (.inl (by decide)) (.inl second)⟩
    · cases h
      exact ⟨['2'], rfl, by decide, List.forall_mem_singleton.2 (.inl (by decide))⟩
  · next c _ =>
    split at h
    · next second =>
      cases h
      exact ⟨['0', c], rfl, le_refl _, forall_mem_two (.inl (by decide)) (.inl (count second))⟩
    · cases h
  · next c _ =>
    split at h
    · next second =>
      cases h
      exact ⟨[' ', c], rfl, le_refl _, forall_mem_two (.inr rfl) (.inl (count second))⟩
    · cases h
  · next c _ _ _ _ _ _ =>
    split at h
    · next first =>
      cases h
      exact ⟨[c], rfl, by simp, List.forall_mem_singleton.2 (.inl (count first))⟩
    · cases h
  · cases h

theorem exists_front_of_readDigits? {count n : Nat} (h : readDigits? count cs = some (n, rest)) :
    ∃ front, cs = front ++ rest ∧ front.length = count ∧ ∀ c ∈ front, isDigit c = true := by
  simp only [readDigits?] at h
  split at h
  · next digits =>
    cases h
    rw [Bool.and_eq_true, beq_iff_eq, List.all_eq_true] at digits
    exact ⟨cs.take count, (List.take_append_drop count cs).symm, digits⟩
  · cases h

/-- **A name that is found** stands at the front of the text, and in its place in the list. -/
theorem exists_front_of_readName? {names : List (List Char)} {first n : Nat}
    (h : readName? first cs names = some (n, rest)) :
    ∃ front i, cs = front ++ rest ∧ n = first + i ∧ names[i]? = some (front.map asciiLower) := by
  induction names generalizing first with
  | nil => cases h
  | cons name names ih =>
    rw [readName?, dropName?_eq] at h
    by_cases front : name <+: cs.map asciiLower
    · rw [if_pos front] at h
      cases h
      refine ⟨cs.take name.length, 0, (List.take_append_drop _ cs).symm, rfl, ?_⟩
      rw [List.map_take, ← List.prefix_iff_eq_take.1 front]
      rfl
    · rw [if_neg front] at h
      obtain ⟨taken, i, hcs, hn, hname⟩ := ih h
      exact ⟨taken, i + 1, hcs, by omega, hname⟩

/-! ### Items -/

/-- **What an item takes** from the front of a text, and what it makes of the parts. -/
inductive Takes (parts : DateParts) : DateItem → List Char → DateParts → Prop
  | month {front : List Char} (n : Nat) (length : front.length ≤ 2)
      (digits : ∀ c ∈ front, isDigit c = true) : Takes parts month front { parts with month := n }
  | day {front : List Char} (n : Nat) (length : front.length ≤ 2)
      (digits : ∀ c ∈ front, isDigit c = true ∨ c = ' ') :
      Takes parts day front { parts with day := n }
  | shortYear {front : List Char} (n : Nat) (length : front.length = 2)
      (digits : ∀ c ∈ front, isDigit c = true) : Takes parts shortYear front { parts with year := n }
  | longYear {front : List Char} (n : Nat) (length : front.length = 4)
      (digits : ∀ c ∈ front, isDigit c = true) : Takes parts longYear front { parts with year := n }
  | monthName {front : List Char} (i : Nat) (name : monthNames[i]? = some (front.map asciiLower)) :
      Takes parts monthName front { parts with month := 1 + i }
  | shortMonthName {front : List Char} (i : Nat)
      (name : shortNames[i]? = some (front.map asciiLower)) :
      Takes parts shortMonthName front { parts with month := 1 + i }
  | blanks {front : List Char} (some : front ≠ []) (blank : ∀ c ∈ front, isBlank c = true) :
      Takes parts blanks front parts
  | sign (c : Char) : Takes parts (sign c) [c] parts

/-- **Reading an item** takes the front of the text. -/
theorem exists_front_of_read? (h : item.read? parts cs = some (parts', rest)) :
    ∃ front, cs = front ++ rest ∧ Takes parts item front parts' := by
  cases item with
  | month =>
    obtain ⟨⟨n, _⟩, hread, hpair⟩ := Option.map_eq_some_iff.1 h
    cases hpair
    obtain ⟨front, hcs, length, digits⟩ := exists_front_of_readMonth? hread
    exact ⟨front, hcs, .month n length digits⟩
  | day =>
    obtain ⟨⟨n, _⟩, hread, hpair⟩ := Option.map_eq_some_iff.1 h
    cases hpair
    obtain ⟨front, hcs, length, digits⟩ := exists_front_of_readDay? hread
    exact ⟨front, hcs, .day n length digits⟩
  | shortYear =>
    obtain ⟨⟨n, _⟩, hread, hpair⟩ := Option.map_eq_some_iff.1 h
    cases hpair
    obtain ⟨front, hcs, length, digits⟩ := exists_front_of_readDigits? hread
    exact ⟨front, hcs, .shortYear _ length digits⟩
  | longYear =>
    obtain ⟨⟨n, _⟩, hread, hpair⟩ := Option.map_eq_some_iff.1 h
    cases hpair
    obtain ⟨front, hcs, length, digits⟩ := exists_front_of_readDigits? hread
    exact ⟨front, hcs, .longYear _ length digits⟩
  | monthName =>
    obtain ⟨⟨n, _⟩, hread, hpair⟩ := Option.map_eq_some_iff.1 h
    cases hpair
    obtain ⟨front, i, hcs, rfl, name⟩ := exists_front_of_readName? hread
    exact ⟨front, hcs, .monthName i name⟩
  | shortMonthName =>
    obtain ⟨⟨n, _⟩, hread, hpair⟩ := Option.map_eq_some_iff.1 h
    cases hpair
    obtain ⟨front, i, hcs, rfl, name⟩ := exists_front_of_readName? hread
    exact ⟨front, hcs, .shortMonthName i name⟩
  | blanks =>
    cases cs with
    | nil => cases h
    | cons c cs =>
      simp only [read?] at h
      split at h
      · next blank =>
        cases h
        refine ⟨c :: cs.takeWhile isBlank, ?_, .blanks (List.cons_ne_nil _ _) ?_⟩
        · rw [List.cons_append, List.takeWhile_append_dropWhile]
        · intro c' hc'
          rcases List.mem_cons.1 hc' with rfl | hc'
          · exact blank
          · exact List.mem_takeWhile_imp hc'
      · cases h
  | sign s =>
    cases cs with
    | nil => cases h
    | cons c cs =>
      simp only [read?] at h
      split at h
      · next same =>
        cases h
        rw [beq_iff_eq] at same
        exact ⟨[c], rfl, same ▸ .sign c⟩
      · cases h

/-- **Texts in a form.** The first item took a front, and the others read the rest. -/
theorem exists_front_of_readAll? {found : DateParts}
    (h : readAll? parts cs (item :: items) = some found) :
    ∃ front rest parts', cs = front ++ rest ∧ Takes parts item front parts' ∧
      readAll? parts' rest items = some found := by
  cases hread : item.read? parts cs with
  | none =>
    rw [readAll?_cons_eq_none hread] at h
    cases h
  | some read =>
    obtain ⟨parts', rest⟩ := read
    rw [readAll?_cons hread] at h
    obtain ⟨front, hcs, takes⟩ := exists_front_of_read? hread
    exact ⟨front, rest, parts', hcs, takes, h⟩

theorem eq_nil_of_readAll? {found : DateParts} (h : readAll? parts cs [] = some found) : cs = [] := by
  rw [readAll?] at h
  split at h
  · next empty => exact List.isEmpty_iff.1 empty
  · cases h

theorem length_of_longYear {found : DateParts} (h : readAll? parts cs [longYear] = some found) :
    cs.length = 4 := by
  obtain ⟨front, rest, _, rfl, takes, hrest⟩ := exists_front_of_readAll? h
  obtain rfl := eq_nil_of_readAll? hrest
  cases takes with
  | longYear n length digits => rwa [List.append_nil]

theorem length_of_shortYear {found : DateParts} (h : readAll? parts cs [shortYear] = some found) :
    cs.length = 2 := by
  obtain ⟨front, rest, _, rfl, takes, hrest⟩ := exists_front_of_readAll? h
  obtain rfl := eq_nil_of_readAll? hrest
  cases takes with
  | shortYear n length digits => rwa [List.append_nil]

/-! ### Signs -/

/-- **Signs** are neither digits nor letters nor blank. -/
def isSign (c : Char) : Bool := !(isDigit c || decide (IsLetter c) || isBlank c)

theorem Takes.eq_sign {front : List Char} {c : Char} (h : Takes parts item front parts')
    (hc : c ∈ front) (mark : isSign c = true) : item = DateItem.sign c := by
  simp only [isSign, Bool.not_eq_true', Bool.or_eq_false_iff, decide_eq_false_iff_not] at mark
  obtain ⟨⟨digit, letter⟩, solid⟩ := mark
  have notDigit : isDigit c ≠ true := by simp [digit]
  cases h with
  | month n length digits => exact absurd (digits c hc) notDigit
  | day n length digits =>
    rcases digits c hc with h | rfl
    · exact absurd h notDigit
    · exact absurd solid (by decide)
  | shortYear n length digits => exact absurd (digits c hc) notDigit
  | longYear n length digits => exact absurd (digits c hc) notDigit
  | monthName i name => exact absurd (@Names.isLetter (i + 1) _ (.full name) c hc) letter
  | shortMonthName i name => exact absurd (@Names.isLetter (i + 1) _ (.short name) c hc) letter
  | blanks _ blank => exact absurd (blank c hc) (by simp [solid])
  | sign s =>
    rw [List.mem_singleton] at hc
    rw [hc]

/-- **Signs** of a text in which a form was read are those of the form. -/
theorem sign_mem_iff {found : DateParts} {c : Char} (h : readAll? parts cs items = some found)
    (mark : isSign c = true) : sign c ∈ items ↔ c ∈ cs := by
  induction items generalizing parts cs with
  | nil => simp [eq_nil_of_readAll? h]
  | cons item items ih =>
    obtain ⟨front, rest, parts', rfl, takes, others⟩ := exists_front_of_readAll? h
    rw [List.mem_cons, List.mem_append, ih others]
    constructor
    · rintro (rfl | there)
      · cases takes
        exact .inl (.head _)
      · exact .inr there
    · rintro (here | there)
      · exact .inl (takes.eq_sign here mark).symm
      · exact .inr there

/-- **Forms that do not fit.** A text is not in a form if a sign stands in one of the two only. -/
theorem readAll?_eq_none_of_sign {c : Char} (mark : isSign c = true) (differ : ¬ (sign c ∈ items ↔ c ∈ cs)) :
    readAll? parts cs items = none := by
  rw [Option.eq_none_iff_forall_ne_some]
  intro found h
  exact differ (sign_mem_iff h mark)

theorem readAll?_eq_none_of_signs {signs : List Char} {forms : List (List DateItem)}
    (marks : signs.all isSign = true)
    (mem : ∀ form ∈ forms, (signs.any fun c => sign c ∈ form) = true)
    (absent : ∀ c ∈ signs, c ∉ cs) : ∀ form ∈ forms, readAll? parts cs form = none := by
  intro form hform
  obtain ⟨c, hc, hsign⟩ := List.any_eq_true.1 (mem form hform)
  apply readAll?_eq_none_of_sign (List.all_eq_true.1 marks c hc)
  intro same
  exact absent c hc (same.1 (of_decide_eq_true hsign))

end DateItem

end ReportCheck
