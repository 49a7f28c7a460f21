import ReportCheck.Proofs.Calendar.Digits

/-! # The items of written dates

  What each item of a form reads from the front of a text in which it is written.

  - `Names` lists the names of a month, in full and by three letters. A name is found in a
    list in which no name begins another one: `readName?_append`.
  - `readAll?_cons` takes a form apart, and the lemmas around it say what the single items
    read from numbers, names and signs that are written in front of a text.
-/

namespace ReportCheck

open Text

namespace DateItem

/-! ### Names -/

/-- **Dropping a name** is comparing it with the front of the text in lower case. -/
theorem dropName?_eq (name cs : List Char) :
    dropName? name cs =
      if name <+: cs.map asciiLower then some (cs.drop name.length) else none := by
  induction name generalizing cs with
  | nil => simp [dropName?]
  | cons n name ih =>
    cases cs with
    | nil => simp [dropName?]
    | cons c cs =>
      rw [dropName?, ih]
      by_cases same : asciiLower c = n
      · simp [same]
      · simp [same, Ne.symm same]

theorem readName?_eq_none {names : List (List Char)} {cs : List Char} (first : Nat)
    (h : ∀ name ∈ names, ¬ name <+: cs.map asciiLower) : readName? first cs names = none := by
  induction names generalizing first with
  | nil => rfl
  | cons name names ih =>
    rw [readName?, dropName?_eq, if_neg (h name (.head _))]
    exact ih (first + 1) fun other hother => h other (.tail _ hother)

/-- **Finding a name.** If none of the names begins another one, then a name at the front of
    a text is found under its number. -/
theorem readName?_append {names : List (List Char)} {i : Nat} {cs : List Char} (first : Nat)
    (apart : names.Pairwise fun name other => ¬ name <+: other ∧ ¬ other <+: name)
    (h : names[i]? = some (cs.map asciiLower)) (rest : List Char) :
    readName? first (cs ++ rest) names = some (first + i, rest) := by
  induction names generalizing first i with
  | nil => cases h
  | cons name names ih =>
    obtain ⟨others, apart⟩ := List.pairwise_cons.1 apart
    rw [readName?, dropName?_eq, List.map_append]
    cases i with
    | zero =>
      obtain rfl : name = cs.map asciiLower := by simpa using h
      rw [if_pos (List.prefix_append _ _), List.length_map, List.drop_left]
      rfl
    | succ i =>
      have found : names[i]? = some (cs.map asciiLower) := h
      -- Of two names at the front of the text, one would begin the other.
      have absent : ¬ name <+: cs.map asciiLower ++ rest.map asciiLower := by
        intro front
        obtain ⟨left, right⟩ := others _ (List.mem_of_getElem? found)
        rcases List.prefix_or_prefix_of_prefix front (List.prefix_append _ _) with h | h
        · exact left h
        · exact right h
      rw [if_neg absent]
      simp only
      rw [ih (first + 1) apart found, Nat.add_right_comm, Nat.add_assoc]

/-- The names of the months by three letters. -/
def shortNames : List (List Char) := monthNames.map (·.take 3)

/-- **Names** of a month, in any letter case. -/
inductive Names (m : Nat) (cs : List Char) : Prop
  /-- The name in full. -/
  | full (h : monthNames[m - 1]? = some (cs.map asciiLower))
  /-- The first three letters. -/
  | short (h : shortNames[m - 1]? = some (cs.map asciiLower))

theorem Names.full_or_short {m : Nat} {cs : List Char} (h : Names m cs) :
    monthNames[m - 1]? = some (cs.map asciiLower) ∨
      (shortNames[m - 1]? = some (cs.map asciiLower) ∧
        monthNames[m - 1]? ≠ some (cs.map asciiLower)) := by
  by_cases full : monthNames[m - 1]? = some (cs.map asciiLower)
  · exact .inl full
  · cases h with
    | full h => exact absurd h full
    | short h => exact .inr ⟨h, full⟩

/-- Letters of the names. -/
def IsLetter (c : Char) : Prop := 'a' ≤ asciiLower c ∧ asciiLower c ≤ 'z'

instance (c : Char) : Decidable (IsLetter c) := inferInstanceAs (Decidable (_ ∧ _))

theorem Names.mem {m : Nat} {cs : List Char} (h : Names m cs) :
    cs.map asciiLower ∈ monthNames ++ shortNames := by
  cases h with
  | full h => exact List.mem_append_left _ (List.mem_of_getElem? h)
  | short h => exact List.mem_append_right _ (List.mem_of_getElem? h)

theorem Names.isLetter {m : Nat} {cs : List Char} (h : Names m cs) {c : Char} (hc : c ∈ cs) :
    IsLetter c := by
  have letters : ∀ name ∈ monthNames ++ shortNames,
      (name.all fun c => 'a' ≤ c && c ≤ 'z') = true := by decide
  have letter := List.all_eq_true.1 (letters _ h.mem) _ (List.mem_map_of_mem hc)
  simpa [IsLetter] using letter

theorem IsLetter.toNat {c : Char} (h : IsLetter c) :
    (0x41 ≤ c.toNat ∧ c.toNat ≤ 0x5a) ∨ (0x61 ≤ c.toNat ∧ c.toNat ≤ 0x7a) := by
  unfold IsLetter asciiLower at h
  split at h
  · next upper =>
    left
    simpa using upper
  · right
    simpa [Char.le_def, UInt32.le_iff_toNat_le] using h

theorem IsLetter.other {c : Char} (h : IsLetter c) :
    isBlank c = false ∧ isAsciiDigit c = false := by
  have between := h.toNat
  constructor
  · simp only [isBlank, Bool.or_eq_false_iff, Bool.and_eq_false_iff, decide_eq_false_iff_not,
      beq_eq_false_iff_ne]
    omega
  · simp only [isAsciiDigit, Bool.and_eq_false_iff, decide_eq_false_iff_not]
    omega

theorem Names.ne_nil {m : Nat} {cs : List Char} (h : Names m cs) : cs ≠ [] := by
  rintro rfl
  exact absurd h.mem (by decide)

theorem Names.not_mem {m : Nat} {cs : List Char} (h : Names m cs) {c : Char}
    (other : ¬ IsLetter c) : c ∉ cs := by
  intro hc
  exact other (h.isLetter hc)

theorem Names.starts {m : Nat} {cs : List Char} (h : Names m cs) : Starts cs :=
  (starts_and_ends h.ne_nil fun _ hc => (h.isLetter hc).other.1).1

/-- What stands at the front of a text without a certain character stands in front of that
    character. -/
theorem prefix_of_not_mem {x : Char} {front left right : List Char}
    (h : front <+: left ++ x :: right) (absent : x ∉ front) : front <+: left := by
  rcases List.prefix_or_prefix_of_prefix h (List.prefix_append _ _) with h' | ⟨more, rfl⟩
  · exact h'
  · have tail := (List.prefix_append_right_inj left).1 h
    cases more with
    | nil => simp
    | cons c more =>
      obtain rfl : c = x := (List.cons_prefix_cons.1 tail).1
      simp at absent

/-- The first letters of a name do not make the name of a month in full, unless that has
    three letters. -/
theorem readName?_short_eq_none {m : Nat} {cs : List Char} (first : Nat)
    (h : shortNames[m - 1]? = some (cs.map asciiLower))
    (other : monthNames[m - 1]? ≠ some (cs.map asciiLower)) (rest : List Char) :
    readName? first (cs ++ ' ' :: rest) monthNames = none := by
  have within : m - 1 < 12 := (List.getElem?_eq_some_iff.1 h).1
  have apart : ∀ i < 12, monthNames[i]? ≠ shortNames[i]? →
      ∀ short ∈ shortNames[i]?.toList, ∀ name ∈ monthNames, ¬ name <+: short := by decide
  have noBlank : ∀ name ∈ monthNames, ' ' ∉ name := by decide
  refine readName?_eq_none first fun name hname front => ?_
  rw [List.map_append, List.map_cons] at front
  -- Without a blank of its own, the name would have to end with the letters.
  have front := prefix_of_not_mem front (noBlank name hname)
  exact apart (m - 1) within (by rwa [h]) _ (by simp [h]) name hname front

/-! ### Items in sequence -/

/-- The first item of a form reads the front of the text, and the others what follows. -/
theorem readAll?_cons {parts parts' : DateParts} {cs rest : List Char} {item : DateItem}
    (h : item.read? parts cs = some (parts', rest)) (items : List DateItem) :
    readAll? parts cs (item :: items) = readAll? parts' rest items := by
  rw [readAll?, h]

theorem readAll?_cons_eq_none {parts : DateParts} {cs : List Char} {item : DateItem}
    (h : item.read? parts cs = none) (items : List DateItem) :
    readAll? parts cs (item :: items) = none := by
  rw [readAll?, h]

variable {d : Date} {parts : DateParts} {cs rest : List Char}

theorem read?_month (h : Spells d.month cs) (ends : EndsNumber rest) :
    month.read? parts (cs ++ rest) = some ({ parts with month := d.month }, rest) := by
  rw [read?, readMonth?_spells h d.month_pos d.month_le ends]
  rfl

theorem read?_day (h : Spells d.day cs) (ends : EndsNumber rest) :
    day.read? parts (cs ++ rest) = some ({ parts with day := d.day }, rest) := by
  rw [read?, readDay?_spells h d.day_pos d.day_le ends]
  rfl

theorem read?_longYear (d : Date) (rest : List Char) :
    longYear.read? parts (Date.padded 4 d.year ++ rest) =
      some ({ parts with year := d.year }, rest) := by
  rw [read?, readDigits?_padded (by decide) d.year_lt]
  rfl

theorem read?_lastYear (d : Date) :
    longYear.read? parts (Date.padded 4 d.year) = some ({ parts with year := d.year }, []) := by
  have read : longYear.read? parts (Date.padded 4 d.year ++ []) = some (_, []) :=
    read?_longYear d []
  rwa [List.append_nil] at read

theorem read?_lastDay (h : Spells d.day cs) :
    day.read? parts cs = some ({ parts with day := d.day }, []) := by
  have read : day.read? parts (cs ++ []) = some (_, []) := read?_day h endsNumber_nil
  rwa [List.append_nil] at read

theorem read?_sign (c : Char) : (sign c).read? parts (c :: rest) = some (parts, rest) := by
  simp [read?]

theorem read?_blanks (starts : Starts rest) :
    blanks.read? parts (' ' :: rest) = some (parts, rest) := by
  have stays : rest.dropWhile isBlank = rest := by
    obtain ⟨c, others, rfl, hc⟩ := starts
    simp [hc]
  simp only [read?, stays]
  rfl

theorem month_eq_place (d : Date) : 1 + (d.month - 1) = d.month := by
  have := d.month_pos
  omega

theorem read?_monthName (h : monthNames[d.month - 1]? = some (cs.map asciiLower))
    (rest : List Char) :
    monthName.read? parts (cs ++ rest) = some ({ parts with month := d.month }, rest) := by
  rw [read?, readName?_append 1 (by decide) h, month_eq_place]
  rfl

theorem read?_monthName_eq_none {m : Nat} (h : shortNames[m - 1]? = some (cs.map asciiLower))
    (other : monthNames[m - 1]? ≠ some (cs.map asciiLower)) (rest : List Char) :
    monthName.read? parts (cs ++ ' ' :: rest) = none := by
  rw [read?, readName?_short_eq_none 1 h other]
  rfl

theorem read?_shortMonthName (h : shortNames[d.month - 1]? = some (cs.map asciiLower))
    (rest : List Char) :
    shortMonthName.read? parts (cs ++ rest) = some ({ parts with month := d.month }, rest) := by
  rw [read?, ← shortNames, readName?_append 1 (by decide) h, month_eq_place]
  rfl

end DateItem

end ReportCheck
