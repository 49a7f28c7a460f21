import ReportCheck.Proofs.Calendar.Forms

/-! # Dates in US form

  The US form of a date has the year without zeros in front. It is read back as the date if the
  year has four digits, as a date of another century if it has two, and not at all otherwise.

  - `ofText?_usText` says that the form is the month, the day and the year between slashes.
  - `ofText?_usText_of_four`, `ofText?_usText_of_two` and `ofText?_usText_of_other` are about years
    by their length, and `ofText?_usText_iff` sums them up.
-/

namespace ReportCheck

open Text DateItem

namespace Date

variable {d : Date} {month day year : List Char}

/-! ### Texts with two slashes -/

/-- **Slashes** after two short numbers leave years of four and of two digits only. -/
theorem ofChars?_eq_none_of_slashes (hmonth : Spells d.month month) (hday : Spells d.day day)
    (notFour : year.length ≠ 4) (notTwo : year.length ≠ 2) :
    ofChars? (month ++ '/' :: (day ++ '/' :: year)) = none := by
  have short := hmonth.length d.month_lt
  have forms_refuse : ∀ form ∈ forms,
      readAll? ⟨0, 0, 0⟩ (month ++ '/' :: (day ++ '/' :: year)) form = none := by
    rw [forms]
    refine List.forall_mem_cons.2 ⟨?_, List.forall_mem_cons.2 ⟨?_, List.forall_mem_cons.2 ⟨?_, ?_⟩⟩⟩
    · rw [readAll?_monthDay (by decide) hmonth hday, Option.eq_none_iff_forall_ne_some]
      intro found h
      exact notFour (length_of_longYear h)
    · rw [readAll?_monthDay (by decide) hmonth hday, Option.eq_none_iff_forall_ne_some]
      intro found h
      exact notTwo (length_of_shortYear h)
    · rw [Option.eq_none_iff_forall_ne_some]
      intro found h
      obtain ⟨front, rest, _, split, takes, -⟩ := exists_front_of_readAll? h
      cases takes with
      | longYear n length digits =>
        -- The first slash would be a digit of the year.
        have slash : '/' ∈ front := mem_of_append_eq_append split (by omega)
        exact absurd (digits '/' slash) (by decide)
    · -- The other forms have no slash.
      have noSlash : ∀ form ∈ forms.drop 3, DateItem.sign '/' ∉ form := by decide
      intro form hform
      refine readAll?_eq_none_of_sign (c := '/') rfl ?_
      simp [noSlash form hform]
  apply List.findSome?_eq_none_iff.2
  intro reader hreader
  rcases List.mem_cons.1 hreader with rfl | hform
  · exact Iso.readDate?_eq_none_of_short (by omega) (by decide)
  · obtain ⟨form, hmem, rfl⟩ := List.mem_map.1 hform
    rw [readForm?, forms_refuse form hmem]
    rfl

/-! ### The US form -/

/-- **The US form** is read like its three parts between slashes. -/
theorem ofText?_usText (d : Date) :
    ofText? d.usText =
      ofChars? (padded 2 d.month ++ '/' :: (padded 2 d.day ++ '/' :: Nat.toDigits 10 d.year)) := by
  have chars : d.usText.toList =
      [] ++ (padded 2 d.month ++ '/' :: (padded 2 d.day ++ '/' :: Nat.toDigits 10 d.year)) ++ [] := by
    rw [usText, String.toList_ofList]
    simp
  have year : Ends (Nat.toDigits 10 d.year) :=
    (starts_and_ends Nat.toDigits_ne_nil fun c hc =>
      not_isBlank_of_isAsciiDigit (isAsciiDigit_of_mem_toDigits hc)).2
  rw [ofText?, chars, trim_surrounded (List.forall_mem_nil _) (List.forall_mem_nil _)]
  · exact (starts_and_ends_padded (by decide) d.month_lt).1.append _
  · exact (((year.cons _).append _).cons _).append _

/-- **Four digits.** From year 1000 on the US form is read as the date. -/
theorem ofText?_usText_of_four (h : 1000 ≤ d.year) : ofText? d.usText = some d := by
  have long : ¬ (Nat.toDigits 10 d.year).length ≤ 3 := by
    rw [Nat.length_toDigits_le_iff (by decide) (by decide)]
    omega
  rw [ofText?_usText, ← padded_of_le (not_le.1 long)]
  exact ofChars?_slashes .padded .padded

theorem isLeap_fullYear : ∀ year < 100, 10 ≤ year → isLeap (fullYear year) = isLeap year := by decide

theorem valid_fullYear (d : Date) (low : 10 ≤ d.year) (high : d.year < 100) :
    Valid (fullYear d.year) d.month d.day := by
  have years : 1 ≤ fullYear d.year ∧ fullYear d.year ≤ 9999 := by
    unfold fullYear
    split <;> omega
  have days : daysInMonth (fullYear d.year) d.month = daysInMonth d.year d.month := by
    simp only [daysInMonth, monthLengths, isLeap_fullYear d.year high low]
  refine ⟨years, d.valid.2.1, d.valid.2.2.1, ?_⟩
  rw [days]
  exact d.valid.2.2.2

/-- **Two digits.** Before year 100 the US form is read as a date of another century. -/
theorem ofText?_usText_of_two (low : 10 ≤ d.year) (high : d.year < 100) :
    ofText? d.usText =
      some ⟨fullYear d.year, d.month, d.day, d.valid_fullYear low high⟩ := by
  have two : ¬ (Nat.toDigits 10 d.year).length ≤ 1 := by
    rw [Nat.length_toDigits_le_iff (by decide) (by decide)]
    omega
  have month : Spells d.month (padded 2 d.month) := .padded
  have short := month.length d.month_lt
  rw [ofText?_usText, ← padded_of_le (not_le.1 two)]
  refine ofChars?_of_form 1 rfl (Iso.readDate?_eq_none_of_short (by omega) (by decide)) ?_ ?_
  · -- The year is too short for the first form.
    intro form hform
    obtain rfl := List.mem_singleton.1 hform
    rw [readAll?_monthDay (by decide) .padded .padded, Option.eq_none_iff_forall_ne_some]
    intro found h
    have four := length_of_longYear h
    rw [length_padded (by decide) high] at four
    cases four
  · rw [readAll?_monthDay (by decide) .padded .padded]
    have read := readDigits?_padded (by decide : 0 < 2) high []
    rw [List.append_nil] at read
    simp only [readAll?, read?, read, Option.map_some, List.isEmpty_nil, if_true]

/-- **One digit or three.** Such years are not read. -/
theorem ofText?_usText_of_other (h : d.year < 10 ∨ (100 ≤ d.year ∧ d.year < 1000)) :
    ofText? d.usText = none := by
  have length : ∀ {k}, 0 < k → ((Nat.toDigits 10 d.year).length ≤ k ↔ d.year < 10 ^ k) :=
    Nat.length_toDigits_le_iff (by decide)
  have one := length (by decide : 0 < 1)
  have two := length (by decide : 0 < 2)
  have three := length (by decide : 0 < 3)
  rw [ofText?_usText]
  exact ofChars?_eq_none_of_slashes .padded .padded (by omega) (by omega)

/-- **Reading back.** The US form is read as the date exactly from year 1000 on. -/
theorem ofText?_usText_iff (d : Date) : ofText? d.usText = some d ↔ 1000 ≤ d.year := by
  constructor
  · intro h
    by_contra early
    by_cases two : 10 ≤ d.year ∧ d.year < 100
    · rw [ofText?_usText_of_two two.1 two.2] at h
      -- The other year is from the twentieth or the twenty-first century.
      have same : fullYear d.year = d.year := congrArg Date.year (Option.some.inj h)
      unfold fullYear at same
      split at same <;> omega
    · rw [ofText?_usText_of_other (by omega)] at h
      cases h
  · exact ofText?_usText_of_four

end Date

end ReportCheck
