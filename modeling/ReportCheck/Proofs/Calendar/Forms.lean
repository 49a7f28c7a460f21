import ReportCheck.Proofs.Calendar.Iso
import ReportCheck.Proofs.Calendar.Fronts

/-! # Dates in all their written forms

  A date is read from each of its written forms. The readers are tried in order, so for each
  form the readers before its own have to refuse it.

  - `Date.Written` lists the forms: two ISO forms, three with numbers, and two with the name of
    the month.
  - `ofChars?_of_form` says what is to show for a form: the ISO reader and the forms before it
    do not fit, and the form itself reads the date.
  - `ofChars?_written` goes through the forms. Most forms before the own one want a sign that
    the text does not have.
  - `ofText?_written` adds the blanks around the text.
-/

namespace ReportCheck

open Text DateItem

/-- **Written dates.** -/
inductive Date.Written (d : Date) : List Char → Prop
  /-- `YYYY-MM-DD`. -/
  | iso : Written d d.isoChars
  /-- `YYYY-MM-DDTHH:MM:SS`. -/
  | isoMoment {hour minute second : Nat} (hh : hour < 24) (hm : minute < 60) (hs : second < 60) :
      Written d (d.isoChars ++ 'T' :: Iso.clockChars hour minute second)
  /-- `M/D/YYYY`. -/
  | slashes {month day : List Char} (hmonth : Spells d.month month) (hday : Spells d.day day) :
      Written d (month ++ '/' :: (day ++ '/' :: Date.padded 4 d.year))
  /-- `YYYY/M/D`. -/
  | yearFirst {month day : List Char} (hmonth : Spells d.month month) (hday : Spells d.day day) :
      Written d (Date.padded 4 d.year ++ '/' :: (month ++ '/' :: day))
  /-- `M-D-YYYY`. -/
  | dashes {month day : List Char} (hmonth : Spells d.month month) (hday : Spells d.day day) :
      Written d (month ++ '-' :: (day ++ '-' :: Date.padded 4 d.year))
  /-- `Month D, YYYY`. -/
  | nameFirst {name day : List Char} (hname : Names d.month name) (hday : Spells d.day day) :
      Written d (name ++ ' ' :: (day ++ ',' :: ' ' :: Date.padded 4 d.year))
  /-- `D Month YYYY`. -/
  | dayFirst {name day : List Char} (hname : Names d.month name) (hday : Spells d.day day) :
      Written d (day ++ ' ' :: (name ++ ' ' :: Date.padded 4 d.year))

/-! ### Readers in turn -/

namespace Date

theorem ofChars?_of_iso {d : Date} {cs : List Char} (h : Iso.readDate? cs = some d) :
    ofChars? cs = some d := by
  simp [ofChars?, readers, h]

/-- **Own form.** A text that the ISO reader and the first `k` forms refuse is read in the next
    form. -/
theorem ofChars?_of_form {d : Date} {cs : List Char} {form : List DateItem} (k : Nat)
    (own : forms[k]? = some form) (iso : Iso.readDate? cs = none)
    (before : ∀ f ∈ forms.take k, readAll? ⟨0, 0, 0⟩ cs f = none)
    (reads : readAll? ⟨0, 0, 0⟩ cs form = some ⟨d.year, d.month, d.day⟩) :
    ofChars? cs = some d := by
  obtain ⟨within, rfl⟩ := List.getElem?_eq_some_iff.1 own
  have split : forms = forms.take k ++ forms[k] :: forms.drop (k + 1) := by
    rw [← List.drop_eq_getElem_cons within, List.take_append_drop]
  have read : readForm? forms[k] cs = some d := by
    rw [readForm?, reads]
    exact dif_pos d.valid
  refine List.findSome?_eq_some_iff.2
    ⟨Iso.readDate? :: (forms.take k).map readForm?, readForm? forms[k],
      (forms.drop (k + 1)).map readForm?, ?_, read, ?_⟩
  · rw [readers, List.cons_append, ← List.map_cons, ← List.map_append, ← split]
  · intro reader hreader
    rcases List.mem_cons.1 hreader with rfl | hreader
    · exact iso
    · obtain ⟨f, hf, rfl⟩ := List.mem_map.1 hreader
      rw [readForm?, before f hf]
      rfl

end Date

/-- The number of a month with a sign behind it is not found in a number of three digits or
    more. -/
theorem DateItem.readAll?_month_sign {parts : DateParts} {s : Char} {front rest : List Char}
    (long : 3 ≤ front.length) (absent : s ∉ front) (items : List DateItem) :
    readAll? parts (front ++ rest) (month :: sign s :: items) = none := by
  rw [Option.eq_none_iff_forall_ne_some]
  intro found h
  obtain ⟨taken, left, _, split, takes, h⟩ := exists_front_of_readAll? h
  obtain ⟨mark, left, _, rfl, marks, -⟩ := exists_front_of_readAll? h
  cases marks
  cases takes with
  | month n length digits =>
    -- Two characters at most were taken, so the sign stands among the others of the number.
    exact absent (mem_of_append_eq_append split.symm (by omega))

/-! ### Forms with numbers -/

namespace Date

variable {d : Date} {month day name : List Char}

theorem readAll?_monthDay {s : Char} (other : isDigit s = false) (hmonth : Spells d.month month)
    (hday : Spells d.day day) (rest : List Char) (items : List DateItem) :
    readAll? ⟨0, 0, 0⟩ (month ++ s :: (day ++ s :: rest))
      (.month :: .sign s :: .day :: .sign s :: items) =
        readAll? ⟨0, d.month, d.day⟩ rest items := by
  rw [readAll?_cons (read?_month hmonth (endsNumber_cons other _)), readAll?_cons (read?_sign s),
    readAll?_cons (read?_day hday (endsNumber_cons other _)), readAll?_cons (read?_sign s)]

theorem ofChars?_slashes (hmonth : Spells d.month month) (hday : Spells d.day day) :
    ofChars? (month ++ '/' :: (day ++ '/' :: padded 4 d.year)) = some d := by
  have short := hmonth.length d.month_lt
  refine ofChars?_of_form 0 rfl ?_ (List.forall_mem_nil _) ?_
  · exact Iso.readDate?_eq_none_of_short (by omega) (by decide)
  · rw [readAll?_monthDay (by decide) hmonth hday, readAll?_cons (read?_lastYear d)]
    rfl

theorem ofChars?_yearFirst (hmonth : Spells d.month month) (hday : Spells d.day day) :
    ofChars? (padded 4 d.year ++ '/' :: (month ++ '/' :: day)) = some d := by
  have length := length_padded (by decide) d.year_lt
  have slash : '/' ∉ padded 4 d.year := not_mem_padded 4 d.year (by decide)
  refine ofChars?_of_form 2 rfl (Iso.readDate?_eq_none_of_slash length) ?_ ?_
  · intro f hf
    have first : f = [.month, .sign '/', .day, .sign '/', .longYear] ∨
        f = [.month, .sign '/', .day, .sign '/', .shortYear] := by
      simpa [forms] using hf
    rcases first with rfl | rfl
    · exact readAll?_month_sign (by omega) slash _
    · exact readAll?_month_sign (by omega) slash _
  · rw [readAll?_cons (read?_longYear d _),
      readAll?_cons (read?_sign '/'),
      readAll?_cons (read?_month hmonth (endsNumber_cons (by decide) _)),
      readAll?_cons (read?_sign '/'), readAll?_cons (read?_lastDay hday)]
    rfl

theorem ofChars?_dashes (hmonth : Spells d.month month) (hday : Spells d.day day) :
    ofChars? (month ++ '-' :: (day ++ '-' :: padded 4 d.year)) = some d := by
  have short := hmonth.length d.month_lt
  have absent : ∀ c ∈ ['/'], c ∉ month ++ '-' :: (day ++ '-' :: padded 4 d.year) := by
    have digit : isAsciiDigit '/' = false := by decide
    simp [hmonth.not_mem digit, hday.not_mem digit, not_mem_padded 4 d.year digit]
  refine ofChars?_of_form 3 rfl ?_ (readAll?_eq_none_of_signs rfl (by decide) absent) ?_
  · exact Iso.readDate?_eq_none_of_short (by omega) (by decide)
  · rw [readAll?_monthDay (by decide) hmonth hday, readAll?_cons (read?_lastYear d)]
    rfl

/-! ### Forms with names -/

theorem readDate?_eq_none_of_name {m : Nat} (hname : Names m name) (rest : List Char) :
    Iso.readDate? (name ++ rest) = none := by
  obtain ⟨c, others, rfl⟩ := List.exists_cons_of_ne_nil hname.ne_nil
  have letter := hname.isLetter (.head _)
  exact @Iso.readDate?_eq_none_of_short [] _ c (by decide) letter.other.2

theorem ofChars?_nameFirst (hname : Names d.month name) (hday : Spells d.day day) :
    ofChars? (name ++ ' ' :: (day ++ ',' :: ' ' :: padded 4 d.year)) = some d := by
  have year := (starts_and_ends_padded (by decide) d.year_lt).1
  have dayStarts := (hday.starts_and_ends d.day_lt).1
  -- What follows the name is the same for both forms.
  have rest : ∀ parts : DateParts, parts.month = d.month →
      readAll? parts (' ' :: (day ++ ',' :: ' ' :: padded 4 d.year))
        [.blanks, .day, .sign ',', .blanks, .longYear] = some ⟨d.year, d.month, d.day⟩ := by
    intro parts hparts
    rw [readAll?_cons (read?_blanks (dayStarts.append _)),
      readAll?_cons (read?_day hday (endsNumber_cons (by decide) _)),
      readAll?_cons (read?_sign ','), readAll?_cons (read?_blanks year),
      readAll?_cons (read?_lastYear d), ← hparts]
    rfl
  -- The forms before do not fit, because they want a slash or a dash.
  have absent : ∀ c ∈ ['/', '-'], c ∉ name ++ ' ' :: (day ++ ',' :: ' ' :: padded 4 d.year) := by
    have other : ∀ c, ¬ IsLetter c → isAsciiDigit c = false → c ≠ ' ' → c ≠ ',' →
        c ∉ name ++ ' ' :: (day ++ ',' :: ' ' :: padded 4 d.year) := by
      intro c letter digit blank comma
      simp [hname.not_mem letter, hday.not_mem digit, not_mem_padded 4 d.year digit, blank, comma]
    simp only [List.forall_mem_cons]
    refine ⟨?_, ?_, List.forall_mem_nil _⟩
    · exact other '/' (by decide) (by decide) (by decide) (by decide)
    · exact other '-' (by decide) (by decide) (by decide) (by decide)
  have iso := readDate?_eq_none_of_name hname (' ' :: (day ++ ',' :: ' ' :: padded 4 d.year))
  rcases hname.full_or_short with full | ⟨short, notFull⟩
  · refine ofChars?_of_form 4 rfl iso (readAll?_eq_none_of_signs rfl (by decide) absent) ?_
    rw [readAll?_cons (read?_monthName full _)]
    exact rest _ rfl
  · refine ofChars?_of_form 5 rfl iso ?_ ?_
    · intro f hf
      have before := (by decide : ∀ f ∈ forms.take 5, f ∈ forms.take 4 ∨
        f = [.monthName, .blanks, .day, .sign ',', .blanks, .longYear]) f hf
      rcases before with before | rfl
      · exact readAll?_eq_none_of_signs rfl (by decide) absent f before
      · exact readAll?_cons_eq_none (read?_monthName_eq_none short notFull _) _
    · rw [readAll?_cons (read?_shortMonthName short _)]
      exact rest _ rfl

/-- `D Month YYYY` is the seventh form with a name in full, and the eighth with three
    letters. -/
theorem ofChars?_dayFirst (hname : Names d.month name) (hday : Spells d.day day) :
    ofChars? (day ++ ' ' :: (name ++ ' ' :: padded 4 d.year)) = some d := by
  have year := (starts_and_ends_padded (by decide) d.year_lt).1
  have short := hday.length d.day_lt
  have iso : Iso.readDate? (day ++ ' ' :: (name ++ ' ' :: padded 4 d.year)) = none :=
    Iso.readDate?_eq_none_of_short (by omega) (by decide)
  -- What comes before the name is the same for both forms.
  have front : ∀ items, readAll? ⟨0, 0, 0⟩ (day ++ ' ' :: (name ++ ' ' :: padded 4 d.year))
      (.day :: .blanks :: items) =
        readAll? ⟨0, 0, d.day⟩ (name ++ ' ' :: padded 4 d.year) items := by
    intro items
    rw [readAll?_cons (read?_day hday (endsNumber_cons (by decide) _)),
      readAll?_cons (read?_blanks (hname.starts.append _))]
  have absent : ∀ c ∈ ['/', '-', ','], c ∉ day ++ ' ' :: (name ++ ' ' :: padded 4 d.year) := by
    have other : ∀ c, ¬ IsLetter c → isAsciiDigit c = false → c ≠ ' ' →
        c ∉ day ++ ' ' :: (name ++ ' ' :: padded 4 d.year) := by
      intro c letter digit blank
      simp [hname.not_mem letter, hday.not_mem digit, not_mem_padded 4 d.year digit, blank]
    simp only [List.forall_mem_cons]
    refine ⟨?_, ?_, ?_, List.forall_mem_nil _⟩
    · exact other '/' (by decide) (by decide) (by decide)
    · exact other '-' (by decide) (by decide) (by decide)
    · exact other ',' (by decide) (by decide) (by decide)
  rcases hname.full_or_short with full | ⟨short, notFull⟩
  · refine ofChars?_of_form 6 rfl iso (readAll?_eq_none_of_signs rfl (by decide) absent) ?_
    rw [front, readAll?_cons (read?_monthName full _),
      readAll?_cons (read?_blanks year), readAll?_cons (read?_lastYear d)]
    rfl
  · refine ofChars?_of_form 7 rfl iso ?_ ?_
    · intro f hf
      have before := (by decide : ∀ f ∈ forms.take 7, f ∈ forms.take 6 ∨
        f = [.day, .blanks, .monthName, .blanks, .longYear]) f hf
      rcases before with before | rfl
      · exact readAll?_eq_none_of_signs rfl (by decide) absent f before
      · rw [front]
        exact readAll?_cons_eq_none (read?_monthName_eq_none short notFull _) _
    · rw [front, readAll?_cons (read?_shortMonthName short _),
        readAll?_cons (read?_blanks year), readAll?_cons (read?_lastYear d)]
      rfl

/-! ### All forms -/

/-- **Written dates** are read. -/
theorem ofChars?_written {cs : List Char} (h : d.Written cs) : ofChars? cs = some d := by
  cases h with
  | iso =>
    have read := Iso.readDate?_isoChars d (.inl rfl)
    rw [List.append_nil] at read
    exact ofChars?_of_iso read
  | isoMoment hh hm hs =>
    have time := Iso.isTime_clockChars hh hm hs
    exact ofChars?_of_iso (Iso.readDate?_isoChars d (.inr ⟨'T', _, rfl, time⟩))
  | slashes hmonth hday => exact ofChars?_slashes hmonth hday
  | yearFirst hmonth hday => exact ofChars?_yearFirst hmonth hday
  | dashes hmonth hday => exact ofChars?_dashes hmonth hday
  | nameFirst hname hday => exact ofChars?_nameFirst hname hday
  | dayFirst hname hday => exact ofChars?_dayFirst hname hday

theorem Written.starts_and_ends {cs : List Char} (h : d.Written cs) : Starts cs ∧ Ends cs := by
  have year := starts_and_ends_padded (by decide) d.year_lt
  have isoDay := (starts_and_ends_padded (by decide : 0 < 2) d.day_lt).2
  cases h with
  | iso =>
    refine ⟨?_, (isoDay.cons _).append _⟩
    rw [isoChars, List.append_assoc]
    exact year.1.append _
  | @isoMoment hour minute second hh hm hs =>
    have seconds := (starts_and_ends_padded (by decide : 0 < 2) (by omega : second < 10 ^ 2)).2
    refine ⟨?_, (((seconds.cons _).append _).cons _).append _⟩
    rw [isoChars, List.append_assoc, List.append_assoc]
    exact year.1.append _
  | slashes hmonth hday =>
    exact ⟨(hmonth.starts_and_ends d.month_lt).1.append _, (((year.2.cons _).append _).cons _).append _⟩
  | yearFirst hmonth hday =>
    exact ⟨year.1.append _, ((((hday.starts_and_ends d.day_lt).2.cons _).append _).cons _).append _⟩
  | dashes hmonth hday =>
    exact ⟨(hmonth.starts_and_ends d.month_lt).1.append _, (((year.2.cons _).append _).cons _).append _⟩
  | nameFirst hname hday =>
    exact ⟨hname.starts.append _, ((((year.2.cons _).cons _).append _).cons _).append _⟩
  | dayFirst hname hday =>
    exact ⟨(hday.starts_and_ends d.day_lt).1.append _, (((year.2.cons _).append _).cons _).append _⟩

/-- **Texts.** A written date is read, whatever blanks surround it. -/
theorem ofText?_written {cs left right : List Char} (h : d.Written cs)
    (hleft : ∀ c ∈ left, isBlank c = true) (hright : ∀ c ∈ right, isBlank c = true) :
    ofText? (String.ofList (left ++ cs ++ right)) = some d := by
  obtain ⟨starts, ends⟩ := h.starts_and_ends
  rw [ofText?, String.toList_ofList, trim_surrounded hleft hright starts ends]
  exact ofChars?_written h

end Date

end ReportCheck
