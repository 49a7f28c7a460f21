import ReportCheck.Cell.Day
import ReportCheck.Proofs.Calendar.Forms
import Mathlib.Data.List.Pairwise

/-! # Readers of dates agree

  No text is read as two dates, whichever readers are asked.

  - `Agree`: a text that two forms fit has the same parts in both. `forms_agree` goes through the
    pairs of forms. Most differ in a sign, so no text fits both. What is left are years of two and
    of four digits, numbers of months and years in front, and the two kinds of names: `agree_names`
    says that they meet in names that have three letters in full.
  - `readDate?_eq_none_of_form`: the ISO reader reads no text that fits one of the forms.
  - `Date.readers_agree` is the statement about all readers. It makes the order in which they are
    tried irrelevant.
-/

namespace ReportCheck

open Text

namespace DateItem

variable {form form' items : List DateItem} {item next : DateItem} {parts : DateParts}
  {cs : List Char}

/-! ### Agreement of forms -/

/-- **Agreement.** A text that two forms fit has the same parts in both. -/
def Agree (form form' : List DateItem) : Prop :=
  ∀ parts cs found found', readAll? parts cs form = some found →
    readAll? parts cs form' = some found' → found = found'

theorem Agree.cons (h : Agree form form') (item : DateItem) : Agree (item :: form) (item :: form') := by
  intro parts cs found found' hfound hfound'
  cases hread : item.read? parts cs with
  | none =>
    rw [readAll?_cons_eq_none hread] at hfound
    cases hfound
  | some read =>
    obtain ⟨parts', rest⟩ := read
    rw [readAll?_cons hread] at hfound hfound'
    exact h parts' rest found found' hfound hfound'

/-- **Forms with different signs** fit no common text. -/
theorem agree_of_sign {c : Char} (mark : isSign c = true) (own : DateItem.sign c ∈ form)
    {others : List (List DateItem)} (absent : ∀ form' ∈ others, DateItem.sign c ∉ form') :
    ∀ form' ∈ others, Agree form form' := by
  intro form' hform' parts cs found found' h h'
  have there : c ∈ cs := (sign_mem_iff h mark).1 own
  exact absurd ((sign_mem_iff h' mark).2 there) (absent form' hform')

/-- **Years at the end** have four digits or two. -/
theorem agree_years : Agree [longYear] [shortYear] := by
  intro parts cs found found' h h'
  have four := length_of_longYear h
  have two := length_of_shortYear h'
  omega

/-- **Numbers in front**: the sign after the number of a month comes too early for a year. -/
theorem agree_month_year {s : Char} (mark : isSign s = true) :
    Agree (month :: sign s :: form) (longYear :: form') := by
  intro parts cs found found' h h'
  obtain ⟨year, rest, _, rfl, takes, -⟩ := exists_front_of_readAll? h'
  have absent : s ∉ year := by
    intro there
    cases takes.eq_sign there mark
  cases takes with
  | longYear n length digits =>
    rw [readAll?_month_sign (by omega) absent] at h
    cases h

theorem exists_blank_of_readAll? {found : DateParts}
    (h : readAll? parts cs (blanks :: items) = some found) :
    ∃ c rest, cs = c :: rest ∧ isBlank c = true := by
  obtain ⟨front, rest, _, rfl, takes, -⟩ := exists_front_of_readAll? h
  cases takes with
  | blanks some blank =>
    obtain ⟨c, others, rfl⟩ := List.exists_cons_of_ne_nil some
    exact ⟨c, others ++ rest, rfl, blank c (.head _)⟩

theorem Names.eq_takeWhile {m : Nat} {name rest : List Char} {found : DateParts}
    (hname : Names m name) (h : readAll? parts rest (blanks :: items) = some found) :
    name = (name ++ rest).takeWhile fun c => !isBlank c := by
  obtain ⟨c, others, rfl, blank⟩ := exists_blank_of_readAll? h
  have solid : ∀ c ∈ name, (!isBlank c) = true := by
    intro c hc
    rw [(hname.isLetter hc).other.1]
    rfl
  rw [List.takeWhile_append_of_pos solid, List.takeWhile_cons_of_neg (by simp [blank]),
    List.append_nil]

/-- **Names** in full and by three letters meet in the names that have three letters. -/
theorem agree_names : Agree (monthName :: blanks :: items) (shortMonthName :: blanks :: items) := by
  intro parts cs found found' h h'
  obtain ⟨full, rest, _, hfull, takes, hrest⟩ := exists_front_of_readAll? h
  obtain ⟨short, rest', _, hshort, takes', hrest'⟩ := exists_front_of_readAll? h'
  cases takes with
  | monthName i name =>
    cases takes' with
    | shortMonthName j name' =>
      have same : full = short := by
        rw [@Names.eq_takeWhile _ _ (i + 1) _ _ _ (.full name) hrest,
          @Names.eq_takeWhile _ _ (j + 1) _ _ _ (.short name') hrest', ← hfull, hshort]
      subst same
      -- The two lists have a single name in common, in the same place of both.
      have place : ∀ i < 12, ∀ j < 12, monthNames[i]? = shortNames[j]? → i = j := by decide
      obtain rfl : i = j :=
        place i (List.getElem?_eq_some_iff.1 name).1 j (List.getElem?_eq_some_iff.1 name').1
          (name.trans name'.symm)
      obtain rfl : rest = rest' := List.append_cancel_left (hfull.symm.trans hshort)
      exact Option.some.inj (hrest.symm.trans hrest')

/-- **The customary forms** agree. -/
theorem forms_agree : forms.Pairwise Agree := by
  refine .cons ?_ (.cons ?_ (.cons ?_ (.cons ?_ (.cons ?_ (.cons ?_ (.cons ?_ (.cons ?_ .nil)))))))
  -- Three forms have slashes, and one has dashes.
  · refine List.forall_mem_cons.2 ⟨(((agree_years.cons _).cons _).cons _).cons _, ?_⟩
    refine List.forall_mem_cons.2 ⟨agree_month_year rfl, ?_⟩
    exact agree_of_sign (c := '/') rfl (by decide) (by decide)
  · refine List.forall_mem_cons.2 ⟨agree_month_year rfl, ?_⟩
    exact agree_of_sign (c := '/') rfl (by decide) (by decide)
  · exact agree_of_sign (c := '/') rfl (by decide) (by decide)
  · exact agree_of_sign (c := '-') rfl (by decide) (by decide)
  -- Two forms have a comma, and the last two have no sign at all.
  · refine List.forall_mem_cons.2 ⟨agree_names, ?_⟩
    exact agree_of_sign (c := ',') rfl (by decide) (by decide)
  · exact agree_of_sign (c := ',') rfl (by decide) (by decide)
  · exact List.forall_mem_cons.2 ⟨(agree_names.cons _).cons _, List.forall_mem_nil _⟩
  · exact List.forall_mem_nil _

/-! ### The ISO reader -/

/-- **Separators** of numbers. -/
def isSeparator : DateItem → Bool
  | blanks => true
  | sign s => isSign s
  | _ => false

theorem exists_other_of_readAll? {found : DateParts} (separator : item.isSeparator = true)
    (h : readAll? parts cs (item :: items) = some found) :
    ∃ c rest, cs = c :: rest ∧ isAsciiDigit c = false := by
  cases item with
  | blanks =>
    obtain ⟨c, rest, rfl, blank⟩ := exists_blank_of_readAll? h
    refine ⟨c, rest, rfl, ?_⟩
    by_contra digit
    rw [not_isBlank_of_isAsciiDigit (by simpa using digit)] at blank
    cases blank
  | sign s =>
    obtain ⟨front, rest, _, rfl, takes, -⟩ := exists_front_of_readAll? h
    cases takes
    refine ⟨s, rest, rfl, ?_⟩
    by_contra digit
    have mark : isSign s = true := separator
    rw [isSign, isDigit_of_isAsciiDigit (by simpa using digit)] at mark
    cases mark
  | _ => cases separator

/-- **A short number in front** is no year. -/
theorem readDate?_eq_none_of_number {found : DateParts} (number : item = month ∨ item = day)
    (separator : next.isSeparator = true)
    (h : readAll? parts cs (item :: next :: items) = some found) : Iso.readDate? cs = none := by
  obtain ⟨front, rest, _, rfl, takes, h⟩ := exists_front_of_readAll? h
  obtain ⟨c, others, rfl, other⟩ := exists_other_of_readAll? separator h
  refine Iso.readDate?_eq_none_of_short ?_ other
  rcases number with rfl | rfl
  · cases takes with
    | month n length digits => omega
  · cases takes with
    | day n length digits => omega

/-- **A year with a slash** behind it does not begin an ISO date. -/
theorem readDate?_eq_none_of_year {found : DateParts}
    (h : readAll? parts cs (longYear :: sign '/' :: items) = some found) :
    Iso.readDate? cs = none := by
  obtain ⟨year, rest, _, rfl, takes, h⟩ := exists_front_of_readAll? h
  obtain ⟨slash, others, _, rfl, takes', -⟩ := exists_front_of_readAll? h
  cases takes'
  cases takes with
  | longYear n length digits => exact Iso.readDate?_eq_none_of_slash length

/-- **A name in front** does not begin an ISO date. -/
theorem readDate?_eq_none_of_takes_name {found : DateParts}
    (name : item = monthName ∨ item = shortMonthName)
    (h : readAll? parts cs (item :: items) = some found) : Iso.readDate? cs = none := by
  obtain ⟨front, rest, _, rfl, takes, -⟩ := exists_front_of_readAll? h
  rcases name with rfl | rfl
  · cases takes with
    | monthName i name => exact Date.readDate?_eq_none_of_name (m := i + 1) (.full name) rest
  · cases takes with
    | shortMonthName i name =>
      exact Date.readDate?_eq_none_of_name (m := i + 1) (.short name) rest

/-- **The ISO reader** reads no text that fits a customary form. -/
theorem readDate?_eq_none_of_form (hform : form ∈ forms) {found : DateParts}
    (h : readAll? parts cs form = some found) : Iso.readDate? cs = none := by
  revert form
  rw [forms]
  simp only [List.forall_mem_cons]
  refine ⟨?_, ?_, ?_, ?_, ?_, ?_, ?_, ?_, List.forall_mem_nil _⟩
  · exact readDate?_eq_none_of_number (.inl rfl) rfl
  · exact readDate?_eq_none_of_number (.inl rfl) rfl
  · exact readDate?_eq_none_of_year
  · exact readDate?_eq_none_of_number (.inl rfl) rfl
  · exact readDate?_eq_none_of_takes_name (.inl rfl)
  · exact readDate?_eq_none_of_takes_name (.inr rfl)
  · exact readDate?_eq_none_of_number (.inr rfl) rfl
  · exact readDate?_eq_none_of_number (.inr rfl) rfl

end DateItem

namespace Date

/-! ### All readers -/

/-- **Agreement** of two readers: no text is read as two dates. -/
def ReadersAgree (read read' : List Char → Option Date) : Prop :=
  ∀ cs d d', read cs = some d → read' cs = some d' → d = d'

theorem ReadersAgree.symm {read read' : List Char → Option Date} (h : ReadersAgree read read') :
    ReadersAgree read' read := by
  intro cs d d' hd hd'
  exact (h cs d' d hd' hd).symm

theorem readForm?_agree {form form' : List DateItem} (h : DateItem.Agree form form') :
    ReadersAgree (readForm? form) (readForm? form') := by
  intro cs d d' hd hd'
  obtain ⟨found, hfound, hof⟩ := Option.bind_eq_some_iff.1 hd
  obtain ⟨found', hfound', hof'⟩ := Option.bind_eq_some_iff.1 hd'
  rw [h _ _ _ _ hfound hfound'] at hof
  exact Option.some.inj (hof.symm.trans hof')

/-- **Any two readers** agree. -/
theorem agree_of_mem_readers {read read' : List Char → Option Date} (hread : read ∈ readers)
    (hread' : read' ∈ readers) : ReadersAgree read read' := by
  have pairs : readers.Pairwise ReadersAgree := by
    refine .cons ?_ (List.pairwise_map.2 (DateItem.forms_agree.imp readForm?_agree))
    -- The ISO reader is the first one, and agrees with the forms because it refuses their texts.
    intro form hform cs d d' hd hd'
    obtain ⟨items, hitems, rfl⟩ := List.mem_map.1 hform
    obtain ⟨found, hfound, -⟩ := Option.bind_eq_some_iff.1 hd'
    rw [DateItem.readDate?_eq_none_of_form hitems hfound] at hd
    cases hd
  have : Std.Symm ReadersAgree := ⟨fun _ _ => ReadersAgree.symm⟩
  refine pairs.forall_of_forall ?_ hread hread'
  intro read _ cs d d' hd hd'
  exact Option.some.inj (hd.symm.trans hd')

theorem findSome?_readers_iff {order : List (List Char → Option Date)} (perm : order.Perm readers)
    {cs : List Char} {d : Date} :
    (order.findSome? fun read => read cs) = some d ↔ ∃ read ∈ readers, read cs = some d := by
  constructor
  · intro h
    obtain ⟨read, hread, hd⟩ := List.exists_of_findSome?_eq_some h
    exact ⟨read, perm.mem_iff.1 hread, hd⟩
  · rintro ⟨read, hread, hd⟩
    -- Some reader comes first, and it agrees with this one.
    have found : (order.findSome? fun read => read cs).isSome = true :=
      List.findSome?_isSome_iff.2 ⟨read, perm.mem_iff.2 hread, by simp [hd]⟩
    obtain ⟨d', hd'⟩ := Option.isSome_iff_exists.1 found
    obtain ⟨first, hfirst, hread'⟩ := List.exists_of_findSome?_eq_some hd'
    rw [hd', agree_of_mem_readers (perm.mem_iff.1 hfirst) hread cs d' d hread' hd]

/-- **Readers agree.** Any two of the readers that read a text read it as the same date. So the
    day of a cell with a text is the one that the readers find in any order. -/
theorem readers_agree :
    (∀ read ∈ readers, ∀ read' ∈ readers, ∀ cs d d',
      read cs = some d → read' cs = some d' → d = d') ∧
    ∀ order : List (List Char → Option Date), order.Perm readers → ∀ s : String,
      (Cell.text s).day = .ok (order.findSome? fun read => read (trim s.toList)) := by
  constructor
  · intro read hread read' hread'
    exact agree_of_mem_readers hread hread'
  · intro order perm s
    show Except.ok (ofText? s) = _
    congr 1
    apply Option.ext
    intro d
    exact (findSome?_readers_iff (.refl readers)).trans (findSome?_readers_iff perm).symm

/-- A date in May, whose name has three letters in full, so that two forms fit the text. -/
def inMay : String := " mAY 5,\t2020"

open DateItem in
/-- Both forms read the same date, and all readers together find it from the last one on. -/
theorem readers_agree_in_may :
    (∃ read ∈ readers, ∃ read' ∈ readers, ∃ d d',
      read = readForm? [.monthName, .blanks, .day, .sign ',', .blanks, .longYear] ∧
      read' = readForm? [.shortMonthName, .blanks, .day, .sign ',', .blanks, .longYear] ∧
      read (trim inMay.toList) = some d ∧ read' (trim inMay.toList) = some d' ∧ d = d') ∧
    readers.reverse.Perm readers ∧
      (Cell.text inMay).day =
        .ok (readers.reverse.findSome? fun read => read (trim inMay.toList)) := by
  have full : readForm? [.monthName, .blanks, .day, .sign ',', .blanks, .longYear] ∈ readers :=
    List.mem_cons_of_mem _ (List.mem_map_of_mem (by decide))
  have short :
      readForm? [.shortMonthName, .blanks, .day, .sign ',', .blanks, .longYear] ∈ readers :=
    List.mem_cons_of_mem _ (List.mem_map_of_mem (by decide))
  have perm : readers.reverse.Perm readers := List.reverse_perm _
  refine ⟨⟨_, full, _, short, ⟨2020, 5, 5, by decide⟩, ⟨2020, 5, 5, by decide⟩, rfl, rfl, rfl, rfl, ?_⟩,
    perm, readers_agree.2 _ perm inMay⟩
  exact readers_agree.1 _ full _ short (trim inMay.toList) _ _ rfl rfl

end Date

end ReportCheck
