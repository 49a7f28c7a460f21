import ReportCheck.Text.Lower

/-! # The length of texts in lower case

  Every character has one character in lower case, apart from a capital I with a dot, which
  has two. So a text of several characters is longer in lower case than each of them.
-/

namespace ReportCheck.Text

theorem length_lowerAfter (before cs : List Char) :
    (lowerAfter before cs).length = cs.length + cs.count 'İ' := by
  induction cs generalizing before with
  | nil => rfl
  | cons c rest ih =>
    unfold lowerAfter
    simp only [List.length_append, ih, List.length_cons, List.count_cons]
    by_cases dotted : c = 'İ'
    · subst dotted
      simp
      omega
    · have other : (c == 'İ') = false := beq_eq_false_iff_ne.2 dotted
      simp only [other, Bool.false_eq_true, if_false]
      split
      · simp only [List.length_singleton]
        omega
      · simp only [List.length_singleton]
        omega

/-- **Several characters** are not one of them, also in lower case. -/
theorem lower_singleton_ne {s : String} (several : 1 < s.toList.length) {c : Char}
    (mem : c ∈ s.toList) : lower (String.singleton c) ≠ lower s := by
  intro same
  have lengths := congrArg (fun t => t.toList.length) same
  simp only [lower, String.toList_ofList, length_lowerAfter, String.toList_singleton,
    List.length_singleton] at lengths
  have dots : [c].count 'İ' ≤ s.toList.count 'İ' :=
    (List.singleton_sublist.2 mem).count_le 'İ'
  omega

end ReportCheck.Text
