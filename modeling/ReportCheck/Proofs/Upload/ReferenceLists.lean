import ReportCheck.Proofs.Text.Lower
import ReportCheck.Proofs.Upload.FileParts
import ReportCheck.Proofs.Upload.Refusals
import ReportCheck.Proofs.Sample

/-! # Reference lists of a manifest

  A manifest gives reference lists as an object of lists. A cell is in a list if it displays as
  one of its values, letter case aside.

  - `Cell.Offers` says what a list makes of the value under its name, and `includes_ofMembers`
    that a cell is looked up among these.
  - `Cell.ListsWhole` are the values that the document lists. A text is one of them, and is
    split into its characters instead: `offers_iff_listsWhole`.
  - What a check finds in the context of an accepted manifest comes from both.
-/

namespace ReportCheck

open Text

/-! ### What a list offers -/

namespace Cell

/-- **Offered values**: the items of a list, the characters of a text, the names of an
    object. -/
inductive Offers : Cell → Cell → Prop
  | item {items : List Cell} {c : Cell} (mem : c ∈ items) : Offers (.list items) c
  | character {s : String} {c : Char} (mem : c ∈ s.toList) :
      Offers (.text s) (.text (String.singleton c))
  | name {members : List (String × Cell)} {member : String × Cell} (mem : member ∈ members) :
      Offers (.object members) (.text member.1)

/-- **Listed values**: the items of a list, and a text as a whole. -/
inductive ListsWhole : Cell → Cell → Prop
  | item {items : List Cell} {c : Cell} (mem : c ∈ items) : ListsWhole (.list items) c
  | single (s : String) : ListsWhole (.text s) (.text s)

theorem offers_iff {listed c : Cell} {items : List Cell} (h : listed.items? = some items) :
    listed.Offers c ↔ c ∈ items := by
  cases listed with
  | list all =>
    cases h
    exact ⟨fun offers => by cases offers; assumption, .item⟩
  | text s =>
    cases h
    rw [List.mem_map]
    constructor
    · rintro ⟨mem⟩
      exact ⟨_, ‹_›, rfl⟩
    · rintro ⟨c, mem, rfl⟩
      exact .character mem
  | object members =>
    cases h
    rw [List.mem_map]
    constructor
    · rintro ⟨mem⟩
      exact ⟨_, ‹_›, rfl⟩
    · rintro ⟨member, mem, rfl⟩
      exact .name mem
  | _ => cases h

end Cell

theorem lookup_of_mapM {α β ε : Type} {f : α → Except ε β} {entries : List (String × α)}
    {read : List (String × β)}
    (h : (entries.mapM fun (name, a) => do return (name, ← f a)) = .ok read) (name : String) :
    (entries.lookup name = none ∧ read.lookup name = none) ∨
      ∃ a b, entries.lookup name = some a ∧ f a = .ok b ∧ read.lookup name = some b := by
  have pairs := Outcome.mapM_eq_ok_iff.1 h
  clear h
  induction pairs with
  | nil => exact .inl ⟨rfl, rfl⟩
  | @cons entry named _ _ first _ ih =>
    obtain ⟨other, a⟩ := entry
    obtain ⟨b, hb, first⟩ := Outcome.bind_eq_ok_iff.1 first
    cases first
    simp only [List.lookup_cons]
    by_cases same : name = other
    · subst same
      exact .inr ⟨a, b, by simp, hb, by simp⟩
    · rw [beq_eq_false_iff_ne.2 same]
      exact ih

/-- **Looking up a cell** among what the list of a name offers. -/
theorem ReferenceLists.includes_ofMembers {lists : Members} {r : ReferenceLists}
    (h : ofMembers lists = .ok r) (name : String) (v : Cell) :
    r.includes name v = true ↔ ∃ listed offered, lists.get? name = some listed ∧
      listed.Offers offered ∧ offered.foldedDisplay = v.foldedDisplay := by
  obtain ⟨read, hread, h⟩ := Outcome.bind_eq_ok_iff.1 h
  cases h
  unfold includes get? Members.get?
  rcases lookup_of_mapM hread name with ⟨unknown, none⟩ | ⟨listed, entries, known, hentries, some⟩
  · rw [unknown, none]
    constructor
    · intro h
      cases h
    · rintro ⟨listed, offered, h, -⟩
      cases h
  · rw [known, some]
    unfold entriesOf at hentries
    split at hentries
    · next items hitems =>
      cases hentries
      simp only [Option.some.injEq, exists_eq_left', TextSet.contains_iff_mem, TextSet.mem_ofList,
        List.mem_map, exists_and_left, Cell.offers_iff hitems]
    · cases hentries

/-! ### Whole values -/

/-- Where a list keeps what it is given as a whole. -/
def Cell.KeepsWhole (listed : Cell) : Prop :=
  (∀ s, listed = .text s → s.toList.length = 1) ∧ ∀ members, listed = .object members → members = []

/-- **Whole values.** What is offered displays like what is listed, unless the list is given as a
    text of no character or of several ones, or as an object with members. -/
theorem offers_iff_listsWhole {listed : Cell} (collection : listed.items?.isSome = true) :
    (∀ v : Cell, (∃ offered, listed.Offers offered ∧ offered.foldedDisplay = v.foldedDisplay) ↔
      ∃ given, listed.ListsWhole given ∧ given.foldedDisplay = v.foldedDisplay) ↔
    listed.KeepsWhole := by
  cases listed with
  | list items =>
    refine iff_of_true (fun v => exists_congr fun c => and_congr_left' ?_) ⟨nofun, nofun⟩
    rw [Cell.offers_iff rfl]
    constructor
    · exact .item
    · intro lists
      cases lists
      assumption
  | text s =>
    constructor
    · intro same
      refine ⟨fun s' hs => ?_, nofun⟩
      cases hs
      -- The text itself is listed, so one of its characters is as long in lower case.
      obtain ⟨offered, offers, folded⟩ := (same (.text s)).2 ⟨_, .single s, rfl⟩
      obtain ⟨c, mem, rfl⟩ := List.mem_map.1 ((Cell.offers_iff rfl).1 offers)
      have positive : 0 < s.toList.length := List.length_pos_of_mem mem
      by_contra other
      exact lower_singleton_ne (by omega) mem folded
    · rintro ⟨single, -⟩ v
      obtain ⟨c, hc⟩ := List.length_eq_one_iff.1 (single s rfl)
      have whole : String.singleton c = s := String.toList_inj.1 (by rw [hc]; simp)
      have characters : (Cell.text s).items? =
          some (s.toList.map fun c => .text (String.singleton c)) := rfl
      simp only [Cell.offers_iff characters, hc, List.map_cons, List.map_nil, List.mem_singleton,
        exists_eq_left, whole]
      constructor
      · intro folded
        exact ⟨_, .single s, folded⟩
      · rintro ⟨given, lists, folded⟩
        cases lists
        exact folded
  | object members =>
    constructor
    · intro same
      refine ⟨nofun, fun members' hmembers => ?_⟩
      cases hmembers
      cases members with
      | nil => rfl
      | cons member rest =>
        -- No value is listed, but the first name is offered.
        obtain ⟨given, lists, -⟩ := (same (.text member.1)).1 ⟨_, .name (.head _), rfl⟩
        cases lists
    · rintro ⟨-, empty⟩ v
      cases empty members rfl
      constructor
      · rintro ⟨offered, offers, -⟩
        exact absurd ((Cell.offers_iff rfl).1 offers) List.not_mem_nil
      · rintro ⟨given, lists, -⟩
        cases lists
  | _ => cases collection

/-! ### Accepted manifests -/

theorem Check.outcome_dropdownIncludes {ctx : Context} {r : ReferenceLists}
    (given : ctx.references = some r) (name : String) (v : Cell) (record : Record) :
    ((dropdownIncludes name).eval v record ctx).outcome = .ok (r.includes name v) := by
  show (evalDropdown name v ctx).outcome = _
  unfold evalDropdown
  rw [given]
  rfl

namespace Manifest

theorem references_of_readLists {lists : Members} {references : Option ReferenceLists}
    (h : readLists (.object lists) = .ok references) :
    ∃ r, references = some r ∧ ReferenceLists.ofMembers lists = .ok r := by
  obtain ⟨r, hr, h⟩ := Outcome.bind_eq_ok_iff.1 h
  cases h
  refine ⟨r, rfl, ?_⟩
  have read : Failure.ofShape (ReferenceLists.ofMembers lists) = .ok r := hr
  cases hlists : ReferenceLists.ofMembers lists with
  | ok all =>
    rw [hlists] at read
    cases read
    rfl
  | error cause =>
    rw [hlists] at read
    cases read

/-- **Reference lists.** In the context of an accepted manifest with reference lists, a check finds
    the cells that display, letter case aside, like a value that the list of its name offers. These
    are the cells that display like a listed value exactly if the list keeps what it is given as a
    whole. -/
theorem lists_offer_values (document : Cell) (m : Manifest) (accepted : ofCell document = .ok m)
    (settings : Settings) :
    ∃ (members : Members) (ctx : Context), document = .object members ∧
      m.toUpload.context settings = .ok ctx ∧
      ∀ lists : Members, members.getD "reference_lists" = .object lists →
        (∀ (name : String) (v : Cell) (record : Record), ∃ verdict,
          ((Check.dropdownIncludes name).eval v record ctx).outcome = .ok verdict ∧
          (verdict = true ↔ ∃ listed offered, lists.get? name = some listed ∧
            listed.Offers offered ∧ offered.foldedDisplay = v.foldedDisplay)) ∧
        ∀ (name : String) (listed : Cell) (record : Record), lists.get? name = some listed →
          ((∀ v : Cell, ((Check.dropdownIncludes name).eval v record ctx).outcome = .ok true ↔
              ∃ given, listed.ListsWhole given ∧ given.foldedDisplay = v.foldedDisplay) ↔
          listed.KeepsWhole) := by
  obtain ⟨members, periodMembers, rfl, -, read⟩ := exists_readFrom accepted
  refine ⟨members, _, rfl, toUpload_context settings, fun lists given => ?_⟩
  have readLists := read.references
  rw [given] at readLists
  obtain ⟨r, hreferences, hr⟩ := references_of_readLists readLists
  have outcome := fun name v record =>
    @Check.outcome_dropdownIncludes (m.context settings) r hreferences name v record
  refine ⟨fun name v record => ⟨_, outcome name v record, r.includes_ofMembers hr name v⟩, ?_⟩
  intro name listed record known
  have collection : listed.items?.isSome = true :=
    items_of_readLists readLists (mem_of_lookup_eq_some known)
  have verdict : ∀ v,
      ((Check.dropdownIncludes name).eval v record (m.context settings)).outcome = .ok true ↔
        ∃ offered, listed.Offers offered ∧ offered.foldedDisplay = v.foldedDisplay := by
    intro v
    rw [outcome, Except.ok.injEq, r.includes_ofMembers hr, known]
    simp only [Option.some.injEq, exists_and_left, exists_eq_left']
  simp only [verdict]
  exact offers_iff_listsWhole collection

namespace Listed

/-- A manifest with the given reference lists. -/
def manifest (lists : Members) : Cell := .object
  [ ("reporting_period", .object samplePeriod), ("records", .list []),
    ("reference_lists", .object lists) ]

/-- States in a list. -/
def states : Members := [("state code", .list [.text "WA", .text "Or"])]

/-- A single state as a text. -/
def oneState : Members := [("state code", .text "wa")]

end Listed

open Listed Sample in
/-- The states in a list are found in any letter case. -/
theorem lists_offer_values_of_states :
    ∃ m, ofCell (manifest states) = .ok m ∧ ∃ ctx, m.toUpload.context {} = .ok ctx ∧
      ∀ v : Cell, ((Check.dropdownIncludes "state code").eval v record ctx).outcome = .ok true ↔
        ∃ state ∈ [Cell.text "WA", .text "Or"], state.foldedDisplay = v.foldedDisplay := by
  obtain ⟨members, ctx, hdocument, built, finds⟩ :=
    lists_offer_values (manifest states) _ rfl {}
  cases hdocument
  refine ⟨_, rfl, ctx, built, fun v => ?_⟩
  have whole := ((finds states rfl).2 "state code" _ record rfl).2 ⟨nofun, nofun⟩ v
  rw [whole]
  constructor
  · rintro ⟨state, lists, folded⟩
    cases lists with
    | item mem => exact ⟨state, mem, folded⟩
  · rintro ⟨state, mem, folded⟩
    exact ⟨state, .item mem, folded⟩

open Listed Sample in
/-- **Split texts.** Of a state that is given as a text, the letters are found, and the state is
    not. -/
theorem state_split_into_letters :
    ∃ m, ofCell (manifest oneState) = .ok m ∧ ∃ ctx, m.toUpload.context {} = .ok ctx ∧
      ((Check.dropdownIncludes "state code").eval (.text "wa") record ctx).outcome = .ok false ∧
      ((Check.dropdownIncludes "state code").eval (.text "w") record ctx).outcome = .ok true := by
  exact ⟨_, rfl, _, rfl, rfl, rfl⟩

end Manifest

end ReportCheck
