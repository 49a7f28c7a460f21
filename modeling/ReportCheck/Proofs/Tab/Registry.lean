import ReportCheck.Tab.Registry
import ReportCheck.Proofs.Run.Limit
import ReportCheck.Proofs.Sample

/-! # Histories of a registry

  A registry starts without validators and serves requests, some of which offer it a
  validator. Whatever the requests, it lists the validators that it accepted, one for each
  tab, and a refused offer leaves no trace.

  - `Request`, `Answer` and `after` are the registry as a state machine; `answers` and
    `afterAll` follow a sequence of requests.
  - `after_cases` is all that a request can do to a registry. From it follow
    `WellFormed.after` and `validators_after`, the steps, and `WellFormed.afterAll` and
    `validators_afterAll`, the sequences.
  - `Holds` says what a registry answers when it holds some validators.
  - `holds_registrations`: after any requests a registry holds the validators of its
    accepting answers, and their reports keep to the limit, tab by tab.
-/

namespace ReportCheck

namespace Registry

/-! ### Requests and answers -/

/-- **Requests** to a registry. -/
inductive Request where
  /-- Offers something to the registry. -/
  | register (offer : Offer)
  /-- Asks for the validator of a tab. -/
  | get (tab : String)
  /-- Asks whether a tab has a validator. -/
  | contains (tab : String)
  /-- Asks for the tabs. -/
  | tabs
  /-- Goes through the validators. -/
  | iterate
  /-- Asks for a list of all validators. -/
  | createAll

/-- **Answers** of a registry. -/
inductive Answer where
  /-- The offer, if it is accepted. -/
  | accepted (offer : Offer)
  | refused (cause : RegistryFault)
  | validator (found : Option Validator)
  | truth (holds : Bool)
  | names (tabs : List String)
  | validators (all : List Validator)

/-- The answer to a request. -/
def answer (r : Registry) : Request → Answer
  | .register offer =>
    match r.offer offer with
    | .ok _ => .accepted offer
    | .error cause => .refused cause
  | .get tab => .validator (r.get? tab)
  | .contains tab => .truth (r.contains tab)
  | .tabs => .names r.tabs
  | .iterate => .validators r.validators
  | .createAll => .validators r.validators

/-- **Steps.** The registry after a request. -/
def after (r : Registry) : Request → Registry
  | .register offer => r.afterOffer offer
  | _ => r

/-- The answers to a sequence of requests. -/
def answers (r : Registry) : List Request → List Answer
  | [] => []
  | request :: rest => r.answer request :: (r.after request).answers rest

/-- **Runs.** The registry after a sequence of requests. -/
def afterAll (r : Registry) (requests : List Request) : Registry := requests.foldl after r

/-- **Registrations**: the validators that were accepted, in order. -/
def registrations (answers : List Answer) : List Validator :=
  answers.filterMap fun
    | .accepted (.validator v) => some v
    | _ => none

/-! ### Offers -/

variable {r : Registry}

theorem contains_iff_mem_tabs {tab : String} : r.contains tab = true ↔ tab ∈ r.tabs := by
  unfold contains get? tabs
  rw [List.find?_isSome]
  simp

/-- A validator is registered exactly if it names a tab, and none that is taken. It goes to
    the end. -/
theorem register_eq_ok_iff {v : Validator} {changed : Registry} :
    r.register v = .ok changed ↔
      v.tab ≠ "" ∧ v.tab ∉ r.tabs ∧ changed = ⟨r.validators ++ [v]⟩ := by
  unfold register
  simp only [String.isEmpty_iff, contains_iff_mem_tabs]
  split
  · next h => simp [h]
  · next h =>
    split
    · next taken => simp [taken]
    · next free => simp [h, free, eq_comm]

/-- **Refusals** by cause. -/
theorem register_eq_error_iff {v : Validator} {cause : RegistryFault} :
    r.register v = .error cause ↔
      (v.tab = "" ∧ cause = .noTab) ∨
        (v.tab ≠ "" ∧ v.tab ∈ r.tabs ∧ cause = .tabTaken v.tab) := by
  unfold register
  simp only [String.isEmpty_iff, contains_iff_mem_tabs]
  split
  · next h => simp [h, eq_comm]
  · next h =>
    split
    · next taken => simp [h, taken, eq_comm]
    · next free => simp [h, free]

theorem offer_eq_error_iff {offer : Offer} {cause : RegistryFault} :
    r.offer offer = .error cause ↔
      (∃ cell, offer = .value cell ∧ cause = .notAValidator cell) ∨
        ∃ v, offer = .validator v ∧ ((v.tab = "" ∧ cause = .noTab) ∨
          (v.tab ≠ "" ∧ v.tab ∈ r.tabs ∧ cause = .tabTaken v.tab)) := by
  cases offer with
  | value cell =>
    constructor
    · intro h
      cases h
      exact .inl ⟨cell, rfl, rfl⟩
    · rintro (⟨found, h, rfl⟩ | ⟨v, h, -⟩)
      · cases h
        rfl
      · exact nomatch h
  | validator v =>
    show r.register v = .error cause ↔ _
    rw [register_eq_error_iff]
    simp

theorem answer_eq_refused_iff {offer : Offer} {cause : RegistryFault} :
    r.answer (.register offer) = .refused cause ↔ r.offer offer = .error cause := by
  simp only [answer]
  cases r.offer offer with
  | ok changed => simp
  | error found => simp

/-! ### Steps -/

/-- **What a request does.** It adds one validator with a new tab at the end and is
    answered with it, or it changes nothing and registers nothing. -/
theorem after_cases (r : Registry) (request : Request) :
    (∃ v : Validator, v.tab ≠ "" ∧ v.tab ∉ r.tabs ∧ r.after request = ⟨r.validators ++ [v]⟩ ∧
      r.answer request = .accepted (.validator v)) ∨
    (r.after request = r ∧ registrations [r.answer request] = []) := by
  cases request with
  | register offer =>
    simp only [after, afterOffer, answer]
    cases hoffer : r.offer offer with
    | error cause => exact .inr ⟨rfl, rfl⟩
    | ok changed =>
      cases offer with
      | value cell => cases hoffer
      | validator v =>
        obtain ⟨named, free, rfl⟩ := register_eq_ok_iff.1 hoffer
        exact .inl ⟨v, named, free, rfl, rfl⟩
  | _ => exact .inr ⟨rfl, rfl⟩

/-- **Well-formed registries**: all validators name a tab, and no two the same. -/
structure WellFormed (r : Registry) : Prop where
  named : ∀ v ∈ r.validators, v.tab ≠ ""
  distinct : r.tabs.Nodup

theorem wellFormed_empty : empty.WellFormed where
  named := fun _ hv => nomatch hv
  distinct := .nil

/-- A request keeps a registry well-formed. -/
theorem WellFormed.after (h : r.WellFormed) (request : Request) : (r.after request).WellFormed := by
  rcases r.after_cases request with ⟨v, named, free, hafter, -⟩ | ⟨hafter, -⟩
  · rw [hafter]
    refine ⟨List.forall_mem_append.2 ⟨h.named, List.forall_mem_singleton.2 named⟩, ?_⟩
    have listed : tabs ⟨r.validators ++ [v]⟩ = r.tabs ++ [v.tab] := by simp [tabs]
    rw [listed, ← List.concat_eq_append]
    exact h.distinct.concat free
  · rw [hafter]
    exact h

/-- A request adds the validator that it registers. -/
theorem validators_after (r : Registry) (request : Request) :
    (r.after request).validators = r.validators ++ registrations [r.answer request] := by
  rcases r.after_cases request with ⟨v, -, -, hafter, hanswer⟩ | ⟨hafter, hnone⟩
  · rw [hafter, hanswer]
    rfl
  · rw [hafter, hnone, List.append_nil]

/-! ### Runs -/

/-- Requests keep a registry well-formed. -/
theorem WellFormed.afterAll (h : r.WellFormed) (requests : List Request) :
    (r.afterAll requests).WellFormed := by
  induction requests generalizing r with
  | nil => exact h
  | cons request rest ih => exact ih (h.after request)

/-- **History.** Requests add the validators that they register, in their order. -/
theorem validators_afterAll (r : Registry) (requests : List Request) :
    (r.afterAll requests).validators = r.validators ++ registrations (r.answers requests) := by
  induction requests generalizing r with
  | nil => exact (List.append_nil _).symm
  | cons request rest ih =>
    have split : registrations (r.answers (request :: rest)) =
        registrations [r.answer request] ++ registrations ((r.after request).answers rest) :=
      List.filterMap_append (l := [r.answer request])
    show ((r.after request).afterAll rest).validators = _
    rw [ih, validators_after, split, List.append_assoc]

/-! ### What a registry holds -/

theorem get?_eq_some_iff (h : r.WellFormed) {tab : String} {v : Validator} :
    r.get? tab = some v ↔ v ∈ r.validators ∧ v.tab = tab := by
  unfold get?
  constructor
  · intro found
    exact ⟨List.mem_of_find?_eq_some found, by simpa using List.find?_some found⟩
  · rintro ⟨hv, rfl⟩
    have some_found : (r.validators.find? (·.tab == v.tab)).isSome = true :=
      List.find?_isSome.2 ⟨v, hv, by simp⟩
    obtain ⟨w, hw⟩ := Option.isSome_iff_exists.1 some_found
    have shared : w.tab = v.tab := by simpa using List.find?_some hw
    rw [hw, List.inj_on_of_nodup_map h.distinct (List.mem_of_find?_eq_some hw) hv shared]

/-- **Holding.** What a registry answers if it holds some validators. -/
structure Holds (r : Registry) (all : List Validator) : Prop where
  named : ∀ v ∈ all, v.tab ≠ ""
  distinct : (all.map (·.tab)).Nodup
  tabs : r.answer .tabs = .names (all.map (·.tab))
  iterate : r.answer .iterate = .validators all
  createAll : r.answer .createAll = .validators all
  get : ∀ tab, ∃ found, r.answer (.get tab) = .validator found ∧
    ∀ v, found = some v ↔ v ∈ all ∧ v.tab = tab
  contains : ∀ tab, r.answer (.contains tab) = .truth (decide (tab ∈ all.map (·.tab)))
  /-- An offer is refused for what it is, for a missing tab, or for a tab that is taken. -/
  refuses : ∀ offer cause, r.answer (.register offer) = .refused cause ↔
    (∃ cell, offer = .value cell ∧ cause = .notAValidator cell) ∨
      ∃ v, offer = .validator v ∧ ((v.tab = "" ∧ cause = .noTab) ∨
        (v.tab ≠ "" ∧ v.tab ∈ all.map (·.tab) ∧ cause = .tabTaken v.tab))
  /-- A refused offer changes no answer. -/
  keeps : ∀ offer cause, r.answer (.register offer) = .refused cause →
    ∀ request, (r.after (.register offer)).answer request = r.answer request

/-- A well-formed registry holds its validators. -/
theorem WellFormed.holds (h : r.WellFormed) : r.Holds r.validators where
  named := h.named
  distinct := h.distinct
  tabs := rfl
  iterate := rfl
  createAll := rfl
  get := fun tab => ⟨r.get? tab, rfl, fun v => get?_eq_some_iff h⟩
  contains := by
    intro tab
    have same : r.contains tab = decide (tab ∈ r.tabs) := by
      rw [Bool.eq_iff_iff, contains_iff_mem_tabs, decide_eq_true_iff]
    exact congrArg Answer.truth same
  refuses := fun _ _ => answer_eq_refused_iff.trans offer_eq_error_iff
  keeps := by
    intro offer cause refused request
    rcases r.after_cases (.register offer) with ⟨v, -, -, -, haccepted⟩ | ⟨hafter, -⟩
    · rw [haccepted] at refused
      exact nomatch refused
    · rw [hafter]

/-- **Registrations** are what a registry holds. -/
theorem holds_registrations (requests : List Request) :
    (empty.afterAll requests).Holds (registrations (empty.answers requests)) ∧
      ∀ settings found, IsReport (registrations (empty.answers requests)) settings found →
        (∀ tab, (findingsOn tab found).length ≤ settings.maxFindingsPerTab) ∧
          found = (registrations (empty.answers requests)).flatMap fun v =>
            findingsOn v.tab found := by
  have held : (empty.afterAll requests).Holds (registrations (empty.answers requests)) := by
    have listed : (empty.afterAll requests).validators = registrations (empty.answers requests) :=
      validators_afterAll empty requests
    rw [← listed]
    exact (wellFormed_empty.afterAll requests).holds
  refine ⟨held, ?_⟩
  intro settings found report
  obtain ⟨blocks, adds, rfl⟩ := report.exists_blocks
  refine ⟨?_, flatten_eq_flatMap_findingsOn adds held.distinct⟩
  intro tab
  exact length_findingsOn_flatten_le_limit adds (length_validatorsOn_le_one held.distinct tab)

namespace History

/-- A validator that wants a cover. -/
def cover : Validator where
  tab := "cover"
  scope := .singleRecord "Cover" 2
  rules := []

/-- A validator of grants. -/
def grants : Validator where
  tab := "grants"
  scope := .allRecords
  rules := [{ field := "cost", predicate := .check .isPositiveNumber, message := some "Cost" }]

/-- Requests among which each kind of offer is refused. -/
def requests : List Request :=
  [ .tabs, .register (.validator cover), .register (.value (.text "grants")), .get "grants",
    .register (.validator { grants with tab := "" }), .register (.validator grants), .iterate,
    .register (.validator { cover with tab := "grants" }), .contains "loans", .createAll ]

/-- An upload of two grants without costs. -/
def upload : Upload := Sample.upload [⟨"grants", [], some 2⟩, ⟨"grants", [], some 3⟩]

/-- What is reported with a limit of one finding. -/
def found : List Finding := [⟨"Cover", "cover", none⟩, ⟨"Cost", "grants", some 2⟩]

end History

open History in
/-- Of five offers two are accepted, and the report of the two validators keeps to the
    limit and to their order. -/
theorem holds_registrations_of_refusals :
    (empty.afterAll requests).Holds [cover, grants] ∧
      IsReport [cover, grants] { maxFindingsPerTab := 1 } found ∧
      (∀ tab, (findingsOn tab found).length ≤ 1) ∧
      found = [cover, grants].flatMap fun v => findingsOn v.tab found := by
  have accepted : registrations (empty.answers requests) = [cover, grants] := rfl
  have returns : (upload.validate [cover, grants] { maxFindingsPerTab := 1 }).outcome = .ok found := rfl
  have report : IsReport [cover, grants] { maxFindingsPerTab := 1 } found := .validation returns
  obtain ⟨held, reports⟩ := holds_registrations requests
  rw [accepted] at held reports
  exact ⟨held, report, reports _ found report⟩

end Registry

end ReportCheck
