import ReportCheck.Trace
import Mathlib.Data.List.Basic
import Mathlib.Data.List.Forall2

/-! # Outcomes of traced evaluations

  What a chain of evaluations returns, in terms of what its steps return.

  - `bind_eq_ok_iff`: two steps return if the first does, and the second on its result.
    `bind_eq_error_iff` is about their failures.
  - `Outcome.Returns` and `Outcome.OnlyFails` say that an outcome is a result, or a
    result or a failure of a certain kind. Both are kept by steps in sequence.
  - `Outcome.Tracks` compares two outcomes: what the first returns, the second returns
    too, up to a relation. It is kept by steps in sequence as well.
  - `mapM_eq_ok_iff`: lists are read item by item. What this says about single items, and
    about failures, is in the lemmas after it.
  - `Traced.TookOver` relates an evaluation to a step whose findings and log it holds.
  - `collect_eq_ok_iff`, `collect_eq_ok_nil_iff` and `forall_mem_of_collect` say what a
    collection finds, `collect_tookOver` that no step is left out, `countP_log_collect` what
    is logged, `collect_onlyFails` how it fails. `collect_congr` and
    `collect_tracks_sublist` compare two collections.
-/

namespace ReportCheck

namespace Outcome

variable {ε α β : Type}

/-! ### Outcomes in sequence -/

/-- **Sequences** of two outcomes. -/
theorem bind_eq_ok_iff {first : Except ε α} {next : α → Except ε β} {b : β} :
    (first >>= next) = .ok b ↔ ∃ a, first = .ok a ∧ next a = .ok b := by
  cases first with
  | error e =>
    constructor
    · intro h
      exact nomatch h
    · rintro ⟨a, h, -⟩
      exact nomatch h
  | ok a =>
    constructor
    · intro h
      exact ⟨a, rfl, h⟩
    · rintro ⟨a', ha, h⟩
      cases ha
      exact h

/-- Two steps fail if the first does, or the second on its result. -/
theorem bind_eq_error_iff {first : Except ε α} {next : α → Except ε β} {e : ε} :
    (first >>= next) = .error e ↔
      first = .error e ∨ ∃ a, first = .ok a ∧ next a = .error e := by
  cases first with
  | error e' =>
    rw [show (Except.error e' >>= next) = .error e' from rfl]
    simp
  | ok a =>
    rw [show (Except.ok a >>= next) = next a from rfl]
    simp

theorem bind_eq_error_iff_of_returns {first : Except ε α} {next : α → Except ε β} {e : ε}
    (returns : ∀ a, ∃ b, next a = .ok b) : (first >>= next) = .error e ↔ first = .error e := by
  rw [bind_eq_error_iff]
  constructor
  · rintro (h | ⟨a, -, h⟩)
    · exact h
    · obtain ⟨b, hb⟩ := returns a
      cases hb.symm.trans h
  · exact .inl

/-- An outcome that is a result. -/
def Returns (outcome : Except ε α) : Prop := ∃ a, outcome = .ok a

theorem Returns.bind {first : Except ε α} {next : α → Except ε β} (h : Returns first)
    (hnext : ∀ a, first = .ok a → Returns (next a)) : Returns (first >>= next) := by
  obtain ⟨a, ha⟩ := h
  obtain ⟨b, hb⟩ := hnext a ha
  exact ⟨b, bind_eq_ok_iff.2 ⟨a, ha, hb⟩⟩

/-- An outcome that is a result, or a failure of a certain kind. -/
def OnlyFails (kind : ε → Prop) (outcome : Except ε α) : Prop := ∀ e, outcome = .error e → kind e

namespace OnlyFails

variable {kind : ε → Prop}

theorem ok (a : α) : OnlyFails kind (.ok a) := by
  intro e he
  exact nomatch he

theorem error {e : ε} (h : kind e) : OnlyFails kind (.error e : Except ε α) := by
  intro e' he
  cases he
  exact h

theorem bind {first : Except ε α} {next : α → Except ε β} (h : OnlyFails kind first)
    (hnext : ∀ a, first = .ok a → OnlyFails kind (next a)) : OnlyFails kind (first >>= next) := by
  cases first with
  | ok a => exact hnext a rfl
  | error e => exact error (h e rfl)

end OnlyFails

/-- **Tracking.** Whatever the first outcome returns, the second returns something that
    is related to it. A failure of the first says nothing about the second. -/
def Tracks (R : α → β → Prop) (first : Except ε α) (second : Except ε β) : Prop :=
  ∀ a, first = .ok a → ∃ b, second = .ok b ∧ R a b

theorem Tracks.refl {R : α → α → Prop} (hR : ∀ a, R a a) (outcome : Except ε α) :
    Tracks R outcome outcome := by
  intro a ha
  exact ⟨a, ha, hR a⟩

/-- Two steps track two others if the first ones do, and the second ones do on related
    results. -/
theorem Tracks.bind {α' β' : Type} {R : α → α' → Prop} {S : β → β' → Prop}
    {first : Except ε α} {first' : Except ε α'} {next : α → Except ε β}
    {next' : α' → Except ε β'} (h : Tracks R first first')
    (hnext : ∀ a a', R a a' → Tracks S (next a) (next' a')) :
    Tracks S (first >>= next) (first' >>= next') := by
  intro b hb
  obtain ⟨a, ha, hb⟩ := bind_eq_ok_iff.1 hb
  obtain ⟨a', ha', hrelated⟩ := h a ha
  obtain ⟨b', hb', hS⟩ := hnext a a' hrelated b hb
  exact ⟨b', bind_eq_ok_iff.2 ⟨a', ha', hb'⟩, hS⟩

/-! ### Lists of outcomes -/

/-- **Lists** are read item by item. -/
theorem mapM_eq_ok_iff {f : α → Except ε β} {xs : List α} {ys : List β} :
    xs.mapM f = .ok ys ↔ List.Forall₂ (fun x y => f x = .ok y) xs ys := by
  induction xs generalizing ys with
  | nil =>
    rw [List.forall₂_nil_left_iff]
    constructor
    · intro h
      cases h
      rfl
    · rintro rfl
      rfl
  | cons x rest ih =>
    rw [List.mapM_cons, bind_eq_ok_iff, List.forall₂_cons_left_iff]
    constructor
    · rintro ⟨y, hy, h⟩
      obtain ⟨others, hothers, hpure⟩ := bind_eq_ok_iff.1 h
      cases hpure
      exact ⟨y, others, hy, ih.1 hothers, rfl⟩
    · rintro ⟨y, others, hy, hothers, rfl⟩
      exact ⟨y, hy, bind_eq_ok_iff.2 ⟨others, ih.2 hothers, rfl⟩⟩

/-- A list is not read if one of its items is not, and the first failure is the one of the
    list. -/
theorem mapM_append_eq_error {f : α → Except ε β} {before after : List α} {x : α} {ys : List β}
    {e : ε} (read : before.mapM f = .ok ys) (fails : f x = .error e) :
    (before ++ x :: after).mapM f = .error e := by
  rw [List.mapM_append, read, List.mapM_cons, fails]
  rfl

theorem mapM_eq_ok_of_imp {f g : α → Except ε β} (h : ∀ a b, f a = .ok b → g a = .ok b)
    {xs : List α} {ys : List β} (hf : xs.mapM f = .ok ys) : xs.mapM g = .ok ys :=
  mapM_eq_ok_iff.2 ((mapM_eq_ok_iff.1 hf).imp h)

theorem exists_of_mem_mapM {f : α → Except ε β} {xs : List α} {ys : List β}
    (h : xs.mapM f = .ok ys) {y : β} (hy : y ∈ ys) : ∃ x ∈ xs, f x = .ok y := by
  obtain ⟨i, hi, rfl⟩ := List.mem_iff_getElem.1 hy
  have read := mapM_eq_ok_iff.1 h
  have bound : i < xs.length := by rwa [read.length_eq]
  exact ⟨xs[i], List.getElem_mem bound, read.get bound hi⟩

theorem getElem?_of_mapM {f : α → Except ε β} {xs : List α} {ys : List β} (h : xs.mapM f = .ok ys)
    {i : Nat} {x : α} (hx : xs[i]? = some x) : ∃ y, ys[i]? = some y ∧ f x = .ok y := by
  obtain ⟨bound, rfl⟩ := List.getElem?_eq_some_iff.1 hx
  have read := mapM_eq_ok_iff.1 h
  have hi : i < ys.length := by rwa [← read.length_eq]
  exact ⟨ys[i], List.getElem?_eq_getElem hi, read.get bound hi⟩

theorem returns_of_mem_mapM {f : α → Except ε β} {xs : List α} {ys : List β}
    (h : xs.mapM f = .ok ys) {x : α} (hx : x ∈ xs) : Returns (f x) := by
  obtain ⟨i, hi⟩ := List.mem_iff_getElem?.1 hx
  obtain ⟨y, -, hy⟩ := getElem?_of_mapM h hi
  exact ⟨y, hy⟩

theorem mapM_mapIdx {f : α → Except ε β} {change : Nat → α → α} {xs : List α}
    (h : ∀ i x, xs[i]? = some x → f (change i x) = f x) :
    (xs.mapIdx change).mapM f = xs.mapM f := by
  induction xs generalizing change with
  | nil => rfl
  | cons first rest ih =>
    -- In the rest, all items stand one place further on.
    have others := ih fun i x hx => h (i + 1) x hx
    rw [List.mapIdx_cons, List.mapM_cons, List.mapM_cons, others, h 0 first rfl]

theorem mapM_onlyFails {kind : ε → Prop} {f : α → Except ε β} {xs : List α}
    (h : ∀ x ∈ xs, OnlyFails kind (f x)) : OnlyFails kind (xs.mapM f) := by
  induction xs with
  | nil => exact OnlyFails.ok []
  | cons x rest ih =>
    rw [List.mapM_cons]
    refine (h x (.head _)).bind fun y _ => ?_
    refine (ih fun other hother => h other (.tail _ hother)).bind fun others _ => ?_
    exact OnlyFails.ok _

end Outcome

namespace Traced

variable {ε ε' α β γ : Type}

/-- **Sequences** of two evaluations. -/
theorem bind_eq_ok_iff {first : Traced ε α} {next : α → Traced ε β} {b : β} :
    (first >>= next).outcome = .ok b ↔ ∃ a, first.outcome = .ok a ∧ (next a).outcome = .ok b := by
  rw [outcome_bind]
  exact Outcome.bind_eq_ok_iff

@[simp] theorem outcome_ofExcept (outcome : Except ε α) : (ofExcept outcome).outcome = outcome := rfl

@[simp] theorem log_ofExcept (outcome : Except ε α) : (ofExcept outcome).log = [] := rfl

@[simp] theorem log_noteAll (lines : List LogLine) : (noteAll lines : Traced ε Unit).log = lines := rfl

@[simp] theorem log_mapError (f : ε → ε') (t : Traced ε α) : (t.mapError f).log = t.log := rfl

theorem mapError_eq_ok_iff {f : ε → ε'} {t : Traced ε α} {a : α} :
    (t.mapError f).outcome = .ok a ↔ t.outcome = .ok a := by
  unfold mapError
  cases t.outcome with
  | ok a' => simp
  | error e => simp

theorem mapError_onlyFails (f : ε → ε') (t : Traced ε α) :
    Outcome.OnlyFails (fun e' => ∃ e, e' = f e) (t.mapError f).outcome := by
  unfold mapError
  cases t.outcome with
  | ok a => exact Outcome.OnlyFails.ok a
  | error e => exact Outcome.OnlyFails.error ⟨e, rfl⟩

theorem log_bind_of_ok {first : Traced ε α} {next : α → Traced ε β} {a : α}
    (h : first.outcome = .ok a) : (first >>= next).log = first.log ++ (next a).log := by
  change (bind first next).log = _
  unfold bind
  rw [h]

/-- **Steps taken.** An evaluation took a step over if both return, and the evaluation
    holds what the step found, and what it logged. -/
def TookOver (whole step : Traced ε (List α)) : Prop :=
  ∃ all found, whole.outcome = .ok all ∧ step.outcome = .ok found ∧ found <:+: all ∧
    step.log <:+: whole.log

/-! ### Collections -/

/-- Steps that agree on two lists, member by member, make the same collection. -/
theorem collect_congr {δ : Type} {step : γ → Traced ε (List α)} {step' : δ → Traced ε (List α)}
    {xs : List γ} {ys : List δ} (h : List.Forall₂ (fun x y => step x = step' y) xs ys) :
    collect step xs = collect step' ys := by
  induction h with
  | nil => rfl
  | cons first _ others => rw [collect_cons, collect_cons, first, others]

/-- **Collections** join what the steps find. -/
theorem collect_eq_ok_iff {step : γ → Traced ε (List α)} {xs : List γ} {found : List α} :
    (collect step xs).outcome = .ok found ↔
      ∃ parts, List.Forall₂ (fun x part => (step x).outcome = .ok part) xs parts ∧
        found = parts.flatten := by
  induction xs generalizing found with
  | nil =>
    constructor
    · intro h
      cases h
      exact ⟨[], .nil, rfl⟩
    · rintro ⟨parts, hparts, rfl⟩
      cases hparts
      rfl
  | cons x rest ih =>
    rw [collect_cons, bind_eq_ok_iff]
    constructor
    · rintro ⟨first, hfirst, h⟩
      obtain ⟨others, hothers, hfound⟩ := bind_eq_ok_iff.1 h
      obtain ⟨parts, hparts, rfl⟩ := ih.1 hothers
      cases hfound
      exact ⟨first :: parts, .cons hfirst hparts, rfl⟩
    · rintro ⟨parts, hparts, rfl⟩
      obtain _ | ⟨hfirst, hrest⟩ := hparts
      exact ⟨_, hfirst, bind_eq_ok_iff.2 ⟨_, ih.2 ⟨_, hrest, rfl⟩, rfl⟩⟩

/-- What holds of all that each step finds holds of all that a collection finds. -/
theorem forall_mem_of_collect {step : γ → Traced ε (List α)} {xs : List γ} {P : α → Prop}
    (h : ∀ x ∈ xs, ∀ part, (step x).outcome = .ok part → ∀ a ∈ part, P a) {found : List α}
    (hfound : (collect step xs).outcome = .ok found) : ∀ a ∈ found, P a := by
  induction xs generalizing found with
  | nil =>
    cases hfound
    intro a ha
    exact nomatch ha
  | cons x rest ih =>
    rw [collect_cons, bind_eq_ok_iff] at hfound
    obtain ⟨first, hfirst, hfound⟩ := hfound
    obtain ⟨others, hothers, hjoined⟩ := bind_eq_ok_iff.1 hfound
    cases hjoined
    have hrest := ih (fun y hy => h y (.tail _ hy)) hothers
    exact List.forall_mem_append.2 ⟨h x (.head _) first hfirst, hrest⟩

/-- A collection that returns took over all its steps. -/
theorem collect_tookOver {step : γ → Traced ε (List α)} {xs : List γ} {all : List α}
    (h : (collect step xs).outcome = .ok all) : ∀ x ∈ xs, (collect step xs).TookOver (step x) := by
  induction xs generalizing all with
  | nil =>
    intro x hx
    exact nomatch hx
  | cons y rest ih =>
    have hall := h
    rw [collect_cons, bind_eq_ok_iff] at h
    obtain ⟨first, hfirst, h⟩ := h
    obtain ⟨others, hothers, hjoined⟩ := bind_eq_ok_iff.1 h
    cases hjoined
    have hlog : (collect step (y :: rest)).log = (step y).log ++ (collect step rest).log := by
      rw [collect_cons, log_bind_of_ok hfirst, log_bind_of_ok hothers, log_pure, List.append_nil]
    intro x hx
    rcases List.mem_cons.1 hx with rfl | hx
    · -- The first step stands in front.
      refine ⟨_, first, hall, hfirst, (List.prefix_append _ _).isInfix, ?_⟩
      rw [hlog]
      exact (List.prefix_append _ _).isInfix
    · obtain ⟨_, found, hrest, hfound, within, logged⟩ := ih hothers x hx
      cases hothers.symm.trans hrest
      refine ⟨_, found, hall, hfound, within.trans (List.suffix_append _ _).isInfix, ?_⟩
      rw [hlog]
      exact logged.trans (List.suffix_append _ _).isInfix

/-- **Counting over a collection.** If each step logs as many lines of a kind as it has
    members in a list, then the collection logs as many as there are members in all. -/
theorem countP_log_collect {δ : Type} {p : LogLine → Bool}
    {step : γ → Traced ε (List α)} {members : γ → List δ} {xs : List γ}
    (each : ∀ x ∈ xs, ∀ found, (step x).outcome = .ok found →
      (step x).log.countP p = (members x).length)
    {all : List α} (h : (collect step xs).outcome = .ok all) :
    (collect step xs).log.countP p = (xs.flatMap members).length := by
  induction xs generalizing all with
  | nil => rfl
  | cons x rest ih =>
    rw [collect_cons, bind_eq_ok_iff] at h
    obtain ⟨first, hfirst, h⟩ := h
    obtain ⟨others, hothers, -⟩ := bind_eq_ok_iff.1 h
    have hrest := ih (fun y hy => each y (.tail _ hy)) hothers
    rw [collect_cons, log_bind_of_ok hfirst, log_bind_of_ok hothers, log_pure, List.append_nil,
      List.countP_append, each x (.head _) first hfirst, hrest, List.flatMap_cons,
      List.length_append]

/-- A collection fails in a certain way if each of its steps does. -/
theorem collect_onlyFails {kind : ε → Prop} {step : γ → Traced ε (List α)} {xs : List γ}
    (h : ∀ x ∈ xs, Outcome.OnlyFails kind (step x).outcome) :
    Outcome.OnlyFails kind (collect step xs).outcome := by
  induction xs with
  | nil => exact Outcome.OnlyFails.ok _
  | cons x rest ih =>
    simp only [collect_cons, outcome_bind, outcome_pure]
    refine (h x (.head _)).bind fun first _ => ?_
    refine (ih fun y hy => h y (.tail _ hy)).bind fun others _ => ?_
    exact Outcome.OnlyFails.ok _

/-- If each step finds no more than another one does, in the same order, then so does the
    collection. -/
theorem collect_tracks_sublist {step step' : γ → Traced ε (List α)} {xs : List γ}
    (h : ∀ x ∈ xs, Outcome.Tracks (fun found found' => found'.Sublist found)
      (step x).outcome (step' x).outcome) :
    Outcome.Tracks (fun found found' => found'.Sublist found)
      (collect step xs).outcome (collect step' xs).outcome := by
  induction xs with
  | nil =>
    intro found hfound
    exact ⟨found, hfound, .refl found⟩
  | cons x rest ih =>
    have others := ih fun y hy => h y (.tail _ hy)
    simp only [collect_cons, outcome_bind, outcome_pure]
    refine (h x (.head _)).bind ?_
    intro first first' hfirst
    refine others.bind ?_
    intro rest rest' hrest found hfound
    -- What the two parts find is joined on both sides.
    cases hfound
    exact ⟨first' ++ rest', rfl, hfirst.append hrest⟩

/-- A collection finds nothing exactly if no step does. -/
theorem collect_eq_ok_nil_iff {step : γ → Traced ε (List α)} {xs : List γ} :
    (collect step xs).outcome = .ok [] ↔ ∀ x ∈ xs, (step x).outcome = .ok [] := by
  induction xs with
  | nil => simp
  | cons x rest ih =>
    rw [collect_cons, bind_eq_ok_iff, List.forall_mem_cons, ← ih]
    constructor
    · rintro ⟨first, hfirst, h⟩
      obtain ⟨others, hothers, hnil⟩ := bind_eq_ok_iff.1 h
      have hboth : first ++ others = [] := by simpa using hnil
      obtain ⟨rfl, rfl⟩ := List.append_eq_nil_iff.1 hboth
      exact ⟨hfirst, hothers⟩
    · rintro ⟨hfirst, hothers⟩
      exact ⟨[], hfirst, bind_eq_ok_iff.2 ⟨[], hothers, rfl⟩⟩

end Traced

end ReportCheck
