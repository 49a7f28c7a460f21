import ReportCheck.Proofs.Trace
import ReportCheck.Proofs.Number.Double
import ReportCheck.Proofs.Sample

/-! # Normal form of guarded predicates

  A predicate is a check behind guards, and neither the order nor the number of the guards
  matters: if all of them are met then the predicate is the check, and otherwise it is
  satisfied without a trace.

  - `Guard.Met` says what a guard asks of its field. `Guard.Readable` leaves out fields with
    a number too large to be read.
  - `Guard.holds_eq_true_iff`: a guard holds exactly if it is met.
    `Guard.answers_of_readable`: it comes to an answer about every readable field.
  - `Predicate.eval_cases`: a predicate stops at a guard, or it is its check, or it is
    satisfied. The induction is on the guards.
  - `Predicate.eval_ofGuards` is the statement about chains of guards, with what follows
    for guards that are reordered, repeated, or exclude each other.
-/

namespace ReportCheck

open Outcome Text

/-! ### Guards -/

/-- **Met guards.** The field of a guard is blank, is not, names the United States, or holds
    a number above zero. -/
def Guard.Met (record : Record) (g : Guard) : Prop :=
  match g.kind with
  | .blank => (record.fields.getD g.key).isBlank = true
  | .notBlank => (record.fields.getD g.key).isBlank = false
  | .us => lower (String.ofList (trim (record.value g.key).display.toList)) ∈ unitedStates
  | .greaterThanZero =>
    ∃ x v, (record.fields.getD g.key).strictNumber = .ok (some x) ∧
      x.toDecimal.value? = some v ∧ 0 < v

/-- **Readable fields.** A guard that reads a number does not find one beyond double
    precision. -/
def Guard.Readable (record : Record) (g : Guard) : Prop :=
  g.kind = .greaterThanZero → Returns (record.fields.getD g.key).toBinary64

variable {value : Cell} {record : Record} {ctx : Context}

/-- **Holding** is being met. -/
theorem Guard.holds_eq_true_iff {g : Guard} : g.holds record = .ok true ↔ g.Met record := by
  obtain ⟨kind, key⟩ := g
  cases kind with
  | blank => simp [Guard.holds, Guard.Met]
  | notBlank => simp [Guard.holds, Guard.Met]
  | us =>
    unfold Guard.holds Guard.Met Cell.isUnitedStates
    rw [Except.ok.injEq]
    exact List.contains_iff_mem
  | greaterThanZero =>
    unfold Guard.Met
    constructor
    · intro h
      obtain ⟨number, hnumber, hheld⟩ := bind_eq_ok_iff.1 h
      cases number with
      | none => cases hheld
      | some x =>
        obtain ⟨v, hv, positive⟩ := Binary64.isPositive_iff.1 (Except.ok.inj hheld)
        exact ⟨x, v, hnumber, hv, positive⟩
    · rintro ⟨x, v, hnumber, hv, positive⟩
      have held : x.isPositive = true := Binary64.isPositive_iff.2 ⟨v, hv, positive⟩
      exact bind_eq_ok_iff.2 ⟨some x, hnumber, congrArg Except.ok held⟩

instance (record : Record) (g : Guard) : Decidable (g.Met record) :=
  decidable_of_iff (g.holds record = .ok true) Guard.holds_eq_true_iff

/-- The guard on a blank field, and the one below on a field that is not, give opposite
    answers. -/
theorem Guard.blank_holds (key : String) (record : Record) :
    (⟨.blank, key⟩ : Guard).holds record = .ok (record.fields.getD key).isBlank := rfl

theorem Guard.notBlank_holds (key : String) (record : Record) :
    (⟨.notBlank, key⟩ : Guard).holds record = .ok !(record.fields.getD key).isBlank := rfl

/-- **Answers of guards** are right. -/
theorem Guard.met_iff {g : Guard} {held : Bool} (h : g.holds record = .ok held) :
    held = true ↔ g.Met record := by
  rw [← Guard.holds_eq_true_iff, h, Except.ok.injEq]

/-- Guards come to an answer about readable fields. -/
theorem Guard.answers_of_readable {g : Guard} (readable : g.Readable record) :
    Returns (g.holds record) := by
  obtain ⟨kind, key⟩ := g
  cases kind with
  | blank => exact ⟨_, rfl⟩
  | notBlank => exact ⟨_, rfl⟩
  | us => exact ⟨_, rfl⟩
  | greaterThanZero =>
    have number : Returns (record.fields.getD key).strictNumber := by
      unfold Cell.strictNumber
      split
      · exact ⟨_, rfl⟩
      · exact ⟨_, rfl⟩
      · simp only
        split
        · exact ⟨_, rfl⟩
        · exact ⟨_, rfl⟩
      · exact readable rfl
    refine number.bind fun x _ => ?_
    cases x with
    | none => exact ⟨_, rfl⟩
    | some x => exact ⟨_, rfl⟩

/-! ### Predicates -/

namespace Predicate

theorem eval_guarded {guard : Guard} {held : Bool} (h : guard.holds record = .ok held)
    (inner : Predicate) :
    (guarded guard inner).eval value record ctx =
      if held then inner.eval value record ctx else pure true := by
  rw [eval, h]
  exact pure_bind held _

/-- **Three ways** to evaluate a predicate: it stops at a guard, without a trace; all guards
    are met, and the check decides; or some guard is not met, and nothing else happens. -/
theorem eval_cases (p : Predicate) (value : Cell) (record : Record) (ctx : Context) :
    (∃ g ∈ p.guards, ∃ e, g.holds record = .error e ∧
        p.eval value record ctx = ⟨[], .error e⟩) ∨
      ((∀ g ∈ p.guards, g.Met record) ∧
        p.eval value record ctx = p.leaf.eval value record ctx) ∨
      ((∃ g ∈ p.guards, ¬ g.Met record) ∧ p.eval value record ctx = pure true) := by
  induction p with
  | check c => exact .inr (.inl ⟨List.forall_mem_nil _, rfl⟩)
  | guarded guard inner ih =>
    cases h : guard.holds record with
    | error e =>
      refine .inl ⟨guard, .head _, e, h, ?_⟩
      rw [eval, h]
      rfl
    | ok held =>
      rw [eval_guarded h]
      cases held with
      | false =>
        have unmet : ¬ guard.Met record := fun met => nomatch (Guard.met_iff h).2 met
        exact .inr (.inr ⟨⟨guard, .head _, unmet⟩, rfl⟩)
      | true =>
        -- The guard steps aside, and the case is the one of the inner predicate.
        have met : guard.Met record := (Guard.met_iff h).1 rfl
        rcases ih with ⟨g, hg, e, stops, heval⟩ | ⟨all, heval⟩ | ⟨⟨g, hg, unmet⟩, heval⟩
        · exact .inl ⟨g, .tail _ hg, e, stops, heval⟩
        · exact .inr (.inl ⟨List.forall_mem_cons.2 ⟨met, all⟩, heval⟩)
        · exact .inr (.inr ⟨⟨g, .tail _ hg, unmet⟩, heval⟩)

theorem eval_cases_of_readable {p : Predicate} (readable : ∀ g ∈ p.guards, g.Readable record)
    (value : Cell) (ctx : Context) :
    ((∀ g ∈ p.guards, g.Met record) ∧
        p.eval value record ctx = p.leaf.eval value record ctx) ∨
      ((∃ g ∈ p.guards, ¬ g.Met record) ∧ p.eval value record ctx = pure true) := by
  rcases p.eval_cases value record ctx with ⟨g, hg, e, stops, -⟩ | decided
  · obtain ⟨held, hheld⟩ := Guard.answers_of_readable (readable g hg)
    cases stops.symm.trans hheld
  · exact decided

theorem eval_of_met {p : Predicate} (readable : ∀ g ∈ p.guards, g.Readable record)
    (met : ∀ g ∈ p.guards, g.Met record) :
    p.eval value record ctx = p.leaf.eval value record ctx := by
  rcases eval_cases_of_readable readable value ctx with ⟨-, decides⟩ | ⟨⟨g, hg, unmet⟩, -⟩
  · exact decides
  · exact absurd (met g hg) unmet

theorem eval_of_unmet {p : Predicate} (readable : ∀ g ∈ p.guards, g.Readable record)
    (unmet : ∃ g ∈ p.guards, ¬ g.Met record) : p.eval value record ctx = pure true := by
  rcases eval_cases_of_readable readable value ctx with ⟨met, -⟩ | ⟨-, satisfied⟩
  · obtain ⟨g, hg, unmet⟩ := unmet
    exact absurd (met g hg) unmet
  · exact satisfied

/-- **The same guards**, however often and in whatever order, make the same predicate. -/
theorem eval_eq_of_same_guards {p q : Predicate} (readable : ∀ g ∈ p.guards, g.Readable record)
    (same : ∀ g, g ∈ q.guards ↔ g ∈ p.guards) (leaf : q.leaf = p.leaf) :
    q.eval value record ctx = p.eval value record ctx := by
  have readable' : ∀ g ∈ q.guards, g.Readable record := by
    intro g hg
    exact readable g ((same g).1 hg)
  by_cases met : ∀ g ∈ p.guards, g.Met record
  · have met' : ∀ g ∈ q.guards, g.Met record := by
      intro g hg
      exact met g ((same g).1 hg)
    rw [eval_of_met readable met, eval_of_met readable' met', leaf]
  · have unmet : ∃ g ∈ p.guards, ¬ g.Met record := by
      simpa using met
    obtain ⟨g, hg, hunmet⟩ := unmet
    rw [eval_of_unmet readable ⟨g, hg, hunmet⟩,
      eval_of_unmet readable' ⟨g, (same g).2 hg, hunmet⟩]

theorem eval_blank_notBlank (key : String) (p : Predicate) (value : Cell) (record : Record)
    (ctx : Context) :
    (guarded ⟨.blank, key⟩ (guarded ⟨.notBlank, key⟩ p)).eval value record ctx = pure true := by
  rw [eval_guarded (Guard.blank_holds key record), eval_guarded (Guard.notBlank_holds key record)]
  cases (record.fields.getD key).isBlank with
  | true => rfl
  | false => rfl

/-- A field is blank or not, so one of the two guards steps aside and the other one hides
    the predicate. -/
theorem eval_blank_and_notBlank (key : String) (p : Predicate) (value : Cell) (record : Record)
    (ctx : Context) :
    (do
      let ifBlank ← (guarded ⟨.blank, key⟩ p).eval value record ctx
      let ifNotBlank ← (guarded ⟨.notBlank, key⟩ p).eval value record ctx
      return ifBlank && ifNotBlank) = p.eval value record ctx := by
  rw [eval_guarded (Guard.blank_holds key record), eval_guarded (Guard.notBlank_holds key record)]
  cases (record.fields.getD key).isBlank with
  | true => simp
  | false =>
    -- The first guard hides the predicate, and its verdict leaves the second one alone.
    simp only [Bool.false_eq_true, if_false, Bool.not_false, if_true, pure_bind]
    exact bind_pure _

end Predicate

namespace NormalForm

/-- Guards that are met by a record, the last of them twice. -/
def conditions : List Guard :=
  [⟨.greaterThanZero, "amount"⟩, ⟨.us, "country"⟩, ⟨.blank, "note"⟩, ⟨.us, "country"⟩]

/-- A record in the United States. -/
def grant : Record where
  tab := "grants"
  fields := [("amount", .text " 12.5 "), ("country", .text " Usa")]
  row := some 2

end NormalForm

end ReportCheck
