import ReportCheck.Proofs.Upload.CleanReport
import ReportCheck.Proofs.Sample

/-! # Subrecipients of an upload

  Three parts of the library tell which records identify a subrecipient: the index, the check that
  refers to it, and the two rules of the subrecipients' tab. They agree.

  - `Subrecipient.isSome_key?` is the condition that all of them come down to.
  - `Predicate.verdict_isNotBlank` and `Predicate.verdict_whenBlank` evaluate the rules, and
    `Subrecipient.verdict_of_identifying` is about both of them.
  - `Subrecipient.lookup_exact` puts the index, the check and the rules together. Only an empty
    list or object is taken for a subrecipient though it is blank, since it displays as a text.
-/

namespace ReportCheck

/-! ### Identified records -/

/-- A record identifies a subrecipient if one of the three fields is filled in. -/
theorem Subrecipient.isSome_key? (fields : Members) :
    (key? fields).isSome = keyFields.any fun name => !(fields.getD name).isBlank := by
  unfold key?
  rw [Option.isSome_map, Bool.eq_iff_iff, List.find?_isSome, List.any_eq_true]

section Rules

variable {value : Cell} {record : Record} {ctx : Context}

/-- What is filled in is not blank, and numbers are never blank. -/
theorem Predicate.verdict_isNotBlank :
    ((Predicate.check .isNotBlank).eval value record ctx).outcome = .ok !value.isBlank := by
  show Except.ok (value.isNumber || !value.isBlank) = _
  cases blank : value.isBlank with
  | false => rw [Bool.not_false, Bool.or_true]
  | true => rw [Cell.isNumber_eq_false_of_isBlank blank]; rfl

/-- A rule that asks for a blank field first is satisfied where the field is filled in. -/
theorem Predicate.verdict_whenBlank {inner : Predicate} {key : String} {verdict : Bool}
    (h : (inner.eval value record ctx).outcome = .ok verdict) :
    ((Predicate.guarded ⟨.blank, key⟩ inner).eval value record ctx).outcome =
      .ok (!(record.fields.getD key).isBlank || verdict) := by
  have holds : (Guard.mk .blank key).holds record = .ok (record.fields.getD key).isBlank := rfl
  unfold Predicate.eval
  rw [Traced.outcome_bind, Traced.outcome_ofExcept, holds]
  cases (record.fields.getD key).isBlank with
  | false => rfl
  | true => exact h

/-- **The first two rules** of the subrecipients' tab come to one verdict, by different ways. -/
theorem Subrecipient.verdict_of_identifying {rule : Rule}
    (first : rule ∈ Standard.subrecipient.rules.take 2) :
    rule.verdict ctx record = .ok (key? record.fields).isSome := by
  rcases List.mem_pair.1 first with rfl | rfl
  · rfl
  · refine (Predicate.verdict_whenBlank (Predicate.verdict_whenBlank
      Predicate.verdict_isNotBlank)).trans (congrArg Except.ok ?_)
    rw [isSome_key?, Record.isBlank_value]
    -- The guards name the fields in another order than the identifier.
    show _ = (!(record.fields.getD "identification number").isBlank ||
      (!(record.fields.getD "duns number").isBlank ||
        (!(record.fields.getD "ein number").isBlank || false)))
    rw [Bool.or_false, Bool.or_comm (!(record.fields.getD "duns number").isBlank)]
    rfl

end Rules

/-! ### The check -/

theorem Cell.eq_nil_of_blank {c : Cell} (blank : c.isBlank = true) (shown : c.display ≠ "") :
    c = .list [] ∨ c = .object [] := by
  cases c with
  | empty => exact absurd rfl shown
  | text s => exact absurd (by simpa [isBlank] using blank) shown
  | list items => exact .inl (congrArg list (List.isEmpty_iff.1 blank))
  | object members => exact .inr (congrArg object (List.isEmpty_iff.1 blank))
  | _ => cases blank

/-- **Subrecipients.** -/
theorem Subrecipient.lookup_exact (records : List Record) :
    (lookup records).map (·.1) = (names records).eraseDups ∧
    (∀ name, (lookup records).lookup name =
      (records.find? fun r => key? r.fields == some name).map (·.fields)) ∧
    "" ∉ (lookup records).map (·.1) ∧
    (∀ shuffled : List Record, shuffled.Perm records → ∀ name,
      name ∈ (lookup shuffled).map (·.1) ↔ name ∈ (lookup records).map (·.1)) ∧
    (∀ (u : Upload) (settings : Settings) (ctx : Context), u.context settings = .ok ctx →
      ∀ (c : Cell) (record : Record), ∃ accepted,
        Check.isValidSubrecipient.eval c record ctx = pure accepted ∧
        (accepted = true ↔ ∃ r ∈ u.records, r.tab = settings.subrecipientTab ∧
          key? r.fields = some c.display) ∧
        (c.isBlank = true → accepted = true → c = .list [] ∨ c = .object [])) ∧
    (∀ (record : Record) (ctx : Context), ∀ rule ∈ Standard.subrecipient.rules.take 2,
      rule.verdict ctx record = .ok (key? record.fields).isSome ∧
      (rule.Fails ctx record ↔ key? record.fields = none)) := by
  refine ⟨keys_lookup records, lookup_lookup records, ?_, ?_, ?_, ?_⟩
  · intro empty
    obtain ⟨r, -, hkey⟩ := isSome_lookup_iff.1 (isSome_lookup_iff_mem.2 empty)
    exact key?_ne_empty r.fields hkey
  · intro shuffled perm name
    rw [← isSome_lookup_iff_mem, ← isSome_lookup_iff_mem, isSome_lookup_iff, isSome_lookup_iff]
    simp only [perm.mem_iff]
  · intro u settings ctx hctx c record
    refine ⟨ctx.subrecipients.has c.display, rfl, Upload.knows_iff hctx, ?_⟩
    intro blank accepted
    apply Cell.eq_nil_of_blank blank
    intro empty
    -- The empty text identifies no record.
    obtain ⟨r, -, -, hkey⟩ := (Upload.knows_iff hctx).1 accepted
    exact key?_ne_empty r.fields (hkey.trans (congrArg some empty))
  · intro record ctx rule first
    have verdict := @verdict_of_identifying record ctx rule first
    refine ⟨verdict, ?_⟩
    have always : rule.options.isActive ctx.tags = true := by
      rcases List.mem_pair.1 first with rfl | rfl
      · rfl
      · rfl
    unfold Rule.Fails
    rw [verdict, Except.ok.injEq, Option.isSome_eq_false_iff, Option.isNone_iff_eq_none]
    exact and_iff_right always

namespace Subrecipients

/-- A town under two names, and a county without an identifier. -/
def records : List Record :=
  [ ⟨"subrecipient", [("duns number", .int 77), ("legal name", .text "Town")], some 2⟩,
    ⟨"subrecipient", [("legal name", .text "County"), ("ein number", .text "")], some 3⟩,
    ⟨"subrecipient", [("identification number", .text "77")], some 4⟩ ]

/-- A grant without a subrecipient. -/
def grant : Record := ⟨"grants", [("subrecipient id", .list [])], some 5⟩

/-- An upload of a grant and some subrecipients. -/
def upload (known : List Record) : Upload := Sample.upload (grant :: known)

/-- A subrecipient with an odd name. -/
def brackets : Record := ⟨"subrecipient", [("identification number", .text "[]")], some 2⟩

end Subrecipients

open Subrecipients in
/-- The town is known under its number, whether a text or not, and the county is not known. -/
theorem Subrecipient.lookup_exact_of_town :
    (lookup records).map (·.1) = ["77"] ∧
      ∃ ctx, (upload records).context {} = .ok ctx ∧
        Check.isValidSubrecipient.eval (.text "77") grant ctx = pure true ∧
        Check.isValidSubrecipient.eval (.text "") grant ctx = pure false ∧
        ∀ rule ∈ Standard.subrecipient.rules.take 2,
          ∀ record ∈ records, (rule.Fails ctx record ↔ record.row = some 3) := by
  obtain ⟨keys, -, -, -, checks, rules⟩ := lookup_exact records
  refine ⟨keys.trans rfl, _, rfl, ?_, ?_, ?_⟩
  · obtain ⟨accepted, verdict, exactly, -⟩ := checks (upload records) {} _ rfl (.text "77") grant
    have known : accepted = true := exactly.2 ⟨_, .tail _ (.head _), rfl, rfl⟩
    rw [verdict, known]
  · obtain ⟨accepted, verdict, -, blank⟩ := checks (upload records) {} _ rfl (.text "") grant
    have unknown : accepted = false := by
      by_contra h
      rcases blank rfl (Bool.of_not_eq_false h) with list | object
      · cases list
      · cases object
    rw [verdict, unknown]
  · intro rule first record member
    rw [(rules record _ rule first).2]
    simp only [records, List.mem_cons, List.not_mem_nil, or_false] at member
    rcases member with rfl | rfl | rfl
    · decide
    · decide
    · decide

open Subrecipients in
/-- **An empty list of subrecipients** is accepted if its brackets are the identifier of one. -/
theorem Subrecipient.blank_accepted :
    (Cell.list []).isBlank = true ∧
      ∃ ctx, (upload [brackets]).context {} = .ok ctx ∧
        Check.isValidSubrecipient.eval (grant.value "subrecipient id") grant ctx = pure true := by
  exact ⟨rfl, _, rfl, rfl⟩

end ReportCheck
