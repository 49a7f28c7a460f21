import ReportCheck.Tab.Catalog
import ReportCheck.Proofs.Tab.Library

/-! # Catalogs are loaded again

  A catalog describes the validators of a registry with the descriptions that a library of
  models gives of their rules. For every library that obeys the laws, a rule is loaded from
  its place in the catalog, whatever checks and guards it is made of.

  - `Rule.Storable` are the rules that compare with storable values.
  - `Rule.conforms` and `Predicate.conforms`: as models, these have the declared types.
  - `Rule.model_injective`: a rule is known from its model.
  - `Registry.catalog_reloads` is the statement about whole catalogs.
-/

namespace ReportCheck

open Model

/-! ### Storable rules -/

/-- The values that a check compares attributes with are storable. -/
def Check.StorableValues : Check → Prop
  | .cumulativeAmountIsEqual _ matchValues _ => ∀ entry ∈ matchValues, entry.2.Storable
  | _ => True

/-- **Storable rules**: their predicates compare with storable values only. -/
def Rule.Storable (rule : Rule) : Prop := rule.predicate.leaf.StorableValues

/-! ### Rules conform -/

theorem Model.conforms_ofKind {kind : String} {fields : List Field}
    {entries : List (String × Value)}
    (declared : fields? kind = some (Class.ofKind kind fields).fields)
    (named : List.Forall₂ (fun field entry => entry.1 = field.name) fields entries)
    (typed : ∀ pair ∈ fields.zip entries, Conforms pair.1.type pair.2.2) :
    Conforms (.model kind) (.model kind (("kind", .plain (.text kind)) :: entries)) :=
  .model declared (.cons rfl named) (List.forall_mem_cons.2 ⟨.literal kind, typed⟩)

/-- The fields of a check besides its kind, with their values. -/
def Check.entries (c : Check) : List (String × Value) :=
  c.members.map fun (name, cell) => (name, .plain cell)

/-- **Checks conform** to the classes of their kinds. -/
theorem Check.conforms {c : Check} (h : c.StorableValues) :
    Conforms (.model c.kind) (.model c.kind (("kind", .plain (.text c.kind)) :: c.entries)) := by
  cases c with
  | isEqual key | matchesFilePart key | numberIsLessThanOrEqual key | numberIsGreaterThanOrEqual key
  | dateIsOnOrBefore key | dateIsOnOrAfter key =>
    exact conforms_ofKind rfl (.cons rfl .nil) (List.forall_mem_singleton.2 (.text key))
  | isSum keys =>
    exact conforms_ofKind rfl (.cons rfl .nil) (List.forall_mem_singleton.2 (.texts keys))
  | isOneOf values =>
    exact conforms_ofKind rfl (.cons rfl .nil) (List.forall_mem_singleton.2 (.texts values))
  | dropdownIncludes listName =>
    exact conforms_ofKind rfl (.cons rfl .nil) (List.forall_mem_singleton.2 (.text listName))
  | cumulativeAmountIsEqual key matchValues matchFields =>
    exact conforms_ofKind rfl (.cons rfl (.cons rfl (.cons rfl .nil)))
      (List.forall_mem_cons.2 ⟨.text key, List.forall_mem_cons.2 ⟨.table h,
        List.forall_mem_singleton.2 (.textTable matchFields)⟩⟩)
  | _ => exact conforms_ofKind rfl .nil (List.forall_mem_nil _)

theorem Check.kind_mem_kinds (c : Check) : c.kind ∈ kinds := by
  cases c <;> exact List.contains_iff_mem.1 rfl

theorem GuardKind.name_mem_kinds (kind : GuardKind) : kind.name ∈ kinds := by
  cases kind <;> exact List.contains_iff_mem.1 rfl

/-- **Predicates conform**, however many guards there are. -/
theorem Predicate.conforms {p : Predicate} (h : p.leaf.StorableValues) :
    Conforms (.choice kinds) p.model := by
  induction p with
  | check c => exact .choice c.kind_mem_kinds (Check.conforms h)
  | guarded guard inner ih =>
    refine .choice guard.kind.name_mem_kinds ?_
    have declared : fields? guard.kind.name = some (Class.ofKind guard.kind.name
        [keyField, { name := "inner", type := .choice kinds }]).fields := by
      cases guard.kind <;> rfl
    exact conforms_ofKind declared (.cons rfl (.cons rfl .nil))
      (List.forall_mem_cons.2 ⟨.text guard.key, List.forall_mem_singleton.2 (ih h)⟩)

theorem Rule.Options.conforms (o : Rule.Options) : Conforms (.model "rule_options") o.model := by
  refine .model rfl (.cons rfl (.cons rfl .nil)) (List.forall_mem_cons.2 ⟨?_,
    List.forall_mem_singleton.2 (.truth o.showsDate)⟩)
  cases o.tags with
  | none => exact .nothing _
  | some tags => exact .present rfl (.textSet tags)

/-- **Rules conform** if they are storable. -/
theorem Rule.conforms {rule : Rule} (h : rule.Storable) :
    Conforms (.model "field_rule") rule.model := by
  refine .model rfl (.cons rfl (.cons rfl (.cons rfl (.cons rfl .nil))))
    (List.forall_mem_cons.2 ⟨.text rule.field, List.forall_mem_cons.2 ⟨Predicate.conforms h,
      List.forall_mem_cons.2 ⟨?_, List.forall_mem_singleton.2 rule.options.conforms⟩⟩⟩)
  cases rule.message with
  | none => exact .nothing _
  | some message => exact .present rfl (.text message)

/-! ### Models tell rules apart -/

theorem Check.index_eq {c c' : Check} (kind : c.kind = c'.kind) : c.ctorIdx = c'.ctorIdx := by
  have named : ∀ c : Check, (checkClasses.map (·.name))[c.ctorIdx]? = some c.kind := by
    intro c
    cases c <;> rfl
  have distinct : (checkClasses.map (·.name)).Nodup := by decide +kernel
  have first := named c
  rw [kind, ← named c'] at first
  obtain ⟨bound, -⟩ := List.getElem?_eq_some_iff.1 (named c)
  exact (List.getElem?_inj bound distinct).1 first

/-- **Checks** are known from their kinds and their fields. -/
theorem Check.eq_of_members {c c' : Check} (kind : c.kind = c'.kind)
    (members : c.members = c'.members) : c = c' := by
  have texts : Function.Injective (List.map Cell.text) :=
    List.map_injective_iff.2 fun _ _ h => Cell.text.inj h
  have fields : Function.Injective
      (List.map fun entry : String × String => (entry.1, Cell.text entry.2)) := by
    refine List.map_injective_iff.2 fun entry entry' h => ?_
    obtain ⟨name, text⟩ := Prod.mk.inj h
    exact Prod.ext name (Cell.text.inj text)
  have index := Check.index_eq kind
  -- Checks of different kinds are left out by the index.
  cases c <;> cases c' <;> cases index
  case isSum.isSum.refl keys keys' =>
    simp only [Check.members, List.cons.injEq, Prod.mk.injEq, Cell.list.injEq, true_and,
      and_true] at members
    rw [texts members]
  case isOneOf.isOneOf.refl values values' =>
    simp only [Check.members, List.cons.injEq, Prod.mk.injEq, Cell.list.injEq, true_and,
      and_true] at members
    rw [texts members]
  case cumulativeAmountIsEqual.cumulativeAmountIsEqual.refl =>
    simp only [Check.members, List.cons.injEq, Prod.mk.injEq, Cell.text.injEq, Cell.object.injEq,
      true_and, and_true] at members
    obtain ⟨rfl, rfl, same⟩ := members
    rw [fields same]
  all_goals
    cases members
    rfl

theorem Check.exists_plain {c : Check} {entry : String × Value} (h : entry ∈ c.entries) :
    ∃ cell, entry.2 = .plain cell := by
  obtain ⟨member, -, rfl⟩ := List.mem_map.1 h
  exact ⟨member.2, rfl⟩

theorem Predicate.model_check_ne (c : Check) (guard : Guard) (inner : Predicate) :
    (Predicate.check c).model ≠ (Predicate.guarded guard inner).model := by
  intro h
  obtain ⟨-, fields⟩ := Value.model.inj h
  have entries : c.entries = [("key", .plain (.text guard.key)), ("inner", inner.model)] :=
    (List.cons.inj fields).2
  have behind : ("inner", inner.model) ∈ c.entries := by simp [entries]
  obtain ⟨cell, plain⟩ := Check.exists_plain behind
  cases inner with
  | check c => cases plain
  | guarded guard inner => cases plain

theorem GuardKind.name_injective : Function.Injective GuardKind.name := by
  intro kind kind' h
  cases kind <;> cases kind' <;> first | rfl | exact absurd h (by decide +kernel)

/-- **Predicates** are known from their models. -/
theorem Predicate.model_injective : Function.Injective Predicate.model := by
  intro p
  induction p with
  | check c =>
    intro p' h
    cases p' with
    | check c' =>
      obtain ⟨kind, fields⟩ := Value.model.inj h
      have plain : Function.Injective
          fun member : String × Cell => (member.1, Value.plain member.2) := by
        intro member member' same
        obtain ⟨name, cell⟩ := Prod.mk.inj same
        exact Prod.ext name (Value.plain.inj cell)
      rw [Check.eq_of_members kind (List.map_injective_iff.2 plain (List.cons.inj fields).2)]
    | guarded guard inner => exact absurd h (model_check_ne c guard inner)
  | guarded guard inner ih =>
    intro p' h
    cases p' with
    | check c => exact absurd h.symm (model_check_ne c guard inner)
    | guarded guard' inner' =>
      simp only [model, Value.model.injEq, List.cons.injEq, Prod.mk.injEq, Value.plain.injEq,
        Cell.text.injEq, true_and, and_true] at h
      obtain ⟨kind, -, key, behind⟩ := h
      obtain rfl : guard = guard' := by
        cases guard
        cases guard'
        rw [Guard.mk.injEq]
        exact ⟨GuardKind.name_injective kind, key⟩
      rw [ih behind]

theorem Rule.Options.model_injective : Function.Injective Rule.Options.model := by
  intro o o' h
  obtain ⟨tags, showsDate⟩ := o
  obtain ⟨tags', showsDate'⟩ := o'
  simp only [model, Value.model.injEq, List.cons.injEq, Prod.mk.injEq, Value.plain.injEq,
    Cell.bool.injEq, true_and, and_true] at h
  obtain ⟨same, rfl⟩ := h
  cases tags <;> cases tags' <;> cases same <;> rfl

/-- **Rules** are known from their models. -/
theorem Rule.model_injective : Function.Injective Rule.model := by
  intro rule rule' h
  obtain ⟨field, predicate, message, options⟩ := rule
  obtain ⟨field', predicate', message', options'⟩ := rule'
  simp only [model, Value.model.injEq, List.cons.injEq, Prod.mk.injEq, Value.plain.injEq,
    Cell.text.injEq, true_and, and_true] at h
  obtain ⟨rfl, predicates, messages, optionModels⟩ := h
  rw [Predicate.model_injective predicates, Options.model_injective optionModels]
  cases message <;> cases message' <;> cases messages <;> rfl

/-! ### Catalogs -/

/-- **Reloading.** A rule is loaded from a description as the model of one rule. -/
def Model.Library.Reloads (lib : Library) (cell : Cell) (rule : Rule) : Prop :=
  ∀ rule' : Rule, lib.load (.model "field_rule") cell = some rule'.model ↔ rule' = rule

/-- **Described rules.** A storable rule is loaded from its description, and as well from the one
    in which no field is left out. -/
structure Model.Library.Describes (lib : Library) (rule : Rule) (cell : Cell) : Prop where
  reloads : rule.Storable → lib.Reloads cell rule
  omits : rule.Storable → lib.load (.model "field_rule") cell =
    lib.load (.model "field_rule") (lib.dump false rule.model)

/-- **Described validators.** An entry holds the tab, the kind and the message of the
    validator, and describes its rules in their order. -/
structure Model.Library.DescribesTab (lib : Library) (v : Validator) (entry : CatalogEntry) :
    Prop where
  tab : entry.tab = v.tab
  kind : entry.validatorKind = v.scope.kind
  message : entry.missingMessage = v.scope.missingMessage
  rules : List.Forall₂ lib.Describes v.rules entry.rules

section Catalog

variable {lib : Library} (lawful : lib.Lawful)

include lawful

/-- **Storable rules** are loaded from their descriptions. -/
theorem Rule.load_dump (omits : Bool) {rule : Rule} (h : rule.Storable) :
    lib.load (.model "field_rule") (lib.dump omits rule.model) = some rule.model :=
  lawful.load_dump omits (conforms h)

theorem Rule.describes (rule : Rule) : lib.Describes rule (lib.dump true rule.model) where
  reloads h rule' := by
    rw [rule.load_dump lawful true h, Option.some_inj]
    exact ⟨fun same => Rule.model_injective same.symm, fun same => same ▸ rfl⟩
  omits h := by
    rw [rule.load_dump lawful true h, rule.load_dump lawful false h]

/-- **Catalogs are loaded again.** A catalog that leaves out what is nothing has one entry for
    each validator of the registry, in the order of registration, and from the entry the rules
    of the validator are loaded, in their order. -/
theorem Registry.catalog_reloads (r : Registry) :
    List.Forall₂ lib.DescribesTab r.validators (r.catalog (lib.dump true)) := by
  unfold catalog
  rw [List.forall₂_map_right_iff, List.forall₂_same]
  intro v _
  refine ⟨rfl, rfl, rfl, ?_⟩
  show List.Forall₂ _ _ (v.rules.map fun rule => lib.dump true rule.model)
  rw [List.forall₂_map_right_iff, List.forall₂_same]
  intro rule _
  exact rule.describes lawful

end Catalog

namespace Reloading

/-- A rule that compares with nothing, with a whole number and with a truth value, behind two
    guards, with tags but without a message. -/
def rule : Rule where
  field := "total"
  predicate := .guarded ⟨.us, "country"⟩ (.guarded ⟨.notBlank, "total"⟩
    (.check (.cumulativeAmountIsEqual "paid"
      [("program", .empty), ("year", .int 2020), ("final", .bool false)] [("award", "number")])))
  options := { tags := some (.ofList ["final", "audit"]) }

/-- A registry with this rule only. -/
def registry : Registry := ⟨[{ tab := "costs", rules := [rule], scope := .allRecords }]⟩

/-- The description of the rule: the value to compare with is there, and the message is not. -/
def description : Cell := .object
  [ ("field_key", .text "total"),
    ("predicate", .object [("kind", .text "when_us"), ("key", .text "country"),
      ("inner", .object [("kind", .text "when_not_blank"), ("key", .text "total"),
        ("inner", .object [("kind", .text "cumulative_amount_is_equal"), ("key", .text "paid"),
          ("match_values",
            .object [("program", .empty), ("year", .int 2020), ("final", .bool false)]),
          ("match_fields", .object [("award", .text "number")])])])]),
    ("options", .object [("tags", .list [.text "audit", .text "final"]),
      ("is_date_value", .bool false)]) ]

theorem rule_storable : rule.Storable :=
  List.forall_mem_cons.2 ⟨.atom .empty, List.forall_mem_cons.2 ⟨.atom (.int _),
    List.forall_mem_singleton.2 (.atom (.bool _))⟩⟩

end Reloading

open Reloading in
/-- A value to compare with stays in the catalog if it is nothing, and the rule is loaded. -/
theorem Registry.catalog_reloads_of_nothing_to_match :
    standard.Lawful ∧ rule.Storable ∧
      registry.catalog (standard.dump true) = [⟨"costs", "all_records", "", [description]⟩] ∧
      standard.Reloads description rule := by
  obtain _ | ⟨only, -⟩ := registry.catalog_reloads standard_lawful
  obtain _ | ⟨described, -⟩ := only.rules
  exact ⟨standard_lawful, rule_storable, rfl, described.reloads rule_storable⟩

end ReportCheck
