import ReportCheck.Tab.Library
import ReportCheck.Proofs.Lookup
import ReportCheck.Proofs.Context.Normal
import ReportCheck.Proofs.Run.Alike

/-! # Laws of libraries of models

  What a library of models is relied on for, and what follows: a value of a declared type is
  loaded from its description.

  - `Cell.Storable` are the values that every format of documents has.
  - `Library.Lawful` are the laws, one for each form of values and of types.
  - `Conforms` are the values of a type, and `Class.WellFormed` says which classes can leave
    out what is nothing.
  - `Library.Lawful.load_dump` is the main result, and `standard_lawful` shows a library.
-/

namespace ReportCheck

/-! ### Storable values -/

/-- **Atoms**: nothing, truth values, whole and finite numbers, and texts. -/
inductive Cell.Atom : Cell → Prop
  | empty : Atom .empty
  | bool (b : Bool) : Atom (.bool b)
  | int (n : WholeNumber) : Atom (.int n)
  | float (x : Binary64.Finite) : Atom (.float (.finite x))
  | text (s : String) : Atom (.text s)

/-- **Storable cells**: atoms, and lists and objects of storable cells. -/
inductive Cell.Storable : Cell → Prop
  | atom {c : Cell} (atom : c.Atom) : Storable c
  | list {items : List Cell} (storable : ∀ item ∈ items, Storable item) : Storable (.list items)
  | object {members : Members} (storable : ∀ member ∈ members, Storable member.2) :
      Storable (.object members)

theorem Cell.storable_text (s : String) : (Cell.text s).Storable := .atom (.text s)

theorem Cell.storable_texts (texts : List String) : (Cell.list (texts.map .text)).Storable := by
  refine .list ?_
  intro item hitem
  obtain ⟨s, -, rfl⟩ := List.mem_map.1 hitem
  exact storable_text s

theorem Cell.storable_textTable (texts : List (String × String)) :
    (Cell.object (texts.map fun entry => (entry.1, .text entry.2))).Storable := by
  refine .object ?_
  intro member hmember
  obtain ⟨entry, -, rfl⟩ := List.mem_map.1 hmember
  exact storable_text entry.2

namespace Model

/-! ### Laws -/

/-- **Filling a field**: with what is loaded from the member of its name, or with the default
    where there is no such member. -/
def Library.Fills (lib : Library) (members : Members) (field : Field) (value : Value) : Prop :=
  (∃ c, members.lookup field.name = some c ∧ lib.load field.type c = some value) ∨
    members.lookup field.name = none ∧ field.default = some value

/-- **Laws** of a library, as it is documented. -/
structure Library.Lawful (lib : Library) : Prop where
  /-- Atoms describe themselves. -/
  dump_atom : ∀ omits c, c.Atom → lib.dump omits (.plain c) = c
  /-- Lists are described item by item. -/
  dump_list : ∀ omits items, lib.dump omits (.plain (.list items)) =
    .list (items.map fun item => lib.dump omits (.plain item))
  /-- Maps are described under the names that they have. What is left out is about fields of
      models, and not about names of maps. -/
  dump_object : ∀ omits members, lib.dump omits (.plain (.object members)) =
    .object (members.map fun member => (member.1, lib.dump omits (.plain member.2)))
  /-- Sets are described as lists, in any order. -/
  dump_set : ∀ omits (texts : TextSet), ∃ listed : List String, listed.Perm texts.toList ∧
    lib.dump omits (.set texts) = .list (listed.map .text)
  /-- Models are described by their fields, without those that hold nothing if that is asked
      for. -/
  dump_model : ∀ omits name fields, lib.dump omits (.model name fields) =
    .object ((fields.filter fun field => !(omits && field.2.isEmpty)).map
      fun field => (field.1, lib.dump omits field.2))
  load_text : ∀ s, lib.load .text (.text s) = some (.plain (.text s))
  load_truth : ∀ b, lib.load .truth (.bool b) = some (.plain (.bool b))
  load_literal : ∀ s, lib.load (.literal s) (.text s) = some (.plain (.text s))
  load_texts : ∀ texts : List String,
    lib.load .texts (.list (texts.map .text)) = some (.plain (.list (texts.map .text)))
  load_table : ∀ members, lib.load .table (.object members) = some (.plain (.object members))
  load_textTable : ∀ texts : List (String × String),
    lib.load .textTable (.object (texts.map fun entry => (entry.1, .text entry.2))) =
      some (.plain (.object (texts.map fun entry => (entry.1, .text entry.2))))
  load_textSet : ∀ texts : List String,
    lib.load .textSet (.list (texts.map .text)) = some (.set (.ofList texts))
  load_nothing : ∀ type, lib.load (.optional type) .empty = some (.plain .empty)
  load_present : ∀ type c, c ≠ .empty → lib.load (.optional type) c = lib.load type c
  /-- Models are loaded field by field. -/
  load_model : ∀ name fields members entries, fields? name = some fields →
    List.Forall₂ (fun field entry => entry.1 = field.name ∧ lib.Fills members field entry.2)
      fields entries →
    lib.load (.model name) (.object members) = some (.model name entries)
  /-- The member `kind` says of which class a model is. -/
  load_choice : ∀ names members name, name ∈ names → members.lookup "kind" = some (.text name) →
    lib.load (.choice names) (.object members) = lib.load (.model name) (.object members)

/-! ### Values of a type -/

/-- **Conforming values.** -/
inductive Conforms : FieldType → Value → Prop
  | text (s : String) : Conforms .text (.plain (.text s))
  | truth (b : Bool) : Conforms .truth (.plain (.bool b))
  | literal (s : String) : Conforms (.literal s) (.plain (.text s))
  | texts (texts : List String) : Conforms .texts (.plain (.list (texts.map .text)))
  | table {members : Members} (storable : ∀ member ∈ members, member.2.Storable) :
      Conforms .table (.plain (.object members))
  | textTable (texts : List (String × String)) :
      Conforms .textTable (.plain (.object (texts.map fun entry => (entry.1, .text entry.2))))
  | textSet (texts : TextSet) : Conforms .textSet (.set texts)
  | nothing (type : FieldType) : Conforms (.optional type) (.plain .empty)
  | present {type : FieldType} {value : Value} (some : value.isEmpty = false)
      (conforms : Conforms type value) : Conforms (.optional type) value
  | model {name : String} {fields : List Field} {entries : List (String × Value)}
      (declared : fields? name = some fields)
      (named : List.Forall₂ (fun field entry => entry.1 = field.name) fields entries)
      (typed : ∀ pair ∈ fields.zip entries, Conforms pair.1.type pair.2.2) :
      Conforms (.model name) (.model name entries)
  | choice {names : List String} {name : String} {entries : List (String × Value)}
      (listed : name ∈ names)
      (conforms : Conforms (.model name) (.model name (("kind", .plain (.text name)) :: entries))) :
      Conforms (.choice names) (.model name (("kind", .plain (.text name)) :: entries))

/-! ### Classes -/

/-- A field that may hold nothing does so by default. -/
def Field.restores (field : Field) : Bool :=
  !field.type.isOptional || field.default.any Value.isEmpty

/-- **Well-formed classes.** Fields have different names, and what is left out is restored. -/
structure Class.WellFormed (c : Class) : Prop where
  distinct : (c.fields.map (·.name)).Nodup
  restores : ∀ field ∈ c.fields, field.restores = true

theorem wellFormed_of_mem_classes : ∀ c ∈ classes, c.WellFormed := by
  have checked : ∀ c ∈ classes,
      (c.fields.map (·.name)).Nodup ∧ ∀ field ∈ c.fields, field.restores = true := by
    decide +kernel
  intro c hc
  exact ⟨(checked c hc).1, (checked c hc).2⟩

theorem wellFormed_of_fields? {name : String} {fields : List Field}
    (h : fields? name = some fields) :
    (fields.map (·.name)).Nodup ∧ ∀ field ∈ fields, field.restores = true := by
  obtain ⟨c, found, rfl⟩ := Option.map_eq_some_iff.1 h
  have wellFormed := wellFormed_of_mem_classes c (List.mem_of_find?_eq_some found)
  exact ⟨wellFormed.distinct, wellFormed.restores⟩

/-! ### Loading what was described -/

theorem Conforms.isOptional {type : FieldType} {value : Value} (h : Conforms type value)
    (nothing : value.isEmpty = true) : type.isOptional = true := by
  cases h with
  | nothing type => rfl
  | present some conforms => rfl
  | _ => cases nothing

theorem Value.eq_of_isEmpty {value : Value} (h : value.isEmpty = true) : value = .plain .empty := by
  unfold isEmpty at h
  split at h
  · rfl
  · cases h

theorem Conforms.storable {type : FieldType} {c : Cell} (h : Conforms type (.plain c)) :
    c.Storable := by
  generalize hvalue : Value.plain c = value at h
  induction h with
  | text s | literal s =>
    cases hvalue
    exact Cell.storable_text s
  | truth b =>
    cases hvalue
    exact .atom (.bool b)
  | texts texts =>
    cases hvalue
    exact Cell.storable_texts texts
  | table storable =>
    cases hvalue
    exact .object storable
  | textTable texts =>
    cases hvalue
    exact Cell.storable_textTable texts
  | nothing type =>
    cases hvalue
    exact .atom .empty
  | present _ _ ih => exact ih hvalue
  | textSet | model | choice => cases hvalue

theorem Library.fills_dump (lib : Library) (omits : Bool) {fields : List Field}
    {entries : List (String × Value)} (distinct : (fields.map (·.name)).Nodup)
    (restores : ∀ field ∈ fields, field.restores = true)
    (named : List.Forall₂ (fun field entry => entry.1 = field.name) fields entries)
    (typed : ∀ pair ∈ fields.zip entries, Conforms pair.1.type pair.2.2)
    (reloads : ∀ pair ∈ fields.zip entries,
      lib.load pair.1.type (lib.dump omits pair.2.2) = some pair.2.2) :
    List.Forall₂ (fun field entry => entry.1 = field.name ∧
      lib.Fills ((entries.filter fun entry => !(omits && entry.2.isEmpty)).map
        fun entry => (entry.1, lib.dump omits entry.2)) field entry.2) fields entries := by
  have names : fields.map (·.name) = entries.map (·.1) := by
    rw [← List.forall₂_eq_eq_eq, List.forall₂_map_left_iff, List.forall₂_map_right_iff]
    exact named.imp fun _ _ h => h.symm
  rw [names] at distinct
  obtain ⟨lengths, named⟩ := List.forall₂_iff_zip.1 named
  refine List.forall₂_iff_zip.2 ⟨lengths, ?_⟩
  intro field entry mem
  have name := named mem
  have found := lookup_kept distinct (List.of_mem_zip mem).2
    (fun entry => !(omits && entry.2.isEmpty)) (lib.dump omits)
  rw [name] at found
  refine ⟨name, ?_⟩
  cases dropped : omits && entry.2.isEmpty with
  | false =>
    rw [if_pos (by rw [dropped]; rfl)] at found
    exact .inl ⟨_, found, reloads _ mem⟩
  | true =>
    -- The default of the field is nothing as well.
    rw [if_neg (by rw [dropped]; simp)] at found
    have nothing := (Bool.and_eq_true_iff.1 dropped).2
    have default := restores field (List.of_mem_zip mem).1
    rw [Field.restores, (typed _ mem).isOptional nothing, Bool.not_true, Bool.false_or,
      Option.any_eq_true] at default
    obtain ⟨value, hvalue, empty⟩ := default
    rw [Value.eq_of_isEmpty empty, ← Value.eq_of_isEmpty nothing] at hvalue
    exact .inr ⟨found, hvalue⟩

namespace Library.Lawful

variable {lib : Library} (lawful : lib.Lawful) {type : FieldType} {value : Value}

include lawful

/-- **Storable values** describe themselves. -/
theorem dump_plain (omits : Bool) {c : Cell} (h : c.Storable) : lib.dump omits (.plain c) = c := by
  induction h with
  | atom atom => exact lawful.dump_atom omits _ atom
  | @list items _ ih =>
    rw [lawful.dump_list, List.map_congr_left ih, List.map_id']
  | @object members _ ih =>
    have same : ∀ member ∈ members, (member.1, lib.dump omits (.plain member.2)) = member := by
      intro member hmember
      rw [ih member hmember]
    rw [lawful.dump_object, List.map_congr_left same, List.map_id']

theorem dump_ne_empty (omits : Bool) (h : Conforms type value) (some : value.isEmpty = false) :
    lib.dump omits value ≠ .empty := by
  cases value with
  | plain c =>
    rw [lawful.dump_plain omits h.storable]
    rintro rfl
    cases some
  | set texts =>
    obtain ⟨listed, -, description⟩ := lawful.dump_set omits texts
    rw [description]
    simp
  | model name entries =>
    rw [lawful.dump_model]
    simp

/-- **Reloading.** A value of a type is loaded from its description, whether or not fields that
    hold nothing are left out. -/
theorem load_dump (omits : Bool) (h : Conforms type value) :
    lib.load type (lib.dump omits value) = some value := by
  induction h with
  | text s =>
    rw [lawful.dump_plain omits (Cell.storable_text s)]
    exact lawful.load_text s
  | truth b =>
    rw [lawful.dump_plain omits (.atom (.bool b))]
    exact lawful.load_truth b
  | literal s =>
    rw [lawful.dump_plain omits (Cell.storable_text s)]
    exact lawful.load_literal s
  | texts texts =>
    rw [lawful.dump_plain omits (Cell.storable_texts texts)]
    exact lawful.load_texts texts
  | table storable =>
    rw [lawful.dump_plain omits (.object storable)]
    exact lawful.load_table _
  | textTable texts =>
    rw [lawful.dump_plain omits (Cell.storable_textTable texts)]
    exact lawful.load_textTable texts
  | textSet texts =>
    obtain ⟨listed, perm, description⟩ := lawful.dump_set omits texts
    have same : TextSet.ofList listed = texts := by
      rw [TextSet.ofList_congr fun s => perm.mem_iff, TextSet.ofList_toList]
    rw [description, lawful.load_textSet, same]
  | nothing type =>
    rw [lawful.dump_plain omits (.atom .empty)]
    exact lawful.load_nothing type
  | @present type value some conforms ih =>
    rw [lawful.load_present type _ (lawful.dump_ne_empty omits conforms some)]
    exact ih
  | @model name fields entries declared named typed ih =>
    obtain ⟨distinct, restores⟩ := wellFormed_of_fields? declared
    rw [lawful.dump_model]
    exact lawful.load_model name fields _ entries declared
      (lib.fills_dump omits distinct restores named typed ih)
  | @choice names name entries listed conforms ih =>
    have kind : lib.dump omits (.plain (.text name)) = .text name :=
      lawful.dump_plain omits (Cell.storable_text name)
    rw [lawful.dump_model] at ih ⊢
    rw [lawful.load_choice names _ name listed]
    · exact ih
    · simp [Value.isEmpty, kind]

end Library.Lawful

/-! ### The standard library -/

theorem portableItems_eq_map (items : List Cell) :
    Cell.portableItems items = items.map Cell.portable := by
  induction items with
  | nil => rfl
  | cons item rest ih => rw [Cell.portableItems, ih, List.map_cons]

theorem portableMembers_eq_map (members : Members) :
    Cell.portableMembers members = members.map fun member => (member.1, member.2.portable) := by
  induction members with
  | nil => rfl
  | cons member rest ih => rw [Cell.portableMembers, ih, List.map_cons]

theorem dumpFields_eq_map (write : Cell → Cell) (omits : Bool) (fields : List (String × Value)) :
    dumpFields write omits fields =
      (fields.filter fun field => !(omits && field.2.isEmpty)).map
        fun field => (field.1, field.2.dump write omits) := by
  induction fields with
  | nil => rfl
  | cons field rest ih =>
    rw [dumpFields, ih]
    cases dropped : omits && field.2.isEmpty with
    | true => rw [List.filter_cons_of_neg (by rw [dropped]; simp), if_pos rfl]
    | false => rw [List.filter_cons_of_pos (by rw [dropped]; rfl), if_neg (by simp), List.map_cons]

theorem texts?_map (texts : List String) : texts? (texts.map .text) = some texts := by
  induction texts with
  | nil => rfl
  | cons s rest ih =>
    unfold texts? at ih ⊢
    rw [List.map_cons, List.mapM_cons, ih]
    rfl

theorem loadField_eq (members : Members) (field : Field) :
    loadField members field =
      ((members.lookup field.name).elim field.default (load · field.type)).map
        fun value => (field.name, value) := by
  induction members with
  | nil => rfl
  | cons member rest ih =>
    obtain ⟨name, c⟩ := member
    rw [loadField, List.lookup_cons]
    by_cases same : name = field.name
    · subst same
      rw [if_pos rfl, beq_self_eq_true]
      rfl
    · rw [if_neg same, ih, beq_eq_false_iff_ne.2 (Ne.symm same)]

theorem loadField_of_fills {members : Members} {field : Field} {value : Value}
    (h : standard.Fills members field value) :
    loadField members field = some (field.name, value) := by
  rw [loadField_eq]
  rcases h with ⟨c, found, loaded⟩ | ⟨missing, default⟩
  · rw [found]
    exact congrArg (Option.map _) loaded
  · rw [missing, default]
    rfl

theorem mapM_loadField {members : Members} {fields : List Field} {entries : List (String × Value)}
    (h : List.Forall₂ (fun field entry => entry.1 = field.name ∧
      standard.Fills members field entry.2) fields entries) :
    fields.mapM (loadField members) = some entries := by
  induction h with
  | nil => rfl
  | @cons field entry _ _ first _ ih =>
    obtain ⟨name, fills⟩ := first
    rw [List.mapM_cons, loadField_of_fills fills, ih, ← name]
    rfl

/-- **The standard library** obeys the laws. -/
theorem standard_lawful : standard.Lawful where
  dump_atom omits c atom := by
    cases atom <;> rfl
  dump_list omits items := by
    show Cell.list (Cell.portableItems items) = _
    rw [portableItems_eq_map]
    rfl
  dump_object omits members := by
    show Cell.object (Cell.portableMembers members) = _
    rw [portableMembers_eq_map]
    rfl
  dump_set omits texts := ⟨texts.toList, .refl _, rfl⟩
  dump_model omits name fields :=
    congrArg Cell.object (dumpFields_eq_map Cell.portable omits fields)
  load_text s := rfl
  load_truth b := rfl
  load_literal s := if_pos rfl
  load_texts texts := by
    show (texts? (texts.map .text)).map _ = _
    rw [texts?_map]
    rfl
  load_table members := rfl
  load_textTable texts := by
    show (texts? ((texts.map fun entry => (entry.1, Cell.text entry.2)).map (·.2))).map _ = _
    have values : (texts.map fun entry => (entry.1, Cell.text entry.2)).map (·.2) =
        (texts.map (·.2)).map .text := by
      rw [List.map_map, List.map_map]
      rfl
    rw [values, texts?_map]
    rfl
  load_textSet texts := by
    show (texts? (texts.map .text)).map _ = _
    rw [texts?_map]
    rfl
  load_nothing type := rfl
  load_present type c some := by
    cases c with
    | empty => exact absurd rfl some
    | _ => rfl
  load_model name fields members entries declared fills := by
    show (fields? name).bind _ = _
    rw [declared]
    show (fields.mapM fun field => loadField members field).map _ = _
    rw [mapM_loadField fills]
    rfl
  load_choice names members name listed kind := by
    have chosen : chosen? names members = some name := by
      rw [chosen?, kind]
      exact if_pos listed
    show load (.object members) (.choice names) = load (.object members) (.model name)
    simp only [load, FieldType.present, FieldType.class?, chosen]

end Model

end ReportCheck
