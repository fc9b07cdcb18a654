import RecordSql.Declaration.Derive
import RecordSql.Proofs.Declaration.Attributes
import RecordSql.Proofs.Table.Names
import RecordSql.Proofs.Table.Resolved

/-!
# Declarations that make a record

A declaration makes a record just if its attributes are right, one member is the identity and that
one is stored.  Its schema then has the members that are not skipped, each with what its attributes
say.  Such a schema keeps all rules of schemas but those about names: the builtin types have
handlers, and one field is the identity.
-/

namespace RecordSql

namespace Declaration

open Attribute

/-! ## Members -/

namespace Member

variable {member : Member}

/-- Whether a member has an attribute of a name. -/
def has (member : Member) (name : String) : Bool :=
  isGiven name member.attributes

/-- What is asked of a member by itself. -/
structure KeepsRules (member : Member) : Prop where
  attributes : ∀ item ∈ member.attributes, item.OnField
  one_nullability : ¬(member.has "nullable" = true ∧ member.has "not_null" = true)
  identity_stored : ¬(member.has "skip" = true ∧ member.has "id" = true)

theorem read_attributes_eq_ok_iff {options : FieldOptions} :
    FieldOptions.read member.attributes = .ok options ↔
      member.KeepsRules ∧ options = FieldOptions.told member.attributes := by
  rw [FieldOptions.read_eq_ok_iff]
  constructor
  · rintro ⟨hall, hconsistent, hstored, rfl⟩
    exact ⟨⟨hall, hconsistent, hstored⟩, rfl⟩
  · rintro ⟨hrules, rfl⟩
    exact ⟨hrules.attributes, hrules.one_nullability, hrules.identity_stored, rfl⟩

/-- The member of the record. -/
def typed (member : Member) : RecordSql.Member :=
  ⟨plainName member.name, member.type, !member.has "skip"⟩

/-- The field of the schema. -/
def toField (rule : Option Text.NamingRule) (member : Member) : Field :=
  field rule (FieldOptions.told member.attributes) member

end Member

/-! ## All members -/

section Members

variable {rule : Option Text.NamingRule} {members : List Member} {member : Member} {draft : Draft}

/-- The draft that members come to. -/
def drafted (rule : Option Text.NamingRule) (members : List Member) : Draft where
  fields := (members.filter fun member => !member.has "skip").map (Member.toField rule)
  members := members.map Member.typed
  identity := (members.find? (·.has "id")).map fun member => (member.typed, member.name)

theorem drafted_concat_of_skipped (hskip : member.has "skip" = true)
    (hid : member.has "id" = false) :
    drafted rule (members ++ [member]) =
      ⟨(drafted rule members).fields, (drafted rule members).members ++ [member.typed],
        (drafted rule members).identity⟩ := by
  simp [drafted, hskip, hid]

theorem drafted_concat_of_identity (hskip : member.has "skip" = false)
    (hid : member.has "id" = true) (hnone : (drafted rule members).identity = none) :
    drafted rule (members ++ [member]) =
      ⟨(drafted rule members).fields ++ [member.toField rule],
        (drafted rule members).members ++ [member.typed], some (member.typed, member.name)⟩ := by
  have hfind : members.find? (·.has "id") = none := by simpa [drafted] using hnone
  simp [drafted, hskip, hid, hfind]

theorem drafted_concat_of_plain (hskip : member.has "skip" = false)
    (hid : member.has "id" = false) :
    drafted rule (members ++ [member]) =
      ⟨(drafted rule members).fields ++ [member.toField rule],
        (drafted rule members).members ++ [member.typed], (drafted rule members).identity⟩ := by
  simp [drafted, hskip, hid]

theorem identity_drafted_eq_none_iff :
    (drafted rule members).identity = none ↔ members.countP (·.has "id") = 0 := by
  simp [drafted, List.countP_eq_zero]

/-- What becomes of a member whose attributes are right. -/
theorem addMember_of_keepsRules (hrules : member.KeepsRules) :
    addMember rule draft member =
      if member.has "skip" then .ok { draft with members := draft.members ++ [member.typed] }
      else if member.has "id" then
        if draft.identity.isSome then .error .secondIdentity
        else .ok ⟨draft.fields ++ [member.toField rule], draft.members ++ [member.typed],
          some (member.typed, member.name)⟩
      else .ok ⟨draft.fields ++ [member.toField rule], draft.members ++ [member.typed],
        draft.identity⟩ := by
  have hread := Member.read_attributes_eq_ok_iff.mpr ⟨hrules, rfl⟩
  have hskipped : (FieldOptions.told member.attributes).isSkipped = member.has "skip" := rfl
  have hidentity : (FieldOptions.told member.attributes).isIdentity = member.has "id" := rfl
  unfold addMember
  rw [hread]
  simp only [bind, Except.bind, hskipped, hidentity, Member.typed]
  cases member.has "skip" with
  | true => rfl
  | false =>
      cases member.has "id" with
      | false => rfl
      | true => cases draft.identity <;> rfl

/-- One more member is added if it keeps its rules and is no second identity. -/
theorem addMember_drafted_eq_ok_iff :
    addMember rule (drafted rule members) member = .ok draft ↔
      member.KeepsRules ∧ (member.has "id" = true → members.countP (·.has "id") = 0) ∧
        draft = drafted rule (members ++ [member]) := by
  by_cases hrules : member.KeepsRules
  · rw [addMember_of_keepsRules hrules, ← @identity_drafted_eq_none_iff rule]
    cases hskip : member.has "skip" with
    | true =>
        have hid : member.has "id" = false := by
          simpa [hskip] using hrules.identity_stored
        simp [drafted_concat_of_skipped hskip hid, hrules, hid, eq_comm]
    | false =>
        cases hid : member.has "id" with
        | false => simp [drafted_concat_of_plain hskip hid, hrules, eq_comm]
        | true =>
            cases hidentity : (drafted rule members).identity with
            | some _ => simp
            | none =>
                simp [drafted_concat_of_identity hskip hid hidentity, hrules, eq_comm]
  · -- The attributes are read before anything else is looked at.
    simp only [hrules, false_and, iff_false]
    intro hadd
    obtain ⟨options, hread, -⟩ := bind_eq_ok_iff.mp hadd
    exact hrules (Member.read_attributes_eq_ok_iff.mp hread).1

/-- Members are added one by one if each keeps its rules and no two of them are identities. -/
theorem foldlM_addMember_eq_ok_iff :
    members.foldlM (addMember rule) Draft.empty = .ok draft ↔
      (∀ member ∈ members, member.KeepsRules) ∧ members.countP (·.has "id") ≤ 1 ∧
        draft = drafted rule members := by
  -- The last member sees the draft of all others, so the list is taken apart at its end.
  induction members using List.reverseRecOn generalizing draft with
  | nil => simp [drafted, Draft.empty, pure, Except.pure, eq_comm]
  | append_singleton members member ih =>
      rw [List.foldlM_append, bind_eq_ok_iff]
      simp only [ih, List.foldlM_cons, List.foldlM_nil, bind_pure, List.forall_mem_append,
        List.forall_mem_singleton, List.countP_append, List.countP_singleton]
      constructor
      · rintro ⟨middle, ⟨hall, hcount, rfl⟩, hadd⟩
        obtain ⟨hrules, hfirst, hdraft⟩ := addMember_drafted_eq_ok_iff.mp hadd
        refine ⟨⟨hall, hrules⟩, ?_, hdraft⟩
        split
        · next hid => exact Nat.le_of_eq (congrArg (· + 1) (hfirst hid))
        · omega
      · rintro ⟨⟨hall, hrules⟩, hcount, rfl⟩
        refine ⟨drafted rule members, ⟨hall, by omega, rfl⟩, ?_⟩
        refine addMember_drafted_eq_ok_iff.mpr ⟨hrules, fun hid => ?_, rfl⟩
        rw [if_pos hid] at hcount
        omega

end Members

/-! ## Declarations -/

/-- What is asked of a declaration. -/
structure KeepsRules (declaration : Declaration) : Prop where
  attributes : ∀ item ∈ declaration.attributes, item.OnRecord
  members : ∀ member ∈ declaration.members, member.KeepsRules
  one_identity : declaration.members.countP (·.has "id") = 1

/-- The schema that a declaration comes to. -/
def toldSchema (declaration : Declaration) : Schema :=
  let options := RecordOptions.told declaration.attributes
  ⟨plainName declaration.name, options.table,
    (drafted options.namingRule declaration.members).fields⟩

theorem derive_eq_ok_iff {declaration : Declaration} (hform : declaration.form = .record)
    {derived : Derived} :
    derive declaration = .ok derived ↔
      declaration.KeepsRules ∧ ∃ identity, declaration.members.find? (·.has "id") = some identity ∧
        derived = ⟨⟨declaration.toldSchema, declaration.members.map Member.typed, identity.typed⟩,
          identity.name⟩ := by
  unfold derive
  simp only [hform, bind_eq_ok_iff, RecordOptions.read_eq_ok_iff, foldlM_addMember_eq_ok_iff]
  constructor
  · rintro ⟨options, ⟨hattributes, rfl⟩, draft, ⟨hmembers, hcount, rfl⟩, hmade⟩
    cases hfind : declaration.members.find? (·.has "id") with
    | none =>
        simp only [drafted, hfind, Option.map_none] at hmade
        contradiction
    | some identity =>
        simp only [drafted, hfind, Option.map_some] at hmade
        have hsome : 0 < declaration.members.countP (·.has "id") := by
          refine List.countP_pos_iff.mpr ⟨identity, List.mem_of_find?_eq_some hfind, ?_⟩
          exact List.find?_some (p := fun member : Member => member.has "id") hfind
        exact ⟨⟨hattributes, hmembers, by omega⟩, identity, rfl, (Except.ok.inj hmade).symm⟩
  · rintro ⟨hrules, identity, hfind, rfl⟩
    refine ⟨_, ⟨hrules.attributes, rfl⟩, _, ⟨hrules.members, Nat.le_of_eq hrules.one_identity, rfl⟩,
      ?_⟩
    simp only [drafted, hfind, Option.map_some]
    rfl

/-- A declaration makes a record just if it keeps the rules. -/
theorem exists_derive_iff {declaration : Declaration} (hform : declaration.form = .record) :
    (∃ derived, derive declaration = .ok derived) ↔ declaration.KeepsRules := by
  simp only [derive_eq_ok_iff hform]
  constructor
  · rintro ⟨derived, hrules, -⟩
    exact hrules
  · intro hrules
    have hsome : 0 < declaration.members.countP (·.has "id") := by
      rw [hrules.one_identity]
      exact Nat.one_pos
    obtain ⟨member, hmem, hid⟩ := List.countP_pos_iff.mp hsome
    cases hfind : declaration.members.find? (·.has "id") with
    | none => exact absurd hid (List.find?_eq_none.mp hfind member hmem)
    | some identity => exact ⟨_, hrules, identity, rfl, rfl⟩

theorem schema_of_derive {declaration : Declaration} (hform : declaration.form = .record)
    {derived : Derived} (h : derive declaration = .ok derived) :
    declaration.KeepsRules ∧ derived.shape.schema = declaration.toldSchema := by
  obtain ⟨hrules, identity, -, rfl⟩ := (derive_eq_ok_iff hform).mp h
  exact ⟨hrules, rfl⟩

/-! ## What is declared -/

namespace Member

/-- The text that the last attribute of a name is given. -/
def text? (member : Member) (name : String) : Option String :=
  (given? name member.attributes).bind Argument.text?

/-- The name under which a member is stored: its own column, or its name restyled, or its name. -/
def storageName (rule : Option Text.NamingRule) (member : Member) : String :=
  match member.text? "column", rule with
  | some column, _ => column
  | none, some rule => rule.apply (plainName member.name)
  | none, none => plainName member.name

/-- A field says what the attributes of a member say. -/
structure Declares (rule : Option Text.NamingRule) (member : Member) (field : Field) : Prop where
  name_eq : field.name = plainName member.name
  type_eq : field.type = if member.has "reference" then .ref else member.type.semanticType
  storageName_eq : field.storageName = member.storageName rule
  isIdentity_eq : field.isIdentity = member.has "id"
  currency_eq : field.modifiers.currency =
    if member.has "currency" then some Precision.ofCurrency else none
  precision_eq : field.modifiers.precision =
    (given? "precision" member.attributes).bind Argument.precision?
  nullable_iff : field.modifiers.nullable = some true ↔ member.has "nullable" = true
  notNull_iff : field.modifiers.nullable = some false ↔ member.has "not_null" = true

theorem KeepsRules.declares {member : Member} (h : member.KeepsRules)
    (rule : Option Text.NamingRule) : member.Declares rule (member.toField rule) where
  name_eq := rfl
  type_eq := rfl
  storageName_eq := by
    have hcolumn : (member.toField rule).column =
        (member.text? "column").or (rule.map (·.apply (plainName member.name))) := rfl
    unfold Field.storageName storageName
    rw [hcolumn]
    cases member.text? "column" with
    | some column => rfl
    | none => cases rule <;> rfl
  isIdentity_eq := rfl
  currency_eq := rfl
  precision_eq := rfl
  nullable_iff := FieldOptions.nullable_told_eq_true_iff
  notNull_iff := FieldOptions.nullable_told_eq_false_iff h.one_nullability

end Member

/-- The naming rule of the last attribute that gives one. -/
def namingRule? (declaration : Declaration) : Option Text.NamingRule :=
  ((given? "rename_all" declaration.attributes).bind Argument.text?).bind Text.NamingRule.ofName?

/-- A schema says what a declaration says: it has a field for each member that is not skipped, in
order. -/
structure Describes (declaration : Declaration) (schema : Schema) : Prop where
  name_eq : schema.name = plainName declaration.name
  table_eq : schema.table = (given? "table" declaration.attributes).bind Argument.text?
  fields : List.Forall₂ (Member.Declares declaration.namingRule?)
    (declaration.members.filter fun member => !member.has "skip") schema.fields

theorem KeepsRules.describes {declaration : Declaration} (h : declaration.KeepsRules) :
    declaration.Describes declaration.toldSchema where
  name_eq := rfl
  table_eq := rfl
  fields := by
    have hfields : declaration.toldSchema.fields =
        (declaration.members.filter fun member => !member.has "skip").map
          (Member.toField declaration.namingRule?) := rfl
    rw [hfields, List.forall₂_map_right_iff, List.forall₂_same]
    exact fun member hmem =>
      (h.members member (List.mem_of_mem_filter hmem)).declares declaration.namingRule?

/-! ## What a derived schema is like -/

/-- The type of every member has a builtin handler. -/
theorem contains_builtin_semanticType (type : FieldType) :
    Registry.builtin.contains type.semanticType = true := by
  induction type with
  | optional type ih => exact ih
  | _ => rfl

theorem contains_builtin_toField (rule : Option Text.NamingRule) (member : Member) :
    Registry.builtin.contains (member.toField rule).type = true := by
  unfold Member.toField field
  dsimp only
  split
  · rfl
  · exact contains_builtin_semanticType member.type

/-- The identity is among the members that are stored. -/
theorem KeepsRules.countP_identity_stored {declaration : Declaration} (h : declaration.KeepsRules) :
    (declaration.members.filter fun member => !member.has "skip").countP (·.has "id") = 1 := by
  rw [List.countP_filter, ← h.one_identity]
  refine List.countP_congr fun member hmem => ?_
  -- Leaving out the members that are skipped leaves out no identity.
  have hstored := (h.members member hmem).identity_stored
  cases hskip : member.has "skip" <;> simp_all

/-- Members with different names make a schema that can fail on names alone. -/
theorem KeepsRules.fitsButForNames {declaration : Declaration} (h : declaration.KeepsRules)
    (hdistinct : (declaration.members.map fun member => plainName member.name).Nodup) :
    declaration.toldSchema.FitsButForNames .builtin where
  nodup_names := by
    have hnames : declaration.toldSchema.fields.map Field.name =
        (declaration.members.filter fun member => !member.has "skip").map
          fun member => plainName member.name := List.map_map
    rw [hnames]
    exact (List.filter_sublist.map _).nodup hdistinct
  one_identity := (List.countP_map ..).trans h.countP_identity_stored
  registered field hmem := by
    obtain ⟨member, -, rfl⟩ := List.mem_map.mp hmem
    exact contains_builtin_toField _ member

/-- **A structure whose members have different names makes a record just if its attributes are
right and exactly one member is the identity, and that one is stored.  The schema has the members
that are not skipped, in order, each as its attributes say; and it resolves against the builtin
types just if its table and storage names are identifiers and no two storage names are equal up to
case, every error being about one of these names.** -/
theorem derive_accepts_and_resolves {declaration : Declaration} (hform : declaration.form = .record)
    (hdistinct : (declaration.members.map fun member => plainName member.name).Nodup) :
    ((∃ derived, derive declaration = .ok derived) ↔ declaration.KeepsRules) ∧
      ∀ derived, derive declaration = .ok derived →
        declaration.Describes derived.shape.schema ∧
          ((∃ table, Table.resolve derived.shape.schema .builtin = .ok table) ↔
            derived.shape.schema.NamesFit) ∧
          ∀ e, Table.resolve derived.shape.schema .builtin = .error e →
            derived.shape.schema.NameFault e := by
  refine ⟨exists_derive_iff hform, fun derived hderived => ?_⟩
  obtain ⟨hrules, hschema⟩ := schema_of_derive hform hderived
  have hfits := hrules.fitsButForNames hdistinct
  rw [hschema]
  refine ⟨hrules.describes, ?_, fun e => hfits.nameFault_of_resolve⟩
  rw [← hfits.wellFormed_iff]
  exact Table.exists_resolve_iff

/-- A declaration with renamed fields, a keyword as a name and a member that is not stored. -/
def orders : Declaration where
  form := .record
  name := "Orders"
  attributes := [⟨"rename_all", .text "PascalCase"⟩, ⟨"table", .text "sales"⟩]
  members :=
    [⟨"number", .int .int64, [⟨"id", .none⟩]⟩,
      ⟨"total", .real, [⟨"currency", .none⟩, ⟨"precision", .numbers [12, 2]⟩]⟩,
      ⟨"buyer", .optional (.int .int64),
        [⟨"reference", .none⟩, ⟨"nullable", .none⟩, ⟨"column", .text "BuyerID"⟩]⟩,
      ⟨"r#type", .text, [⟨"not_null", .none⟩]⟩,
      ⟨"cached", .bool, [⟨"skip", .none⟩]⟩]

theorem orders_accepted_and_resolved :
    (orders.form = .record ∧ (orders.members.map fun member => plainName member.name).Nodup) ∧
      orders.KeepsRules ∧ ∃ derived, derive orders = .ok derived ∧
        orders.Describes derived.shape.schema ∧
        derived.shape.schema.fields.map Field.storageName =
          ["Number", "Total", "BuyerID", "Type"] ∧
        ∃ table, Table.resolve derived.shape.schema .builtin = .ok table := by
  have hdistinct : (orders.members.map fun member => plainName member.name).Nodup := by decide
  obtain ⟨haccepts, hmade⟩ := @derive_accepts_and_resolves orders rfl hdistinct
  have hderive : ∃ derived, derive orders = .ok derived ∧
      derived.shape.schema = orders.toldSchema :=
    ⟨_, rfl, rfl⟩
  obtain ⟨derived, hderived, hschema⟩ := hderive
  obtain ⟨hdescribes, hresolves, -⟩ := hmade derived hderived
  refine ⟨⟨rfl, hdistinct⟩, haccepts.mp ⟨derived, hderived⟩, derived, hderived, hdescribes, ?_, ?_⟩
  · rw [hschema]
    decide
  · rw [hresolves, hschema]
    exact ⟨by decide, by decide, by decide⟩

end Declaration

end RecordSql
