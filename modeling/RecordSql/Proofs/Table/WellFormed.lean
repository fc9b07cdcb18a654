import Mathlib.Data.List.Nodup
import RecordSql.Proofs.Table.Rules

/-!
# Well-formed schemas

What a schema has to be like as a whole, and that the rules ask for just that.  Each rule compares
a field with those before it only; over all fields this comes to names that differ pairwise and one
identity.
-/

namespace RecordSql

/-- What is asked of a schema: plain names, of which no two fields share one, one identity, and a
handler for every type. -/
structure Schema.WellFormed (registry : Registry) (schema : Schema) : Prop where
  tableName : Ident.Plain schema.tableName
  storageNames : ∀ field ∈ schema.fields, Ident.Plain field.storageName
  nodup_foldedNames : (schema.fields.map Field.foldedName).Nodup
  nodup_names : (schema.fields.map Field.name).Nodup
  one_identity : schema.fields.countP (·.isIdentity) = 1
  registered : ∀ field ∈ schema.fields, registry.contains field.type = true

/-! ## Fields side by side -/

namespace Field

/-- What the rules of a field ask of an earlier field. -/
def Beside (earlier field : Field) : Prop :=
  earlier.Apart field ∧ (field.isIdentity = true → earlier.isIdentity = false)

theorem pairwise_apart_iff {fields : List Field} :
    fields.Pairwise Apart ↔ (fields.map foldedName).Nodup ∧ (fields.map name).Nodup := by
  have hapart : Apart = fun a b => a.foldedName ≠ b.foldedName ∧ a.name ≠ b.name := by
    funext a b
    exact propext ⟨fun h => ⟨h.folded_ne, h.name_ne⟩, fun ⟨hfolded, hname⟩ => ⟨hfolded, hname⟩⟩
  rw [hapart, List.pairwise_and_iff, List.Nodup, List.Nodup, List.pairwise_map, List.pairwise_map]

theorem countP_le_one_iff {fields : List Field} :
    fields.countP (·.isIdentity) ≤ 1 ↔
      fields.Pairwise fun earlier field =>
        field.isIdentity = true → earlier.isIdentity = false := by
  induction fields with
  | nil => simp
  | cons field rest ih =>
      rw [List.pairwise_cons, ← ih]
      cases hid : field.isIdentity with
      | false => simp [hid]
      | true =>
          have hnone : rest.countP (·.isIdentity) = 0 ↔ ∀ other ∈ rest, ¬other.isIdentity = true :=
            List.countP_eq_zero
          simp only [List.countP_cons, hid, if_true, imp_false, Bool.true_eq_false]
          rw [← hnone]
          omega

end Field

/-! ## All rules -/

section Rules

variable {schema : Schema} {registry : Registry}

theorem Rule.ofField_hold_iff {earlier : List Field} {field : Field} :
    (∀ rule ∈ ofField earlier field, rule.Holds schema registry) ↔
      (Ident.Plain field.storageName ∧ registry.contains field.type = true) ∧
        ∀ other ∈ earlier, other.Beside field := by
  simp only [ofField, List.forall_mem_cons, Holds, Field.Beside]
  constructor
  · rintro ⟨hplain, hapart, hidentity, hhandler, -⟩
    exact ⟨⟨hplain, hhandler⟩, fun other hother =>
      ⟨hapart other hother, fun hfield => hidentity hfield other hother⟩⟩
  · rintro ⟨⟨hplain, hhandler⟩, hbeside⟩
    exact ⟨hplain, fun other hother => (hbeside other hother).1,
      fun hfield other hother => (hbeside other hother).2 hfield, hhandler, by simp⟩

/-- The rules of fields compare each pair of them once, and each with all that came before. -/
theorem Rule.ofFields_hold_iff {earlier fields : List Field} :
    (∀ rule ∈ ofFields earlier fields, rule.Holds schema registry) ↔
      (∀ field ∈ fields, Ident.Plain field.storageName ∧ registry.contains field.type = true) ∧
        fields.Pairwise Field.Beside ∧ ∀ field ∈ fields, ∀ other ∈ earlier, other.Beside field := by
  induction fields generalizing earlier with
  | nil => simp [ofFields]
  | cons field rest ih =>
      rw [ofFields, List.forall_mem_append, ofField_hold_iff, ih, List.pairwise_cons]
      simp only [List.forall_mem_cons, List.forall_mem_append, forall_and]
      tauto

/-- The rules hold of the well-formed schemas. -/
theorem Schema.rules_hold_iff :
    (∀ rule ∈ schema.rules, rule.Holds schema registry) ↔ schema.WellFormed registry := by
  have hbeside : schema.fields.Pairwise Field.Beside ↔
      ((schema.fields.map Field.foldedName).Nodup ∧ (schema.fields.map Field.name).Nodup) ∧
        schema.fields.countP (·.isIdentity) ≤ 1 := by
    rw [← Field.pairwise_apart_iff, Field.countP_le_one_iff, ← List.pairwise_and_iff]
    rfl
  have hidentity : Rule.identity.Holds schema registry ↔
      0 < schema.fields.countP (·.isIdentity) := List.countP_pos_iff.symm
  simp only [Schema.rules, List.forall_mem_append, Rule.ofFields_hold_iff, hbeside,
    List.forall_mem_singleton, hidentity]
  constructor
  · rintro ⟨htable, ⟨hfields, ⟨⟨hfolded, hnames⟩, hmost⟩, -⟩, hleast⟩
    exact ⟨htable, fun field hmem => (hfields field hmem).1, hfolded, hnames,
      Nat.le_antisymm hmost hleast, fun field hmem => (hfields field hmem).2⟩
  · intro h
    exact ⟨h.tableName, ⟨fun field hmem => ⟨h.storageNames field hmem, h.registered field hmem⟩,
      ⟨⟨h.nodup_foldedNames, h.nodup_names⟩, Nat.le_of_eq h.one_identity⟩, by simp⟩,
      Nat.le_of_eq h.one_identity.symm⟩

end Rules

/-! ## What resolution answers -/

namespace Table

variable {schema : Schema} {registry : Registry} {table : Table}

theorem wellFormed_of_resolve (h : resolve schema registry = .ok table) :
    schema.WellFormed registry ∧ table.Answers registry schema := by
  have hchecked := checked_resolve schema registry
  rw [h] at hchecked
  cases hchecked with
  | passed hrules hgood => exact ⟨Schema.rules_hold_iff.mp hrules, hgood⟩

theorem broken_of_resolve {e : Error} (h : resolve schema registry = .error e) :
    ∃ rule, Rule.FirstBroken schema registry schema.rules rule ∧ rule.Raises schema e := by
  have hchecked := checked_resolve schema registry
  rw [h] at hchecked
  cases hchecked with
  | failed hfirst hraises => exact ⟨_, hfirst, hraises⟩

/-- Resolution gives a table for the well-formed schemas and for no others. -/
theorem exists_resolve_iff :
    (∃ table, resolve schema registry = .ok table) ↔ schema.WellFormed registry := by
  constructor
  · rintro ⟨table, h⟩
    exact (wellFormed_of_resolve h).1
  · intro hwell
    cases h : resolve schema registry with
    | ok table => exact ⟨table, rfl⟩
    | error e =>
        obtain ⟨rule, ⟨before, after, hrules, -, hbroken⟩, -⟩ := broken_of_resolve h
        have hholds := Schema.rules_hold_iff.mpr hwell rule (by simp [hrules])
        exact absurd hholds hbroken

/-! ## The columns of a table -/

/-- The fields of a table around the one that is its identity. -/
theorem Draft.Covers.parts {leading trailing : List Column} {identity : Column}
    {fields : List Field} (h : Covers registry ⟨leading, some (identity, trailing)⟩ fields) :
    ∃ before field after, fields = before ++ field :: after ∧
      List.Forall₂ (Column.Carries registry) leading before ∧ identity.Carries registry field ∧
      List.Forall₂ (Column.Carries registry) trailing after ∧ field.isIdentity = true ∧
      ∀ other ∈ before ++ after, other.isIdentity = false := by
  cases h with
  | found hleading hidentity htrailing hbefore hfield hafter =>
      exact ⟨_, _, _, rfl, hleading, hidentity, htrailing, hfield,
        List.forall_mem_append.mpr ⟨hbefore, hafter⟩⟩

theorem Answers.columns (h : table.Answers registry schema) :
    List.Forall₂ (Column.Carries registry) table.columns schema.fields :=
  h.covers.columns

theorem map_eq_map_of_carries {γ : Type} {f : Column → γ} {g : Field → γ} {columns : List Column}
    {fields : List Field} (h : List.Forall₂ (Column.Carries registry) columns fields)
    (hsame : ∀ (column : Column) (field : Field), column.Carries registry field →
      f column = g field) :
    columns.map f = fields.map g := by
  rw [← List.forall₂_eq_eq_eq, List.forall₂_map_left_iff, List.forall₂_map_right_iff]
  exact h.imp hsame

theorem Answers.map_field (h : table.Answers registry schema) :
    table.columns.map Column.field = schema.fields.map Field.name :=
  map_eq_map_of_carries h.columns fun _ _ => Column.Carries.field_eq

/-- A column is found under its field where no other has it. -/
theorem find?_of_getElem? (hnodup : (table.columns.map Column.field).Nodup) {i : Nat}
    {column : Column} (h : table.columns[i]? = some column) :
    table.find? column.field = some column := by
  obtain ⟨hi, hcolumn⟩ := List.getElem?_eq_some_iff.mp h
  refine List.find?_eq_some_iff_getElem.mpr ⟨beq_self_eq_true _, i, hi, hcolumn, fun j hj => ?_⟩
  rw [Bool.not_eq_true', beq_eq_false_iff_ne]
  intro hsame
  have hmap : (table.columns.map Column.field)[i]? = (table.columns.map Column.field)[j]? := by
    rw [List.getElem?_map, List.getElem?_map, h, List.getElem?_eq_getElem (by omega),
      Option.map_some, Option.map_some, hsame]
  have := (List.getElem?_inj (by rwa [List.length_map]) hnodup).mp hmap
  omega

/-- What a table is that a schema resolves to. -/
structure Realizes (registry : Registry) (schema : Schema) (table : Table) : Prop where
  record_eq : table.record = schema.name
  name_eq : table.name.name = schema.tableName
  columns : List.Forall₂ (Column.Carries registry) table.columns schema.fields
  identity : ∃ (i : Nat) (field : Field), table.columns[i]? = some table.identity ∧
    schema.fields[i]? = some field ∧ field.isIdentity = true
  nonIdentity : List.Forall₂ (Column.Carries registry) table.nonIdentity
    (schema.fields.filter fun field => !field.isIdentity)
  perm : (table.identity :: table.nonIdentity).Perm table.columns
  column_of_declared : ∀ (i : Nat) (field : Field), schema.fields[i]? = some field →
    ∃ column, table.columns[i]? = some column ∧ table.column field.name = .ok column
  column_of_other : ∀ name, name ∉ schema.fields.map Field.name →
    table.column name = .error (.unknownField schema.name name)

theorem Answers.realizes (h : table.Answers registry schema) (hwell : schema.WellFormed registry) :
    table.Realizes registry schema where
  record_eq := h.record_eq
  name_eq := h.name_eq
  columns := h.columns
  identity := by
    obtain ⟨before, field, after, hfields, hleading, -, -, hfield, -⟩ := h.covers.parts
    refine ⟨before.length, field, ?_, by simp [hfields], hfield⟩
    simp [Table.columns, ← hleading.length_eq]
  nonIdentity := by
    obtain ⟨before, field, after, hfields, hleading, -, htrailing, hfield, hothers⟩ :=
      h.covers.parts
    have hfilter : (schema.fields.filter fun field => !field.isIdentity) = before ++ after := by
      rw [hfields, List.filter_append, List.filter_cons_of_neg (by simp [hfield]),
        ← List.filter_append]
      exact List.filter_eq_self.mpr fun other hother => by simp [hothers other hother]
    rw [hfilter]
    exact List.rel_append hleading htrailing
  perm := List.perm_middle.symm
  column_of_declared i field hi := by
    have hnodup : (table.columns.map Column.field).Nodup := by
      rw [h.map_field]
      exact hwell.nodup_names
    obtain ⟨hlt, rfl⟩ := List.getElem?_eq_some_iff.mp hi
    have hlt' : i < table.columns.length := h.columns.length_eq ▸ hlt
    have hcolumn := List.getElem?_eq_getElem hlt'
    refine ⟨table.columns[i], hcolumn, ?_⟩
    have hcarries := (List.forall₂_iff_get.mp h.columns).2 i hlt' hlt
    have hfound := find?_of_getElem? hnodup hcolumn
    rw [show table.columns[i].field = schema.fields[i].name from hcarries.field_eq] at hfound
    rw [column, hfound]
  column_of_other name hname := by
    rw [← h.map_field] at hname
    have hnone : table.find? name = none := by
      refine List.find?_eq_none.mpr fun column hmem hsame => hname ?_
      exact eq_of_beq hsame ▸ List.mem_map_of_mem hmem
    rw [column, hnone, h.record_eq]

/-- A schema resolves just if it is well-formed.  The table has its fields as columns, in order and
with their handlers, and finds each under its field.  Otherwise the error is that of the first rule
that does not hold, and it is about a type just if that is the rule for a handler. -/
theorem resolve_realizes_or_raises (schema : Schema) (registry : Registry) :
    ((∃ table, resolve schema registry = .ok table) ↔ schema.WellFormed registry) ∧
      (∀ table, resolve schema registry = .ok table → table.Realizes registry schema) ∧
      ∀ e, resolve schema registry = .error e →
        ∃ rule, Rule.FirstBroken schema registry schema.rules rule ∧ rule.Raises schema e ∧
          ((∃ fault, e = .unsupportedType fault) ↔ ∃ field, rule = .handler field) ∧
          ((∃ fault, e = .schema fault) ↔ ∀ field, rule ≠ .handler field) := by
  refine ⟨exists_resolve_iff, fun table h => ?_, fun e h => ?_⟩
  · obtain ⟨hwell, hanswers⟩ := wellFormed_of_resolve h
    exact hanswers.realizes hwell
  · obtain ⟨rule, hfirst, hraises⟩ := broken_of_resolve h
    refine ⟨rule, hfirst, hraises, ?_⟩
    cases hraises <;> simp

end Table

namespace Stock

/-- The last field has the storage name of another, up to case, and a type that has no handler. -/
def clashing : Schema where
  name := "Item"
  table := none
  fields :=
    [⟨"ID", .int, some "id", true, .plain⟩, ⟨"Label", .text, none, false, .plain⟩,
      ⟨"label", .custom "lamp", none, false, .plain⟩]

theorem resolve_realizes_or_raises_clashing :
    let clash : Error := .schema (.collision "Item" "label" "Label" "label")
    Table.resolve clashing .builtin = .error clash ∧
      ∃ rule, Rule.FirstBroken clashing .builtin clashing.rules rule ∧ rule.Raises clashing clash ∧
        ∀ field, rule ≠ .handler field := by
  intro clash
  have hresolve : Table.resolve clashing .builtin = .error clash := by rfl
  obtain ⟨-, -, herrors⟩ := Table.resolve_realizes_or_raises clashing .builtin
  obtain ⟨rule, hfirst, hraises, -, hschema⟩ := herrors clash hresolve
  exact ⟨hresolve, rule, hfirst, hraises, hschema.mp ⟨_, rfl⟩⟩

end Stock

end RecordSql
