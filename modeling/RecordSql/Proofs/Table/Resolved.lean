import RecordSql.Proofs.Table.WellFormed

/-!
# Tables that a schema resolves to

What resolution guarantees of every table that it answers with: each column has the handler that
is registered for its type, and no two columns have one field or, up to case, one storage name.
-/

namespace RecordSql

/-- The builtin registry has the builtin handler of every type. -/
theorem Registry.handler?_builtin (type : SemanticType) :
    Registry.builtin.handler? type = Handler.builtin? type := by
  cases type with
  | custom name => simp [builtin, builtinTypes, Handler.builtin?, handler?, register, empty]
  | _ => rfl

namespace Table

/-- What is known of the columns of a table. -/
structure Sound (registry : Registry) (columns : List Column) : Prop where
  handler_eq : ∀ column ∈ columns, registry.handler? column.type = some column.handler
  distinct : columns.Pairwise fun a b =>
    a.name.sameIgnoringCase b.name = false ∧ a.field ≠ b.field

/-- In a table of the builtin registry every column has the builtin handler of its type. -/
theorem Sound.builtin?_eq {columns : List Column} (h : Sound .builtin columns) :
    ∀ column ∈ columns, Handler.builtin? column.type = some column.handler := by
  intro column hmem
  rw [← Registry.handler?_builtin]
  exact h.handler_eq column hmem

/-- The columns of a table are sound where its schema is well-formed. -/
theorem Answers.sound {schema : Schema} {registry : Registry} {table : Table}
    (h : table.Answers registry schema) (hwell : schema.WellFormed registry) :
    Sound registry table.columns where
  handler_eq column hmem := by
    obtain ⟨field, -, hcarries⟩ := exists_of_mem_right h.columns.flip hmem
    rw [hcarries.type_eq]
    exact hcarries.handler_eq
  distinct := by
    have hfolded : table.columns.map (fun column => column.name.name.toList.map Char.toLower) =
        schema.fields.map Field.foldedName :=
      map_eq_map_of_carries h.columns fun column field hcarries => by
        rw [hcarries.name_eq, Field.foldedName]
    have hnames := List.pairwise_map.mp (hfolded ▸ hwell.nodup_foldedNames)
    have hfields := List.pairwise_map.mp (h.map_field ▸ hwell.nodup_names)
    exact (hnames.and hfields).imp fun ⟨hname, hfield⟩ => ⟨beq_eq_false_iff_ne.mpr hname, hfield⟩

/-- The columns of a resolved table are sound. -/
theorem sound_of_resolve {schema : Schema} {registry : Registry} {table : Table}
    (h : resolve schema registry = .ok table) : Sound registry table.columns := by
  obtain ⟨hwell, hanswers⟩ := wellFormed_of_resolve h
  exact hanswers.sound hwell

/-! ## Looking columns up -/

theorem mem_columns_iff {table : Table} {column : Column} :
    column ∈ table.columns ↔ column = table.identity ∨ column ∈ table.nonIdentity := by
  simp only [columns, nonIdentity, List.mem_append, List.mem_cons]
  exact or_left_comm

theorem mem_and_field_of_find? {table : Table} {field : String} {column : Column}
    (h : table.find? field = some column) : column ∈ table.columns ∧ column.field = field := by
  have hfield := List.find?_some h
  exact ⟨List.mem_of_find?_eq_some h, eq_of_beq hfield⟩

/-- Columns of one storage name are one column. -/
theorem Sound.eq_of_name_eq {registry : Registry} {columns : List Column} {a b : Column}
    (h : Sound registry columns) (ha : a ∈ columns) (hb : b ∈ columns) (hname : a.name = b.name) :
    a = b := by
  obtain ⟨-, hdistinct⟩ := h
  induction hdistinct with
  | nil => simp at ha
  | @cons first rest hfirst hrest ih =>
      have hne {other : Column} (hmem : other ∈ rest) : first.name ≠ other.name := by
        intro heq
        have hcase := (hfirst other hmem).1
        simp [heq, Ident.sameIgnoringCase] at hcase
      rcases List.mem_cons.mp ha with rfl | ha' <;> rcases List.mem_cons.mp hb with rfl | hb'
      · rfl
      · exact absurd hname (hne hb')
      · exact absurd hname.symm (hne ha')
      · exact ih ha' hb'

/-- The columns have different fields. -/
theorem Sound.nodup_fields {registry : Registry} {columns : List Column}
    (h : Sound registry columns) : (columns.map Column.field).Nodup :=
  List.pairwise_map.mpr (h.distinct.imp And.right)

/-- Every column is found under its field. -/
theorem Sound.find?_eq {registry : Registry} {table : Table} {column : Column}
    (h : Sound registry table.columns) (hmem : column ∈ table.columns) :
    table.find? column.field = some column := by
  obtain ⟨i, hi⟩ := List.getElem?_of_mem hmem
  exact find?_of_getElem? h.nodup_fields hi

/-- No other column has the field of the identity. -/
theorem Sound.field_ne_identity {registry : Registry} {table : Table} {column : Column}
    (h : Sound registry table.columns) (hmem : column ∈ table.nonIdentity) :
    column.field ≠ table.identity.field := by
  have hnodup := h.nodup_fields
  rw [columns, List.map_append, List.map_cons, List.nodup_append, List.nodup_cons] at hnodup
  obtain ⟨-, ⟨htrailing, -⟩, hleading⟩ := hnodup
  rcases List.mem_append.mp hmem with hmem | hmem
  · exact hleading _ (List.mem_map_of_mem hmem) _ List.mem_cons_self
  · intro heq
    exact htrailing (heq ▸ List.mem_map_of_mem hmem)

end Table

/-! ## A table to look at -/

namespace Stock

def identityName : Ident := ⟨"id", by decide⟩

def labelName : Ident := ⟨"Label", by decide⟩

def valueName : Ident := ⟨"Value", by decide⟩

def priceName : Ident := ⟨"Price", by decide⟩

def ownerName : Ident := ⟨"Owner", by decide⟩

def activeName : Ident := ⟨"Active", by decide⟩

/-- Items with a price and an owner, whose identity has a storage name of its own. -/
def schema : Schema where
  name := "Item"
  table := none
  fields :=
    [⟨"ID", .int, some "id", true, .plain⟩, ⟨"Label", .text, none, false, .plain⟩,
      ⟨"Value", .int, none, false, .plain⟩, ⟨"Price", .real, none, false, .plain⟩,
      ⟨"Owner", .ref, none, false, .plain⟩, ⟨"Active", .bool, none, false, .plain⟩]

def table : Table where
  record := "Item"
  name := ⟨"Item", by decide⟩
  leading := []
  identity := ⟨"ID", identityName, .int, .plain, .int⟩
  trailing :=
    [⟨"Label", labelName, .text, .plain, .text⟩, ⟨"Value", valueName, .int, .plain, .int⟩,
      ⟨"Price", priceName, .real, .plain, .real⟩, ⟨"Owner", ownerName, .ref, .plain, .ref⟩,
      ⟨"Active", activeName, .bool, .plain, .bool⟩]

theorem resolve_schema : Table.resolve schema .builtin = .ok table := by
  rfl

end Stock

end RecordSql
