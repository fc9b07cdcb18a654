import RecordSql.Proofs.Sql.Acceptance
import RecordSql.Proofs.Sql.FirstUse
import RecordSql.Sql.Statement

/-!
# Late binding

A statement may be built with its values or before they are known.  The text is the same either
way, and what is deferred stands in the order of what would be bound: the values can be put in
later, one after another, each in the form that its placeholder was made for.

A predicate is the exception where its text depends on values.  A field of the parameter that
stands as a predicate becomes a constant once it is bound, and a field that is not set turns a
comparison for equality into a test for null.
-/

namespace RecordSql

/-! ## Predicates whose text depends on no value -/

theorem Comparison.isEquality_flip (op : Comparison) : op.flip.isEquality = op.isEquality := by
  cases op <;> rfl

namespace Predicate

/-- The two sides of every comparison for equality, each way round. -/
def equated : Predicate → List (Predicate × Predicate)
  | compare op left right => if op.isEquality then [(left, right), (right, left)] else []
  | join _ left right => left.equated ++ right.equated
  | _ => []

/-- No field of the parameter stands as a predicate, and one that is compared for equality with a
field of the row is set. -/
structure Deferrable (values : FieldValues) (predicate : Predicate) : Prop where
  param_not_mem : ∀ name, param name ∉ predicate.parts
  set_of_equated : ∀ field name value, (param field, row name) ∈ predicate.equated →
    values field = some value → value.isDefault = false

theorem Deferrable.of_join {values : FieldValues} {op : Connective} {left right : Predicate}
    (h : (join op left right).Deferrable values) :
    left.Deferrable values ∧ right.Deferrable values := by
  constructor
  · refine ⟨fun name hmem => h.param_not_mem name (List.mem_append_left _ hmem), ?_⟩
    exact fun field name value hmem => h.set_of_equated field name value
      (List.mem_append_left _ hmem)
  · refine ⟨fun name hmem => h.param_not_mem name (List.mem_append_right _ hmem), ?_⟩
    exact fun field name value hmem => h.set_of_equated field name value
      (List.mem_append_right _ hmem)

end Predicate

/-- Without a parameter a comparison passes the same checks and asks the same, unless it asks about
null because a field is not set. -/
theorem Test.Settled.unbound {table : Table} {values : FieldValues} {op : Comparison}
    {a b : Operand} {test : Test}
    (h : Settled (Sql.Compiler.mk table (some values)).lookup op a b test)
    (hset : ∀ column field value, a = .column column → b = .param field →
      op.isEquality = true → values field = some value → value.isDefault = false) :
    Settled (Sql.Compiler.mk table none).lookup op a b test := by
  have hfree (field : String) : (Sql.Compiler.mk table none).lookup field = .ok none := rfl
  cases h with
  | null => exact .null
  | @unset column field value hlookup hfamily hdefault hop =>
      obtain ⟨_, hparam, hvalue⟩ := Sql.exists_value_of_lookup hlookup
      obtain rfl := Option.some.inj hparam
      rw [hset column field value rfl rfl hop hvalue] at hdefault
      contradiction
  | columns hfamily => exact .columns hfamily
  | columnLiteral hvalue hfamily => exact .columnLiteral hvalue hfamily
  | columnFree hlookup => exact .columnFree (hfree _)
  | columnBound hlookup hfamily hset => exact .columnFree (hfree _)
  | paramLiteral hvalue hlookup hvalues => exact .paramLiteral hvalue (hfree _) (by simp)
  | params hfirst hsecond hvalues => exact .params (hfree _) (hfree _) (by simp)
  | literals hvalue hvalues => exact .literals hvalue hvalues

namespace Sql

section Plans

variable {table : Table} {values : FieldValues}

theorem ofComparison_unbound {op : Comparison} {left right : Predicate} {test : Test}
    (htest : Test.ofComparison table (Compiler.mk table (some values)).lookup op left right =
      .ok test)
    (hdeferrable : (Predicate.compare op left right).Deferrable values) :
    Test.ofComparison table (Compiler.mk table none).lookup op left right = .ok test := by
  obtain ⟨a, b, hleft, hright, hsettled⟩ := Test.settled_of_ofComparison htest
  have hset {x y : Predicate} {c d : RecordSql.Operand} (hx : RecordSql.Operand.Reads table x c)
      (hy : RecordSql.Operand.Reads table y d)
      (hmem : op.isEquality = true → (y, x) ∈ (Predicate.compare op left right).equated)
      (column : Column) (field : String) (value : Value) (hc : c = .column column)
      (hd : d = .param field) (hop : op.isEquality = true) (hvalue : values field = some value) :
      value.isDefault = false := by
    subst hc hd
    cases hy
    cases hx with
    | @column name _ _ => exact hdeferrable.set_of_equated field name value (hmem hop) hvalue
  refine Test.ofComparison_of_settled hleft hright ?_
  rcases hsettled with ⟨horder, hsettled⟩ | ⟨horder, hsettled⟩
  · refine Or.inl ⟨horder, hsettled.unbound fun column field value hb ha hop hvalue => ?_⟩
    rw [Comparison.isEquality_flip] at hop
    exact hset hright hleft (by simp +contextual [Predicate.equated]) column field value hb ha hop
      hvalue
  · exact Or.inr ⟨horder, hsettled.unbound
      (hset hleft hright (by simp +contextual [Predicate.equated]))⟩

/-- What compiles with a parameter compiles to the same plan without one. -/
theorem Compiled.unbound {predicate : Predicate} {plan : Plan}
    (h : Compiled ⟨table, some values⟩ predicate plan) (hdeferrable : predicate.Deferrable values) :
    Compiled ⟨table, none⟩ predicate plan := by
  generalize hcompiler : Compiler.mk table (some values) = compiler at h
  induction h with
  | constant => exact .constant
  | rowField hcolumn hfamily =>
      subst hcompiler
      exact .rowField hcolumn hfamily
  | @boundField name value hlookup =>
      exact absurd (List.mem_singleton_self _) (hdeferrable.param_not_mem name)
  | @freeField name use hlookup huse =>
      exact absurd (List.mem_singleton_self _) (hdeferrable.param_not_mem name)
  | nullTest htest hwanted hside =>
      subst hcompiler
      exact .nullTest (ofComparison_unbound htest hdeferrable) hwanted hside
  | compare htest hfirst hsecond =>
      subst hcompiler
      exact .compare (ofComparison_unbound htest hdeferrable) hfirst hsecond
  | join hleft hright ihLeft ihRight =>
      obtain ⟨hfirst, hsecond⟩ := hdeferrable.of_join
      exact .join (ihLeft hfirst) (ihRight hsecond)

end Plans

/-! ## Two runs over the same uses -/

section Runs

variable {param param' : Option FieldValues} {held held' late late' : Placeholders} {use : Use}
  {uses : List Use}

/-- What a use adds to the names depends on the names only. -/
theorem Issue.issued_eq (h : Issue param held use held') :
    held'.issued = if held.issued.isFresh (use.name held.issued) then
      held.issued.add (use.name held.issued) use.field else held.issued := by
  cases h with
  | again hheld => simp [Issued.isFresh, hheld]
  | bind hfresh hparam hvalue hform => simp [Issued.isFresh, hfresh]
  | defer hfresh hparam => simp [Issued.isFresh, hfresh]

/-- Two runs from the same names on hand out the same names, whatever is bound. -/
theorem Issues.issued_congr (h : Issues param held uses held')
    (hlate : Issues param' late uses late') (hstart : late.issued = held.issued) :
    late'.issued = held'.issued := by
  induction h generalizing late with
  | nil =>
      cases hlate
      exact hstart
  | cons hfirst hrest ih =>
      cases hlate with
      | cons hlateFirst hlateRest =>
          refine ih hlateRest ?_
          rw [hfirst.issued_eq, hlateFirst.issued_eq, hstart]

end Runs

/-! ## What is deferred -/

/-- What is deferred stands in the order of what is bound, under the same names and for the same
fields, and every value has the form that its placeholder was made for. -/
def BoundLater (form : Deferred → Value → Prop) (late : List Deferred) (early : List Binding) :
    Prop :=
  List.Forall₂ (fun deferred binding => deferred.placeholder = binding.name ∧
    deferred.field = binding.field ∧ form deferred binding.value) late early

/-- A predicate compiled without its parameter has the text that it has with the parameter, and
defers what is bound there. -/
structure Fragment.Defers (late early : Fragment) (plan : Plan) (values : FieldValues) : Prop where
  sql_eq : ∀ dialect, late.sql dialect = early.sql dialect
  bindings_eq_nil : late.bindings = []
  deferred_eq_nil : early.deferred = []
  boundLater : BoundLater
    (fun deferred => early.FirstForm plan values deferred.placeholder deferred.field)
    late.deferred early.bindings

/-- Placeholders handed out alike with a parameter and without one. -/
theorem Issues.boundLater {values : FieldValues} {plan : Plan} {held late : Placeholders}
    (h : Issues (some values) Placeholders.empty plan.uses held)
    (hlate : Issues none Placeholders.empty plan.uses late) :
    BoundLater (fun deferred => Fragment.FirstForm
        ⟨plan.expr (Use.name held.issued), held.bindings, held.deferred⟩ plan values
        deferred.placeholder deferred.field)
      late.deferred held.bindings := by
  have haligned := h.aligned (Placeholders.aligned_empty _)
  have halignedLate := hlate.aligned (Placeholders.aligned_empty _)
  -- The names handed out are those of the one list here and of the other there.
  have hentries : held.bindings.map (fun binding => (binding.name, binding.field)) =
      late.deferred.map fun deferred => (deferred.placeholder, deferred.field) := by
    have hissued := h.issued_congr hlate rfl
    rw [haligned.issued_eq, halignedLate.issued_eq, haligned.deferred_eq_nil rfl,
      halignedLate.bindings_eq_nil rfl] at hissued
    simpa using hissued.symm
  have hpairs : List.Forall₂ (fun binding deferred => binding ∈ held.bindings ∧
      (binding.name, binding.field) = (Deferred.placeholder deferred, deferred.field))
      held.bindings late.deferred := by
    rw [List.forall₂_and_left, ← List.forall₂_map_right_iff, ← List.forall₂_map_left_iff,
      List.forall₂_eq_eq_eq]
    exact ⟨fun _ hmem => hmem, hentries⟩
  refine (hpairs.imp ?_).flip
  rintro binding deferred ⟨hmem, hentry⟩
  obtain ⟨hname, hfield⟩ := Prod.mk.inj hentry
  have hform := h.firstForm hmem
  rw [hname, hfield] at hform
  exact ⟨hname.symm, hfield.symm, hform⟩

/-- A predicate whose text depends on no value compiles without the parameter, and defers what is
bound with it. -/
theorem exists_defers_of_compile {table : Table} {values : FieldValues} {predicate : Predicate}
    {early : Fragment} (hdeferrable : predicate.Deferrable values)
    (h : compile table (some values) predicate = .ok early) :
    ∃ plan late, Plan.ofPredicate? table (some values) predicate = some plan ∧
      compile table none predicate = .ok late ∧ late.Defers early plan values := by
  obtain ⟨plan, held, hcompiled, hissues, rfl⟩ := compiled_of_compile h
  obtain ⟨late, hlate⟩ : ∃ late, Issues none Placeholders.empty plan.uses late :=
    exists_issues (fun _ _ => Or.inl rfl) Placeholders.empty
  have hcompile := compile_eq_ok_iff.mpr ⟨plan, late, hcompiled.unbound hdeferrable, hlate, rfl⟩
  refine ⟨plan, _, ofPredicate?_of_compiled hcompiled, hcompile, ?_, ?_, ?_, ?_⟩
  · intro dialect
    simp only [Fragment.sql, hissues.issued_congr hlate rfl]
  · exact (hlate.aligned (Placeholders.aligned_empty _)).bindings_eq_nil rfl
  · exact (hissues.aligned (Placeholders.aligned_empty _)).deferred_eq_nil rfl
  · exact hissues.boundLater hlate

/-! ## Statements -/

/-- A binding of a column's own field, in stored form. -/
def Binding.Holds (values : FieldValues) (column : Column) (binding : Binding) : Prop :=
  ∃ value stored, values column.field = some value ∧ column.serialize value = .ok stored ∧
    binding = .ofColumn column stored

/-- The field of one of some columns, in stored form. -/
def ColumnForm (columns : List Column) (values : FieldValues) (deferred : Deferred)
    (stored : Value) : Prop :=
  ∃ column ∈ columns, ∃ value, deferred = .ofColumn column ∧ values column.field = some value ∧
    column.serialize value = .ok stored

/-- A statement built without its values has the text that it has with them, and defers what is
bound there. -/
structure Statement.Defers (late early : Statement) (sql : TableSql)
    (form : Deferred → Value → Prop) : Prop where
  text_eq : sql.text late.command = sql.text early.command
  bindings_eq_nil : late.bindings = []
  deferred_eq_nil : early.deferred = []
  boundLater : BoundLater form late.deferred early.bindings

namespace TableSql

variable {sql : TableSql} {values : FieldValues}

/-- Columns whose values are bound one after another are what is deferred in their place. -/
theorem boundLater_of_columns {columns : List Column} {bindings : List Binding}
    (h : List.Forall₂ (Binding.Holds values) columns bindings) :
    BoundLater (ColumnForm columns values) (columns.map Deferred.ofColumn) bindings := by
  have hmem := (List.forall₂_and_left columns bindings).mpr ⟨fun _ hmem => hmem, h⟩
  refine List.forall₂_map_left_iff.mpr (hmem.imp ?_)
  rintro column binding ⟨hcolumn, value, stored, hvalue, hstored, rfl⟩
  exact ⟨rfl, rfl, column, hcolumn, value, rfl, hvalue, hstored⟩

/-- What an insert binds is what an insert without values defers. -/
theorem insertDeferred_defers {early : Statement} (h : sql.insert values = .ok early) :
    sql.insertDeferred.Defers early sql (ColumnForm sql.table.nonIdentity values) := by
  obtain ⟨bindings, hbindings, h⟩ := bind_eq_ok_iff.mp h
  obtain rfl := Except.ok.inj h
  refine ⟨rfl, rfl, rfl, boundLater_of_columns ((forall₂_of_mapM hbindings).imp ?_)⟩
  intro column binding hbinding
  unfold bindField at hbinding
  cases hvalue : values column.field with
  | none => simp [hvalue, throw, throwThe, MonadExceptOf.throw] at hbinding
  | some value =>
      rw [hvalue] at hbinding
      obtain ⟨stored, hstored, hbinding⟩ := bind_eq_ok_iff.mp hbinding
      exact ⟨value, stored, hvalue, hstored, (Except.ok.inj hbinding).symm⟩

/-- The field of a column that is set, or the identity of the row, in stored form. -/
def UpdateForm (table : Table) (values : FieldValues) (id : Int64) (deferred : Deferred)
    (stored : Value) : Prop :=
  ColumnForm table.nonIdentity values deferred stored ∨
    ColumnForm [table.identity] (fun _ => some (.int id)) deferred stored

theorem mem_assigned_iff {column : Column} {value : Value} :
    (column, value) ∈ sql.assigned values ↔
      column ∈ sql.table.nonIdentity ∧ values column.field = some value := by
  unfold assigned
  rw [List.mem_filterMap]
  constructor
  · rintro ⟨other, hmem, hvalue⟩
    obtain ⟨found, hfound, hentry⟩ := Option.map_eq_some_iff.mp hvalue
    obtain ⟨rfl, rfl⟩ := Prod.mk.inj hentry
    exact ⟨hmem, hfound⟩
  · rintro ⟨hmem, hvalue⟩
    exact ⟨column, hmem, by rw [hvalue]; rfl⟩

/-- The columns that are set are those of the fields that have values. -/
theorem map_fst_assigned (sql : TableSql) (values : FieldValues) :
    (sql.assigned values).map (·.1) =
      sql.table.nonIdentity.filter fun column => (values column.field).isSome := by
  rw [assigned, List.map_filterMap, ← List.filterMap_eq_filter]
  refine List.filterMap_congr fun column _ => ?_
  cases hvalue : values column.field <;> simp [Option.guard, hvalue]

/-- The bindings of the columns that are set. -/
theorem forall₂_of_assigned {bindings : List Binding}
    (h : ((sql.assigned values).mapM fun (column, value) => do
      return Binding.ofColumn column (← column.serialize value)) = .ok bindings) :
    List.Forall₂ (Binding.Holds values) ((sql.assigned values).map (·.1)) bindings := by
  have hmem := (List.forall₂_and_left _ bindings).mpr ⟨fun _ hmem => hmem, forall₂_of_mapM h⟩
  refine List.forall₂_map_left_iff.mpr (hmem.imp ?_)
  rintro ⟨column, value⟩ binding ⟨hassigned, hbinding⟩
  obtain ⟨stored, hstored, hbinding⟩ := bind_eq_ok_iff.mp hbinding
  exact ⟨value, stored, (mem_assigned_iff.mp hassigned).2, hstored, (Except.ok.inj hbinding).symm⟩

/-- What an update binds is what an update without values defers, the identity last, if the schema
names the fields that have values. -/
theorem exists_updateDeferred_defers {payload : Schema} {id : Int64} {early : Statement}
    (hnamed : ∀ column ∈ sql.table.nonIdentity,
      (values column.field).isSome = payload.fields.any (·.name == column.field))
    (h : sql.update values id = .ok early) :
    ∃ late, sql.updateDeferred payload = .ok late ∧
      late.Defers early sql (UpdateForm sql.table values id) ∧
      late.deferred.getLast? = some (.ofColumn sql.table.identity) := by
  obtain ⟨bindings, hbindings, h⟩ := bind_eq_ok_iff.mp h
  obtain ⟨identity, hidentity, h⟩ := bind_eq_ok_iff.mp h
  obtain ⟨stored, hstored, hidentity⟩ := bind_eq_ok_iff.mp hidentity
  obtain ⟨command, hcommand, h⟩ := bind_eq_ok_iff.mp h
  obtain rfl := Except.ok.inj h
  obtain rfl := Except.ok.inj hidentity
  have hassigned := forall₂_of_assigned hbindings
  have hcolumns : (sql.assigned values).map (·.1) = sql.table.nonIdentity.filter fun column =>
      payload.fields.any (·.name == column.field) := by
    rw [map_fst_assigned]
    exact List.filter_congr hnamed
  rw [hcolumns] at hcommand hassigned
  refine ⟨_, bind_eq_ok_iff.mpr ⟨command, hcommand, rfl⟩, ⟨rfl, rfl, rfl, ?_⟩, ?_⟩
  · rw [List.map_append]
    refine List.rel_append ?_ ?_
    · refine (boundLater_of_columns hassigned).imp ?_
      rintro deferred binding ⟨hname, hfield, column, hmem, hform⟩
      exact ⟨hname, hfield, Or.inl ⟨column, (List.mem_filter.mp hmem).1, hform⟩⟩
    · have hlast : BoundLater (ColumnForm [sql.table.identity] fun _ => some (.int id))
          [.ofColumn sql.table.identity] [.ofColumn sql.table.identity stored] :=
        boundLater_of_columns (.cons ⟨.int id, stored, rfl, hstored, rfl⟩ .nil)
      refine hlast.imp ?_
      rintro deferred binding ⟨hname, hfield, hform⟩
      exact ⟨hname, hfield, Or.inr hform⟩
  · simp

end TableSql

/-! ## Agreement of late and early binding -/

end Sql

namespace Stock

theorem deferrable_inReach : inReach.Deferrable bounds where
  param_not_mem name := by simp [inReach, Predicate.parts, Predicate.param, Predicate.row]
  set_of_equated field name value hmem hvalue := by
    simp only [inReach, Predicate.equated, Comparison.isEquality, Predicate.row, Predicate.param,
      Bool.false_eq_true, if_false, if_true, List.nil_append, List.append_nil, List.mem_cons,
      Prod.mk.injEq, List.not_mem_nil, or_false, Predicate.field.injEq, reduceCtorEq, and_false,
      and_true] at hmem
    obtain ⟨rfl, rfl⟩ := hmem
    obtain rfl := Option.some.inj hvalue
    rfl

/-- The insert of the item. -/
def inserted : Sql.Statement where
  command := .insert
  bindings :=
    [⟨labelName, "Label", .text "lamp"⟩, ⟨valueName, "Value", .int 5⟩,
      ⟨priceName, "Price", .real (Binary64.ofInt 2)⟩, ⟨ownerName, "Owner", .int 7⟩,
      ⟨activeName, "Active", .int 1⟩]
  deferred := []

/-- Some fields of an item, in another order. -/
def repriced : FieldValues :=
  FieldMap.get [("Price", .int 3), ("Label", .text "lantern")]

/-- The fields that are set. -/
def pricing : Schema where
  name := "Pricing"
  table := none
  fields := [⟨"Price", .real, none, false, .plain⟩, ⟨"Label", .text, none, false, .plain⟩]

def updated : Sql.Statement where
  command := .update [labelName, priceName]
  bindings :=
    [⟨labelName, "Label", .text "lantern"⟩, ⟨priceName, "Price", .real (Binary64.ofInt 3)⟩,
      ⟨identityName, "ID", .int 4⟩]
  deferred := []

theorem insert_row : Sql.TableSql.insert ⟨table, .sqlite⟩ row = .ok inserted := by
  rfl

theorem update_repriced : Sql.TableSql.update ⟨table, .sqlite⟩ repriced 4 = .ok updated := by
  rfl

theorem isSome_repriced (column : Column) (hmem : column ∈ table.nonIdentity) :
    (repriced column.field).isSome = pricing.fields.any (·.name == column.field) := by
  simp only [table, Table.nonIdentity, List.nil_append, List.mem_cons, List.not_mem_nil, or_false]
    at hmem
  rcases hmem with rfl | rfl | rfl | rfl | rfl <;> rfl

end Stock

end RecordSql
