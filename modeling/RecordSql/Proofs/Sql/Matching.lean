import RecordSql.Proofs.Sql.Acceptance
import RecordSql.Proofs.Sql.Correspondence
import RecordSql.Proofs.Table.Stored
import RecordSql.Sql.Statement

/-!
# Statements by example

An example stands for one equation for each column that it sets.  It compiles exactly if each of
its values can be compared with its column; then every equation has the placeholder of its column,
under a name without a number, and no equation becomes a test for null.
-/

namespace RecordSql

/-! ## The columns that an example sets -/

/-- The columns other than the identity that an example sets, in order of declaration. -/
def Table.setColumns (table : Table) (example? : FieldValues) : List Column :=
  table.nonIdentity.filter fun column => (example? column.field).any fun value => !value.isDefault

namespace Column

/-- The row's value equals the parameter's. -/
def equation (column : Column) : Predicate :=
  .compare .eq (.row column.field) (.param column.field)

/-- A value that the column can be compared with: it is of the column's family, and it is finite
if it is a real. -/
structure Takes (column : Column) (value : Value) : Prop where
  accepts : column.family.accepts value = true
  isFinite : ∀ real, value = .real real → real.isFinite = true

/-- An example asks for a value of the column, in the form that the column compares with. -/
def Asks (column : Column) (example? : FieldValues) (operand : Value) : Prop :=
  ∃ value, example? column.field = some value ∧ column.serializeOperand value = .ok operand

end Column

/-- Every value that an example sets can be compared with its column. -/
def Table.TakesExample (table : Table) (example? : FieldValues) : Prop :=
  ∀ column ∈ table.setColumns example?, ∀ value, example? column.field = some value →
    column.Takes value

theorem Predicate.matching_eq (table : Table) (example? : FieldValues) :
    matching table example? = all ((table.setColumns example?).map Column.equation) := by
  refine congrArg (fun columns : List Column => all (columns.map Column.equation)) ?_
  refine List.filter_congr fun column _ => ?_
  cases example? column.field <;> rfl

section Columns

variable {table : Table} {example? : FieldValues} {column : Column}

theorem Table.mem_setColumns_iff :
    column ∈ table.setColumns example? ↔ column ∈ table.nonIdentity ∧
      ∃ value, example? column.field = some value ∧ value.isDefault = false := by
  rw [setColumns, List.mem_filter]
  cases example? column.field <;> simp

/-- No two columns that an example sets have one storage name. -/
theorem Table.Sound.nodup_names {registry : Registry} (h : Table.Sound registry table.columns)
    (example? : FieldValues) : ((table.setColumns example?).map Column.name).Nodup := by
  have hsublist : (table.setColumns example?).Sublist table.columns :=
    List.filter_sublist.trans
      ((List.sublist_cons_self table.identity table.trailing).append_left table.leading)
  refine List.pairwise_map.mpr ((h.distinct.sublist hsublist).imp ?_)
  rintro a b ⟨hname, -⟩ heq
  simp [heq, Ident.sameIgnoringCase] at hname

end Columns

namespace Sql

/-! ## The plan of an example -/

/-- The use of an example's value, opposite to its column. -/
def Use.ofColumn (column : Column) : Use :=
  ⟨column.name, some column, column.field⟩

namespace Plan

def equation (column : Column) : Plan :=
  .compare .eq (.column column) (.param (.ofColumn column))

/-- One equation for each column, joined from the left; without columns every row is meant. -/
def conjunction : List Column → Plan
  | [] => .constant true
  | first :: rest =>
      rest.foldl (fun plan column => .join .and plan (equation column)) (equation first)

@[simp] theorem uses_equation (column : Column) : (equation column).uses = [.ofColumn column] := rfl

theorem uses_foldl (start : Plan) (columns : List Column) :
    (columns.foldl (fun plan column => .join .and plan (equation column)) start).uses =
      start.uses ++ columns.map Use.ofColumn := by
  induction columns generalizing start with
  | nil => simp
  | cons column rest ih => simp [ih, uses]

@[simp] theorem uses_conjunction (columns : List Column) :
    (conjunction columns).uses = columns.map Use.ofColumn := by
  cases columns with
  | nil => rfl
  | cons first rest => simp [conjunction, uses_foldl]

end Plan

section Compilation

variable {table : Table} {example? : FieldValues} {column : Column} {value : Value} {plan : Plan}

theorem lookup_of_value (table : Table) {name : String} (h : example? name = some value) :
    (Compiler.mk table (some example?)).lookup name = .ok (some value) :=
  map_eq_ok_iff.mpr ⟨value, boundField_eq_ok_iff.mpr h, rfl⟩

/-- The equation of a column compiles just if its value is of the column's family.  It is no test
for null, since the value is set. -/
theorem compiled_equation_iff (hcolumn : table.find? column.field = some column)
    (hvalue : example? column.field = some value) (hset : value.isDefault = false) :
    Compiled ⟨table, some example?⟩ column.equation plan ↔
      column.family.accepts value = true ∧ plan = .equation column := by
  have hlookup := lookup_of_value table hvalue
  have hsame {found : Column} (h : table.find? column.field = some found) : found = column :=
    Option.some.inj (h.symm.trans hcolumn)
  -- A column stands before a parameter, so the operands are in order as they are written.
  have hsettled {test : Test} (htest : Test.ofComparison table
      (Compiler.mk table (some example?)).lookup .eq (.row column.field) (.param column.field) =
        .ok test) :
      Test.Settled (Compiler.mk table (some example?)).lookup .eq (.column column)
        (.param column.field) test := by
    obtain ⟨a, b, ha, hb, ⟨horder, -⟩ | ⟨-, hsettled⟩⟩ := Test.settled_of_ofComparison htest
    · cases ha
      cases hb
      simp [Operand.rank] at horder
    · cases ha with
      | column hfound =>
          cases hb
          exact hsame hfound ▸ hsettled
  constructor
  · intro h
    cases h with
    | nullTest htest hwanted hside =>
        cases hsettled htest with
        | unset hbound hfamily hdefault hop =>
            rw [hlookup] at hbound
            obtain rfl := Option.some.inj (Except.ok.inj hbound)
            rw [hset] at hdefault
            contradiction
    | compare htest hfirst hsecond =>
        cases hsettled htest with
        | columnFree hbound =>
            simp [hlookup] at hbound
        | columnBound hbound hfamily hasked =>
            rw [hlookup] at hbound
            obtain rfl := Option.some.inj (Except.ok.inj hbound)
            obtain rfl := Option.some.inj hfirst
            obtain rfl := Option.some.inj hsecond
            exact ⟨hfamily, rfl⟩
  · rintro ⟨hfamily, rfl⟩
    refine .compare (Test.ofComparison_of_settled (.column hcolumn) .param
      (Or.inr ⟨Nat.zero_le _, .columnBound hlookup hfamily ?_⟩)) rfl rfl
    simp [hset]

/-- A join from the left compiles just if its parts do. -/
theorem compiled_foldl_iff {compiler : Compiler} {accepted : Column → Prop}
    {columns : List Column} (hequation : ∀ column ∈ columns, ∀ plan,
      Compiled compiler column.equation plan ↔ accepted column ∧ plan = .equation column)
    {start : Predicate} :
    Compiled compiler ((columns.map Column.equation).foldl (.join .and) start) plan ↔
      ∃ first, Compiled compiler start first ∧ (∀ column ∈ columns, accepted column) ∧
        plan = columns.foldl (fun plan column => .join .and plan (.equation column)) first := by
  induction columns generalizing start with
  | nil => simp
  | cons column rest ih =>
      obtain ⟨hcolumn, hrest⟩ := List.forall_mem_cons.mp hequation
      rw [List.map_cons, List.foldl_cons, ih hrest]
      simp only [List.forall_mem_cons, List.foldl_cons]
      constructor
      · rintro ⟨joined, hjoined, haccepted, rfl⟩
        cases hjoined with
        | join hleft hright =>
            obtain ⟨hfirst, rfl⟩ := (hcolumn _).mp hright
            exact ⟨_, hleft, ⟨hfirst, haccepted⟩, rfl⟩
      · rintro ⟨first, hfirst, ⟨hhead, haccepted⟩, rfl⟩
        exact ⟨_, .join hfirst ((hcolumn _).mpr ⟨hhead, rfl⟩), haccepted, rfl⟩

theorem compiled_all_iff {compiler : Compiler} {accepted : Column → Prop}
    {columns : List Column} (hequation : ∀ column ∈ columns, ∀ plan,
      Compiled compiler column.equation plan ↔ accepted column ∧ plan = .equation column) :
    Compiled compiler (.all (columns.map Column.equation)) plan ↔
      (∀ column ∈ columns, accepted column) ∧ plan = .conjunction columns := by
  cases columns with
  | nil =>
      constructor
      · rintro ⟨⟩
        exact ⟨by simp, rfl⟩
      · rintro ⟨-, rfl⟩
        exact .constant
  | cons column rest =>
      obtain ⟨hcolumn, hrest⟩ := List.forall_mem_cons.mp hequation
      rw [List.forall_mem_cons]
      refine (compiled_foldl_iff hrest).trans ?_
      constructor
      · rintro ⟨first, hfirst, haccepted, rfl⟩
        obtain ⟨hhead, rfl⟩ := (hcolumn _).mp hfirst
        exact ⟨⟨hhead, haccepted⟩, rfl⟩
      · rintro ⟨⟨hhead, haccepted⟩, rfl⟩
        exact ⟨_, (hcolumn _).mpr ⟨hhead, rfl⟩, haccepted, rfl⟩

end Compilation

/-! ## The placeholders of an example -/

/-- A binding has the value that an example asks of a column, under the column's own name. -/
def Binding.Answers (example? : FieldValues) (column : Column) (binding : Binding) : Prop :=
  ∃ operand, column.Asks example? operand ∧ binding = .ofColumn column operand

section Placeholders

variable {example? : FieldValues} {held held' : Placeholders} {column : Column}
  {columns : List Column}

/-- A name that is free is handed out without a number. -/
theorem Use.name_ofColumn {issued : Issued} (h : issued.lookup column.name = none) :
    (Use.ofColumn column).name issued = column.name := by
  refine (Issued.name_eq_candidate (Nat.le_refl 1) ?_ fun m hm hlt => by omega).trans rfl
  simp [Use.ofColumn, Issued.admits, Issued.candidate, h]

/-- The use of a free name binds it. -/
theorem Issue.ofColumn (h : Issue (some example?) held (.ofColumn column) held')
    (hfree : held.issued.lookup column.name = none) :
    ∃ binding, Binding.Answers example? column binding ∧
      held' = ⟨held.issued.add column.name column.field, held.bindings ++ [binding],
        held.deferred⟩ := by
  have hname := Use.name_ofColumn hfree
  cases h with
  | again hheld =>
      rw [hname, hfree] at hheld
      contradiction
  | bind hfresh hparam hvalue hform =>
      obtain rfl := Option.some.inj hparam
      rw [hname]
      exact ⟨_, ⟨_, ⟨_, hvalue, hform⟩, rfl⟩, rfl⟩
  | defer hfresh hparam => contradiction

theorem lookup_add_of_ne {issued : Issued} {name other : Ident} {field : String}
    (hfree : issued.lookup other = none) (hne : other ≠ name) :
    (issued.add name field).lookup other = none := by
  rw [Issued.add, List.lookup_append, hfree]
  simp [List.lookup_cons, beq_eq_false_iff_ne.mpr hne]

/-- Uses of different free names bind all of them, in order, and none gets a number. -/
theorem Issues.ofColumns
    (h : Issues (some example?) held (columns.map Use.ofColumn) held')
    (hfree : ∀ column ∈ columns, held.issued.lookup column.name = none)
    (hnodup : (columns.map Column.name).Nodup) :
    (∃ bindings, List.Forall₂ (Binding.Answers example?) columns bindings ∧
      held'.bindings = held.bindings ++ bindings) ∧
      ∀ column ∈ columns, (Use.ofColumn column).name held'.issued = column.name := by
  induction columns generalizing held with
  | nil =>
      cases h
      exact ⟨⟨[], .nil, by simp⟩, by simp⟩
  | cons column rest ih =>
      obtain ⟨hhead, htail⟩ := List.forall_mem_cons.mp hfree
      obtain ⟨hnotMem, hrestNodup⟩ := List.nodup_cons.mp hnodup
      cases h with
      | cons hfirst hrest =>
          have hname := (hfirst.name_eq hrest.issued_extends).trans (Use.name_ofColumn hhead)
          obtain ⟨binding, hbinding, rfl⟩ := hfirst.ofColumn hhead
          -- The name that was handed out is none of those that follow.
          have hrestFree : ∀ other ∈ rest,
              (held.issued.add column.name column.field).lookup other.name = none :=
            fun other hother => lookup_add_of_ne (htail other hother) fun heq =>
              hnotMem (heq ▸ List.mem_map_of_mem hother)
          obtain ⟨⟨bindings, hbindings, hlast⟩, hnames⟩ := ih hrest hrestFree hrestNodup
          refine ⟨⟨binding :: bindings, .cons hbinding hbindings, ?_⟩,
            List.forall_mem_cons.mpr ⟨hname, hnames⟩⟩
          simp [hlast]

end Placeholders

/-! ## The text of an example -/

namespace TableSql

variable (sql : TableSql)

/-- A column that equals the placeholder of its name. -/
def equationText (column : Column) : String :=
  "(" ++ sql.columnText column ++ " = " ++ sql.mark column.name ++ ")"

/-- Equations joined from the left, each join in parentheses of its own. -/
def conjunctionText : List Column → String
  | [] => "1"
  | first :: rest =>
      rest.foldl (fun text column => "(" ++ text ++ " AND " ++ sql.equationText column ++ ")")
        (sql.equationText first)

theorem render_equation (column : Column) :
    ((Plan.equation column).expr Use.base).render sql.dialect = sql.equationText column := by
  have hsymbol : " = " = " " ++ "=" ++ " " := by decide
  rw [Plan.equation, Plan.expr, Expr.render, equationText, hsymbol]
  simp only [String.append_assoc]
  rfl

theorem render_join (plan : Plan) (column : Column) :
    ((Plan.join .and plan (.equation column)).expr Use.base).render sql.dialect =
      "(" ++ (plan.expr Use.base).render sql.dialect ++ " AND " ++ sql.equationText column ++
        ")" := by
  have hsymbol : " AND " = " " ++ "AND" ++ " " := by decide
  rw [Plan.expr, Expr.render, render_equation, hsymbol]
  simp only [String.append_assoc]
  rfl

/-- A plan is written with the names that its uses ask for. -/
theorem render_conjunction (columns : List Column) :
    ((Plan.conjunction columns).expr Use.base).render sql.dialect =
      sql.conjunctionText columns := by
  cases columns with
  | nil => rfl
  | cons first rest =>
      rw [Plan.conjunction, conjunctionText, ← sql.render_equation]
      exact (List.foldl_hom (fun plan : Plan => (plan.expr Use.base).render sql.dialect)
        fun plan column => (sql.render_join plan column).symm).symm

/-- What a statement by example is, whose text starts with a keyword and the table: all its
placeholders are bound, one for each column that the example sets, and its condition is one
equation for each of them. -/
structure StatesExample (front : String) (example? : FieldValues) (statement : Statement) :
    Prop where
  deferred_eq : statement.deferred = []
  bindings : List.Forall₂ (Binding.Answers example?) (sql.table.setColumns example?)
    statement.bindings
  text_eq : sql.text statement.command =
    front ++ " WHERE " ++ sql.conjunctionText (sql.table.setColumns example?) ++ ";"

end TableSql

/-! ## Compilation of an example -/

section Example

variable {table : Table} (hsound : Table.Sound .builtin table.columns) (example? : FieldValues)

include hsound

/-- An example has its plan just if its values are of the families of their columns. -/
theorem compiled_matching_iff {plan : Plan} :
    Compiled ⟨table, some example?⟩ (Predicate.matching table example?) plan ↔
      (∀ column ∈ table.setColumns example?, ∀ value, example? column.field = some value →
        column.family.accepts value = true) ∧
      plan = .conjunction (table.setColumns example?) := by
  rw [Predicate.matching_eq]
  refine compiled_all_iff fun column hmem plan => ?_
  obtain ⟨hother, value, hvalue, hset⟩ := Table.mem_setColumns_iff.mp hmem
  rw [compiled_equation_iff (hsound.find?_eq (Table.mem_columns_iff.mpr (Or.inr hother))) hvalue
    hset]
  simp [hvalue]

/-- An example compiles just if all its values can be compared. -/
theorem exists_compile_matching_iff :
    (∃ fragment, compile table (some example?) (Predicate.matching table example?) =
      .ok fragment) ↔ table.TakesExample example? := by
  have hserializes {column : Column} (hmem : column ∈ table.setColumns example?) {value : Value}
      (haccepts : column.family.accepts value = true) :=
    exists_serializeOperand_iff (hsound.builtin?_eq column
      (Table.mem_columns_iff.mpr (Or.inr (Table.mem_setColumns_iff.mp hmem).1))) haccepts
  constructor
  · rintro ⟨fragment, h⟩
    obtain ⟨plan, held, hcompiled, hissues, -⟩ := compile_eq_ok_iff.mp h
    obtain ⟨haccepts, rfl⟩ := (compiled_matching_iff hsound example?).mp hcompiled
    rw [Plan.uses_conjunction] at hissues
    obtain ⟨⟨bindings, hbindings, -⟩, -⟩ :=
      hissues.ofColumns (by simp [Placeholders.empty]) (hsound.nodup_names example?)
    intro column hmem value hvalue
    obtain ⟨binding, -, operand, ⟨other, hother, hoperand⟩, -⟩ :=
      exists_of_mem_right hbindings.flip hmem
    obtain rfl := Option.some.inj (hvalue.symm.trans hother)
    have haccepted := haccepts column hmem value hvalue
    exact ⟨haccepted, (hserializes hmem haccepted).mp ⟨operand, hoperand⟩⟩
  · intro htakes
    have hformed : ∀ use ∈ (Plan.conjunction (table.setColumns example?)).uses,
        some example? = none ∨ use.Formed (some example?) := by
      rw [Plan.uses_conjunction]
      intro use huse
      obtain ⟨column, hmem, rfl⟩ := List.mem_map.mp huse
      obtain ⟨-, value, hvalue, -⟩ := Table.mem_setColumns_iff.mp hmem
      obtain ⟨haccepts, hfinite⟩ := htakes column hmem value hvalue
      obtain ⟨operand, hoperand⟩ := (hserializes hmem haccepts).mpr hfinite
      exact Or.inr ⟨example?, value, operand, rfl, hvalue, hoperand⟩
    obtain ⟨held, hissues⟩ := exists_issues hformed Placeholders.empty
    have hcompiled := (compiled_matching_iff hsound example?).mpr
      ⟨fun column hmem value hvalue => (htakes column hmem value hvalue).accepts, rfl⟩
    exact ⟨_, compile_eq_ok_iff.mpr ⟨_, held, hcompiled, hissues, rfl⟩⟩

/-- What an example compiles to. -/
theorem of_compile_matching {fragment : Fragment}
    (h : compile table (some example?) (Predicate.matching table example?) = .ok fragment) :
    fragment.deferred = [] ∧
      List.Forall₂ (Binding.Answers example?) (table.setColumns example?) fragment.bindings ∧
      fragment.expr = (Plan.conjunction (table.setColumns example?)).expr Use.base := by
  obtain ⟨plan, held, hcompiled, hissues, rfl⟩ := compile_eq_ok_iff.mp h
  obtain ⟨-, rfl⟩ := (compiled_matching_iff hsound example?).mp hcompiled
  have haligned := hissues.aligned (Placeholders.aligned_empty (some example?))
  rw [Plan.uses_conjunction] at hissues
  obtain ⟨⟨bindings, hbindings, hheld⟩, hnames⟩ :=
    hissues.ofColumns (by simp [Placeholders.empty]) (hsound.nodup_names example?)
  refine ⟨haligned.deferred_eq_nil rfl, ?_, Plan.expr_congr fun use huse => ?_⟩
  · simpa [hheld, Placeholders.empty] using hbindings
  · rw [Plan.uses_conjunction] at huse
    obtain ⟨column, hmem, rfl⟩ := List.mem_map.mp huse
    exact hnames column hmem

variable (dialect : Dialect)

/-- A statement by example is built just if all values of the example can be compared. -/
theorem TableSql.exists_byExample_iff (command : Selection → Command) :
    (∃ statement, (TableSql.mk table dialect).byExample command table example? =
      .ok statement) ↔ table.TakesExample example? := by
  rw [← exists_compile_matching_iff hsound example?]
  simp only [byExample, byPredicate, bind_eq_ok_iff]
  constructor
  · rintro ⟨statement, fragment, hfragment, -⟩
    exact ⟨fragment, hfragment⟩
  · rintro ⟨fragment, hfragment⟩
    exact ⟨_, fragment, hfragment, rfl⟩

/-- What a statement by example is, if the text of its command is known. -/
theorem TableSql.statesExample_of_byExample {command : Selection → Command} {front : String}
    (htext : ∀ rows, (TableSql.mk table dialect).text (command rows) =
      front ++ (TableSql.mk table dialect).selectionText rows ++ ";")
    {statement : Statement}
    (h : (TableSql.mk table dialect).byExample command table example? = .ok statement) :
    (TableSql.mk table dialect).StatesExample front example? statement := by
  obtain ⟨fragment, hfragment, hstatement⟩ := bind_eq_ok_iff.mp h
  obtain rfl := Except.ok.inj hstatement
  obtain ⟨hdeferred, hbindings, hexpr⟩ := of_compile_matching hsound example? hfragment
  refine ⟨hdeferred, hbindings, (htext _).trans ?_⟩
  rw [selectionText, hexpr, render_conjunction (TableSql.mk table dialect)]
  simp only [String.append_assoc]

end Example

end Sql

end RecordSql
