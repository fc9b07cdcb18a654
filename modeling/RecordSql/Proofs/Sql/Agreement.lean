import RecordSql.Predicate.Evaluate
import RecordSql.Proofs.Sql.Correspondence
import RecordSql.Proofs.Table.Resolved
import RecordSql.Proofs.Table.Stored
import RecordSql.Record

/-!
# Agreement of the two meanings of a predicate

A compiled predicate selects the rows that satisfy it in process.  On the one side a predicate is
evaluated on a row; on the other the compiled expression has an outcome in three-valued logic,
where columns have the stored values of the row and placeholders the values bound to them.

One placeholder has one value, so a field of the parameter has to be needed in one form only.
-/

namespace RecordSql

/-! ## Predicates that need each value in one form -/

/-- The predicates that joins put together, from left to right. -/
def Predicate.parts : Predicate → List Predicate
  | join _ left right => left.parts ++ right.parts
  | other => [other]

/-- The two sides of every comparison, each way round. -/
def Predicate.pairs : Predicate → List (Predicate × Predicate)
  | compare _ left right => [(left, right), (right, left)]
  | join _ left right => left.pairs ++ right.pairs
  | _ => []

/-- Zero, which refers to no row, is not compared with references, and a field of the parameter
is compared with one column or with no column. -/
structure Predicate.Uniform (table : Table) (predicate : Predicate) : Prop where
  zero_not_mem : ∀ name column, table.find? name = some column → column.type = .ref →
    (row name, literal (.int 0)) ∉ predicate.pairs
  column_eq : ∀ field name name', (param field, row name) ∈ predicate.pairs →
    (param field, row name') ∈ predicate.pairs → name = name'
  only_columns : ∀ field name other, (param field, row name) ∈ predicate.pairs →
    (param field, other) ∈ predicate.pairs → ∃ name', other = row name'

/-- A row that has a value for every column, which can be stored. -/
def Table.Stores (table : Table) (row : FieldValues) : Prop :=
  ∀ column ∈ table.columns, ∃ value stored,
    row column.field = some value ∧ column.serialize value = .ok stored

/-- The stored values of a row under the names of the columns; truth values are numbers. -/
def Table.storedValue (table : Table) (row : FieldValues) (name : Ident) : Value :=
  match table.columns.find? (·.name == name) with
  | none => .null
  | some column =>
      match (row column.field).map column.serialize with
      | some (.ok stored) => stored.counted
      | _ => .null

namespace Sql

/-- The values of bound placeholders; truth values are numbers. -/
def boundValue (bindings : List Binding) (name : Ident) : Value :=
  match binding? bindings name.name with
  | some binding => binding.value.counted
  | none => .null

/-! ## The value of a placeholder -/

section Placeholders

variable {param : Option FieldValues} {held held' : Placeholders} {use : Use} {uses : List Use}
  {binding : Binding}

/-- The first entry of a name is that of the first binding of the name. -/
theorem lookup_map_bindings (bindings : List Binding) (name : Ident) :
    (bindings.map fun binding => (binding.name, binding.field)).lookup name =
      (binding? bindings name.name).map Binding.field := by
  induction bindings with
  | nil => rfl
  | cons binding rest ih =>
      have hname : (name == binding.name) = (binding.name.name == name.name) := by
        rw [Bool.eq_iff_iff, beq_iff_eq, beq_iff_eq, eq_comm, Ident.mk.injEq]
      unfold binding? at ih ⊢
      rw [List.map_cons, List.lookup_cons, List.find?_cons, hname, ih]
      split <;> rfl

theorem name_eq_of_binding? {bindings : List Binding} {name : Ident}
    (h : binding? bindings name.name = some binding) : binding.name = name := by
  have htext : binding.name.name = name.name := by simpa using List.find?_some h
  exact (Ident.mk.injEq ..).mpr htext

/-- Every use of a bound parameter has a binding of its field. -/
theorem Issues.exists_binding {values : FieldValues}
    (h : Issues (some values) Placeholders.empty uses held) (huse : use ∈ uses) :
    ∃ binding ∈ held.bindings, binding? held.bindings (use.name held.issued).name = some binding ∧
      binding.name = use.name held.issued ∧ binding.field = use.field := by
  have haligned := h.aligned (Placeholders.aligned_empty _)
  -- Nothing is deferred, so the names handed out are those of the bindings.
  have hissued : held.issued = held.bindings.map fun binding => (binding.name, binding.field) := by
    simpa [haligned.deferred_eq_nil rfl] using haligned.issued_eq
  have hlookup := h.lookup_name huse
  generalize use.name held.issued = name at hlookup ⊢
  rw [hissued, lookup_map_bindings] at hlookup
  obtain ⟨binding, hfound, hfield⟩ := Option.map_eq_some_iff.mp hlookup
  exact ⟨binding, List.mem_of_find?_eq_some hfound, hfound, name_eq_of_binding? hfound, hfield⟩

/-- A binding that is handed out was made for one of the uses. -/
theorem Issues.exists_madeFor {values : FieldValues}
    (h : Issues (some values) Placeholders.empty uses held) (hbinding : binding ∈ held.bindings) :
    ∃ use ∈ uses, binding.MadeFor (some values) use := by
  rcases h.mem_bindings hbinding with hmem | hmade
  · simp [Placeholders.empty] at hmem
  · exact hmade

/-- The placeholder of a use is bound to its field, in the form that the use needs if all uses of
the field have the same column opposite. -/
theorem exists_boundValue {values : FieldValues}
    (h : Issues (some values) Placeholders.empty uses held)
    (huniform : ∀ other ∈ uses, other.field = use.field → other.counterpart = use.counterpart)
    (huse : use ∈ uses) :
    ∃ value stored, values use.field = some value ∧
      Compiler.boundForm use.counterpart value = .ok stored ∧
      boundValue held.bindings (use.name held.issued) = stored.counted := by
  obtain ⟨binding, hmem, hfound, -, hfield⟩ := h.exists_binding huse
  -- The use that the binding was made for may be another one, but it needs the same form.
  obtain ⟨other, hother, hsame, _, value, hparam, hvalue, hform⟩ := h.exists_madeFor hmem
  obtain rfl := Option.some.inj hparam
  rw [← hsame, hfield] at hvalue
  rw [huniform other hother (by rw [← hsame, hfield])] at hform
  exact ⟨value, binding.value, hvalue, hform, by rw [boundValue, hfound]⟩

end Placeholders

/-! ## What stands opposite to a use -/

/-- What a field of the parameter is compared with where it is used. -/
inductive Use.Opposite (table : Table) (use : Use) : Predicate → Prop
  | column {name : String} {column : Column} (hcolumn : table.find? name = some column)
      (hcounterpart : use.counterpart = some column) : Use.Opposite table use (.row name)
  | other {predicate : Predicate} (hcounterpart : use.counterpart = none)
      (hother : ∀ name, predicate ≠ .row name) : Use.Opposite table use predicate

section Opposite

variable {table : Table} {lookup : Test.Lookup} {op : Comparison} {left right : Predicate}
  {a b : RecordSql.Operand} {use : Use}

theorem eq_param_of_mem_uses {counterpart : Option Column} {side : Side}
    (hside : Side.ofOperand? counterpart a = some side) (huse : use ∈ side.uses) :
    a = .param use.field ∧ use.counterpart = counterpart := by
  cases a with
  | column c =>
      obtain rfl := Option.some.inj hside
      simp [Side.uses] at huse
  | param field =>
      obtain ⟨made, hmade, rfl⟩ := Option.map_eq_some_iff.mp hside
      obtain rfl := List.mem_singleton.mp huse
      obtain ⟨hcounterpart, hfield⟩ := Use.eq_of_of? hmade
      exact ⟨by rw [hfield], hcounterpart⟩
  | literal value =>
      obtain ⟨rfl, -⟩ := eq_literal_of_ofOperand? hside
      simp [Side.uses] at huse

/-- A use in a test for null is opposite to null. -/
theorem opposite_of_null {asked : Comparison} {operand : RecordSql.Operand} {side : Side}
    (hleft : RecordSql.Operand.Reads table left a) (hright : RecordSql.Operand.Reads table right b)
    (h : Test.Settled lookup op a b (.null asked operand))
    (hside : Side.ofOperand? none operand = some side) (huse : use ∈ side.uses) :
    left = .param use.field ∧ use.Opposite table right := by
  obtain ⟨rfl, hcounterpart⟩ := eq_param_of_mem_uses hside huse
  cases h with
  | null =>
      cases hleft
      cases hright
      exact ⟨rfl, .other hcounterpart (by simp [Predicate.row])⟩

/-- A use in a comparison is opposite to the other side. -/
theorem opposite_of_compare {asked : Comparison} {x y : RecordSql.Operand} {first second : Side}
    (hleft : RecordSql.Operand.Reads table left a) (hright : RecordSql.Operand.Reads table right b)
    (h : Test.Settled lookup op a b (.compare asked x y))
    (hfirst : Side.ofOperand? none x = some first)
    (hsecond : Side.ofOperand? x.column? y = some second) (huse : use ∈ first.uses ++ second.uses) :
    (left = .param use.field ∧ use.Opposite table right) ∨
      (right = .param use.field ∧ use.Opposite table left) := by
  rcases List.mem_append.mp huse with hmem | hmem
  · obtain ⟨rfl, hcounterpart⟩ := eq_param_of_mem_uses hfirst hmem
    cases h <;> cases hleft <;> cases hright <;>
      exact Or.inl ⟨rfl, .other hcounterpart (by simp [Predicate.row])⟩
  · obtain ⟨rfl, hcounterpart⟩ := eq_param_of_mem_uses hsecond hmem
    cases h with
    | columnFree hlookup | columnBound hlookup =>
        cases hleft with
        | column hcolumn =>
            cases hright
            exact Or.inr ⟨rfl, .column hcolumn hcounterpart⟩
    | params hfirst hsecond hvalues =>
        cases hleft
        cases hright
        exact Or.inr ⟨rfl, .other hcounterpart (by simp [Predicate.row])⟩

/-- A use in a test is a side of the comparison that the test comes from, whichever operand of the
test is first. -/
theorem exists_opposite_of_test {test : Test}
    (htest : Test.ofComparison table lookup op left right = .ok test)
    (h : ∀ {op : Comparison} {left right : Predicate} {a b : RecordSql.Operand},
      RecordSql.Operand.Reads table left a → RecordSql.Operand.Reads table right b →
      Test.Settled lookup op a b test →
      (left = .param use.field ∧ use.Opposite table right) ∨
        (right = .param use.field ∧ use.Opposite table left)) :
    ∃ other, (Predicate.param use.field, other) ∈ (Predicate.compare op left right).pairs ∧
      use.Opposite table other := by
  obtain ⟨a, b, hleft, hright, hsettled⟩ := Test.settled_of_ofComparison htest
  have hside : (left = .param use.field ∧ use.Opposite table right) ∨
      (right = .param use.field ∧ use.Opposite table left) := by
    rcases hsettled with ⟨-, hsettled⟩ | ⟨-, hsettled⟩
    · exact (h hright hleft hsettled).symm
    · exact h hleft hright hsettled
  rcases hside with ⟨rfl, hopposite⟩ | ⟨rfl, hopposite⟩
  · exact ⟨right, by simp [Predicate.pairs], hopposite⟩
  · exact ⟨left, by simp [Predicate.pairs], hopposite⟩

end Opposite

/-- Every use of a bound parameter is one side of a comparison. -/
theorem Compiled.exists_opposite {table : Table} {values : FieldValues} {predicate : Predicate}
    {plan : Plan} {use : Use} (h : Compiled ⟨table, some values⟩ predicate plan)
    (huse : use ∈ plan.uses) :
    ∃ other, (Predicate.param use.field, other) ∈ predicate.pairs ∧ use.Opposite table other := by
  generalize hcompiler : Compiler.mk table (some values) = compiler at h
  induction h with
  | constant => simp [Plan.uses] at huse
  | rowField hcolumn hfamily => simp [Plan.uses, Side.uses] at huse
  | boundField hlookup => simp [Plan.uses] at huse
  | freeField hlookup hmade =>
      subst hcompiler
      have := param_eq_none_of_lookup hlookup
      contradiction
  | nullTest htest hwanted hside =>
      subst hcompiler
      exact exists_opposite_of_test htest fun hleft hright hsettled =>
        Or.inl (opposite_of_null hleft hright hsettled hside huse)
  | compare htest hfirst hsecond =>
      subst hcompiler
      exact exists_opposite_of_test htest fun hleft hright hsettled =>
        opposite_of_compare hleft hright hsettled hfirst hsecond huse
  | join hleft hright ihLeft ihRight =>
      rcases List.mem_append.mp huse with hmem | hmem
      · obtain ⟨other, hpair, hopposite⟩ := ihLeft hmem
        exact ⟨other, List.mem_append_left _ hpair, hopposite⟩
      · obtain ⟨other, hpair, hopposite⟩ := ihRight hmem
        exact ⟨other, List.mem_append_right _ hpair, hopposite⟩

/-- In a uniform predicate all uses of a field have the same column opposite. -/
theorem Compiled.counterpart_eq {table : Table} {values : FieldValues} {predicate : Predicate}
    {plan : Plan} (h : Compiled ⟨table, some values⟩ predicate plan)
    (huniform : predicate.Uniform table) {use other : Use} (huse : use ∈ plan.uses)
    (hother : other ∈ plan.uses) (hfield : other.field = use.field) :
    other.counterpart = use.counterpart := by
  obtain ⟨left, hleft, hleftOpposite⟩ := h.exists_opposite hother
  obtain ⟨right, hright, hrightOpposite⟩ := h.exists_opposite huse
  rw [hfield] at hleft
  -- Either both uses are opposite to columns, which are one column, or neither of them is.
  cases hleftOpposite with
  | column hcolumn hcounterpart =>
      cases hrightOpposite with
      | column hcolumn' hcounterpart' =>
          obtain rfl := huniform.column_eq _ _ _ hleft hright
          rw [hcounterpart, hcounterpart', ← hcolumn, hcolumn']
      | other hcounterpart' hother' =>
          obtain ⟨name, hname⟩ := huniform.only_columns _ _ _ hleft hright
          exact absurd hname (hother' name)
  | other hcounterpart hother =>
      cases hrightOpposite with
      | column hcolumn' hcounterpart' =>
          obtain ⟨name, hname⟩ := huniform.only_columns _ _ _ hright hleft
          exact absurd hname (hother name)
      | other hcounterpart' hother' => rw [hcounterpart, hcounterpart']

/-! ## Outcomes -/

/-- The values that columns have are what a row stores. -/
structure Represents (table : Table) (row : FieldValues) (columns : Ident → Value) : Prop where
  builtin : ∀ column ∈ table.columns, Handler.builtin? column.type = some column.handler
  stored : ∀ column ∈ table.columns, Stored column.type (columns column.name)
  rowValue_eq : ∀ column ∈ table.columns, ∀ param,
    (Scope.mk table row param).rowValue column = .ok (columns column.name)

/-- The placeholder of a use has the parameter's value, in the form that the use needs. -/
def Use.Bound (values : FieldValues) (placeholders : Ident → Value) (name : Use → Ident)
    (use : Use) : Prop :=
  ∃ value stored, values use.field = some value ∧
    Compiler.boundForm use.counterpart value = .ok stored ∧
    placeholders (name use) = stored.counted

theorem Operand.value_ofLiteral (columns placeholders : Ident → Value) (value : Literal) :
    (Operand.ofLiteral value).value columns placeholders = value.toValue.counted := by
  cases value <;> rfl

section Outcomes

variable {table : Table} {row values : FieldValues} {columns placeholders : Ident → Value}
  {name : Use → Ident}

/-- The value of an operand that is compared as it is. -/
theorem operandValue_eq_ok {operand : RecordSql.Operand} {side : Side}
    (hrow : Represents table row columns)
    (hcolumn : ∀ column, operand = .column column → column ∈ table.columns)
    (hside : Side.ofOperand? none operand = some side)
    (hbound : ∀ use ∈ side.uses, use.Bound values placeholders name) :
    ∃ value, (Scope.mk table row (some values)).operandValue none operand = .ok value ∧
      (side.operand name).value columns placeholders = value.counted := by
  cases operand with
  | column column =>
      obtain rfl := Option.some.inj hside
      have hmem := hcolumn column rfl
      exact ⟨_, hrow.rowValue_eq column hmem _, (hrow.stored column hmem).counted_eq.symm⟩
  | param field =>
      obtain ⟨use, huse, rfl⟩ := Option.map_eq_some_iff.mp hside
      obtain ⟨hcounterpart, rfl⟩ := Use.eq_of_of? huse
      obtain ⟨value, stored, hvalue, hform, hplaceholder⟩ := hbound use (by simp [Side.uses])
      rw [hcounterpart] at hform
      obtain rfl := Except.ok.inj hform
      refine ⟨value, ?_, hplaceholder⟩
      simp [Scope.operandValue, Scope.paramValue, boundField, hvalue, bind, Except.bind, pure,
        Except.pure]
  | literal value =>
      obtain ⟨rfl, -⟩ := eq_literal_of_ofOperand? hside
      exact ⟨value.toValue, rfl, Operand.value_ofLiteral _ _ _⟩

theorem testTruth_null {asked : Comparison} {operand : RecordSql.Operand} {wanted : Bool}
    {side : Side} (hrow : Represents table row columns)
    (hcolumn : ∀ column, operand = .column column → column ∈ table.columns)
    (hwanted : nullTest asked = .ok wanted) (hside : Side.ofOperand? none operand = some side)
    (hbound : ∀ use ∈ side.uses, use.Bound values placeholders name) :
    (Scope.mk table row (some values)).testTruth (.null asked operand) =
      .ok ((Plan.nullTest wanted side).expr name |>.truth columns placeholders) := by
  obtain ⟨value, hvalue, hread⟩ := operandValue_eq_ok hrow hcolumn hside hbound
  rw [Plan.expr, Expr.truth, hread, Value.isNull_counted]
  simp [Scope.testTruth, hvalue, hwanted, bind, Except.bind, pure, Except.pure]

theorem testTruth_compare {scope : Scope} {op : Comparison} {left right : RecordSql.Operand}
    {a b : Value} (ha : scope.operandValue none left = .ok a)
    (hb : scope.operandValue left.column? right = .ok b) :
    scope.testTruth (.compare op left right) = .ok (op.truth a b) := by
  simp [Scope.testTruth, ha, hb, bind, Except.bind, pure, Except.pure]

theorem lookup_of_operandValue {field : String} {value : Value}
    (h : (Scope.mk table row (some values)).operandValue none (.param field) = .ok value) :
    (Compiler.mk table (some values)).lookup field = .ok (some value) := by
  obtain ⟨found, hfound, h⟩ := bind_eq_ok_iff.mp h
  obtain rfl := Except.ok.inj h
  exact map_eq_ok_iff.mpr ⟨_, hfound, rfl⟩

/-- A comparison of two operands, neither of which takes its form from a column, has the outcome
that it has in SQL. -/
theorem testTruth_unchanged {op : Comparison} {left right : RecordSql.Operand}
    {first second : Side} (hrow : Represents table row columns)
    (hleft : left.column? = none) (hright : right.column? = none)
    (hfirst : Side.ofOperand? none left = some first)
    (hsecond : Side.ofOperand? none right = some second)
    (hbound : ∀ use ∈ first.uses ++ second.uses, use.Bound values placeholders name)
    (hvalues : ∀ a b, (Scope.mk table row (some values)).operandValue none left = .ok a →
      (Scope.mk table row (some values)).operandValue none right = .ok b →
      checkValues a b = .ok ()) :
    (Scope.mk table row (some values)).testTruth (.compare op left right) =
      .ok ((Plan.compare op first second).expr name |>.truth columns placeholders) := by
  obtain ⟨a, ha, hreadFirst⟩ := operandValue_eq_ok hrow (by rintro c rfl; contradiction) hfirst
    fun use huse => hbound use (List.mem_append_left _ huse)
  obtain ⟨b, hb, hreadSecond⟩ := operandValue_eq_ok hrow (by rintro c rfl; contradiction) hsecond
    fun use huse => hbound use (List.mem_append_right _ huse)
  rw [testTruth_compare ha (by rw [hleft]; exact hb), Plan.expr, Expr.truth, hreadFirst,
    hreadSecond, Comparison.truth_counted op (hvalues a b ha hb)]

/-- A comparison whose operands are in order has the outcome that it has in SQL. -/
theorem testTruth_ordered {op asked : Comparison} {left right : Predicate}
    {a b x y : RecordSql.Operand} {first second : Side} (hrow : Represents table row columns)
    (hleft : RecordSql.Operand.Reads table left a) (hright : RecordSql.Operand.Reads table right b)
    (hzero : ∀ column, a = .column column → column.type = .ref → right ≠ .literal (.int 0))
    (h : Test.Settled (Compiler.mk table (some values)).lookup op a b (.compare asked x y))
    (hfirst : Side.ofOperand? none x = some first)
    (hsecond : Side.ofOperand? x.column? y = some second)
    (hbound : ∀ use ∈ first.uses ++ second.uses, use.Bound values placeholders name) :
    (Scope.mk table row (some values)).testTruth (.compare asked x y) =
      .ok ((Plan.compare asked first second).expr name |>.truth columns placeholders) := by
  have hmem {predicate : Predicate} {column : Column}
      (hreads : RecordSql.Operand.Reads table predicate (.column column)) :
      column ∈ table.columns := by
    cases hreads with
    | column hcolumn => exact (Table.mem_and_field_of_find? hcolumn).1
  have hheld {column : Column} (hcolumn : column ∈ table.columns)
      {counterpart : Option Column} :
      (Scope.mk table row (some values)).operandValue counterpart (.column column) =
        .ok (columns column.name) := hrow.rowValue_eq column hcolumn _
  cases h with
  | columns hfamily =>
      obtain rfl := Option.some.inj hfirst
      obtain rfl := Option.some.inj hsecond
      exact testTruth_compare (hheld (hmem hleft)) (hheld (hmem hright))
  | @columnLiteral column value hliteral hfamily =>
      obtain rfl := Option.some.inj hfirst
      obtain ⟨rfl, hfinite⟩ := eq_literal_of_ofOperand? hsecond
      -- The literal takes the form that the column stores, which changes no outcome.
      have hcolumn := hmem hleft
      have hne : column.type = .ref → value ≠ .int 0 := by
        rintro htype rfl
        cases hright
        exact hzero column rfl htype rfl
      obtain ⟨operand, hoperand, htruth⟩ :=
        exists_operand_of_literal (hrow.builtin _ hcolumn) hfamily hfinite hne
      have hvalue : (Scope.mk table row (some values)).operandValue (some column)
          (.literal value) = .ok operand := hoperand
      rw [testTruth_compare (hheld hcolumn) hvalue,
        htruth op _ (hrow.stored _ hcolumn), ← Operand.value_ofLiteral columns placeholders]
      rfl
  | columnFree hlookup =>
      have := param_eq_none_of_lookup hlookup
      contradiction
  | @columnBound column field value hlookup hfamily hset =>
      -- The parameter's value takes the same form on both sides.
      obtain rfl := Option.some.inj hfirst
      have hparam : (Use.of? (some column) field).map Side.param = some second := hsecond
      obtain ⟨use, huse, rfl⟩ := Option.map_eq_some_iff.mp hparam
      obtain ⟨hcounterpart, rfl⟩ := Use.eq_of_of? huse
      obtain ⟨bound, stored, hvalue, hform, hplaceholder⟩ := hbound use (by simp [Side.uses])
      rw [hcounterpart] at hform
      have hcolumn := hmem hleft
      have hoperand : (Scope.mk table row (some values)).operandValue (some column)
          (.param use.field) = .ok stored := by
        simpa [Scope.operandValue, Scope.paramValue, boundField, hvalue, bind, Except.bind,
          Compiler.boundForm] using hform
      rw [testTruth_compare (hheld hcolumn) hoperand,
        ← counted_eq_of_serializeOperand (hrow.builtin _ hcolumn) hform, ← hplaceholder]
      rfl
  | paramLiteral hvalue hlookup hvalues =>
      refine testTruth_unchanged hrow rfl rfl hfirst hsecond hbound ?_
      intro a b ha hb
      obtain rfl := Except.ok.inj hb
      rw [lookup_of_operandValue ha] at hlookup
      obtain rfl := Except.ok.inj hlookup
      exact hvalues a rfl
  | params hlookupFirst hlookupSecond hvalues =>
      refine testTruth_unchanged hrow rfl rfl hfirst hsecond hbound ?_
      intro a b ha hb
      rw [lookup_of_operandValue ha] at hlookupFirst
      rw [lookup_of_operandValue hb] at hlookupSecond
      obtain rfl := Except.ok.inj hlookupFirst
      obtain rfl := Except.ok.inj hlookupSecond
      exact hvalues a rfl b rfl
  | literals hvalue hvalues =>
      refine testTruth_unchanged hrow rfl rfl hfirst hsecond hbound ?_
      intro a b ha hb
      obtain rfl := Except.ok.inj ha
      obtain rfl := Except.ok.inj hb
      exact hvalues

/-- The outcome of a comparison is that of its test. -/
theorem truth_of_test {op : Comparison} {left right : Predicate} {test : Test} {outcome : Truth}
    (htest : Test.ofComparison table (Compiler.mk table (some values)).lookup op left right =
      .ok test)
    (h : (Scope.mk table row (some values)).testTruth test = .ok outcome) :
    (Scope.mk table row (some values)).truth (.compare op left right) = .ok outcome := by
  rw [Scope.truth]
  exact bind_eq_ok_iff.mpr ⟨test, htest, h⟩

/-- A column that is asked for null is one of the table. -/
theorem column_mem_of_null {lookup : Test.Lookup} {op asked : Comparison} {left : Predicate}
    {a b operand : RecordSql.Operand} (hleft : RecordSql.Operand.Reads table left a)
    (h : Test.Settled lookup op a b (.null asked operand)) (column : Column)
    (hoperand : operand = .column column) : column ∈ table.columns := by
  subst hoperand
  obtain ⟨-, rfl⟩ := h.of_null
  cases hleft with
  | column hcolumn => exact (Table.mem_and_field_of_find? hcolumn).1

/-- A boolean field alone has the outcome of its comparison with one. -/
theorem truth_rowField {param : Option FieldValues} {field : String} {column : Column}
    (hrow : Represents table row columns) (hcolumn : table.find? field = some column)
    (hfamily : column.family = .boolean) :
    (Scope.mk table row param).truth (.field field .row) =
      .ok (Comparison.eq.truth (columns column.name) (.int 1)) := by
  have hmem := (Table.mem_and_field_of_find? hcolumn).1
  have hpredicate := predicateColumn_eq_ok_iff.mpr ⟨hcolumn, hfamily⟩
  have hvalue := valueTruth_of_stored field (hrow.builtin column hmem) hfamily
    (hrow.stored column hmem)
  rw [Scope.truth]
  exact bind_eq_ok_iff.mpr ⟨column, hpredicate,
    bind_eq_ok_iff.mpr ⟨_, hrow.rowValue_eq column hmem _, hvalue⟩⟩

/-- A compiled predicate has the outcome in process that its expression has in SQL. -/
theorem Compiled.truth_eq {predicate : Predicate} {plan : Plan}
    (h : Compiled ⟨table, some values⟩ predicate plan) (hrow : Represents table row columns)
    (hzero : ∀ field column, table.find? field = some column → column.type = .ref →
      (.row field, .literal (.int 0)) ∉ predicate.pairs)
    (hbound : ∀ use ∈ plan.uses, use.Bound values placeholders name) :
    (Scope.mk table row (some values)).truth predicate =
      .ok ((plan.expr name).truth columns placeholders) := by
  -- The compiler is made a variable, so that the induction can be on how the plan came about.
  generalize hcompiler : Compiler.mk table (some values) = compiler at h
  induction h with
  | constant => rfl
  | rowField hcolumn hfamily =>
      subst hcompiler
      exact truth_rowField hrow hcolumn hfamily
  | boundField hlookup =>
      subst hcompiler
      obtain ⟨bound, hvalue, hsome⟩ := map_eq_ok_iff.mp hlookup
      obtain rfl := Option.some.inj hsome
      simp [Scope.truth, Scope.paramValue, hvalue, Scope.valueTruth, Plan.expr, Expr.truth, bind,
        Except.bind]
  | freeField hlookup huse =>
      subst hcompiler
      have := param_eq_none_of_lookup hlookup
      contradiction
  | nullTest htest hwanted hside =>
      subst hcompiler
      refine truth_of_test htest ?_
      obtain ⟨a, b, hleft, hright, ⟨-, hsettled⟩ | ⟨-, hsettled⟩⟩ :=
        Test.settled_of_ofComparison htest
      · exact testTruth_null hrow (column_mem_of_null hright hsettled) hwanted hside hbound
      · exact testTruth_null hrow (column_mem_of_null hleft hsettled) hwanted hside hbound
  | @compare op asked left right a b first second htest hfirst hsecond =>
      subst hcompiler
      refine truth_of_test htest ?_
      obtain ⟨x, y, hleft, hright, ⟨-, hsettled⟩ | ⟨-, hsettled⟩⟩ :=
        Test.settled_of_ofComparison htest
      · refine testTruth_ordered hrow hright hleft ?_ hsettled hfirst hsecond hbound
        rintro column rfl htype rfl
        cases hright with
        | column hcolumn => exact hzero _ _ hcolumn htype (by simp [Predicate.pairs, Predicate.row])
      · refine testTruth_ordered hrow hleft hright ?_ hsettled hfirst hsecond hbound
        rintro column rfl htype rfl
        cases hleft with
        | column hcolumn => exact hzero _ _ hcolumn htype (by simp [Predicate.pairs, Predicate.row])
  | @join op left right first second hleft hright ihLeft ihRight =>
      have hfirst := ihLeft (fun field column hcolumn htype hmem =>
          hzero field column hcolumn htype (List.mem_append_left _ hmem))
        fun use huse => hbound use (List.mem_append_left _ huse)
      have hsecond := ihRight (fun field column hcolumn htype hmem =>
          hzero field column hcolumn htype (List.mem_append_right _ hmem))
        fun use huse => hbound use (List.mem_append_right _ huse)
      simp [Scope.truth, hfirst, hsecond, Plan.expr, Expr.truth, bind, Except.bind, pure,
        Except.pure]

end Outcomes

/-! ## Agreement -/

/-- A row that has a value for every column represents what the columns store. -/
theorem represents_storedValue {schema : Schema} {table : Table} {row : FieldValues}
    (hresolve : Table.resolve schema .builtin = .ok table) (hrow : table.Stores row) :
    Represents table row (table.storedValue row) := by
  have hsound := Table.sound_of_resolve hresolve
  -- The column that is found under a name is the only one of the name.
  have hfind (column : Column) (hmem : column ∈ table.columns) :
      table.columns.find? (·.name == column.name) = some column := by
    have hsome : (table.columns.find? (·.name == column.name)).isSome = true := by
      rw [List.find?_isSome]
      exact ⟨column, hmem, by simp⟩
    obtain ⟨found, hfound⟩ := Option.isSome_iff_exists.mp hsome
    have hname : found.name = column.name := by simpa using List.find?_some hfound
    rw [hfound, hsound.eq_of_name_eq (List.mem_of_find?_eq_some hfound) hmem hname]
  have hvalue (column : Column) (hmem : column ∈ table.columns) :
      ∃ value stored, row column.field = some value ∧ column.serialize value = .ok stored ∧
        table.storedValue row column.name = stored ∧ Stored column.type stored := by
    obtain ⟨value, stored, hrow, hserialize⟩ := hrow column hmem
    have hstored := stored_of_serialize (hsound.builtin?_eq column hmem)
      (Column.serialize_eq_ok_iff.mp hserialize)
    refine ⟨value, stored, hrow, hserialize, ?_, hstored⟩
    simp [Table.storedValue, hfind column hmem, hrow, hserialize, hstored.counted_eq]
  refine ⟨hsound.builtin?_eq, fun column hmem => ?_, fun column hmem param => ?_⟩
  · obtain ⟨value, stored, -, -, heq, hstored⟩ := hvalue column hmem
    rw [heq]
    exact hstored
  · obtain ⟨value, stored, hrow, hserialize, heq, -⟩ := hvalue column hmem
    rw [heq]
    simp [Scope.rowValue, hrow, hserialize]

end Sql

namespace Stock

/-- One item. -/
def row : FieldValues :=
  FieldMap.get [("ID", .int 1), ("Label", .text "lamp"), ("Value", .int 5),
    ("Price", .int 2), ("Owner", .int 7), ("Active", .bool true)]

/-- A parameter whose fields are compared with columns. -/
def bounds : FieldValues :=
  FieldMap.get [("least", .int 2), ("owner", .int 7)]

/-- Operands in either order, a field of the parameter that occurs twice, a whole number beside a
column of reals, and a field alone. -/
def inReach : Predicate :=
  .join .and
    (.join .or (.compare .gt (.row "Value") (.param "least"))
      (.compare .lt (.param "least") (.row "Value")))
    (.join .and (.compare .eq (.param "owner") (.row "Owner"))
      (.join .and (.compare .lt (.row "Price") (.literal (.int 3))) (.row "Active")))

def inReachFragment : Sql.Fragment where
  expr :=
    .join .and
      (.join .or (.compare .gt (.column valueName) (.placeholder valueName))
        (.compare .gt (.column valueName) (.placeholder valueName)))
      (.join .and (.compare .eq (.column ownerName) (.placeholder ownerName))
        (.join .and (.compare .lt (.column priceName) (.int 3))
          (.compare .eq (.column activeName) (.flag true))))
  bindings := [⟨valueName, "least", .int 2⟩, ⟨ownerName, "owner", .int 7⟩]
  deferred := []

theorem stores_row : table.Stores row := by
  intro column hmem
  simp only [table, Table.columns, List.nil_append, List.mem_cons, List.not_mem_nil, or_false]
    at hmem
  rcases hmem with rfl | rfl | rfl | rfl | rfl | rfl <;> exact ⟨_, _, rfl, rfl⟩

theorem mem_pairs_inReach {field : String} {other : Predicate}
    (h : (.param field, other) ∈ inReach.pairs) :
    (field = "least" ∧ other = .row "Value") ∨ (field = "owner" ∧ other = .row "Owner") := by
  simpa [inReach, Predicate.pairs, Predicate.row, Predicate.param] using h

theorem uniform_inReach : inReach.Uniform table where
  zero_not_mem := by simp [inReach, Predicate.pairs, Predicate.row, Predicate.param]
  column_eq field name name' hmem hmem' := by
    rcases mem_pairs_inReach hmem with ⟨rfl, hname⟩ | ⟨rfl, hname⟩ <;>
      rcases mem_pairs_inReach hmem' with ⟨hfield, hname'⟩ | ⟨hfield, hname'⟩ <;>
      simp_all [Predicate.row]
  only_columns field name other hmem hmem' := by
    rcases mem_pairs_inReach hmem' with ⟨-, hother⟩ | ⟨-, hother⟩
    · exact ⟨_, hother⟩
    · exact ⟨_, hother⟩

theorem compile_inReach : Sql.compile table (some bounds) inReach = .ok inReachFragment := by
  rfl

end Stock

end RecordSql
