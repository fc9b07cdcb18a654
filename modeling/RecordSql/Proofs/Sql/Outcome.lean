import RecordSql.Proofs.Predicate.Failure
import RecordSql.Proofs.Sql.Acceptance
import RecordSql.Proofs.Sql.Agreement

/-!
# Predicates that have an outcome

A predicate with a plan has an outcome on a row exactly if every use of the plan finds its field in
the parameter, in the form that it needs.  The compiler asks this only of the first use of a
placeholder, so a predicate may compile and fail on every row.
-/

namespace RecordSql

namespace Test

/-- A field of the parameter that is compared is an operand of the test, unless it is bound and
not set. -/
theorem Settled.mem_operands {lookup : Lookup} {op : Comparison} {left right : Operand}
    {test : Test} {field : String} (h : Settled lookup op left right test)
    (hfield : left = .param field ∨ right = .param field) :
    .param field ∈ test.operands ∨ ∃ value, lookup field = .ok (some value) := by
  cases h with
  | unset hlookup hfamily hdefault hop =>
      rcases hfield with hfield | hfield
      · contradiction
      · obtain rfl := Operand.param.inj hfield
        exact Or.inr ⟨_, hlookup⟩
  | null =>
      rcases hfield with rfl | hfield
      · exact Or.inl (by simp [operands])
      · contradiction
  | _ => rcases hfield with hfield | hfield <;> exact Or.inl (by simp [operands, hfield])

/-- A literal in a test may be compared with the column on the other side. -/
theorem Settled.accepts {lookup : Lookup} {op asked : Comparison} {left right : Operand}
    {column : Column} {value : Literal}
    (h : Settled lookup op left right (.compare asked (.column column) (.literal value))) :
    column.family.accepts value.toValue = true := by
  cases h with
  | columnLiteral hvalue hfamily => exact hfamily

end Test

namespace Sql

section Outcomes

variable {table : Table} {row : FieldValues} {columns : Ident → Value}
  {param : Option FieldValues} {op asked : Comparison} {left right : Predicate}

/-! ## Tests -/

/-- A comparison that compiles is evaluated as the same test, if a parameter is there wherever the
test reads one. -/
theorem evaluates_of_ofComparison (row : FieldValues) {test : Test}
    (h : Test.ofComparison table (Compiler.mk table param).lookup op left right = .ok test)
    (hparam : ∀ field, .param field ∈ test.operands → param.isSome = true) :
    Test.ofComparison table (fun field => ((Scope.mk table row param).paramValue field).map some)
      op left right = .ok test := by
  cases param with
  | some values => exact h
  | none =>
      obtain ⟨a, b, hleft, hright, hsettled⟩ := Test.settled_of_ofComparison h
      -- Without a parameter neither operand is a field of it.
      have hfree {op : Comparison} {x y : RecordSql.Operand}
          (hxy : Test.Settled (Compiler.mk table none).lookup op x y test) (field : String)
          (hfield : x = .param field ∨ y = .param field) : False := by
        rcases hxy.mem_operands hfield with hmem | ⟨value, hlookup⟩
        · have := hparam field hmem
          contradiction
        · simp [Compiler.lookup] at hlookup
      refine Test.ofComparison_of_settled hleft hright ?_
      rcases hsettled with ⟨horder, hsettled⟩ | ⟨horder, hsettled⟩
      · exact Or.inl ⟨horder, hsettled.of_lookup fun field hfield =>
          (hfree hsettled field hfield).elim⟩
      · exact Or.inr ⟨horder, hsettled.of_lookup fun field hfield =>
          (hfree hsettled field hfield).elim⟩

theorem accepts_of_ofComparison {lookup : Test.Lookup} {column : Column} {value : Literal}
    (h : Test.ofComparison table lookup op left right =
      .ok (.compare asked (.column column) (.literal value))) :
    column.family.accepts value.toValue = true := by
  obtain ⟨a, b, -, -, ⟨-, hsettled⟩ | ⟨-, hsettled⟩⟩ := Test.settled_of_ofComparison h
  · exact hsettled.accepts
  · exact hsettled.accepts

/-! ## Operands -/

/-- A field of the parameter is compared in the form that it would be bound in. -/
theorem operandValue_param (scope : Scope) (counterpart : Option Column) (field : String) :
    scope.operandValue counterpart (.param field) =
      scope.paramValue field >>= Compiler.boundForm counterpart := by
  cases counterpart <;> rfl

/-- The value of an operand whose side has its uses in form. -/
theorem exists_operandValue {operand : RecordSql.Operand} {counterpart : Option Column}
    {side : Side} (hrow : Represents table row columns)
    (hcolumn : ∀ column, operand = .column column → column ∈ table.columns)
    (hliteral : ∀ column value, counterpart = some column → operand = .literal value →
      column ∈ table.columns ∧ column.family.accepts value.toValue = true)
    (hside : Side.ofOperand? counterpart operand = some side)
    (hformed : ∀ use ∈ side.uses, use.Formed param) :
    ∃ value, (Scope.mk table row param).operandValue counterpart operand = .ok value := by
  cases operand with
  | column column => exact ⟨_, hrow.rowValue_eq column (hcolumn column rfl) param⟩
  | param field =>
      obtain ⟨use, huse, rfl⟩ := Option.map_eq_some_iff.mp hside
      obtain ⟨rfl, rfl⟩ := Use.eq_of_of? huse
      obtain ⟨values, value, stored, rfl, hvalue, hform⟩ := hformed use (by simp [Side.uses])
      rw [operandValue_param]
      exact ⟨stored, bind_eq_ok_iff.mpr ⟨value, boundField_eq_ok_iff.mpr hvalue, hform⟩⟩
  | literal value =>
      obtain ⟨-, hfinite⟩ := eq_literal_of_ofOperand? hside
      cases counterpart with
      | none => exact ⟨value.toValue, rfl⟩
      | some column =>
          obtain ⟨hmem, hfamily⟩ := hliteral column value rfl rfl
          refine (exists_serializeOperand_iff (hrow.builtin column hmem) hfamily).mpr ?_
          intro real hreal
          refine hfinite real ?_
          cases value <;> simp_all [Literal.toValue]

/-- The uses of a side are in form where its operand has a value. -/
theorem formed_of_operandValue {operand : RecordSql.Operand} {counterpart : Option Column}
    {side : Side} {value : Value} (hside : Side.ofOperand? counterpart operand = some side)
    (h : (Scope.mk table row param).operandValue counterpart operand = .ok value) :
    ∀ use ∈ side.uses, use.Formed param := by
  intro use huse
  obtain ⟨rfl, rfl⟩ := eq_param_of_mem_uses hside huse
  rw [operandValue_param] at h
  obtain ⟨bound, hbound, hform⟩ := bind_eq_ok_iff.mp h
  cases param with
  | none => contradiction
  | some values => exact ⟨values, bound, value, rfl, boundField_eq_ok_iff.mp hbound, hform⟩

theorem mem_uses_of_ofOperand? {counterpart : Option Column} {field : String} {side : Side}
    (h : Side.ofOperand? counterpart (.param field) = some side) : ∃ use, use ∈ side.uses := by
  obtain ⟨use, -, rfl⟩ := Option.map_eq_some_iff.mp h
  exact ⟨use, List.mem_singleton_self use⟩

/-- A side that reads the parameter is in form only where there is one. -/
theorem isSome_of_formed {counterpart : Option Column} {field : String} {side : Side}
    (hside : Side.ofOperand? counterpart (.param field) = some side)
    (hformed : ∀ use ∈ side.uses, use.Formed param) : param.isSome = true := by
  obtain ⟨use, huse⟩ := mem_uses_of_ofOperand? hside
  obtain ⟨values, -, -, rfl, -⟩ := hformed use huse
  rfl

/-! ## Predicates -/

/-- A predicate whose uses are in form has an outcome on every row that can be read. -/
theorem Compiled.exists_truth {predicate : Predicate} {plan : Plan}
    (h : Compiled ⟨table, param⟩ predicate plan) (hrow : Represents table row columns)
    (hformed : ∀ use ∈ plan.uses, use.Formed param) :
    ∃ outcome, (Scope.mk table row param).truth predicate = .ok outcome := by
  generalize hcompiler : Compiler.mk table param = compiler at h
  induction h with
  | constant => exact ⟨_, rfl⟩
  | rowField hcolumn hfamily =>
      subst hcompiler
      exact ⟨_, truth_rowField hrow hcolumn hfamily⟩
  | boundField hlookup =>
      subst hcompiler
      obtain ⟨values, hparam, hvalue⟩ := exists_value_of_lookup hlookup
      obtain rfl : param = some values := hparam
      exact ⟨_, bind_eq_ok_iff.mpr ⟨_, boundField_eq_ok_iff.mpr hvalue, rfl⟩⟩
  | freeField hlookup huse =>
      subst hcompiler
      obtain ⟨values, -, -, hparam, -⟩ := hformed _ (List.mem_singleton_self _)
      have hnone : param = none := param_eq_none_of_lookup hlookup
      rw [hnone] at hparam
      contradiction
  | @nullTest op asked left right operand wanted side htest hwanted hside =>
      subst hcompiler
      have hcolumn (column : Column) (hoperand : operand = .column column) :
          column ∈ table.columns :=
        Test.mem_columns_of_ofComparison htest (by simp [Test.operands, hoperand])
      obtain ⟨value, hvalue⟩ := exists_operandValue hrow hcolumn (by simp) hside hformed
      have hevaluates := evaluates_of_ofComparison row htest fun field hmem => by
        obtain rfl : .param field = operand := by simpa [Test.operands] using hmem
        exact isSome_of_formed hside hformed
      exact ⟨_, bind_eq_ok_iff.mpr ⟨_, hevaluates,
        bind_eq_ok_iff.mpr ⟨value, hvalue, bind_eq_ok_iff.mpr ⟨wanted, hwanted, rfl⟩⟩⟩⟩
  | @compare op asked left right a b first second htest hfirst hsecond =>
      subst hcompiler
      obtain ⟨hleft, hright⟩ := List.forall_mem_append.mp hformed
      have hcolumn {operand : RecordSql.Operand} (hmem : operand ∈ [a, b]) (column : Column)
          (hoperand : operand = .column column) : column ∈ table.columns :=
        Test.mem_columns_of_ofComparison htest (hoperand ▸ hmem)
      obtain ⟨x, hx⟩ := exists_operandValue hrow (hcolumn (by simp)) (by simp) hfirst hleft
      have hliteral (column : Column) (value : Literal) (ha : a.column? = some column)
          (hb : b = .literal value) :
          column ∈ table.columns ∧ column.family.accepts value.toValue = true := by
        cases a <;> simp only [RecordSql.Operand.column?, Option.some.injEq, reduceCtorEq] at ha
        subst ha hb
        exact ⟨hcolumn (by simp) _ rfl, accepts_of_ofComparison htest⟩
      obtain ⟨y, hy⟩ := exists_operandValue hrow (hcolumn (by simp)) hliteral hsecond hright
      have hevaluates := evaluates_of_ofComparison row htest fun field hmem => by
        rcases List.mem_pair.mp hmem with rfl | rfl
        · exact isSome_of_formed hfirst hleft
        · exact isSome_of_formed hsecond hright
      exact ⟨_, bind_eq_ok_iff.mpr ⟨_, hevaluates, testTruth_compare hx hy⟩⟩
  | @join op left right first second hleft hright ihLeft ihRight =>
      obtain ⟨hformedLeft, hformedRight⟩ := List.forall_mem_append.mp hformed
      obtain ⟨a, ha⟩ := ihLeft hformedLeft
      obtain ⟨b, hb⟩ := ihRight hformedRight
      exact ⟨_, bind_eq_ok_iff.mpr ⟨a, ha, bind_eq_ok_iff.mpr ⟨b, hb, rfl⟩⟩⟩

/-- Where a predicate has an outcome, all uses of its plan are in form. -/
theorem Compiled.formed_of_truth {values : FieldValues} {predicate : Predicate} {plan : Plan}
    {outcome : Truth} (h : Compiled ⟨table, some values⟩ predicate plan)
    (htruth : (Scope.mk table row (some values)).truth predicate = .ok outcome) :
    ∀ use ∈ plan.uses, use.Formed (some values) := by
  generalize hcompiler : Compiler.mk table (some values) = compiler at h
  induction h generalizing outcome with
  | constant | rowField | boundField => simp [Plan.uses, Side.uses]
  | freeField hlookup huse =>
      subst hcompiler
      have := param_eq_none_of_lookup hlookup
      contradiction
  | nullTest htest hwanted hside =>
      subst hcompiler
      obtain ⟨test, hcomparison, htruth⟩ := bind_eq_ok_iff.mp htruth
      obtain rfl := Except.ok.inj (htest.symm.trans hcomparison)
      obtain ⟨value, hvalue, -⟩ := bind_eq_ok_iff.mp htruth
      exact formed_of_operandValue hside hvalue
  | compare htest hfirst hsecond =>
      subst hcompiler
      obtain ⟨test, hcomparison, htruth⟩ := bind_eq_ok_iff.mp htruth
      obtain rfl := Except.ok.inj (htest.symm.trans hcomparison)
      obtain ⟨x, hx, htruth⟩ := bind_eq_ok_iff.mp htruth
      obtain ⟨y, hy, -⟩ := bind_eq_ok_iff.mp htruth
      exact List.forall_mem_append.mpr
        ⟨formed_of_operandValue hfirst hx, formed_of_operandValue hsecond hy⟩
  | join hleft hright ihLeft ihRight =>
      obtain ⟨a, ha, htruth⟩ := bind_eq_ok_iff.mp htruth
      obtain ⟨b, hb, -⟩ := bind_eq_ok_iff.mp htruth
      exact List.forall_mem_append.mpr ⟨ihLeft ha, ihRight hb⟩

end Outcomes

end Sql

/-! ## Reals that are not finite -/

/-- A field of the row is compared with a field of the parameter that is a real and not finite. -/
def Predicate.ComparesNonFinite (values : Option FieldValues) (predicate : Predicate) : Prop :=
  ∃ bound field name real, values = some bound ∧ (param field, row name) ∈ predicate.pairs ∧
    bound field = some (.real real) ∧ real.isFinite = false

/-- A comparison of a field of the row with one of the parameter is settled as such, whichever of
them comes first. -/
theorem Test.settled_of_mem_pairs {table : Table} {lookup : Lookup} {op : Comparison}
    {left right : Predicate} {test : Test} {field name : String}
    (htest : ofComparison table lookup op left right = .ok test)
    (hmem : (.param field, .row name) ∈ (Predicate.compare op left right).pairs) :
    ∃ asked column, table.find? name = some column ∧
      Settled lookup asked (.column column) (.param field) test := by
  obtain ⟨a, b, hleft, hright, hsettled⟩ := settled_of_ofComparison htest
  simp only [Predicate.pairs, List.mem_cons, Prod.mk.injEq, List.not_mem_nil, or_false] at hmem
  rcases hmem with ⟨rfl, rfl⟩ | ⟨rfl, rfl⟩
  · cases hleft
    cases hright with
    | @column _ column hcolumn =>
        rcases hsettled with ⟨-, hsettled⟩ | ⟨horder, -⟩
        · exact ⟨op.flip, column, hcolumn, hsettled⟩
        · simp [Operand.rank] at horder
  · cases hright
    cases hleft with
    | @column _ column hcolumn =>
        rcases hsettled with ⟨horder, -⟩ | ⟨-, hsettled⟩
        · simp [Operand.rank] at horder
        · exact ⟨op, column, hcolumn, hsettled⟩

namespace Sql

section NonFinite

variable {table : Table} {row values : FieldValues} {columns : Ident → Value}
  {predicate : Predicate} {plan : Plan} {fragment : Fragment}

/-- A field of the parameter that is compared with a field of the row has a value that may be, and
there is a use for it unless it is not set. -/
theorem Compiled.exists_use_of_mem_pairs {field name : String}
    (h : Compiled ⟨table, some values⟩ predicate plan)
    (hmem : (.param field, .row name) ∈ predicate.pairs) :
    ∃ column value, table.find? name = some column ∧ values field = some value ∧
      column.family.accepts value = true ∧
      (value.isDefault = false →
        ∃ use ∈ plan.uses, use.counterpart = some column ∧ use.field = field) := by
  generalize hcompiler : Compiler.mk table (some values) = compiler at h
  induction h with
  | constant | rowField | boundField | freeField => simp [Predicate.pairs] at hmem
  | nullTest htest hwanted hside =>
      subst hcompiler
      obtain ⟨_, column, hcolumn, hsettled⟩ := Test.settled_of_mem_pairs htest hmem
      cases hsettled with
      | @unset _ _ value hlookup hfamily hdefault hop =>
          obtain ⟨_, hparam, hvalue⟩ := exists_value_of_lookup hlookup
          obtain rfl := Option.some.inj hparam
          exact ⟨column, value, hcolumn, hvalue, hfamily, by simp [hdefault]⟩
  | compare htest hfirst hsecond =>
      subst hcompiler
      obtain ⟨_, column, hcolumn, hsettled⟩ := Test.settled_of_mem_pairs htest hmem
      cases hsettled with
      | columnFree hlookup =>
          have := param_eq_none_of_lookup hlookup
          contradiction
      | @columnBound _ _ value hlookup hfamily hset =>
          obtain ⟨_, hparam, hvalue⟩ := exists_value_of_lookup hlookup
          obtain rfl := Option.some.inj hparam
          obtain ⟨use, huse⟩ := mem_uses_of_ofOperand? hsecond
          obtain ⟨hfield, hcounterpart⟩ := eq_param_of_mem_uses hsecond huse
          refine ⟨column, value, hcolumn, hvalue, hfamily, fun _ => ?_⟩
          exact ⟨use, List.mem_append_right _ huse, hcounterpart,
            (RecordSql.Operand.param.inj hfield).symm⟩
  | join hleft hright ihLeft ihRight =>
      rcases List.mem_append.mp hmem with hmem | hmem
      · obtain ⟨column, value, hcolumn, hvalue, hfamily, hset⟩ := ihLeft hmem
        refine ⟨column, value, hcolumn, hvalue, hfamily, fun hdefault => ?_⟩
        obtain ⟨use, huse, hfound⟩ := hset hdefault
        exact ⟨use, List.mem_append_left _ huse, hfound⟩
      · obtain ⟨column, value, hcolumn, hvalue, hfamily, hset⟩ := ihRight hmem
        refine ⟨column, value, hcolumn, hvalue, hfamily, fun hdefault => ?_⟩
        obtain ⟨use, huse, hfound⟩ := hset hdefault
        exact ⟨use, List.mem_append_right _ huse, hfound⟩

/-- In a compiled predicate the uses are in form exactly if no real that is compared with a field
of the row is other than finite. -/
theorem Compiled.formed_iff {held : Placeholders}
    (h : Compiled ⟨table, some values⟩ predicate plan)
    (hissues : Issues (some values) Placeholders.empty plan.uses held)
    (hbuiltin : ∀ column ∈ table.columns, Handler.builtin? column.type = some column.handler) :
    (∀ use ∈ plan.uses, use.Formed (some values)) ↔
      ¬predicate.ComparesNonFinite (some values) := by
  have hhandler {name : String} {column : Column} (hcolumn : table.find? name = some column) :
      Handler.builtin? column.type = some column.handler :=
    hbuiltin column (Table.mem_and_field_of_find? hcolumn).1
  constructor
  · rintro hformed ⟨_, field, name, real, hbound, hmem, hreal, hfinite⟩
    obtain rfl := Option.some.inj hbound
    obtain ⟨column, value, hcolumn, hvalue, hfamily, hset⟩ := h.exists_use_of_mem_pairs hmem
    obtain rfl := Option.some.inj (hreal.symm.trans hvalue)
    -- Zero is finite, so the real is set and there is a use for it.
    have hdefault : (Value.real real).isDefault = false := by
      cases real <;> simp_all [Value.isDefault, Binary64.isZero, Binary64.isFinite]
    obtain ⟨use, huse, hcounterpart, rfl⟩ := hset hdefault
    obtain ⟨_, _, stored, hparam, hvalue', hform⟩ := hformed use huse
    obtain rfl := Option.some.inj hparam
    obtain rfl := Option.some.inj (hvalue.symm.trans hvalue')
    rw [hcounterpart] at hform
    rw [isFinite_of_serializeOperand (hhandler hcolumn) hform] at hfinite
    contradiction
  · intro hnone use huse
    obtain ⟨binding, hbinding, -, -, hfield⟩ := hissues.exists_binding huse
    obtain ⟨other, -, hsame, _, value, hparam, hvalue, -⟩ := hissues.exists_madeFor hbinding
    obtain rfl := Option.some.inj hparam
    rw [← hsame, hfield] at hvalue
    obtain ⟨opposite, hmem, hopposite⟩ := h.exists_opposite huse
    cases hopposite with
    | other hcounterpart hother =>
        exact ⟨values, value, value, rfl, hvalue, by rw [hcounterpart]; rfl⟩
    | @column name column hcolumn hcounterpart =>
        obtain ⟨column', value', hcolumn', hvalue', hfamily, -⟩ := h.exists_use_of_mem_pairs hmem
        obtain rfl := Option.some.inj (hcolumn.symm.trans hcolumn')
        obtain rfl := Option.some.inj (hvalue.symm.trans hvalue')
        have hfinite (real : Binary64) (hreal : value = .real real) : real.isFinite = true := by
          by_contra hfinite
          exact hnone
            ⟨values, _, name, real, rfl, hmem, hreal ▸ hvalue, Bool.eq_false_iff.mpr hfinite⟩
        obtain ⟨stored, hstored⟩ :=
          (exists_serializeOperand_iff (hhandler hcolumn) hfamily).mpr hfinite
        exact ⟨values, value, stored, rfl, hvalue, by rw [hcounterpart]; exact hstored⟩

/-- A predicate that compiles with all its placeholders bound has an outcome on a row exactly if it
compares no field of the row with a real that is not finite. -/
theorem exists_truth_iff {param : Option FieldValues}
    (hcompile : compile table param predicate = .ok fragment) (hbound : fragment.deferred = [])
    (hrow : Represents table row columns) :
    (∃ outcome, (Scope.mk table row param).truth predicate = .ok outcome) ↔
      ¬predicate.ComparesNonFinite param := by
  obtain ⟨plan, held, hcompiled, hissues, rfl⟩ := compiled_of_compile hcompile
  cases param with
  | some values =>
      rw [← hcompiled.formed_iff hissues hrow.builtin]
      constructor
      · rintro ⟨outcome, houtcome⟩
        exact hcompiled.formed_of_truth houtcome
      · exact hcompiled.exists_truth hrow
  | none =>
      have haligned := hissues.aligned (Placeholders.aligned_empty _)
      -- No placeholder was handed out, so the plan has no use.
      have hissued : held.issued = [] := by
        have hnone : held.deferred = [] := hbound
        simp [haligned.issued_eq, haligned.bindings_eq_nil rfl, hnone]
      have houtcome := hcompiled.exists_truth hrow fun use huse => by
        have hlookup := hissues.lookup_name huse
        simp [hissued] at hlookup
      simpa [Predicate.ComparesNonFinite] using houtcome

end NonFinite

end Sql

end RecordSql
