import RecordSql.Proofs.Predicate.Comparison
import RecordSql.Proofs.Sql.Naming
import RecordSql.Proofs.Sql.Plan

/-!
# Successful compilation

What is known when a predicate compiles, apart from the checks: it has a plan, the expression is
that of the plan, and the placeholders were handed out for the uses of the plan from left to right.
The names are those found among all names handed out in the end.
-/

namespace RecordSql

namespace Sql

namespace Step

variable {α β : Type} {held held' : Placeholders}

theorem bind_eq_ok_iff {x : Step α} {f : α → Step β} {b : β} :
    (x >>= f).run held = .ok (b, held') ↔
      ∃ a middle, x.run held = .ok (a, middle) ∧ (f a).run middle = .ok (b, held') := by
  simp only [StateT.run_bind, RecordSql.bind_eq_ok_iff, Prod.exists]

theorem pure_eq_ok_iff {a b : α} :
    (pure a : Step α).run held = .ok (b, held') ↔ a = b ∧ held = held' := by
  rw [StateT.run_pure]
  simp [pure, Except.pure]

theorem get_eq_ok_iff {a : Placeholders} :
    (get : Step Placeholders).run held = .ok (a, held') ↔ held = a ∧ held = held' := by
  rw [StateT.run_get]
  simp [pure, Except.pure]

theorem set_eq_ok_iff {a : Placeholders} {b : PUnit} :
    (set a : Step PUnit).run held = .ok (b, held') ↔ a = held' := by
  rw [StateT.run_set]
  simp [pure, Except.pure]

/-- What needs no placeholder leaves them as they are. -/
theorem lift_eq_ok_iff {x : Except Error α} {a : α} :
    (liftM x : Step α).run held = .ok (a, held') ↔ x = .ok a ∧ held = held' := by
  rw [show (liftM x : Step α).run held = (x >>= fun a => .ok (a, held)) from rfl,
    RecordSql.bind_eq_ok_iff]
  simp

end Step

/-! ## Handing out placeholders -/

theorem param_eq_none_of_lookup {compiler : Compiler} {field : String}
    (h : compiler.lookup field = .ok none) : compiler.param = none := by
  unfold Compiler.lookup at h
  cases hparam : compiler.param with
  | none => rfl
  | some values =>
      rw [hparam] at h
      obtain ⟨value, -, hvalue⟩ := map_eq_ok_iff.mp h
      contradiction

theorem exists_value_of_lookup {compiler : Compiler} {field : String} {value : Value}
    (h : compiler.lookup field = .ok (some value)) :
    ∃ values, compiler.param = some values ∧ values field = some value := by
  unfold Compiler.lookup at h
  cases hparam : compiler.param with
  | none => simp [hparam] at h
  | some values =>
      rw [hparam] at h
      obtain ⟨bound, hbound, hvalue⟩ := map_eq_ok_iff.mp h
      obtain rfl := Option.some.inj hvalue
      exact ⟨values, rfl, boundField_eq_ok_iff.mp hbound⟩

theorem use_of_baseName {counterpart : Option Column} {field : String} {base : Ident}
    (h : Compiler.baseName counterpart field = .ok base) :
    Use.of? counterpart field = some ⟨base, counterpart, field⟩ := by
  cases counterpart with
  | some column =>
      obtain rfl := Except.ok.inj h
      rfl
  | none =>
      have hparse : Ident.parse field = .ok base := mapError_eq_ok_iff.mp h
      obtain rfl := Ident.parse_eq_ok_iff.mp hparse
      simp [Use.of?, base.valid]

/-- One use takes its placeholder: it has one already, or a new one is bound in the form that this
use needs, or deferred where there is no parameter. -/
inductive Issue (param : Option FieldValues) : Placeholders → Use → Placeholders → Prop
  | again {held : Placeholders} {use : Use}
      (hheld : held.issued.lookup (use.name held.issued) = some use.field) :
      Issue param held use held
  | bind {held : Placeholders} {use : Use} {values : FieldValues} {value stored : Value}
      (hfresh : held.issued.lookup (use.name held.issued) = none)
      (hparam : param = some values) (hvalue : values use.field = some value)
      (hform : Compiler.boundForm use.counterpart value = .ok stored) :
      Issue param held use
        ⟨held.issued.add (use.name held.issued) use.field,
          held.bindings ++ [⟨use.name held.issued, use.field, stored⟩], held.deferred⟩
  | defer {held : Placeholders} {use : Use}
      (hfresh : held.issued.lookup (use.name held.issued) = none) (hparam : param = none) :
      Issue param held use
        ⟨held.issued.add (use.name held.issued) use.field, held.bindings,
          held.deferred ++ [⟨use.name held.issued, use.field⟩]⟩

/-- Uses take their placeholders one after another. -/
inductive Issues (param : Option FieldValues) : Placeholders → List Use → Placeholders → Prop
  | nil {held : Placeholders} : Issues param held [] held
  | cons {held middle last : Placeholders} {use : Use} {uses : List Use}
      (hfirst : Issue param held use middle) (hrest : Issues param middle uses last) :
      Issues param held (use :: uses) last

/-- A binding of the parameter's value in the form that a use needs. -/
def Binding.MadeFor (binding : Binding) (param : Option FieldValues) (use : Use) : Prop :=
  binding.field = use.field ∧ ∃ values value, param = some values ∧
    values use.field = some value ∧ Compiler.boundForm use.counterpart value = .ok binding.value

/-- A run of `Compiler.issue` gives a use its placeholder. -/
theorem issue_of_run {compiler : Compiler} {use : Use} {held held' : Placeholders} {name : Ident}
    (h : (compiler.issue use.counterpart use.field use.base).run held = .ok (name, held')) :
    name = use.name held.issued ∧ Issue compiler.param held use held' := by
  unfold Compiler.issue at h
  obtain ⟨_, _, hget, h⟩ := Step.bind_eq_ok_iff.mp h
  obtain ⟨rfl, rfl⟩ := Step.get_eq_ok_iff.mp hget
  dsimp only at h
  split at h
  case isFalse hheld =>
    -- The name is not free, and it was handed out for this field and no other.
    obtain ⟨rfl, rfl⟩ := Step.pure_eq_ok_iff.mp h
    refine ⟨rfl, .again ?_⟩
    rcases Issued.lookup_name held.issued use.base use.field with hnone | hsome
    · simp [Issued.isFresh, hnone] at hheld
    · exact hsome
  case isTrue hfresh =>
    have hfree : held.issued.lookup (use.name held.issued) = none :=
      Option.isNone_iff_eq_none.mp hfresh
    obtain ⟨bound?, _, hrun, h⟩ := Step.bind_eq_ok_iff.mp h
    obtain ⟨hlookup, rfl⟩ := Step.lift_eq_ok_iff.mp hrun
    cases bound? with
    | none =>
        obtain ⟨_, _, hset, h⟩ := Step.bind_eq_ok_iff.mp h
        obtain rfl := Step.set_eq_ok_iff.mp hset
        obtain ⟨rfl, rfl⟩ := Step.pure_eq_ok_iff.mp h
        exact ⟨rfl, .defer hfree (param_eq_none_of_lookup hlookup)⟩
    | some value =>
        obtain ⟨stored, _, hrun, h⟩ := Step.bind_eq_ok_iff.mp h
        obtain ⟨hform, rfl⟩ := Step.lift_eq_ok_iff.mp hrun
        obtain ⟨_, _, hset, h⟩ := Step.bind_eq_ok_iff.mp h
        obtain rfl := Step.set_eq_ok_iff.mp hset
        obtain ⟨rfl, rfl⟩ := Step.pure_eq_ok_iff.mp h
        obtain ⟨values, hparam, hvalue⟩ := exists_value_of_lookup hlookup
        exact ⟨rfl, .bind hfree hparam hvalue hform⟩

/-- A run of `Compiler.placeholder` is one for the use that stands there. -/
theorem issue_of_placeholder {compiler : Compiler} {counterpart : Option Column} {field : String}
    {held held' : Placeholders} {name : Ident}
    (h : (compiler.placeholder counterpart field).run held = .ok (name, held')) :
    ∃ use, Use.of? counterpart field = some use ∧ name = use.name held.issued ∧
      Issue compiler.param held use held' := by
  unfold Compiler.placeholder at h
  obtain ⟨base, _, hrun, h⟩ := Step.bind_eq_ok_iff.mp h
  obtain ⟨hbase, rfl⟩ := Step.lift_eq_ok_iff.mp hrun
  exact ⟨⟨base, counterpart, field⟩, use_of_baseName hbase, issue_of_run h⟩

/-! ## Laws of the placeholders handed out -/

section Laws

variable {param : Option FieldValues} {held middle held' : Placeholders} {use : Use}
  {uses : List Use} {binding : Binding}

/-- After a use has its placeholder the name stands for its field. -/
theorem Issue.lookup_name (h : Issue param held use held') :
    held'.issued.lookup (use.name held.issued) = some use.field := by
  cases h with
  | again hheld => exact hheld
  | bind hfresh hparam hvalue hform => exact Issued.lookup_add_self hfresh use.field
  | defer hfresh hparam => exact Issued.lookup_add_self hfresh use.field

theorem Issue.issued_extends (h : Issue param held use held') :
    held'.issued.Extends held.issued := by
  cases h with
  | again hheld => exact Issued.Extends.refl _
  | bind hfresh hparam hvalue hform => exact Issued.extends_add _ _ _
  | defer hfresh hparam => exact Issued.extends_add _ _ _

theorem Issues.issued_extends (h : Issues param held uses held') :
    held'.issued.Extends held.issued := by
  induction h with
  | nil => exact Issued.Extends.refl _
  | cons hfirst hrest ih => exact ih.trans hfirst.issued_extends

theorem Issues.append {more : List Use} (h : Issues param held uses middle)
    (h' : Issues param middle more held') : Issues param held (uses ++ more) held' := by
  induction h with
  | nil => exact h'
  | cons hfirst hrest ih => exact .cons hfirst (ih h')

theorem Issues.singleton (h : Issue param held use held') : Issues param held [use] held' :=
  .cons h .nil

/-- The name that a use was given is the one that is found for it in the end. -/
theorem Issue.name_eq (h : Issue param held use middle)
    (hlater : held'.issued.Extends middle.issued) :
    use.name held'.issued = use.name held.issued :=
  (hlater.trans h.issued_extends).name_eq (hlater _ _ h.lookup_name)

/-- In the end the name of every use stands for its field. -/
theorem Issues.lookup_name (h : Issues param held uses held') (huse : use ∈ uses) :
    held'.issued.lookup (use.name held'.issued) = some use.field := by
  induction h with
  | nil => simp at huse
  | cons hfirst hrest ih =>
      rcases List.mem_cons.mp huse with rfl | hmem
      · -- The first name was handed out before the others and is found again after them.
        rw [hfirst.name_eq hrest.issued_extends]
        exact hrest.issued_extends _ _ hfirst.lookup_name
      · exact ih hmem

/-- The names of uses do not change when more placeholders are handed out. -/
theorem Issues.name_eq (h : Issues param held uses middle)
    (hlater : held'.issued.Extends middle.issued) (huse : use ∈ uses) :
    use.name held'.issued = use.name middle.issued :=
  hlater.name_eq (hlater _ _ (h.lookup_name huse))

/-- A placeholder that one use binds has the form that the use needs. -/
theorem Issue.mem_bindings (h : Issue param held use held') (hbinding : binding ∈ held'.bindings) :
    binding ∈ held.bindings ∨ binding.MadeFor param use := by
  cases h with
  | again hheld => exact Or.inl hbinding
  | bind hfresh hparam hvalue hform =>
      rcases List.mem_append.mp hbinding with hmem | hmem
      · exact Or.inl hmem
      · obtain rfl := List.mem_singleton.mp hmem
        exact Or.inr ⟨rfl, _, _, hparam, hvalue, hform⟩
  | defer hfresh hparam => exact Or.inl hbinding

/-- Every placeholder that is bound has the form that some use of its field needs. -/
theorem Issues.mem_bindings (h : Issues param held uses held')
    (hbinding : binding ∈ held'.bindings) :
    binding ∈ held.bindings ∨ ∃ use ∈ uses, binding.MadeFor param use := by
  induction h with
  | nil => exact Or.inl hbinding
  | @cons held middle last use uses hfirst hrest ih =>
      rcases ih hbinding with hmem | ⟨other, hother, hmade⟩
      · rcases hfirst.mem_bindings hmem with hmem | hmade
        · exact Or.inl hmem
        · exact Or.inr ⟨use, List.mem_cons_self, hmade⟩
      · exact Or.inr ⟨other, List.mem_cons_of_mem _ hother, hmade⟩

end Laws

/-! ## Runs of the compiler -/

/-- The side that an operand is, opposite to a column or to none. -/
def Side.ofOperand? (counterpart : Option Column) : RecordSql.Operand → Option Side
  | .column c => some (column c)
  | .param field => (Use.of? counterpart field).map param
  | .literal (.real value) => if value.isFinite then some (literal (.real value)) else none
  | .literal value => some (literal value)

/-- A literal is its own side, if it is not a real that cannot be written. -/
theorem eq_literal_of_ofOperand? {counterpart : Option Column} {value : Literal} {side : Side}
    (h : Side.ofOperand? counterpart (.literal value) = some side) :
    side = .literal value ∧ ∀ real, value = .real real → real.isFinite = true := by
  cases value <;> simp_all [Side.ofOperand?]

/-- A literal that can be written is a side of its own. -/
theorem ofOperand?_of_literal (counterpart : Option Column) {value : Literal} {result : Operand}
    (h : Compiler.literal value = .ok result) :
    Side.ofOperand? counterpart (.literal value) = some (.literal value) ∧
      result = Operand.ofLiteral value := by
  cases value with
  | real value =>
      simp only [Compiler.literal] at h
      split at h
      · next hfinite =>
        obtain rfl := Except.ok.inj h
        exact ⟨by simp [Side.ofOperand?, hfinite], rfl⟩
      · contradiction
  | null | bool | int | text =>
      obtain rfl := Except.ok.inj h
      exact ⟨rfl, rfl⟩

/-- What a predicate compiles to, and what was checked on the way. -/
inductive Compiled (compiler : Compiler) : Predicate → Plan → Prop
  | constant {value : Bool} : Compiled compiler (.literal (.bool value)) (.constant value)
  | rowField {name : String} {column : Column}
      (hcolumn : compiler.table.find? name = some column) (hfamily : column.family = .boolean) :
      Compiled compiler (.field name .row) (.compare .eq (.column column) (.literal (.bool true)))
  | boundField {name : String} {value : Bool}
      (hlookup : compiler.lookup name = .ok (some (.bool value))) :
      Compiled compiler (.field name .param) (.constant value)
  | freeField {name : String} {use : Use} (hlookup : compiler.lookup name = .ok none)
      (huse : Use.of? none name = some use) :
      Compiled compiler (.field name .param) (.compare .eq (.param use) (.literal (.bool true)))
  | nullTest {op asked : Comparison} {left right : Predicate} {operand : RecordSql.Operand}
      {wanted : Bool} {side : Side}
      (htest : Test.ofComparison compiler.table compiler.lookup op left right =
        .ok (.null asked operand))
      (hwanted : RecordSql.nullTest asked = .ok wanted)
      (hside : Side.ofOperand? none operand = some side) :
      Compiled compiler (.compare op left right) (.nullTest wanted side)
  | compare {op asked : Comparison} {left right : Predicate} {a b : RecordSql.Operand}
      {first second : Side}
      (htest : Test.ofComparison compiler.table compiler.lookup op left right =
        .ok (.compare asked a b))
      (hfirst : Side.ofOperand? none a = some first)
      (hsecond : Side.ofOperand? a.column? b = some second) :
      Compiled compiler (.compare op left right) (.compare asked first second)
  | join {op : Connective} {left right : Predicate} {first second : Plan}
      (hleft : Compiled compiler left first) (hright : Compiled compiler right second) :
      Compiled compiler (.join op left right) (.join op first second)

/-- A run on one operand hands out a placeholder for each use on its side. -/
theorem operand_of_run {compiler : Compiler} {counterpart : Option Column}
    {operand : RecordSql.Operand} {held held' : Placeholders} {result : Operand}
    (h : (compiler.operand counterpart operand).run held = .ok (result, held')) :
    ∃ side, Side.ofOperand? counterpart operand = some side ∧
      Issues compiler.param held side.uses held' ∧
      result = side.operand (Use.name held'.issued) := by
  cases operand with
  | column c =>
      obtain ⟨rfl, rfl⟩ := Step.pure_eq_ok_iff.mp h
      exact ⟨.column c, rfl, .nil, rfl⟩
  | param field =>
      obtain ⟨name, _, hrun, h⟩ := Step.bind_eq_ok_iff.mp h
      obtain ⟨rfl, rfl⟩ := Step.pure_eq_ok_iff.mp h
      obtain ⟨use, huse, rfl, hissue⟩ := issue_of_placeholder hrun
      refine ⟨.param use, by simp [Side.ofOperand?, huse], .singleton hissue, ?_⟩
      rw [Side.operand, hissue.name_eq (Issued.Extends.refl _)]
  | literal value =>
      obtain ⟨hliteral, rfl⟩ := Step.lift_eq_ok_iff.mp h
      obtain ⟨hside, hresult⟩ := ofOperand?_of_literal counterpart hliteral
      exact ⟨.literal value, hside, .nil, hresult⟩

/-- A run on a test is a run on its operands, from left to right. -/
theorem compiled_of_test_run {compiler : Compiler} {op : Comparison} {left right : Predicate}
    {test : Test} {held held' : Placeholders} {result : Expr}
    (htest : Test.ofComparison compiler.table compiler.lookup op left right = .ok test)
    (h : (compiler.test test).run held = .ok (result, held')) :
    ∃ plan, Compiled compiler (.compare op left right) plan ∧
      Issues compiler.param held plan.uses held' ∧ result = plan.expr (Use.name held'.issued) := by
  cases test with
  | null asked operand =>
      obtain ⟨wanted, _, hlift, h⟩ := Step.bind_eq_ok_iff.mp h
      obtain ⟨hwanted, rfl⟩ := Step.lift_eq_ok_iff.mp hlift
      obtain ⟨_, _, hrun, h⟩ := Step.bind_eq_ok_iff.mp h
      obtain ⟨rfl, rfl⟩ := Step.pure_eq_ok_iff.mp h
      obtain ⟨side, hside, hissues, rfl⟩ := operand_of_run hrun
      exact ⟨.nullTest wanted side, .nullTest htest hwanted hside, hissues, rfl⟩
  | compare asked a b =>
      obtain ⟨_, middle, hrunFirst, h⟩ := Step.bind_eq_ok_iff.mp h
      obtain ⟨_, _, hrunSecond, h⟩ := Step.bind_eq_ok_iff.mp h
      obtain ⟨rfl, rfl⟩ := Step.pure_eq_ok_iff.mp h
      obtain ⟨first, hfirst, hissuesFirst, rfl⟩ := operand_of_run hrunFirst
      obtain ⟨second, hsecond, hissuesSecond, rfl⟩ := operand_of_run hrunSecond
      refine ⟨.compare asked first second, .compare htest hfirst hsecond,
        hissuesFirst.append hissuesSecond, ?_⟩
      -- The second operand adds names, and those of the first one are found among them.
      rw [Plan.expr, Side.operand_congr fun use huse =>
        hissuesFirst.name_eq hissuesSecond.issued_extends huse]

/-- A successful run of the compiler, from any placeholders on: the predicate has a plan, the
placeholders are handed out for its uses, and the result is its expression. -/
theorem compiled_of_run {compiler : Compiler} {predicate : Predicate}
    {held held' : Placeholders} {result : Expr}
    (h : (compiler.expr predicate).run held = .ok (result, held')) :
    ∃ plan, Compiled compiler predicate plan ∧ Issues compiler.param held plan.uses held' ∧
      result = plan.expr (Use.name held'.issued) := by
  -- The right side of a join starts from the placeholders that the left side leaves, so the
  -- induction is for all placeholders at once.
  induction predicate generalizing held held' result with
  | literal value =>
      cases value with
      | bool value =>
          obtain ⟨rfl, rfl⟩ := Step.pure_eq_ok_iff.mp h
          exact ⟨.constant value, .constant, .nil, rfl⟩
      | null | int | real | text => contradiction
  | field name slot =>
      cases slot with
      | row =>
          obtain ⟨column, _, hlift, h⟩ := Step.bind_eq_ok_iff.mp h
          obtain ⟨hcolumn, rfl⟩ := Step.lift_eq_ok_iff.mp hlift
          obtain ⟨rfl, rfl⟩ := Step.pure_eq_ok_iff.mp h
          obtain ⟨hfind, hfamily⟩ := predicateColumn_eq_ok_iff.mp hcolumn
          exact ⟨_, .rowField hfind hfamily, .nil, rfl⟩
      | param =>
          obtain ⟨bound, _, hlift, h⟩ := Step.bind_eq_ok_iff.mp h
          obtain ⟨hlookup, rfl⟩ := Step.lift_eq_ok_iff.mp hlift
          split at h
          · obtain ⟨rfl, rfl⟩ := Step.pure_eq_ok_iff.mp h
            exact ⟨_, .boundField hlookup, .nil, rfl⟩
          · contradiction
          · obtain ⟨_, _, hrun, h⟩ := Step.bind_eq_ok_iff.mp h
            obtain ⟨rfl, rfl⟩ := Step.pure_eq_ok_iff.mp h
            obtain ⟨use, huse, rfl, hissue⟩ := issue_of_placeholder hrun
            refine ⟨_, .freeField hlookup huse, .singleton hissue, ?_⟩
            rw [Plan.expr, Side.operand, hissue.name_eq (Issued.Extends.refl _)]
            rfl
  | compare op left right =>
      obtain ⟨test, _, hlift, h⟩ := Step.bind_eq_ok_iff.mp h
      obtain ⟨htest, rfl⟩ := Step.lift_eq_ok_iff.mp hlift
      exact compiled_of_test_run htest h
  | join op left right ihLeft ihRight =>
      obtain ⟨_, middle, hrunLeft, h⟩ := Step.bind_eq_ok_iff.mp h
      obtain ⟨_, _, hrunRight, h⟩ := Step.bind_eq_ok_iff.mp h
      obtain ⟨rfl, rfl⟩ := Step.pure_eq_ok_iff.mp h
      obtain ⟨first, hleft, hissuesLeft, rfl⟩ := ihLeft hrunLeft
      obtain ⟨second, hright, hissuesRight, rfl⟩ := ihRight hrunRight
      refine ⟨.join op first second, .join hleft hright, hissuesLeft.append hissuesRight, ?_⟩
      rw [Plan.expr, Plan.expr_congr fun use huse =>
        hissuesLeft.name_eq hissuesRight.issued_extends huse]

/-- What is known of a compiled predicate. -/
theorem compiled_of_compile {table : Table} {param : Option FieldValues} {predicate : Predicate}
    {fragment : Fragment} (h : compile table param predicate = .ok fragment) :
    ∃ plan held, Compiled ⟨table, param⟩ predicate plan ∧
      Issues param Placeholders.empty plan.uses held ∧
      fragment = ⟨plan.expr (Use.name held.issued), held.bindings, held.deferred⟩ := by
  obtain ⟨⟨result, held⟩, hrun, h⟩ := bind_eq_ok_iff.mp h
  obtain rfl := Except.ok.inj h
  obtain ⟨plan, hcompiled, hissues, rfl⟩ := compiled_of_run hrun
  exact ⟨plan, held, hcompiled, hissues, rfl⟩

/-! ## Operands and their sides -/

section Rules

variable {compiler : Compiler} {op : Comparison} {left right : Predicate}
  {a b : RecordSql.Operand}

theorem place_eq_rank (h : RecordSql.Operand.Reads compiler.table left a) :
    place left = a.rank := by
  cases h with
  | column hcolumn => rfl
  | param => rfl
  | literal => rename_i value; cases value <;> rfl

theorem ofPredicate?_eq_ofOperand? (counterpart : Option Column)
    (h : RecordSql.Operand.Reads compiler.table left a) :
    Side.ofPredicate? compiler.table counterpart left = Side.ofOperand? counterpart a := by
  cases h with
  | column hcolumn => simp [Side.ofPredicate?, Side.ofOperand?, hcolumn]
  | param => rfl
  | literal => rename_i value; cases value <;> rfl

theorem column?_of_ofOperand? {counterpart : Option Column} {side : Side}
    (h : Side.ofOperand? counterpart a = some side) : side.column? = a.column? := by
  cases a with
  | column c =>
      obtain rfl := Option.some.inj h
      rfl
  | param field =>
      obtain ⟨use, -, rfl⟩ := Option.map_eq_some_iff.mp h
      rfl
  | literal value =>
      obtain ⟨rfl, -⟩ := eq_literal_of_ofOperand? h
      rfl

theorem isUnset_of_lookup {field : String} {bound : Option Value}
    (h : compiler.lookup field = .ok bound) :
    isUnset compiler.param field = bound.any Value.isDefault := by
  cases bound with
  | none => simp [isUnset, param_eq_none_of_lookup h]
  | some value =>
      obtain ⟨values, hparam, hvalue⟩ := exists_value_of_lookup h
      simp [isUnset, hparam, hvalue]

theorem asksNull_literal {param : Option FieldValues} {value : Literal} (hvalue : value ≠ .null) :
    asksNull param op left (.literal value) = false := by
  unfold asksNull
  split <;> simp_all

/-- Operands in order ask about null exactly when their test does. -/
theorem asksNull_of_settled {test : Test} (hleft : RecordSql.Operand.Reads compiler.table left a)
    (hright : RecordSql.Operand.Reads compiler.table right b)
    (h : Test.Settled compiler.lookup op a b test) :
    (asksNull compiler.param op left right = true ∧ test = .null op a) ∨
      (asksNull compiler.param op left right = false ∧ test = .compare op a b) := by
  cases h with
  | null =>
      cases hright
      exact Or.inl ⟨rfl, rfl⟩
  | unset hlookup hfamily hdefault hop =>
      cases hleft
      cases hright
      exact Or.inl ⟨by simp [asksNull, isUnset_of_lookup hlookup, hdefault, hop], rfl⟩
  | columns hfamily =>
      cases hleft
      cases hright
      exact Or.inr ⟨rfl, rfl⟩
  | columnFree hlookup =>
      cases hleft
      cases hright
      exact Or.inr ⟨by simp [asksNull, isUnset_of_lookup hlookup], rfl⟩
  | columnBound hlookup hfamily hset =>
      cases hleft
      cases hright
      rw [Bool.and_comm] at hset
      exact Or.inr ⟨by simpa [asksNull, isUnset_of_lookup hlookup] using hset, rfl⟩
  | params hfirst hsecond hvalues =>
      cases hleft
      cases hright
      exact Or.inr ⟨rfl, rfl⟩
  | columnLiteral hvalue hfamily =>
      cases hright
      exact Or.inr ⟨asksNull_literal hvalue, rfl⟩
  | paramLiteral hvalue hlookup hvalues =>
      cases hright
      exact Or.inr ⟨asksNull_literal hvalue, rfl⟩
  | literals hvalue hvalues =>
      cases hright
      exact Or.inr ⟨asksNull_literal hvalue, rfl⟩

theorem ordered?_of_null {asked : Comparison} {operand : RecordSql.Operand} {wanted : Bool}
    {side : Side} (hleft : RecordSql.Operand.Reads compiler.table left a)
    (hright : RecordSql.Operand.Reads compiler.table right b)
    (h : Test.Settled compiler.lookup op a b (.null asked operand))
    (hwanted : RecordSql.nullTest asked = .ok wanted)
    (hside : Side.ofOperand? none operand = some side) :
    Plan.ordered? compiler.table compiler.param op left right = some (.nullTest wanted side) := by
  rcases asksNull_of_settled hleft hright h with ⟨hasks, htest⟩ | ⟨-, htest⟩
  · obtain ⟨rfl, rfl⟩ := Test.null.inj htest
    rw [← ofPredicate?_eq_ofOperand? none hleft] at hside
    cases asked <;> simp_all [Plan.ordered?, RecordSql.nullTest]
  · contradiction

theorem ordered?_of_compare {asked : Comparison} {x y : RecordSql.Operand} {first second : Side}
    (hleft : RecordSql.Operand.Reads compiler.table left a)
    (hright : RecordSql.Operand.Reads compiler.table right b)
    (h : Test.Settled compiler.lookup op a b (.compare asked x y))
    (hfirst : Side.ofOperand? none x = some first)
    (hsecond : Side.ofOperand? x.column? y = some second) :
    Plan.ordered? compiler.table compiler.param op left right =
      some (.compare asked first second) := by
  rcases asksNull_of_settled hleft hright h with ⟨-, htest⟩ | ⟨hasks, htest⟩
  · contradiction
  · obtain ⟨rfl, rfl, rfl⟩ := Test.compare.inj htest
    rw [← column?_of_ofOperand? hfirst, ← ofPredicate?_eq_ofOperand? _ hright] at hsecond
    rw [← ofPredicate?_eq_ofOperand? none hleft] at hfirst
    simp [Plan.ordered?, hasks, hfirst, hsecond]

end Rules

/-! ## The uses of a plan -/

theorem Use.eq_of_of? {counterpart : Option Column} {field : String} {use : Use}
    (h : Use.of? counterpart field = some use) :
    use.counterpart = counterpart ∧ use.field = field := by
  cases counterpart with
  | some column =>
      obtain rfl := Option.some.inj h
      exact ⟨rfl, rfl⟩
  | none =>
      simp only [Use.of?] at h
      split at h
      · obtain rfl := Option.some.inj h
        exact ⟨rfl, rfl⟩
      · contradiction

theorem Side.of?_of_mem_uses {counterpart : Option Column} {operand : RecordSql.Operand}
    {side : Side} {use : Use} (h : Side.ofOperand? counterpart operand = some side)
    (huse : use ∈ side.uses) : Use.of? use.counterpart use.field = some use := by
  cases operand with
  | column c =>
      obtain rfl := Option.some.inj h
      simp [uses] at huse
  | param field =>
      obtain ⟨made, hmade, rfl⟩ := Option.map_eq_some_iff.mp h
      obtain rfl := List.mem_singleton.mp huse
      obtain ⟨hcounterpart, hfield⟩ := Use.eq_of_of? hmade
      rw [hcounterpart, hfield, hmade]
  | literal value =>
      obtain ⟨rfl, -⟩ := eq_literal_of_ofOperand? h
      simp [uses] at huse

/-- A use is determined by its field and the column opposite to it. -/
theorem Compiled.of?_of_mem_uses {compiler : Compiler} {predicate : Predicate} {plan : Plan}
    {use : Use} (h : Compiled compiler predicate plan) (huse : use ∈ plan.uses) :
    Use.of? use.counterpart use.field = some use := by
  induction h with
  | constant => simp [Plan.uses] at huse
  | rowField hcolumn hfamily => simp [Plan.uses, Side.uses] at huse
  | boundField hlookup => simp [Plan.uses] at huse
  | freeField hlookup hmade =>
      obtain rfl : use = _ := by simpa [Plan.uses, Side.uses] using huse
      obtain ⟨hcounterpart, hfield⟩ := Use.eq_of_of? hmade
      rw [hcounterpart, hfield, hmade]
  | nullTest htest hwanted hside => exact Side.of?_of_mem_uses hside huse
  | compare htest hfirst hsecond =>
      rcases List.mem_append.mp huse with hmem | hmem
      · exact Side.of?_of_mem_uses hfirst hmem
      · exact Side.of?_of_mem_uses hsecond hmem
  | join hleft hright ihLeft ihRight =>
      rcases List.mem_append.mp huse with hmem | hmem
      · exact ihLeft hmem
      · exact ihRight hmem

/-! ## The plan by the rules -/

/-- The plan of a comparison is that of its operands in order, whichever comes first. -/
theorem ofPredicate?_of_ordered? {compiler : Compiler} {op : Comparison} {left right : Predicate}
    {test : Test} {plan : Plan}
    (htest : Test.ofComparison compiler.table compiler.lookup op left right = .ok test)
    (hordered : ∀ {op : Comparison} {left right : Predicate} {a b : RecordSql.Operand},
      RecordSql.Operand.Reads compiler.table left a →
      RecordSql.Operand.Reads compiler.table right b →
      Test.Settled compiler.lookup op a b test →
      Plan.ordered? compiler.table compiler.param op left right = some plan) :
    Plan.ofPredicate? compiler.table compiler.param (.compare op left right) = some plan := by
  obtain ⟨a, b, hleft, hright, hsettled⟩ := Test.settled_of_ofComparison htest
  rw [Plan.ofPredicate?, place_eq_rank hleft, place_eq_rank hright]
  rcases hsettled with ⟨horder, hsettled⟩ | ⟨horder, hsettled⟩
  · rw [if_pos horder]
    exact hordered hright hleft hsettled
  · rw [if_neg (Nat.not_lt.mpr horder)]
    exact hordered hleft hright hsettled

/-- What a predicate compiles to is its plan by the rules. -/
theorem ofPredicate?_of_compiled {compiler : Compiler} {predicate : Predicate} {plan : Plan}
    (h : Compiled compiler predicate plan) :
    Plan.ofPredicate? compiler.table compiler.param predicate = some plan := by
  induction h with
  | constant => rfl
  | rowField hcolumn hfamily => simp [Plan.ofPredicate?, hcolumn]
  | boundField hlookup =>
      obtain ⟨values, hparam, hvalue⟩ := exists_value_of_lookup hlookup
      simp [Plan.ofPredicate?, hparam, hvalue]
  | freeField hlookup huse => simp [Plan.ofPredicate?, param_eq_none_of_lookup hlookup, huse]
  | nullTest htest hwanted hside =>
      exact ofPredicate?_of_ordered? htest fun hleft hright hsettled =>
        ordered?_of_null hleft hright hsettled hwanted hside
  | compare htest hfirst hsecond =>
      exact ofPredicate?_of_ordered? htest fun hleft hright hsettled =>
        ordered?_of_compare hleft hright hsettled hfirst hsecond
  | join hleft hright ihLeft ihRight => simp [Plan.ofPredicate?, ihLeft, ihRight]

end Sql

end RecordSql
