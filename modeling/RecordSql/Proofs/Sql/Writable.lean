import RecordSql.Proofs.Sql.Outcome

/-!
# Predicates that can be written

Evaluation and compilation start from the same tests, so nearly all that one of them refuses the
other refuses too.  What compilation refuses alone is what has no written form: a real that is not
finite, a field of the parameter after which no placeholder can be named, and a field of the
parameter that is null where a truth value is needed.
-/

namespace RecordSql

namespace Predicate

/-- What has no written form of its own.  Opposite to a column a field of the parameter has one. -/
inductive Unsayable : Predicate → Prop
  | real {value : Binary64} (hfinite : value.isFinite = false) : Unsayable (literal (.real value))
  | param {name : String} (hname : Ident.isName name.toList = false) : Unsayable (param name)

/-- A field of the parameter that is null stands as a predicate, or what has no written form is
compared with something else than a field of the row. -/
def Unwritable (values : FieldValues) (predicate : Predicate) : Prop :=
  (∃ name, param name ∈ predicate.parts ∧ values name = some .null) ∨
    ∃ side other, (side, other) ∈ predicate.pairs ∧ side.Unsayable ∧ ∀ name, other ≠ row name

section Unwritable

variable {values : FieldValues} {left right : Predicate}

theorem unwritable_join_iff {op : Connective} :
    (join op left right).Unwritable values ↔ left.Unwritable values ∨ right.Unwritable values := by
  simp only [Unwritable, parts, pairs, List.mem_append]
  grind

theorem unwritable_compare_iff {op : Comparison} :
    (compare op left right).Unwritable values ↔
      (left.Unsayable ∧ ∀ name, right ≠ row name) ∨
        (right.Unsayable ∧ ∀ name, left ≠ row name) := by
  constructor
  · rintro (⟨name, hname, -⟩ | ⟨side, other, hmem, hside, hother⟩)
    · simp [parts, param] at hname
    · simp only [pairs, List.mem_cons, List.not_mem_nil, or_false, Prod.mk.injEq] at hmem
      rcases hmem with ⟨rfl, rfl⟩ | ⟨rfl, rfl⟩
      · exact Or.inl ⟨hside, hother⟩
      · exact Or.inr ⟨hside, hother⟩
  · rintro (⟨hside, hother⟩ | ⟨hside, hother⟩)
    · exact Or.inr ⟨left, right, by simp [pairs], hside, hother⟩
    · exact Or.inr ⟨right, left, by simp [pairs], hside, hother⟩

end Unwritable

end Predicate

namespace Sql

section Sides

variable {table : Table} {predicate : Predicate} {operand : RecordSql.Operand}
  {counterpart : Option Column}

theorem exists_ofOperand?_of_sayable (hreads : RecordSql.Operand.Reads table predicate operand)
    (h : ¬predicate.Unsayable) (counterpart : Option Column) :
    ∃ side, Side.ofOperand? counterpart operand = some side := by
  cases hreads with
  | column hcolumn => exact ⟨_, rfl⟩
  | @param name =>
      have hname : Ident.isName name.toList = true := by
        by_contra hname
        exact h (.param (Bool.eq_false_iff.mpr hname))
      cases counterpart with
      | some column => exact ⟨_, rfl⟩
      | none =>
          exact ⟨.param ⟨⟨name, hname⟩, none, name⟩, by simp [Side.ofOperand?, Use.of?, hname]⟩
  | @literal value =>
      cases value with
      | real value =>
          have hfinite : value.isFinite = true := by
            by_contra hfinite
            exact h (.real (Bool.eq_false_iff.mpr hfinite))
          exact ⟨_, if_pos hfinite⟩
      | null | bool | int | text => exact ⟨_, rfl⟩

/-- What has no written form of its own is written only opposite to a column. -/
theorem ne_none_of_unsayable (hreads : RecordSql.Operand.Reads table predicate operand)
    {side : Side} (hside : Side.ofOperand? counterpart operand = some side)
    (h : predicate.Unsayable) : counterpart ≠ none := by
  rintro rfl
  cases h with
  | real hfinite =>
      cases hreads
      simp [Side.ofOperand?, hfinite] at hside
  | param hname =>
      cases hreads
      simp [Side.ofOperand?, Use.of?, hname] at hside

end Sides

/-! ## Evaluated predicates that compile -/

section Evaluated

variable {table : Table} {row values : FieldValues} {predicate : Predicate}

/-- An operand that has a value has a side, if what has no written form is opposite to a column. -/
theorem exists_ofOperand?_of_operandValue {operand : RecordSql.Operand}
    {counterpart : Option Column} {stored : Value}
    (hreads : RecordSql.Operand.Reads table predicate operand)
    (hcolumn : predicate.Unsayable → ∃ column, counterpart = some column ∧
      Handler.builtin? column.type = some column.handler)
    (hvalue : (Scope.mk table row (some values)).operandValue counterpart operand = .ok stored) :
    ∃ side, Side.ofOperand? counterpart operand = some side := by
  by_cases hsayable : predicate.Unsayable
  · obtain ⟨column, rfl, hbuiltin⟩ := hcolumn hsayable
    cases hsayable with
    | real hfinite =>
        cases hreads
        rw [isFinite_of_serializeOperand hbuiltin hvalue] at hfinite
        contradiction
    | param hname =>
        cases hreads
        exact ⟨_, rfl⟩
  · exact exists_ofOperand?_of_sayable hreads hsayable counterpart

/-- The operands of a comparison that has an outcome have sides, if what has no written form is
opposite to a field of the row. -/
theorem exists_sides_of_settled {op asked : Comparison} {left right : Predicate}
    {a b x y : RecordSql.Operand} {stored : Value}
    (hbuiltin : ∀ column ∈ table.columns, Handler.builtin? column.type = some column.handler)
    (hleft : RecordSql.Operand.Reads table left a) (hright : RecordSql.Operand.Reads table right b)
    (h : Test.Settled (Compiler.mk table (some values)).lookup op a b (.compare asked x y))
    (hfirst : left.Unsayable → ∃ name, right = .row name)
    (hsecond : right.Unsayable → ∃ name, left = .row name)
    (hvalue : (Scope.mk table row (some values)).operandValue x.column? y = .ok stored) :
    (∃ side, Side.ofOperand? none x = some side) ∧
      ∃ side, Side.ofOperand? x.column? y = some side := by
  obtain ⟨rfl, rfl, rfl⟩ := h.of_compare
  constructor
  · -- Behind the first operand stands a column only if it is a column itself.
    refine exists_ofOperand?_of_sayable hleft (fun hsayable => ?_) none
    obtain ⟨name, rfl⟩ := hfirst hsayable
    cases hright
    cases h
    cases hleft
    cases hsayable
  · refine exists_ofOperand?_of_operandValue hright (fun hsayable => ?_) hvalue
    obtain ⟨name, rfl⟩ := hsecond hsayable
    cases hleft with
    | column hcolumn => exact ⟨_, rfl, hbuiltin _ (Table.mem_and_field_of_find? hcolumn).1⟩

/-- The operand of a test for null has a side, if it has a written form. -/
theorem exists_side_of_null {op asked : Comparison} {left right : Predicate}
    {a b operand : RecordSql.Operand}
    (hleft : RecordSql.Operand.Reads table left a) (hright : RecordSql.Operand.Reads table right b)
    (h : Test.Settled (Compiler.mk table (some values)).lookup op a b (.null asked operand))
    (hfirst : left.Unsayable → ∃ name, right = .row name) :
    ∃ side, Side.ofOperand? none operand = some side := by
  obtain ⟨rfl, rfl⟩ := h.of_null
  refine exists_ofOperand?_of_sayable hleft (fun hsayable => ?_) none
  obtain ⟨name, rfl⟩ := hfirst hsayable
  cases hright
  cases h

/-- What is evaluated has a plan unless it cannot be written. -/
theorem exists_compiled_of_truth {outcome : Truth}
    (hbuiltin : ∀ column ∈ table.columns, Handler.builtin? column.type = some column.handler)
    (hwritable : ¬predicate.Unwritable values)
    (htruth : (Scope.mk table row (some values)).truth predicate = .ok outcome) :
    ∃ plan, Compiled ⟨table, some values⟩ predicate plan := by
  induction predicate generalizing outcome with
  | literal value =>
      cases value with
      | bool value => exact ⟨_, .constant⟩
      | null | int | real | text => contradiction
  | field name slot =>
      cases slot with
      | row =>
          obtain ⟨column, hcolumn, -⟩ := bind_eq_ok_iff.mp htruth
          obtain ⟨hfind, hfamily⟩ := predicateColumn_eq_ok_iff.mp hcolumn
          exact ⟨_, .rowField hfind hfamily⟩
      | param =>
          obtain ⟨value, hbound, hvalue⟩ := bind_eq_ok_iff.mp htruth
          cases value with
          | bool value => exact ⟨_, .boundField (map_eq_ok_iff.mpr ⟨_, hbound, rfl⟩)⟩
          | null =>
              have hnull := boundField_eq_ok_iff.mp hbound
              exact absurd (Or.inl ⟨name, List.mem_singleton_self _, hnull⟩) hwritable
          | int | real | text | uuid | timestamp | json => contradiction
  | compare op left right =>
      obtain ⟨test, htest, htruth⟩ := bind_eq_ok_iff.mp htruth
      obtain ⟨a, b, hleft, hright, hsettled⟩ := Test.settled_of_ofComparison htest
      simp only [Predicate.unwritable_compare_iff, not_or, not_and, not_forall, not_not]
        at hwritable
      obtain ⟨hfirst, hsecond⟩ := hwritable
      cases test with
      | null asked operand =>
          obtain ⟨value, hvalue, htruth⟩ := bind_eq_ok_iff.mp htruth
          obtain ⟨wanted, hwanted, -⟩ := bind_eq_ok_iff.mp htruth
          have hside : ∃ side, Side.ofOperand? none operand = some side := by
            rcases hsettled with ⟨-, hsettled⟩ | ⟨-, hsettled⟩
            · exact exists_side_of_null hright hleft hsettled hsecond
            · exact exists_side_of_null hleft hright hsettled hfirst
          obtain ⟨side, hside⟩ := hside
          exact ⟨_, .nullTest htest hwanted hside⟩
      | compare asked x y =>
          obtain ⟨first, -, htruth⟩ := bind_eq_ok_iff.mp htruth
          obtain ⟨second, hvalue, -⟩ := bind_eq_ok_iff.mp htruth
          have hsides : (∃ side, Side.ofOperand? none x = some side) ∧
              ∃ side, Side.ofOperand? x.column? y = some side := by
            rcases hsettled with ⟨-, hsettled⟩ | ⟨-, hsettled⟩
            · exact exists_sides_of_settled hbuiltin hright hleft hsettled hsecond hfirst hvalue
            · exact exists_sides_of_settled hbuiltin hleft hright hsettled hfirst hsecond hvalue
          obtain ⟨⟨_, hx⟩, _, hy⟩ := hsides
          exact ⟨_, .compare htest hx hy⟩
  | join op left right ihLeft ihRight =>
      rw [Predicate.unwritable_join_iff, not_or] at hwritable
      obtain ⟨_, ha, htruth⟩ := bind_eq_ok_iff.mp htruth
      obtain ⟨_, hb, -⟩ := bind_eq_ok_iff.mp htruth
      obtain ⟨_, hfirst⟩ := ihLeft hwritable.1 ha
      obtain ⟨_, hsecond⟩ := ihRight hwritable.2 hb
      exact ⟨_, .join hfirst hsecond⟩

/-- In a comparison that has sides, what has no written form is opposite to a field of the row. -/
theorem exists_row_of_unsayable {lookup : Test.Lookup} {op asked : Comparison}
    {left right : Predicate} {a b x y : RecordSql.Operand} {first second : Side}
    (hleft : RecordSql.Operand.Reads table left a) (hright : RecordSql.Operand.Reads table right b)
    (h : Test.Settled lookup op a b (.compare asked x y))
    (hfirst : Side.ofOperand? none x = some first)
    (hsecond : Side.ofOperand? x.column? y = some second) :
    ¬left.Unsayable ∧ (right.Unsayable → ∃ name, left = .row name) := by
  obtain ⟨rfl, rfl, rfl⟩ := h.of_compare
  refine ⟨fun hsayable => ne_none_of_unsayable hleft hfirst hsayable rfl, fun hsayable => ?_⟩
  have hcolumn := ne_none_of_unsayable hright hsecond hsayable
  cases hleft with
  | @column name column hfind => exact ⟨name, rfl⟩
  | param | literal => exact absurd rfl hcolumn

/-- So it is in a test for null that has a side. -/
theorem exists_row_of_unsayable_null {lookup : Test.Lookup} {op asked : Comparison}
    {left right : Predicate} {a b operand : RecordSql.Operand} {side : Side}
    (hleft : RecordSql.Operand.Reads table left a) (hright : RecordSql.Operand.Reads table right b)
    (h : Test.Settled lookup op a b (.null asked operand))
    (hside : Side.ofOperand? none operand = some side) :
    ¬left.Unsayable ∧ (right.Unsayable → ∃ name, left = .row name) := by
  obtain ⟨rfl, rfl⟩ := h.of_null
  refine ⟨fun hsayable => ne_none_of_unsayable hleft hside hsayable rfl, fun hsayable => ?_⟩
  cases h with
  | null =>
      cases hright
      cases hsayable
  | unset hlookup hfamily hdefault hop =>
      cases hleft with
      | @column name column hfind => exact ⟨name, rfl⟩

/-- What has a plan can be written. -/
theorem Compiled.not_unwritable {plan : Plan}
    (h : Compiled ⟨table, some values⟩ predicate plan) : ¬predicate.Unwritable values := by
  generalize hcompiler : Compiler.mk table (some values) = compiler at h
  have hcompare {op : Comparison} {left right : Predicate}
      (hfirst : left.Unsayable → ∃ name, right = .row name)
      (hsecond : right.Unsayable → ∃ name, left = .row name) :
      ¬(Predicate.compare op left right).Unwritable values := by
    simp only [Predicate.unwritable_compare_iff, not_or, not_and, not_forall, not_not]
    exact ⟨hfirst, hsecond⟩
  induction h with
  | constant | rowField =>
      simp [Predicate.Unwritable, Predicate.parts, Predicate.pairs, Predicate.param]
  | @boundField name value hlookup =>
      subst hcompiler
      obtain ⟨_, hparam, hvalue⟩ := exists_value_of_lookup hlookup
      obtain rfl := Option.some.inj hparam
      simp [Predicate.Unwritable, Predicate.parts, Predicate.pairs, Predicate.param, hvalue]
  | freeField hlookup huse =>
      subst hcompiler
      have := param_eq_none_of_lookup hlookup
      contradiction
  | nullTest htest hwanted hside =>
      subst hcompiler
      obtain ⟨a, b, hleft, hright, ⟨-, hsettled⟩ | ⟨-, hsettled⟩⟩ :=
        Test.settled_of_ofComparison htest
      · obtain ⟨hsayable, hrow⟩ := exists_row_of_unsayable_null hright hleft hsettled hside
        exact hcompare hrow (absurd · hsayable)
      · obtain ⟨hsayable, hrow⟩ := exists_row_of_unsayable_null hleft hright hsettled hside
        exact hcompare (absurd · hsayable) hrow
  | compare htest hfirst hsecond =>
      subst hcompiler
      obtain ⟨a, b, hleft, hright, ⟨-, hsettled⟩ | ⟨-, hsettled⟩⟩ :=
        Test.settled_of_ofComparison htest
      · obtain ⟨hsayable, hrow⟩ := exists_row_of_unsayable hright hleft hsettled hfirst hsecond
        exact hcompare hrow (absurd · hsayable)
      · obtain ⟨hsayable, hrow⟩ := exists_row_of_unsayable hleft hright hsettled hfirst hsecond
        exact hcompare (absurd · hsayable) hrow
  | join hleft hright ihLeft ihRight =>
      rw [Predicate.unwritable_join_iff, not_or]
      exact ⟨ihLeft, ihRight⟩

end Evaluated

/-! ## What compilation refuses -/

/-- A predicate that fails to compile fails to evaluate too, unless it cannot be written; and what
cannot be written never compiles. -/
theorem evaluate_fails_or_unwritable {schema : Schema} {table : Table}
    (hresolve : Table.resolve schema .builtin = .ok table) (row values : FieldValues)
    (predicate : Predicate) :
    ((∃ e, compile table (some values) predicate = .error e) →
        (∃ e, predicate.evaluate table row (some values) = .error e) ∨
          predicate.Unwritable values) ∧
      (predicate.Unwritable values → ∃ e, compile table (some values) predicate = .error e) := by
  constructor
  · rintro ⟨e, hcompile⟩
    by_contra hnone
    obtain ⟨hevaluate, hwritable⟩ := not_or.mp hnone
    obtain ⟨outcome, htruth⟩ : ∃ outcome,
        (Scope.mk table row (some values)).truth predicate = .ok outcome := by
      cases htruth : (Scope.mk table row (some values)).truth predicate with
      | ok outcome => exact ⟨outcome, rfl⟩
      | error e' =>
          have herror : predicate.evaluate table row (some values) = .error e' := by
            simp [Predicate.evaluate, htruth, bind, Except.bind]
          exact absurd ⟨e', herror⟩ hevaluate
    -- What has an outcome has a plan, and every use of the plan takes its placeholder.
    obtain ⟨plan, hcompiled⟩ :=
      exists_compiled_of_truth (Table.sound_of_resolve hresolve).builtin?_eq hwritable htruth
    have hformed := hcompiled.formed_of_truth htruth
    obtain ⟨held, hissues⟩ :=
      exists_issues (fun use huse => Or.inr (hformed use huse)) Placeholders.empty
    rw [compile_eq_ok_iff.mpr ⟨plan, held, hcompiled, hissues, rfl⟩] at hcompile
    contradiction
  · intro hunwritable
    cases hcompile : compile table (some values) predicate with
    | error e => exact ⟨e, rfl⟩
    | ok fragment =>
        obtain ⟨plan, held, hcompiled, -, -⟩ := compiled_of_compile hcompile
        exact absurd hunwritable hcompiled.not_unwritable

end Sql

namespace Stock

/-- A field that is there and holds null. -/
def nullFlag : FieldValues :=
  FieldMap.get [("flag", .null)]

theorem evaluate_fails_or_unwritable_nullFlag :
    Table.resolve schema .builtin = .ok table ∧
      ((∃ e, Sql.compile table (some nullFlag) (.param "flag") = .error e) →
          (∃ e, (Predicate.param "flag").evaluate table row (some nullFlag) = .error e) ∨
            (Predicate.param "flag").Unwritable nullFlag) ∧
        ((Predicate.param "flag").Unwritable nullFlag →
          ∃ e, Sql.compile table (some nullFlag) (.param "flag") = .error e) :=
  ⟨resolve_schema,
    Sql.evaluate_fails_or_unwritable resolve_schema row nullFlag (.param "flag")⟩

/-- A field of the parameter that is null fails to compile as a predicate, and it is unknown on
every row. -/
theorem evaluate_nullFlag :
    Table.resolve schema .builtin = .ok table ∧ table.Stores row ∧
      Sql.compile table (some nullFlag) (.param "flag") =
        .error (.typeMismatch (.boundPredicate "flag" .null)) ∧
      (Predicate.param "flag").evaluate table row (some nullFlag) = .ok false ∧
      ¬((∃ e, Sql.compile table (some nullFlag) (.param "flag") = .error e) →
        ∃ e, (Predicate.param "flag").evaluate table row (some nullFlag) = .error e) := by
  have hcompile : Sql.compile table (some nullFlag) (.param "flag") =
    .error (.typeMismatch (.boundPredicate "flag" .null)) := by rfl
  have hevaluate :
    (Predicate.param "flag").evaluate table row (some nullFlag) = .ok false := by rfl
  refine ⟨resolve_schema, stores_row, hcompile, hevaluate, fun himp => ?_⟩
  obtain ⟨e, he⟩ := himp ⟨_, hcompile⟩
  rw [hevaluate] at he
  contradiction

end Stock

end RecordSql
