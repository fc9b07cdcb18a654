import RecordSql.Proofs.Predicate.RowComparison
import RecordSql.Proofs.Sql.Acceptance
import RecordSql.Proofs.Sql.Agreement

/-!
# Literals that are compared with a column

A comparison of a row's field with a literal compiles to a comparison of the column with the literal
as it is written.  In process the literal takes the form that the column stores.  That decides
alike, but for the literal zero beside a reference: it is written as the number and takes the form
of null, so no row satisfies the comparison in process.
-/

namespace RecordSql

namespace Sql

section Literals

variable {table : Table} {row : FieldValues} {field : String} {column : Column} {op : Comparison}
  {literal : Literal} {value stored : Value}

/-- A row's field and a literal are written as the column and the literal. -/
theorem compile_row_literal (op : Comparison) (param : Option FieldValues)
    (hcolumn : table.find? field = some column) (hvalue : literal ≠ .null)
    (hfamily : column.family.accepts literal.toValue = true)
    (hfinite : ∀ real, literal = .real real → real.isFinite = true) :
    compile table param (.compare op (.row field) (.literal literal)) =
      .ok ⟨.compare op (.column column.name) (.ofLiteral literal), [], []⟩ := by
  have htest : Test.ofComparison table (Compiler.mk table param).lookup op (.row field)
      (.literal literal) = .ok (.compare op (.column column) (.literal literal)) :=
    Test.ofComparison_of_settled (.column hcolumn) .literal
      (Or.inr ⟨Nat.zero_le _, .columnLiteral hvalue hfamily⟩)
  have hside : Side.ofOperand? (some column) (.literal literal) = some (.literal literal) := by
    cases literal with
    | real real => simp [Side.ofOperand?, hfinite real rfl]
    | _ => rfl
  exact compile_eq_ok_iff.mpr ⟨_, _, .compare htest rfl hside, .nil, rfl⟩

/-- In process the zero literal stands for no row, which is unknown beside every reference. -/
theorem evaluate_row_zero {param : Option FieldValues}
    (hcolumn : table.find? field = some column) (hrow : row field = some value)
    (hstored : column.serialize value = .ok stored) (htype : column.type = .ref)
    (hbuiltin : Handler.builtin? column.type = some column.handler) :
    (Predicate.compare op (.row field) (.literal (.int 0))).evaluate table row param =
      .ok false := by
  rw [htype] at hbuiltin
  have hhandler : column.handler = .ref := (Option.some.inj hbuiltin).symm
  have hfamily : column.family.accepts (Literal.int 0).toValue = true := by
    rw [Column.family, hhandler]
    rfl
  have hoperand : column.serializeOperand (Literal.int 0).toValue = .ok .null := by
    refine Column.serialize_eq_ok_iff.mpr ?_
    rw [hhandler]
    rfl
  rw [Predicate.evaluate_row_literal hcolumn hrow hstored (by simp) hfamily hoperand]
  have hunknown : op.truth stored .null = none := by
    cases stored <;> rfl
  rw [hunknown]
  rfl

/-- In process any other literal decides as the literal that is written. -/
theorem evaluate_row_written {param : Option FieldValues}
    (hcolumn : table.find? field = some column) (hrow : row field = some value)
    (hstored : column.serialize value = .ok stored) (hvalue : literal ≠ .null)
    (hfamily : column.family.accepts literal.toValue = true)
    (hfinite : ∀ real, literal = .real real → real.isFinite = true)
    (hzero : column.type = .ref → literal ≠ .int 0)
    (hbuiltin : Handler.builtin? column.type = some column.handler) :
    (Predicate.compare op (.row field) (.literal literal)).evaluate table row param =
      .ok (op.truth stored literal.toValue.counted == some true) := by
  obtain ⟨operand, hoperand, htruth⟩ := exists_operand_of_literal hbuiltin hfamily hfinite hzero
  have hform := stored_of_serialize hbuiltin (Column.serialize_eq_ok_iff.mp hstored)
  rw [Predicate.evaluate_row_literal hcolumn hrow hstored hvalue hfamily hoperand,
    htruth op stored hform]

end Literals

/-- **A comparison of a row's field with a literal is satisfied exactly when it is true in SQL of
the stored value, with the literal as it is written, unless the literal is zero and the field a
reference; then no row satisfies it in process.** -/
theorem exists_evaluate_literal_iff {schema : Schema} {table : Table} {row : FieldValues}
    {field : String} {column : Column} {literal : Literal} {value stored : Value}
    (op : Comparison) (param : Option FieldValues)
    (hresolve : Table.resolve schema .builtin = .ok table)
    (hcolumn : table.find? field = some column) (hvalue : literal ≠ .null)
    (hfamily : column.family.accepts literal.toValue = true)
    (hfinite : ∀ real, literal = .real real → real.isFinite = true)
    (hrow : row field = some value) (hstored : column.serialize value = .ok stored) :
    ∃ fragment satisfied,
      compile table param (.compare op (.row field) (.literal literal)) = .ok fragment ∧
        fragment.expr = .compare op (.column column.name) (.ofLiteral literal) ∧
        (Predicate.compare op (.row field) (.literal literal)).evaluate table row param =
          .ok satisfied ∧
        ∀ columns placeholders, columns column.name = stored →
          (satisfied = true ↔
            fragment.expr.truth columns placeholders = some true ∧
              ¬ (column.type = .ref ∧ literal = .int 0)) := by
  have hbuiltin := (Table.sound_of_resolve hresolve).builtin?_eq column
    (Table.mem_and_field_of_find? hcolumn).1
  have hcompile := compile_row_literal op param hcolumn hvalue hfamily hfinite
  by_cases hzero : column.type = .ref ∧ literal = .int 0
  · obtain ⟨htype, rfl⟩ := hzero
    refine ⟨_, false, hcompile, rfl,
      evaluate_row_zero hcolumn hrow hstored htype hbuiltin, fun columns placeholders _ => ?_⟩
    simp [htype]
  · have hwritten : column.type = .ref → literal ≠ .int 0 :=
      fun htype hliteral => hzero ⟨htype, hliteral⟩
    refine ⟨_, _, hcompile, rfl, evaluate_row_written hcolumn hrow hstored hvalue hfamily hfinite
      hwritten hbuiltin, fun columns placeholders hcolumns => ?_⟩
    have htruth : (Expr.compare op (.column column.name) (.ofLiteral literal)).truth columns
        placeholders = op.truth stored literal.toValue.counted := by
      rw [Expr.truth, Operand.value_ofLiteral, Operand.value, hcolumns]
    rw [htruth]
    simp [hzero]

end Sql

namespace Stock

def priceColumn : Column := ⟨"Price", priceName, .real, .plain, .real⟩

/-- A price is compared with a whole number, which takes the form of a real. -/
theorem exists_evaluate_literal_iff_price :
    (Table.resolve schema .builtin = .ok table ∧ table.find? "Price" = some priceColumn ∧
      Literal.int 3 ≠ .null ∧ row "Price" = some (.int 2) ∧
      priceColumn.serialize (.int 2) = .ok (.real (Binary64.ofInt 2))) ∧
      ∃ fragment satisfied,
        Sql.compile table none (.compare .lt (.row "Price") (.literal (.int 3))) = .ok fragment ∧
          fragment.expr = .compare .lt (.column priceName) (.int 3) ∧
          (Predicate.compare .lt (.row "Price") (.literal (.int 3))).evaluate table row none =
            .ok satisfied ∧
          ∀ columns placeholders, columns priceName = .real (Binary64.ofInt 2) →
            (satisfied = true ↔
              fragment.expr.truth columns placeholders = some true ∧
                ¬ (SemanticType.real = .ref ∧ Literal.int 3 = .int 0)) := by
  have hcolumn : table.find? "Price" = some priceColumn := rfl
  have hvalue : Literal.int 3 ≠ .null := by simp
  have hfinite : ∀ real, Literal.int 3 = .real real → real.isFinite = true := by simp
  have hrow : row "Price" = some (.int 2) := rfl
  have hstored : priceColumn.serialize (.int 2) = .ok (.real (Binary64.ofInt 2)) := rfl
  exact ⟨⟨resolve_schema, hcolumn, hvalue, hrow, hstored⟩,
    Sql.exists_evaluate_literal_iff .lt none resolve_schema hcolumn hvalue rfl hfinite hrow
      hstored⟩

/-- An owner that is stored is not zero in SQL, and in process that is unknown. -/
theorem evaluate_zeroOwner :
    (Table.resolve schema .builtin = .ok table ∧ row "Owner" = some (.int 7)) ∧
      ∃ fragment,
        Sql.compile table none (.compare .ne (.row "Owner") (.literal (.int 0))) = .ok fragment ∧
          fragment.expr = .compare .ne (.column ownerName) (.int 0) ∧
          fragment.expr.truth (table.storedValue row) (fun _ => .null) = some true ∧
          (Predicate.compare .ne (.row "Owner") (.literal (.int 0))).evaluate table row none =
            .ok false :=
  ⟨⟨resolve_schema, rfl⟩, _, rfl, rfl, rfl, rfl⟩

end Stock

end RecordSql
