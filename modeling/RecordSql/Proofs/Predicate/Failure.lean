import RecordSql.Proofs.Predicate.Comparison
import RecordSql.Proofs.Table.Resolved
import RecordSql.Proofs.Table.Stored

/-!
# Predicates that fail

Whether a predicate has an outcome on a stored row depends on the predicate and the parameter
only: it has one on every row, or it fails on all of them with one error.  A stored row has its
identity and a storable value in every other field, so only the type of the identity can make a
field of a row unreadable, and it does so in every row.
-/

namespace RecordSql

/-! ## Results of one form -/

/-- Two results, or one error twice. -/
inductive SameForm {ε α β : Type} : Except ε α → Except ε β → Prop
  | ok (a : α) (b : β) : SameForm (.ok a) (.ok b)
  | error (e : ε) : SameForm (.error e) (.error e)

namespace SameForm

variable {ε α β γ δ : Type}

theorem refl (x : Except ε α) : SameForm x x := by
  cases x with
  | ok a => exact .ok a a
  | error e => exact .error e

theorem bind {x : Except ε α} {y : Except ε β} {f : α → Except ε γ} {g : β → Except ε δ}
    (h : SameForm x y) (hfg : ∀ a b, x = .ok a → y = .ok b → SameForm (f a) (g b)) :
    SameForm (x >>= f) (y >>= g) := by
  cases h with
  | ok a b => exact hfg a b rfl rfl
  | error e => exact .error e

theorem mapError {x y : Except ε α} {f : ε → δ} (h : SameForm x y) :
    SameForm (x.mapError f) (y.mapError f) := by
  cases h with
  | ok a b => exact .ok a b
  | error e => exact .error (f e)

end SameForm

/-! ## Stored rows -/

/-- A row as it is stored: its identity is the one that it is stored under, and the other fields
are there and storable. -/
structure Table.StoredRow (table : Table) (id : Int64) (values : FieldValues) : Prop where
  identity_eq : values table.identity.field = some (.int id)
  storable : ∀ column ∈ table.nonIdentity, ∃ value stored,
    values column.field = some value ∧ column.serialize value = .ok stored

/-- Whether an identity is storable depends on its type only. -/
theorem Handler.sameForm_serialize_int {type : SemanticType} {handler : Handler}
    (hbuiltin : builtin? type = some handler) (a b : Int64) :
    SameForm (handler.serialize (.int a)) (handler.serialize (.int b)) := by
  cases type with
  | int | real | ref =>
      obtain rfl := Option.some.inj hbuiltin
      exact .ok _ _
  | bool | text | uuid | timestamp | json =>
      obtain rfl := Option.some.inj hbuiltin
      exact .error _
  | custom name => contradiction

/-- What is read from a row is in its stored form. -/
theorem stored_of_rowValue {scope : Scope} {column : Column} {stored : Value}
    (hbuiltin : Handler.builtin? column.type = some column.handler)
    (h : scope.rowValue column = .ok stored) : Stored column.type stored := by
  unfold Scope.rowValue at h
  split at h
  · exact stored_of_serialize hbuiltin (Column.serialize_eq_ok_iff.mp h)
  · contradiction

/-! ## Columns of a test -/

namespace Test

/-- The operands that a test reads. -/
def operands : Test → List Operand
  | null _ operand => [operand]
  | compare _ left right => [left, right]

/-- A test reads columns of the table only. -/
theorem mem_columns_of_ofComparison {table : Table} {lookup : Lookup} {op : Comparison}
    {left right : Predicate} {test : Test} {column : Column}
    (h : ofComparison table lookup op left right = .ok test)
    (hmem : .column column ∈ test.operands) : column ∈ table.columns := by
  obtain ⟨a, b, hleft, hright, hsettled⟩ := settled_of_ofComparison h
  -- The operands of the test are those of the comparison, in one order or the other.
  have hread {x y : Operand} {asked : Comparison} (hxy : Settled lookup asked x y test) :
      .column column = x ∨ .column column = y := by
    cases hxy <;> simp only [operands, List.mem_cons, List.not_mem_nil, or_false] at hmem <;>
      first
      | exact hmem
      | exact Or.inl hmem
  have hoperand : .column column = a ∨ .column column = b := by
    rcases hsettled with ⟨-, hsettled⟩ | ⟨-, hsettled⟩
    · exact (hread hsettled).symm
    · exact hread hsettled
  rcases hoperand with rfl | rfl
  · cases hleft with
    | column hcolumn => exact (Table.mem_and_field_of_find? hcolumn).1
  · cases hright with
    | column hcolumn => exact (Table.mem_and_field_of_find? hcolumn).1

end Test

section Rows

variable {table : Table} {row row' : FieldValues} {id id' : Int64}
  (hbuiltin : ∀ column ∈ table.columns, Handler.builtin? column.type = some column.handler)
  (hrow : table.StoredRow id row) (hrow' : table.StoredRow id' row')
  (param : Option FieldValues)

include hbuiltin hrow hrow'

/-- A column can be read in both rows or in none. -/
theorem sameForm_rowValue {column : Column} (hcolumn : column ∈ table.columns) :
    SameForm ((Scope.mk table row param).rowValue column)
      ((Scope.mk table row' param).rowValue column) := by
  rcases Table.mem_columns_iff.mp hcolumn with rfl | hother
  · simp only [Scope.rowValue, hrow.identity_eq, hrow'.identity_eq]
    exact (Handler.sameForm_serialize_int (hbuiltin _ hcolumn) id id').mapError
  · obtain ⟨value, stored, hvalue, hstored⟩ := hrow.storable column hother
    obtain ⟨value', stored', hvalue', hstored'⟩ := hrow'.storable column hother
    simp only [Scope.rowValue, hvalue, hvalue', hstored, hstored']
    exact .ok _ _

theorem sameForm_operandValue {operand : Operand} (counterpart : Option Column)
    (hcolumn : ∀ column, operand = .column column → column ∈ table.columns) :
    SameForm ((Scope.mk table row param).operandValue counterpart operand)
      ((Scope.mk table row' param).operandValue counterpart operand) := by
  cases operand with
  | column column => exact sameForm_rowValue hbuiltin hrow hrow' param (hcolumn column rfl)
  | param field => exact SameForm.refl _
  | literal value => exact SameForm.refl _

theorem sameForm_testTruth {test : Test}
    (hcolumn : ∀ column, .column column ∈ test.operands → column ∈ table.columns) :
    SameForm ((Scope.mk table row param).testTruth test)
      ((Scope.mk table row' param).testTruth test) := by
  cases test with
  | null op operand =>
      have hoperand : SameForm ((Scope.mk table row param).operandValue none operand)
          ((Scope.mk table row' param).operandValue none operand) := by
        refine sameForm_operandValue hbuiltin hrow hrow' param none ?_
        rintro column rfl
        exact hcolumn column (by simp [Test.operands])
      refine hoperand.bind ?_
      intro a b _ _
      exact (SameForm.refl _).bind fun _ _ _ _ => .ok _ _
  | compare op left right =>
      have hleft : SameForm ((Scope.mk table row param).operandValue none left)
          ((Scope.mk table row' param).operandValue none left) := by
        refine sameForm_operandValue hbuiltin hrow hrow' param none ?_
        rintro column rfl
        exact hcolumn column (by simp [Test.operands])
      have hright : SameForm ((Scope.mk table row param).operandValue left.column? right)
          ((Scope.mk table row' param).operandValue left.column? right) := by
        refine sameForm_operandValue hbuiltin hrow hrow' param left.column? ?_
        rintro column rfl
        exact hcolumn column (by simp [Test.operands])
      exact hleft.bind fun _ _ _ _ => hright.bind fun _ _ _ _ => .ok _ _

/-- A predicate has an outcome on every stored row, or fails on all of them alike. -/
theorem sameForm_truth (predicate : Predicate) :
    SameForm ((Scope.mk table row param).truth predicate)
      ((Scope.mk table row' param).truth predicate) := by
  induction predicate with
  | literal value => cases value <;> exact SameForm.refl _
  | field name slot =>
      cases slot with
      | param => exact SameForm.refl _
      | row =>
          refine (SameForm.refl (predicateColumn table name)).bind ?_
          intro column other hcolumn hother
          obtain rfl := Except.ok.inj (hcolumn.symm.trans hother)
          obtain ⟨hfind, hfamily⟩ := predicateColumn_eq_ok_iff.mp hcolumn
          have hmem := (Table.mem_and_field_of_find? hfind).1
          refine (sameForm_rowValue hbuiltin hrow hrow' param hmem).bind ?_
          intro a b ha hb
          have htruth {values : FieldValues} {stored : Value}
              (hvalue : (Scope.mk table values param).rowValue column = .ok stored) :
              (column.deserialize stored >>= Scope.valueTruth name) =
                .ok (Comparison.eq.truth stored (.int 1)) :=
            valueTruth_of_stored name (hbuiltin column hmem) hfamily
              (stored_of_rowValue (hbuiltin column hmem) hvalue)
          change SameForm (column.deserialize a >>= Scope.valueTruth name)
            (column.deserialize b >>= Scope.valueTruth name)
          rw [htruth ha, htruth hb]
          exact .ok _ _
  | compare op left right =>
      refine (SameForm.refl _).bind ?_
      intro test other htest hother
      obtain rfl := Except.ok.inj (htest.symm.trans hother)
      exact sameForm_testTruth hbuiltin hrow hrow' param fun column hmem =>
        Test.mem_columns_of_ofComparison htest hmem
  | join op left right ihLeft ihRight =>
      exact ihLeft.bind fun _ _ _ _ => ihRight.bind fun _ _ _ _ => .ok _ _

theorem sameForm_evaluate (predicate : Predicate) :
    SameForm (predicate.evaluate table row param) (predicate.evaluate table row' param) :=
  (sameForm_truth hbuiltin hrow hrow' param predicate).bind fun _ _ _ _ => .ok _ _

end Rows

end RecordSql
