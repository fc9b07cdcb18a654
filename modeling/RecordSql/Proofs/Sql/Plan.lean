import RecordSql.Sql.Compile

/-!
# What a predicate is written as

The rules by which a predicate becomes an SQL expression, without the checks that refuse a
predicate and without the placeholders.  Where a placeholder will stand, the plan has the field of
the parameter that it is for, with the column opposite to it; names come in afterwards.

The rules: the operands of a comparison stand in the order column, parameter, literal, null, and
the operator is flipped where they are exchanged; a comparison with null becomes a test for null;
so does a comparison of a column for equality with a field of the parameter that is bound but not
set; a boolean field alone is compared with true; a bound boolean parameter is a constant.
-/

namespace RecordSql.Sql

/-- A field of the parameter as an operand: the name that its placeholder is made from, the column
that it is compared with, and the field. -/
structure Use where
  base : Ident
  counterpart : Option Column
  field : String

/-- A placeholder is named after the column opposite to it, and after the field where there is
none. -/
def Use.of? (counterpart : Option Column) (field : String) : Option Use :=
  match counterpart with
  | some column => some ⟨column.name, some column, field⟩
  | none =>
      if valid : Ident.isName field.toList = true then some ⟨⟨field, valid⟩, none, field⟩
      else none

/-- The name of a use among the names handed out. -/
def Use.name (issued : Issued) (use : Use) : Ident :=
  issued.name use.base use.field

/-- One side of a comparison. -/
inductive Side where
  | column (column : Column)
  | param (use : Use)
  | literal (value : Literal)

/-- A predicate as it will be written. -/
inductive Plan where
  | constant (value : Bool)
  | compare (op : Comparison) (left right : Side)
  | nullTest (wanted : Bool) (side : Side)
  | join (op : Connective) (left right : Plan)

/-! ## From predicates to plans -/

/-- The place of an operand in a comparison. -/
def place : Predicate → Nat
  | .field _ .row => 0
  | .field _ .param => 1
  | .literal .null => 3
  | _ => 2

/-- Whether a parameter is bound whose field is there but not set. -/
def isUnset (param : Option FieldValues) (field : String) : Bool :=
  (param.bind (· field)).any Value.isDefault

/-- Whether a comparison of operands in order asks about null. -/
def asksNull (param : Option FieldValues) (op : Comparison) : Predicate → Predicate → Bool
  | _, .literal .null => true
  | .field _ .row, .field field .param => op.isEquality && isUnset param field
  | _, _ => false

namespace Side

def column? : Side → Option Column
  | column c => some c
  | _ => none

/-- The side that a predicate is, opposite to a column or to none.  Only a finite real can be
written. -/
def ofPredicate? (table : Table) (counterpart : Option Column) : Predicate → Option Side
  | .field name .row => (table.find? name).map column
  | .field name .param => (Use.of? counterpart name).map param
  | .literal (.real value) => if value.isFinite then some (literal (.real value)) else none
  | .literal value => some (literal value)
  | _ => none

/-- The uses of the parameter on one side. -/
def uses : Side → List Use
  | param use => [use]
  | _ => []

end Side

namespace Plan

/-- The plan of a comparison whose operands are in order. -/
def ordered? (table : Table) (param : Option FieldValues) (op : Comparison)
    (left right : Predicate) : Option Plan :=
  if asksNull param op left right then do
    let side ← Side.ofPredicate? table none left
    match op with
    | .eq => some (nullTest true side)
    | .ne => some (nullTest false side)
    | _ => none
  else do
    let first ← Side.ofPredicate? table none left
    let second ← Side.ofPredicate? table first.column? right
    some (compare op first second)

/-- The plan of a predicate, for a table and perhaps a parameter. -/
def ofPredicate? (table : Table) (param : Option FieldValues) : Predicate → Option Plan
  | .literal (.bool value) => some (constant value)
  | .literal _ => none
  | .field name .row =>
      (table.find? name).map fun column => compare .eq (.column column) (.literal (.bool true))
  | .field name .param =>
      match param with
      | none => (Use.of? none name).map fun use => compare .eq (.param use) (.literal (.bool true))
      | some values =>
          match values name with
          | some (.bool value) => some (constant value)
          | _ => none
  | .compare op left right =>
      if place right < place left then ordered? table param op.flip right left
      else ordered? table param op left right
  | .join op left right => do
      let first ← ofPredicate? table param left
      let second ← ofPredicate? table param right
      some (join op first second)

/-- The uses of the parameter, from left to right. -/
def uses : Plan → List Use
  | constant _ => []
  | compare _ left right => left.uses ++ right.uses
  | nullTest _ side => side.uses
  | join _ left right => left.uses ++ right.uses

end Plan

/-! ## From plans to expressions -/

/-- A literal in an expression. -/
def Operand.ofLiteral : Literal → Operand
  | .null => null
  | .bool value => flag value
  | .int value => int value
  | .real value => real value
  | .text value => text value

/-- One side of a comparison, with a name for every use of the parameter. -/
def Side.operand (name : Use → Ident) : Side → Operand
  | column c => .column c.name
  | param use => .placeholder (name use)
  | literal value => .ofLiteral value

/-- The expression of a plan, with a name for every use of the parameter. -/
def Plan.expr (name : Use → Ident) : Plan → Expr
  | constant value => .constant value
  | compare op left right => .compare op (left.operand name) (right.operand name)
  | nullTest wanted side => .nullTest wanted (side.operand name)
  | join op left right => .join op (left.expr name) (right.expr name)

theorem Side.operand_congr {name name' : Use → Ident} {side : Side}
    (h : ∀ use ∈ side.uses, name use = name' use) : side.operand name = side.operand name' := by
  cases side with
  | column c => rfl
  | param use => simp [operand, h use (by simp [uses])]
  | literal value => rfl

/-- An expression depends on no name but those of the uses in its plan. -/
theorem Plan.expr_congr {name name' : Use → Ident} {plan : Plan}
    (h : ∀ use ∈ plan.uses, name use = name' use) : plan.expr name = plan.expr name' := by
  induction plan with
  | constant value => rfl
  | compare op left right =>
      simp only [uses, List.mem_append] at h
      simp only [expr, Side.operand_congr fun use huse => h use (Or.inl huse),
        Side.operand_congr fun use huse => h use (Or.inr huse)]
  | nullTest wanted side => simp only [expr, Side.operand_congr h]
  | join op left right ihLeft ihRight =>
      simp only [uses, List.mem_append] at h
      simp only [expr, ihLeft fun use huse => h use (Or.inl huse),
        ihRight fun use huse => h use (Or.inr huse)]

end RecordSql.Sql
