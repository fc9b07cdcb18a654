import RecordSql.Predicate.Operand
import RecordSql.Sql.Expr
import RecordSql.Sql.Placeholder

/-!
# Compilation of predicates

A predicate compiles to an expression and the placeholders in it.  With a parameter every
placeholder is bound, in the form that the comparison at its first use needs; without one they are
all deferred.
-/

namespace RecordSql.Sql

/-- The placeholders that compilation has handed out so far. -/
structure Placeholders where
  issued : Issued
  bindings : List Binding
  deferred : List Deferred

/-- None yet. -/
def Placeholders.empty : Placeholders := ⟨[], [], []⟩

/-- What a predicate is compiled against. -/
structure Compiler where
  table : Table
  param : Option FieldValues

/-- A step of compilation hands out placeholders or fails. -/
abbrev Step := StateT Placeholders (Except Error)

namespace Compiler

/-- The parameter's value of a field; nothing if there is no parameter. -/
def lookup (compiler : Compiler) (field : String) : Except Error (Option Value) :=
  match compiler.param with
  | some param => (boundField param field).map some
  | none => .ok none

/-- The form in which a value is bound. -/
def boundForm (counterpart : Option Column) (value : Value) : Except Error Value :=
  match counterpart with
  | some column => column.serializeOperand value
  | none => .ok value

/-- The name that a placeholder is made from. -/
def baseName (counterpart : Option Column) (field : String) : Except Error Ident :=
  match counterpart with
  | some column => .ok column.name
  | none => Ident.read field

/-- Hand out the placeholder of a parameter's field; a new one is bound or deferred. -/
def issue (compiler : Compiler) (counterpart : Option Column) (field : String) (base : Ident) :
    Step Ident := do
  let held ← get
  let name := held.issued.name base field
  if held.issued.isFresh name then
    let issued := held.issued.add name field
    match ← compiler.lookup field with
    | some value =>
        let value ← boundForm counterpart value
        set (Placeholders.mk issued (held.bindings ++ [⟨name, field, value⟩]) held.deferred)
    | none => set (Placeholders.mk issued held.bindings (held.deferred ++ [⟨name, field⟩]))
  return name

/-- The placeholder of a parameter's field, with the column on the other side. -/
def placeholder (compiler : Compiler) (counterpart : Option Column) (field : String) :
    Step Ident := do
  compiler.issue counterpart field (← baseName counterpart field)

/-- A literal as it is written; a real has to be finite. -/
def literal : Literal → Except Error Operand
  | .null => .ok .null
  | .bool value => .ok (.flag value)
  | .int value => .ok (.int value)
  | .real value =>
      if value.isFinite then .ok (.real value) else .error (.validation (.literalReal value))
  | .text value => .ok (.text value)

/-- One side of a comparison, with the column on the other side. -/
def operand (compiler : Compiler) (counterpart : Option Column) :
    RecordSql.Operand → Step Operand
  | .column column => return .column column.name
  | .literal value => literal value
  | .param field => return .placeholder (← compiler.placeholder counterpart field)

/-- The expression of a comparison. -/
def test (compiler : Compiler) : Test → Step Expr
  | .null op side => do
      let wanted ← nullTest op
      return .nullTest wanted (← compiler.operand none side)
  | .compare op left right => do
      let first ← compiler.operand none left
      let second ← compiler.operand left.column? right
      return .compare op first second

/-- A field of the parameter as a predicate. -/
def paramPredicate (compiler : Compiler) (field : String) : Step Expr := do
  match ← compiler.lookup field with
  | some (.bool value) => return .constant value
  | some other => throw (.typeMismatch (.boundPredicate field other.kind))
  | none => return .compare .eq (.placeholder (← compiler.placeholder none field)) (.flag true)

/-- The expression of a predicate. -/
def expr (compiler : Compiler) : Predicate → Step Expr
  | .literal (.bool value) => return .constant value
  | .literal other => throw (.typeMismatch (.literalPredicate other.shown))
  | .field name .row => do
      let column ← predicateColumn compiler.table name
      return .compare .eq (.column column.name) (.flag true)
  | .field name .param => compiler.paramPredicate name
  | .compare op left right => do
      compiler.test (← Test.ofComparison compiler.table compiler.lookup op left right)
  | .join op left right => do
      let first ← compiler.expr left
      let second ← compiler.expr right
      return .join op first second

end Compiler

/-- A compiled predicate. -/
structure Fragment where
  expr : Expr
  bindings : List Binding
  deferred : List Deferred

namespace Fragment

/-- The text of the expression. -/
def sql (fragment : Fragment) (dialect : Dialect) : String :=
  fragment.expr.render dialect

/-- The expression as a clause. -/
def whereClause (fragment : Fragment) (dialect : Dialect) : String :=
  "WHERE " ++ fragment.sql dialect

end Fragment

/-- The binding of a name. -/
def binding? (bindings : List Binding) (name : String) : Option Binding :=
  bindings.find? (·.name.name == name)

/-- Compile a predicate, with a parameter or without. -/
def compile (table : Table) (param : Option FieldValues) (predicate : Predicate) :
    Except Error Fragment := do
  let (expr, held) ← ((Compiler.mk table param).expr predicate).run Placeholders.empty
  return ⟨expr, held.bindings, held.deferred⟩

end RecordSql.Sql
