import RecordSql.Predicate.Basic

/-!
# Three-valued truth

A comparison with null is neither true nor false.  Joins follow the three-valued logic in which a
known operand decides whenever the unknown one could not change the outcome.
-/

namespace RecordSql

/-- A truth value; nothing stands for unknown. -/
abbrev Truth := Option Bool

namespace Truth

def and : Truth → Truth → Truth
  | some false, _ => some false
  | _, some false => some false
  | some true, some true => some true
  | _, _ => none

def or : Truth → Truth → Truth
  | some true, _ => some true
  | _, some true => some true
  | some false, some false => some false
  | _, _ => none

/-- What is unknown stays unknown. -/
def not : Truth → Truth :=
  Option.map Bool.not

def join : Connective → Truth → Truth → Truth
  | .and => and
  | .or => or

theorem and_eq_true_iff {a b : Truth} : and a b = some true ↔ a = some true ∧ b = some true := by
  rcases a with _ | _ | _ <;> rcases b with _ | _ | _ <;> simp [and]

end Truth

namespace Value

/-- The order of two values; null has no place in it, nor have values of kinds that do not
compare, and documents have none at all. -/
def order? : Value → Value → Option Ordering
  | int a, int b => some (compare a b)
  | int a, real b => (Binary64.ofInt a.toInt).compare b
  | real a, int b => a.compare (Binary64.ofInt b.toInt)
  | real a, real b => a.compare b
  | bool a, bool b => some (compare a b)
  | text a, text b => some (compare a b)
  | uuid a, uuid b => some (a.compare b)
  | timestamp a, timestamp b => some (a.compare b)
  | _, _ => none

end Value

/-- Whether an operator holds of two values.  Documents can only be equal or not. -/
def Comparison.truth (op : Comparison) : Value → Value → Truth
  | .json a, .json b =>
      match op with
      | eq => some (a.same b)
      | ne => some (!a.same b)
      | _ => none
  | a, b => (a.order? b).map op.allows

end RecordSql
