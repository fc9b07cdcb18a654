import RecordSql.Binary64.Basic

/-!
# Documents

A document is a tree of nulls, booleans, numbers, texts, arrays and objects.  An object keeps its
members in ascending order of their keys, one member a key.
-/

namespace RecordSql

namespace Document

/-- A number is whole or real; the two never equal each other. -/
inductive Number where
  | whole (value : Int)
  | real (value : Binary64)
  deriving DecidableEq

namespace Number

/-- Whether two numbers are equal: reals by value, so that the two zeros are. -/
def same : Number → Number → Bool
  | .whole a, .whole b => a == b
  | .real a, .real b => a.compare b == some .eq
  | _, _ => false

end Number

end Document

/-- A structured value without a schema. -/
inductive Document where
  | null
  | bool (value : Bool)
  | number (value : Document.Number)
  | text (value : String)
  | array (items : List Document)
  | object (members : List (String × Document))

namespace Document

def isNull : Document → Bool
  | .null => true
  | _ => false

/-- Put a member in its place, over an earlier one with the same key. -/
def insertMember (key : String) (value : Document) :
    List (String × Document) → List (String × Document)
  | [] => [(key, value)]
  | (other, held) :: rest =>
      if key = other then (key, value) :: rest
      else if key < other then (key, value) :: (other, held) :: rest
      else (other, held) :: insertMember key value rest

mutual

/-- Whether two documents are equal part by part. -/
def same : Document → Document → Bool
  | .null, .null => true
  | .bool a, .bool b => a == b
  | .number a, .number b => a.same b
  | .text a, .text b => a == b
  | .array a, .array b => sameItems a b
  | .object a, .object b => sameMembers a b
  | _, _ => false

def sameItems : List Document → List Document → Bool
  | [], [] => true
  | a :: as, b :: bs => same a b && sameItems as bs
  | _, _ => false

def sameMembers : List (String × Document) → List (String × Document) → Bool
  | [], [] => true
  | (key, a) :: as, (other, b) :: bs => key == other && same a b && sameMembers as bs
  | _, _ => false

end

end Document

end RecordSql
