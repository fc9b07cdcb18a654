import RecordSql.Text.LetterTables

/-!
# Letter case

Case tests and case maps over all of Unicode.  A character can become several: the capital of
the sharp s is two letters.
-/

namespace RecordSql.Text

/-- A letter, a digit or another number. -/
def isAlphanumeric (c : Char) : Bool :=
  alphanumericRanges.any fun (first, last) => first ≤ c.toNat && c.toNat ≤ last

def isLower (c : Char) : Bool :=
  lowerRuns.any (·.contains c.toNat)

def isUpper (c : Char) : Bool :=
  upperRuns.any (·.contains c.toNat)

/-- Apply a case map: an expansion if there is one, else a shift if there is one. -/
def recase (expansions : List (Nat × List Nat)) (shifts : List (Run × Int)) (c : Char) :
    List Char :=
  match expansions.lookup c.toNat with
  | some codes => codes.map Char.ofNat
  | none =>
      match shifts.find? fun (run, _) => run.contains c.toNat with
      | some (_, shift) => [Char.ofNat (c.toNat + shift).toNat]
      | none => [c]

def upperCase (c : Char) : List Char :=
  recase toUpperExpansions toUpperShifts c

def lowerCase (c : Char) : List Char :=
  recase toLowerExpansions toLowerShifts c

end RecordSql.Text
