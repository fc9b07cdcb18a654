import RecordSql.Text.LetterCase

/-!
# Words of a name

A name is split into words wherever a character is neither letter nor digit, after a lower-case
letter that an upper-case one follows, and before the last capital of a run of capitals that a
lower-case letter follows.  A digit takes the case of the letter before it in its word.  The
words are then joined again under a naming rule.
-/

namespace RecordSql.Text

/-- The case of the last letter read in the current word. -/
inductive CaseMode where
  | none
  | lower
  | upper
  deriving DecidableEq

/-- The mode after reading a character that starts no new word. -/
def CaseMode.next (mode : CaseMode) (c : Char) : CaseMode :=
  if isLower c then .lower else if isUpper c then .upper else mode

/-- Split one run of letters and digits; `word` holds the current word backwards. -/
def splitCase (mode : CaseMode) (word : List Char) : List Char → List (List Char)
  | [] => []
  | [c] => [(c :: word).reverse]
  | c :: following :: rest =>
      if mode.next c = .lower && isUpper following then
        (c :: word).reverse :: splitCase .none [] (following :: rest)
      else if mode = .upper && isUpper c && isLower following then
        word.reverse :: splitCase .none [c] (following :: rest)
      else
        splitCase (mode.next c) (c :: word) (following :: rest)

/-- The runs of letters and digits in a name; `run` holds the current run backwards. -/
def alphanumericPieces (run : List Char) : List Char → List (List Char)
  | [] => [run.reverse]
  | c :: rest =>
      if isAlphanumeric c then alphanumericPieces (c :: run) rest
      else run.reverse :: alphanumericPieces [] rest

/-- The words of a name. -/
def words (name : List Char) : List (List Char) :=
  (alphanumericPieces [] name).flatMap (splitCase .none [])

/-- Lower case; a sigma at the end of a word takes its final form. -/
def lowerWord : List Char → List Char
  | [] => []
  | ['Σ'] => ['ς']
  | c :: rest => lowerCase c ++ lowerWord rest

def upperWord (word : List Char) : List Char :=
  word.flatMap upperCase

/-- Upper case at the first character, lower case after it. -/
def capitalizedWord : List Char → List Char
  | [] => []
  | c :: rest => upperCase c ++ lowerWord rest

/-- How the words of a name are joined. -/
inductive NamingRule where
  | pascal
  | camel
  | snake
  | screamingSnake
  deriving DecidableEq

namespace NamingRule

/-- The rule under the name that is written in its own style. -/
def ofName? (name : String) : Option NamingRule :=
  match name with
  | "PascalCase" => some .pascal
  | "camelCase" => some .camel
  | "snake_case" => some .snake
  | "SCREAMING_SNAKE_CASE" => some .screamingSnake
  | _ => none

/-- Join words under a rule. -/
def join : NamingRule → List (List Char) → List Char
  | .pascal, words => words.flatMap capitalizedWord
  | .camel, [] => []
  | .camel, first :: rest => lowerWord first ++ rest.flatMap capitalizedWord
  | .snake, words => List.intercalate ['_'] (words.map lowerWord)
  | .screamingSnake, words => List.intercalate ['_'] (words.map upperWord)

/-- A name restyled under a rule. -/
def apply (rule : NamingRule) (name : String) : String :=
  String.ofList (rule.join (words name.toList))

end NamingRule

end RecordSql.Text
