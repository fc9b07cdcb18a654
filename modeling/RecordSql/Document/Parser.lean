import RecordSql.Document.Number

/-!
# Documents from text

Reading goes in two passes, each a fold over a list.  The first turns characters into tokens; the
second turns tokens into a document, with the containers that are still open on a stack.
-/

namespace RecordSql.Document

/-! ## Tokens -/

/-- A mark of structure, or a value that holds no other. -/
inductive Token where
  | openArray
  | closeArray
  | openObject
  | closeObject
  | comma
  | colon
  | text (value : String)
  | scalar (value : Document)

/-- Where in a token the next character falls; characters read so far stand backwards. -/
inductive LexMode where
  | between
  | word (read : List Char)
  | text (read : List Char)
  | escape (read : List Char)
  | hex (read : List Char) (high : Option Nat) (value : Nat) (missing : Nat)
  | lowEscape (read : List Char) (high : Nat)
  | lowMark (read : List Char) (high : Nat)

/-- The tokens read so far, backwards, and where the next character falls. -/
structure LexState where
  tokens : List Token
  mode : LexMode

/-- The value of a word or number outside quotes. -/
def wordValue? (word : List Char) : Option Document :=
  if word == "null".toList then some .null
  else if word == "true".toList then some (.bool true)
  else if word == "false".toList then some (.bool false)
  else (Number.read? word).map .number

def isBlank (c : Char) : Bool :=
  c == ' ' || c == '\t' || c == '\n' || c == '\r'

/-- The mark of structure a character is. -/
def structureToken? (c : Char) : Option Token :=
  match c with
  | '[' => some .openArray
  | ']' => some .closeArray
  | '\x7b' => some .openObject
  | '\x7d' => some .closeObject
  | ',' => some .comma
  | ':' => some .colon
  | _ => none

/-- The character of a one-letter escape. -/
def escapedChar? (c : Char) : Option Char :=
  match c with
  | '"' => some '"'
  | '\\' => some '\\'
  | '/' => some '/'
  | 'b' => some '\x08'
  | 'f' => some '\x0c'
  | 'n' => some '\n'
  | 'r' => some '\r'
  | 't' => some '\t'
  | _ => none

def isHighSurrogate (code : Nat) : Bool :=
  0xD800 ≤ code && code < 0xDC00

def isLowSurrogate (code : Nat) : Bool :=
  0xDC00 ≤ code && code < 0xE000

/-- What follows a complete four-digit escape.  A high half waits for a low one, which may not
stand alone. -/
def afterHex? (read : List Char) (high : Option Nat) (code : Nat) : Option LexMode :=
  match high with
  | none =>
      if isHighSurrogate code then some (.lowEscape read code)
      else if isLowSurrogate code then none
      else some (.text (Char.ofNat code :: read))
  | some high =>
      if isLowSurrogate code then
        some (.text (Char.ofNat (0x10000 + (high - 0xD800) * 0x400 + (code - 0xDC00)) :: read))
      else none

/-- One character outside any token. -/
def lexBetween (tokens : List Token) (c : Char) : LexState :=
  if isBlank c then ⟨tokens, .between⟩
  else if c = '"' then ⟨tokens, .text []⟩
  else
    match structureToken? c with
    | some token => ⟨token :: tokens, .between⟩
    | none => ⟨tokens, .word [c]⟩

/-- Read one character. -/
def lexStep (state : LexState) (c : Char) : Option LexState :=
  match state.mode with
  | .between => some (lexBetween state.tokens c)
  | .word read =>
      if isBlank c || c == '"' || (structureToken? c).isSome then
        (wordValue? read.reverse).map fun value => lexBetween (.scalar value :: state.tokens) c
      else some ⟨state.tokens, .word (c :: read)⟩
  | .text read =>
      if c = '"' then some ⟨.text (String.ofList read.reverse) :: state.tokens, .between⟩
      else if c = '\\' then some ⟨state.tokens, .escape read⟩
      else if c.toNat < 32 then none
      else some ⟨state.tokens, .text (c :: read)⟩
  | .escape read =>
      if c = 'u' then some ⟨state.tokens, .hex read none 0 4⟩
      else (escapedChar? c).map fun char => ⟨state.tokens, .text (char :: read)⟩
  | .hex read high value missing => do
      let code := value * 16 + (← Text.hexDigit? c).val
      if missing = 1 then
        return ⟨state.tokens, ← afterHex? read high code⟩
      else
        return ⟨state.tokens, .hex read high code (missing - 1)⟩
  | .lowEscape read high => if c = '\\' then some ⟨state.tokens, .lowMark read high⟩ else none
  | .lowMark read high =>
      if c = 'u' then some ⟨state.tokens, .hex read (some high) 0 4⟩ else none

/-- The tokens of a text. -/
def tokens? (text : List Char) : Option (List Token) := do
  let state ← text.foldlM lexStep ⟨[], .between⟩
  match state.mode with
  | .between => some state.tokens.reverse
  | .word read => (wordValue? read.reverse).map fun value =>
      (Token.scalar value :: state.tokens).reverse
  | _ => none

/-! ## Structure -/

/-- An open container: items backwards, or members with the key that waits for its value. -/
inductive Frame where
  | array (items : List Document)
  | object (members : List (String × Document)) (key : String)

/-- What the next token has to be; the open containers are innermost first. -/
inductive ParseState where
  | value (stack : List Frame)
  | firstItem (stack : List Frame)
  | firstKey (stack : List Frame)
  | key (members : List (String × Document)) (stack : List Frame)
  | colon (members : List (String × Document)) (key : String) (stack : List Frame)
  | separator (innermost : Frame) (stack : List Frame)
  | done (document : Document)

/-- How many containers may be open at once. -/
def maxDepth : Nat := 127

/-- Put a complete value where it belongs. -/
def place (value : Document) : List Frame → ParseState
  | [] => .done value
  | .array items :: stack => .separator (.array (value :: items)) stack
  | .object members key :: stack =>
      .separator (.object (insertMember key value members) key) stack

/-- Read the first token of a value. -/
def startValue? (stack : List Frame) : Token → Option ParseState
  | .scalar value => some (place value stack)
  | .text value => some (place (.text value) stack)
  | .openArray => if stack.length < maxDepth then some (.firstItem stack) else none
  | .openObject => if stack.length < maxDepth then some (.firstKey stack) else none
  | _ => none

/-- Read one token. -/
def parseStep (state : ParseState) (token : Token) : Option ParseState :=
  match state, token with
  | .value stack, _ => startValue? stack token
  | .firstItem stack, .closeArray => some (place (.array []) stack)
  | .firstItem stack, _ => startValue? (.array [] :: stack) token
  | .firstKey stack, .closeObject => some (place (.object []) stack)
  | .firstKey stack, .text key => some (.colon [] key stack)
  | .key members stack, .text key => some (.colon members key stack)
  | .colon members key stack, .colon => some (.value (.object members key :: stack))
  | .separator (.array items) stack, .comma => some (.value (.array items :: stack))
  | .separator (.array items) stack, .closeArray => some (place (.array items.reverse) stack)
  | .separator (.object members _) stack, .comma => some (.key members stack)
  | .separator (.object members _) stack, .closeObject => some (place (.object members) stack)
  | _, _ => none

/-- Reads a document; nothing but blanks may surround it. -/
def read? (text : String) : Option Document := do
  match ← (← tokens? text.toList).foldlM parseStep (.value []) with
  | .done document => some document
  | _ => none

end RecordSql.Document
