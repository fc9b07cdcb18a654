import RecordSql.Text.Digits
import RecordSql.Text.Quoted

/-!
# Identifiers

A table, a column and a placeholder have a plain ASCII name: a letter or an underscore, then
letters, digits and underscores.  How a name is delimited is the dialect's matter.
-/

namespace RecordSql

/-- What a name can start with. -/
def Ident.isStart (c : Char) : Bool :=
  c == '_' || c.isAlpha

/-- What a name can go on with. -/
def Ident.isPart (c : Char) : Bool :=
  c == '_' || c.isAlphanum

/-- Whether characters form a name. -/
def Ident.isName : List Char → Bool
  | [] => false
  | c :: rest => isStart c && rest.all isPart

/-- A valid name. -/
structure Ident where
  name : String
  valid : Ident.isName name.toList = true
  deriving DecidableEq

namespace Ident

/-- Why a text is no name. -/
inductive Fault where
  | empty
  | start (c : Char) (text : String)
  | part (c : Char) (text : String)
  deriving DecidableEq

namespace Fault

def message : Fault → String
  | .empty => "Identifier cannot be empty"
  | .start c text => s!"Invalid identifier start character '{c}' in '{text}'"
  | .part c text => s!"Invalid character '{c}' in identifier '{text}'"

end Fault

/-- The first thing wrong with a text that is no name. -/
def fault (text : String) : Fault :=
  match text.toList with
  | [] => .empty
  | c :: rest =>
      if !isStart c then .start c text
      else .part ((rest.find? (!isPart ·)).getD c) text

/-- Reads a name. -/
def parse (text : String) : Except Fault Ident :=
  if h : isName text.toList = true then .ok ⟨text, h⟩ else .error (fault text)

theorem parse_eq_ok_iff {text : String} {ident : Ident} :
    parse text = .ok ident ↔ ident.name = text := by
  unfold parse
  split
  · constructor
    · intro h
      cases h
      rfl
    · rintro rfl
      rfl
  · next h =>
    constructor
    · intro e
      cases e
    · rintro rfl
      exact absurd ident.valid h

/-- Equality of names up to the case of ASCII letters. -/
def sameIgnoringCase (a b : Ident) : Bool :=
  a.name.toList.map Char.toLower == b.name.toList.map Char.toLower

theorem isPart_of_isDigit {c : Char} (h : c.isDigit = true) : isPart c = true := by
  simp [isPart, Char.isAlphanum, h]

theorem isName_append {name more : List Char} (h : isName name = true)
    (hmore : more.all isPart = true) : isName (name ++ more) = true := by
  cases name with
  | nil => simp [isName] at h
  | cons c rest =>
      simp only [isName, Bool.and_eq_true, List.cons_append, List.all_append] at h ⊢
      exact ⟨h.1, h.2, hmore⟩

/-- What a number adds to a name. -/
def suffix (number : Nat) : List Char :=
  '_' :: Nat.toDigits 10 number

theorem all_isPart_suffix (number : Nat) : (suffix number).all isPart = true := by
  simp only [suffix, List.all_cons, Bool.and_eq_true, List.all_eq_true]
  refine ⟨by decide, fun c hc => isPart_of_isDigit ?_⟩
  exact Nat.isDigit_of_mem_toDigits (by decide) (by decide) hc

theorem eq_of_suffix {number other : Nat} (h : suffix number = suffix other) :
    number = other := by
  have hdigits := congrArg Text.digitsValue (List.cons.inj h).2
  simpa only [Text.digitsValue_toDigits] using hdigits

/-- A name with an underscore and a number after it. -/
def suffixed (base : Ident) (number : Nat) : Ident where
  name := String.ofList (base.name.toList ++ suffix number)
  valid := by
    rw [String.toList_ofList]
    exact isName_append base.valid (all_isPart_suffix number)

instance : ToString Ident := ⟨name⟩

end Ident

/-- How identifiers are delimited. -/
inductive QuoteStyle where
  | bracket
  | double
  deriving DecidableEq

namespace QuoteStyle

def delimiters : QuoteStyle → Text.Delimiters
  | .bracket => ⟨'[', ']'⟩
  | .double => ⟨'"', '"'⟩

/-- A text between the delimiters of the style. -/
def quote (style : QuoteStyle) (text : String) : String :=
  String.ofList (style.delimiters.quote text.toList)

end QuoteStyle

end RecordSql
