import RecordSql.Ident
import RecordSql.Value

/-!
# Placeholders

A placeholder is named after the column that the parameter is compared with, or after the
parameter's field.  A name that already stands for another field gets the least number that makes
it free; the same field under the same name gets the placeholder it had before.
-/

namespace RecordSql.Sql

/-- A placeholder with the field that it stands for and its value in stored form. -/
structure Binding where
  name : Ident
  field : String
  value : Value

/-- A placeholder that is bound later, from a field of the parameter. -/
structure Deferred where
  placeholder : Ident
  field : String
  deriving DecidableEq

/-- Names to which a number can be added: every number makes another name, none the name itself. -/
class Numbered (Name : Type) where
  suffixed : Name → Nat → Name
  suffixed_ne : ∀ base number, suffixed base number ≠ base
  eq_of_suffixed : ∀ base number other,
    suffixed base number = suffixed base other → number = other

/-- A text with an underscore and a number after it. -/
instance : Numbered String where
  suffixed base number := String.ofList (base.toList ++ Ident.suffix number)
  suffixed_ne base number h := by
    have hlist := congrArg String.toList h
    simp [Ident.suffix] at hlist
  eq_of_suffixed base number other h := by
    have hlist := congrArg String.toList h
    rw [String.toList_ofList, String.toList_ofList] at hlist
    exact Ident.eq_of_suffix (List.append_cancel_left hlist)

instance : Numbered Ident where
  suffixed := Ident.suffixed
  suffixed_ne base number h := Numbered.suffixed_ne base.name number (congrArg Ident.name h)
  eq_of_suffixed base number other h :=
    Numbered.eq_of_suffixed base.name number other (congrArg Ident.name h)

/-- The names handed out so far, each with the field it stands for, in order. -/
abbrev Issued (Name : Type := Ident) := List (Name × String)

namespace Issued

variable {Name : Type} [DecidableEq Name]

/-- The names that are tried: the base, and from two on the base with a number. -/
def candidate [Numbered Name] (base : Name) (number : Nat) : Name :=
  if number = 1 then base else Numbered.suffixed base number

/-- Whether a name can stand for a field: it is free, or it already does. -/
def admits (issued : Issued Name) (field : String) (name : Name) : Bool :=
  match issued.lookup name with
  | none => true
  | some holder => holder == field

/-- The first candidate that can stand for a field.  One more than the names handed out are
enough candidates. -/
def name [Numbered Name] (issued : Issued Name) (base : Name) (field : String) : Name :=
  let numbers := (List.range (issued.length + 1)).map (· + 1)
  match numbers.find? fun number => issued.admits field (candidate base number) with
  | some number => candidate base number
  | none => candidate base (issued.length + 2)

/-- Whether a name is handed out for the first time. -/
def isFresh (issued : Issued Name) (name : Name) : Bool :=
  (issued.lookup name).isNone

/-- Hand out a name. -/
def add (issued : Issued Name) (name : Name) (field : String) : Issued Name :=
  issued ++ [(name, field)]

end Issued

end RecordSql.Sql
