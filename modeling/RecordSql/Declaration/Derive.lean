import RecordSql.Declaration.Attribute
import RecordSql.Record

/-!
# Records from declarations

A declaration that keeps the rules makes a record shape: a schema with every field that is not
skipped, in order, and the types of all members.
-/

namespace RecordSql.Declaration

/-- What the members read so far make. -/
structure Draft where
  fields : List Field
  members : List RecordSql.Member
  identity : Option (RecordSql.Member × String)

namespace Draft

def empty : Draft := ⟨[], [], none⟩

end Draft

/-- The schema's field of a member. -/
def field (rule : Option Text.NamingRule) (options : FieldOptions) (member : Member) : Field where
  name := plainName member.name
  type := if options.isReference then .ref else member.type.semanticType
  column := options.column.or (rule.map (·.apply (plainName member.name)))
  isIdentity := options.isIdentity
  modifiers := options.modifiers

/-- Read the attributes of a member and add it to a draft. -/
def addMember (rule : Option Text.NamingRule) (draft : Draft) (member : Member) :
    Except Fault Draft := do
  let options ← FieldOptions.read member.attributes
  let typed : RecordSql.Member := ⟨plainName member.name, member.type, !options.isSkipped⟩
  let members := draft.members ++ [typed]
  if options.isSkipped then return { draft with members }
  let fields := draft.fields ++ [field rule options member]
  if options.isIdentity then
    if draft.identity.isSome then throw .secondIdentity
    return ⟨fields, members, some (typed, member.name)⟩
  return { draft with fields, members }

/-- What a declaration makes: the shape, and the name of the identity as it is written. -/
structure Derived where
  shape : RecordShape
  identityName : String

/-- Make a record shape of a declaration. -/
def derive (declaration : Declaration) : Except Fault Derived := do
  match declaration.form with
  | .tuple | .unit => throw .unnamedFields
  | .enumeration | .union => throw .noStructure
  | .record => pure ()
  let options ← RecordOptions.read declaration.attributes
  let draft ← declaration.members.foldlM (addMember options.namingRule) Draft.empty
  match draft.identity with
  | none => throw .noIdentity
  | some (identity, identityName) =>
      let schema : Schema := ⟨plainName declaration.name, options.table, draft.fields⟩
      return ⟨⟨schema, draft.members, identity⟩, identityName⟩

end RecordSql.Declaration
