import RecordSql.Handler

/-!
# Registries

A registry holds at most one handler for a semantic type; registering replaces.  One registry can
be installed for all, once.
-/

namespace RecordSql

/-- Handlers by semantic type. -/
structure Registry where
  entries : List (SemanticType × Handler)

namespace Registry

/-- No handlers. -/
def empty : Registry := ⟨[]⟩

/-- Put the handler of a type in place. -/
def register (registry : Registry) (type : SemanticType) (handler : Handler) : Registry :=
  ⟨(type, handler) :: registry.entries.filter (·.1 ≠ type)⟩

def handler? (registry : Registry) (type : SemanticType) : Option Handler :=
  registry.entries.lookup type

def contains (registry : Registry) (type : SemanticType) : Bool :=
  (registry.handler? type).isSome

/-- The handler of a type, or the error that there is none. -/
def handlerFor (registry : Registry) (type : SemanticType) : Except Error Handler :=
  match registry.handler? type with
  | some handler => .ok handler
  | none => .error (.unsupportedType (.unregistered type))

/-- The types that have a handler from the start. -/
def builtinTypes : List SemanticType :=
  [.bool, .int, .real, .text, .ref, .uuid, .timestamp, .json]

/-- The handlers of the builtin types. -/
def builtin : Registry :=
  builtinTypes.foldl
    (fun registry type =>
      match Handler.builtin? type with
      | some handler => registry.register type handler
      | none => registry)
    empty

/-- Install a registry where none is installed yet. -/
def install (installed : Option Registry) (registry : Registry) : Except Error Registry :=
  match installed with
  | none => .ok registry
  | some _ => .error (.validation .registryInstalled)

end Registry

end RecordSql
