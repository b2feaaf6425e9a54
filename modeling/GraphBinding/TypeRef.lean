namespace GraphBinding

/-! References to GraphQL types: a named type under list and non-null wrappers. -/

inductive TypeRef where
  | named (name : String)
  | list (item : TypeRef)
  | nonNull (nullable : TypeRef)
deriving DecidableEq, Repr

namespace TypeRef

instance : Inhabited TypeRef := ⟨.named ""⟩

/-- The reference without null.  One that is non-null already stays as it is. -/
def required : TypeRef → TypeRef
  | .nonNull nullable => .nonNull nullable
  | type => .nonNull type

/-- `[T!]` -/
def listOf (name : String) : TypeRef := .list (required (.named name))

/-- The name under every wrapper. -/
def baseName : TypeRef → String
  | .named name => name
  | .list item => item.baseName
  | .nonNull nullable => nullable.baseName

def isNonNull : TypeRef → Bool
  | .nonNull _ => true
  | _ => false

def isList : TypeRef → Bool
  | .named _ => false
  | .list _ => true
  | .nonNull nullable => nullable.isList

/-- The reference in schema language. -/
def sdl : TypeRef → String
  | .named name => name
  | .list item => "[" ++ item.sdl ++ "]"
  | .nonNull nullable => nullable.sdl ++ "!"

/-- References made by naming a type and wrapping it with `list` and `required`. -/
inductive Wrapped : TypeRef → Prop
  | named (name : String) : Wrapped (.named name)
  | list {type : TypeRef} (inner : Wrapped type) : Wrapped (.list type)
  | required {type : TypeRef} (inner : Wrapped type) : Wrapped type.required

end TypeRef

end GraphBinding
