import GraphBinding.ResolveError
import GraphBinding.Schema

namespace GraphBinding

/-! The arguments of a request, with native names in place of aliases at every level. -/

namespace Schema

mutual

/-- Gives the keys of a value declared as an input type their native names.  Keys that the
type does not declare are copied with their values, and so is everything declared as some
other kind of type.  Should two keys get one name, the last value counts. -/
def nativeValue (schema : Schema) (type : String) : Json → Json
  | .array items => .array (nativeItems schema type items)
  | .object members =>
      match schema.input? type with
      | none => .object members
      | some input => .object (Entries.collapse (nativeMembers schema input type members))
  | value => value

def nativeItems (schema : Schema) (type : String) : List Json → List Json
  | [] => []
  | item :: rest => nativeValue schema type item :: nativeItems schema type rest

def nativeMembers (schema : Schema) (input : InputType) (type : String) :
    List (String × Json) → List (String × Json)
  | [] => []
  | (key, value) :: rest =>
      (match input.fields.find? key with
        | some field =>
            (schema.aliases.nativeName type key, nativeValue schema field.type.baseName value)
        | none => (key, value)) :: nativeMembers schema input type rest

end

end Schema

structure RequestArguments where
  filter : Option Json := none
  take : Option Int64 := none
  skip : Option Int64 := none

namespace RequestArguments

/-- A paging argument counts only as an integer of 64 bits, and must not be negative. -/
def paging (parent field : String) (raw : Json) (argument : PagingArgument) :
    Except ResolveError (Option Int64) :=
  match (raw.get? argument.name).bind Json.asInt64? with
  | some value =>
      if value < 0 then .error (.negativeArgument parent field argument value) else .ok (some value)
  | none => .ok none

/-- The filter of a field; a field that declares none gets what the request has. -/
def filterOf (schema : Schema) (declared : Option TypeRef) (raw : Json) : Option Json :=
  match raw.get? "where", declared with
  | none, _ | some .null, _ => none
  | some value, some type => some (schema.nativeValue type.baseName value)
  | some value, none => some value

/-- The arguments of a field of the schema, out of those of a request. -/
def ofRequest (schema : Schema) (parent field : String) (raw : Json) :
    Except ResolveError RequestArguments :=
  match schema.field? parent field with
  | none => .error (.unknownField parent field)
  | some definition => do
      let take ← paging parent field raw .take
      let skip ← paging parent field raw .skip
      return { filter := filterOf schema (definition.arguments.find? "where") raw, take, skip }

end RequestArguments

end GraphBinding
