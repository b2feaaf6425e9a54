import GraphBinding.Json.Parser
import GraphBinding.Proofs.Emission

namespace GraphBinding.Outline

/-! What a generated module exports, and how it is read off the text of the module.

The text is read line by line, whichever schema it came from.  Lines that open and close
groups nest; block comments are passed over, and so are lines without an export outside of
all groups. -/

/-- A value in a script module, or the type in the declaration module that stands for it. -/
inductive Value where
  | undefined
  | literal (json : Json)
  | list (item : Value)
  | nonNull (nullable : Value)
  | resolver
  /-- The head of a condition: the type that follows counts if the named type is known. -/
  | guarded (name : String)
  | other (text : String)

inductive Member where
  | value (key : String) (value : Value)
  | group (key : String) (members : List Member)
  /-- A line that makes no sense. -/
  | stray (line : String)

/-- An exported binding, with its members if it is a group. -/
structure Export where
  name : String
  members : Option (List Member)

namespace Value

def text (text : String) : Value := .literal (.string text)

def optional : Option String → Value
  | none => .undefined
  | some text => .text text

def ofType : TypeRef → Value
  | .named name => .text name
  | .list item => .list (ofType item)
  | .nonNull nullable => .nonNull (ofType nullable)

/-- The name under every wrapper. -/
def baseName? : Value → Option String
  | .literal (.string name) => some name
  | .list item => item.baseName?
  | .nonNull nullable => nullable.baseName?
  | _ => none

theorem baseName?_ofType (type : TypeRef) : (ofType type).baseName? = some type.baseName := by
  induction type with
  | named name => rfl
  | list item ih => exact ih
  | nonNull nullable ih => exact ih

end Value

def typedMembers (types : List (String × TypeRef)) : List Member :=
  types.map fun (name, type) => .value name (.ofType type)

def argumentMembers (arguments : Table TypeRef) : List Member :=
  if arguments.isEmpty then [] else [.group "args" (typedMembers arguments.entries)]

def fieldMembers (field : OutputField) : List Member :=
  [.value "name" (.text field.name), .value "type" (.ofType field.type),
    .value "description" (.optional field.description)] ++ argumentMembers field.arguments ++
    [.value "resolve" (if field.source.isSome then .resolver else .undefined)]

def entryMember : String × ObjectEntry → Member
  | (key, .name text) => .value key (.text text)
  | (key, .description text) => .value key (.text text)
  | (_, .field field) => .group field.name (fieldMembers field)

def ofObject (type : ObjectType) : String × List Member :=
  (type.name, type.entries.entries.map entryMember)

def ofEnum (type : EnumType) : String × List Member :=
  (type.name,
    [.value "name" (.text type.name), .value "description" (.optional type.description),
      .value "members" (.literal (.strings type.members))])

def ofInput (type : InputType) : String × List Member :=
  (type.name,
    [.value "name" (.text type.name), .value "description" (.optional type.description),
      .group "definition"
        (typedMembers (type.fields.values.map fun field => (field.name, field.type)))])

/-- The members of every type, in the order in which the types are written out. -/
def outlines (schema : Schema) : List (String × List Member) :=
  schema.graph.enums.values.map (ofEnum ·.type) ++ schema.catalog.enums.values.map ofEnum ++
    schema.graph.objects.map ofObject ++ schema.catalog.inputs.values.map ofInput

def exports (schema : Schema) : List Export :=
  ⟨"$settings", none⟩ :: (outlines schema).map fun (name, members) => ⟨name, some members⟩

def isNameChar (c : Char) : Bool := c.isAlphanum || c = '_' || c = '$' || 0x80 ≤ c.toNat

/-- Beyond ASCII every character is let in, and a digit may come first, so every identifier is
a name. -/
structure IsName (name : String) : Prop where
  nonempty : name.toList ≠ []
  chars : ∀ c ∈ name.toList, isNameChar c

instance (name : String) : Decidable (IsName name) :=
  decidable_of_iff (name.toList ≠ [] ∧ name.toList.all isNameChar)
    ⟨fun ⟨nonempty, chars⟩ => ⟨nonempty, List.all_eq_true.1 chars⟩,
      fun isName => ⟨isName.nonempty, List.all_eq_true.2 isName.chars⟩⟩

/-- What is written for a name and the type that goes with it. -/
def Typed (entry : String × TypeRef) : Prop := IsName entry.1 ∧ IsName entry.2.baseName

structure FieldNamed (field : OutputField) : Prop where
  name : IsName field.name
  type : IsName field.type.baseName
  arguments : ∀ entry ∈ field.arguments.entries, Typed entry

instance (field : OutputField) : Decidable (FieldNamed field) :=
  decidable_of_iff (IsName field.name ∧ IsName field.type.baseName ∧
      ∀ entry ∈ field.arguments.entries, IsName entry.1 ∧ IsName entry.2.baseName)
    ⟨fun ⟨name, type, arguments⟩ => ⟨name, type, arguments⟩,
      fun named => ⟨named.name, named.type, named.arguments⟩⟩

def EntryNamed : String × ObjectEntry → Prop
  | (_, .field field) => FieldNamed field
  | (key, _) => IsName key

instance : DecidablePred EntryNamed
  | (_, .field field) => inferInstanceAs (Decidable (FieldNamed field))
  | (key, .name _) => inferInstanceAs (Decidable (IsName key))
  | (key, .description _) => inferInstanceAs (Decidable (IsName key))

/-- Types, fields and arguments have names.  Members of enums and texts may be anything. -/
structure Named (schema : Schema) : Prop where
  types : ∀ name ∈ schema.typeNames, IsName name
  objects : ∀ type ∈ schema.graph.objects, ∀ entry ∈ type.entries.entries, EntryNamed entry
  inputs : ∀ type ∈ schema.catalog.inputs.values, ∀ field ∈ type.fields.values,
    Typed (field.name, field.type)

instance (schema : Schema) : Decidable (Named schema) :=
  decidable_of_iff ((∀ name ∈ schema.typeNames, IsName name) ∧
      (∀ type ∈ schema.graph.objects, ∀ entry ∈ type.entries.entries, EntryNamed entry) ∧
      ∀ type ∈ schema.catalog.inputs.values, ∀ field ∈ type.fields.values,
        IsName field.name ∧ IsName field.type.baseName)
    ⟨fun ⟨types, objects, inputs⟩ => ⟨types, objects, inputs⟩,
      fun named => ⟨named.types, named.objects, named.inputs⟩⟩

/-- What a line says. -/
inductive Statement where
  | opens (key : String)
  | closes
  | holds (key : String) (value : Value)
  /-- The type that a condition on the line before leads to. -/
  | settles (type : Value)
  | silent
  | stray

/-- What the two kinds of module write differently. -/
structure Dialect where
  /-- What stands around the item of a list. -/
  list : String × String
  /-- What stands around a type that excludes null. -/
  nonNull : String × String
  /-- How a resolver begins. -/
  resolver : String
  /-- What ends a member. -/
  separator : String
  /-- What a line outside of all groups says. -/
  outside : List Char → Statement

def enclosed? (around : String × String) (text : List Char) : Option (List Char) :=
  (around.1.toList.isPrefixOf? text).bind around.2.toList.isSuffixOf?

def condition : String := " extends NexusCore.GetGen<'allNamedTypes', string>"

/-- What follows a single quote: a name, alone or as what a condition is about. -/
def quotedName (text : List Char) : Value :=
  let name := String.ofList (text.takeWhile (· ≠ '\''))
  let rest := text.dropWhile (· ≠ '\'')
  if rest = ['\''] then .text name
  else if rest = '\'' :: condition.toList then .guarded name
  else .other (String.ofList ('\'' :: text))

def isBlockComment : List Char → Bool
  | '/' :: '*' :: _ => true
  | _ => false

def endsComment : List Char → Bool
  | '*' :: '/' :: _ => true
  | _ :: rest => endsComment rest
  | [] => false

namespace Dialect

variable (dialect : Dialect)

def simpleValue (text : List Char) : Value :=
  match text with
  | '\'' :: rest => quotedName rest
  | _ =>
      if text = "undefined".toList then .undefined
      else if (dialect.resolver.toList.isPrefixOf? text).isSome then .resolver
      else
        match Json.parseRaw (String.ofList text) with
        | .ok json => .literal json
        | .error _ => .other (String.ofList text)

/-- A value under at most `depth` wrappers. -/
def valueWithin : Nat → List Char → Value
  | 0, text => dialect.simpleValue text
  | depth + 1, text =>
      match enclosed? dialect.list text, enclosed? dialect.nonNull text with
      | some item, _ => .list (valueWithin depth item)
      | none, some nullable => .nonNull (valueWithin depth nullable)
      | none, none => dialect.simpleValue text

def value (text : List Char) : Value := dialect.valueWithin text.length text

/-- What a line inside a group says.  Nothing is looked for in what stands instead of the
type if a condition fails. -/
def inside (line : List Char) : Statement :=
  if line = ['}'] ∨ line = '}' :: dialect.separator.toList then .closes
  else
    match line with
    | '?' :: ' ' :: type => .settles (dialect.value type)
    | ':' :: ' ' :: _ => .silent
    | _ =>
        let key := String.ofList (line.takeWhile (· ≠ ':'))
        match line.dropWhile (· ≠ ':') with
        | ':' :: ' ' :: text =>
            if text = ['{'] then .opens key
            else
              ((dialect.separator.toList.isSuffixOf? text).map fun text =>
                Statement.holds key (dialect.value text)).getD .stray
        | _ => .stray

end Dialect

/-- How far a module has been read. -/
structure Reading where
  commented : Bool := false
  /-- The groups begun and not ended, from the inside out, each with the members before it. -/
  opened : List (String × List Member) := []
  /-- The members of the innermost group, the last one first. -/
  members : List Member := []

namespace Reading

def add (reading : Reading) (member : Member) : Reading :=
  { reading with members := member :: reading.members }

def close (reading : Reading) : Reading :=
  match reading.opened with
  | [] => reading
  | (key, before) :: opened =>
      { reading with opened := opened, members := .group key reading.members.reverse :: before }

/-- The type takes the place of a condition on the name under its wrappers. -/
def settle (reading : Reading) (type : Value) : Reading :=
  match reading.members with
  | .value key (.guarded name) :: before =>
      if type.baseName? = some name then { reading with members := .value key type :: before }
      else reading
  | _ => reading

def heed (reading : Reading) (line : List Char) : Statement → Reading
  | .opens key => { reading with opened := (key, reading.members) :: reading.opened, members := [] }
  | .closes => reading.close
  | .holds key value => reading.add (.value key value)
  | .settles type => reading.settle type
  | .silent => reading
  | .stray => reading.add (.stray (String.ofList line))

end Reading

namespace Dialect

variable (dialect : Dialect)

/-- One more line, whose indentation says nothing. -/
def read (reading : Reading) (line : List Char) : Reading :=
  let line := line.dropWhile (· = ' ')
  if reading.commented then { reading with commented := !endsComment line }
  else if isBlockComment line then { reading with commented := !endsComment (line.drop 2) }
  else
    reading.heed line
      (if reading.opened.isEmpty then dialect.outside line else dialect.inside line)

/-- What stands outside of all groups. -/
def members (text : String) : List Member :=
  ((text.toList.splitOn '\n').foldl dialect.read {}).members.reverse

end Dialect

def exportKeyword : Flavor → String
  | .esm => "export const "
  | .cjs => "exports."

def scriptOutside (flavor : Flavor) (line : List Char) : Statement :=
  match (exportKeyword flavor).toList.isPrefixOf? line with
  | none => .silent
  | some text =>
      let name := String.ofList (text.takeWhile (· ≠ ' '))
      let value := text.dropWhile (· ≠ ' ')
      if value = " = \x7b".toList then .opens name
      else .holds name (.other (String.ofList value))

def script (flavor : Flavor) : Dialect where
  list := ("$runtime.list(", ")")
  nonNull := ("$runtime.nonNull(", ")")
  resolver := "$schema."
  separator := ","
  outside := scriptOutside flavor

def bindings : List Member → List Export
  | [] => []
  | .value name _ :: rest => ⟨name, none⟩ :: bindings rest
  | .group name members :: rest => ⟨name, some members⟩ :: bindings rest
  | .stray _ :: rest => bindings rest

def scriptExports (flavor : Flavor) (text : String) : List Export :=
  bindings ((script flavor).members text)

def declarationOutside (line : List Char) : Statement :=
  match "export interface ".toList.isPrefixOf? line,
      "export declare const ".toList.isPrefixOf? line with
  | some text, _ =>
      if text.dropWhile (· ≠ ' ') = " \x7b".toList then
        .opens (String.ofList (text.takeWhile (· ≠ ' ')))
      else .stray
  | none, some text =>
      .holds (String.ofList (text.takeWhile (· ≠ ':')))
        (.other (String.ofList ((text.dropWhile (· ≠ ':')).drop 2)))
  | none, none => .silent

def declaration : Dialect where
  list := ("NexusCore.NexusListDef<", ">")
  nonNull := ("NexusCore.NexusNonNullDef<", ">")
  resolver := "NexusCore.FieldResolver<"
  separator := ""
  outside := declarationOutside

/-- A declared binding has the members of the interface before it if that is its type.  An
interface alone is a type and binds nothing. -/
def declaredBindings : List Member → List Export
  | [] => []
  | .group interface members :: .value name (.other type) :: rest =>
      ⟨name, if type = interface then some members else none⟩ :: declaredBindings rest
  | .value name _ :: rest => ⟨name, none⟩ :: declaredBindings rest
  | _ :: rest => declaredBindings rest

def declarationExports (text : String) : List Export :=
  declaredBindings (declaration.members text)

end GraphBinding.Outline
