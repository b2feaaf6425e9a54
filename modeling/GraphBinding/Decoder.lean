import GraphBinding.Decoder.Error

namespace GraphBinding

/-! Typed values out of JSON values.

A decoder answers with a value or with the first thing that is wrong.  `Record` describes
an object by its columns, in declaration order.  The members of an object are checked in
the order in which they stand, so that the first wrong one is reported; then the record is
built from them by name.  A record may also be given as an array of its columns.
-/

abbrev Decoder (α : Type) := Json → Except DecodeError α

/-- Where the value to decode comes from, which decides how some faults are reported. -/
inductive Origin where
  /-- A value of its own. -/
  | tree
  /-- Part of a larger value, set aside until the rest was decoded. -/
  | setAside
deriving DecidableEq, Repr

namespace Decoder

def fail {α : Type} (value : Json) (expected : String) : Except DecodeError α :=
  .error (.wrongType (.ofJson value) expected)

def string : Decoder String
  | .string text => .ok text
  | value => fail value "a string"

def boolean : Decoder Bool
  | .boolean value => .ok value
  | value => fail value "a boolean"

def nullable {α : Type} (decoder : Decoder α) : Decoder (Option α)
  | .null => .ok none
  | value => (decoder value).map some

def list {α : Type} (decoder : Decoder α) : Decoder (List α)
  | .array items => items.mapM decoder
  | value => fail value "a sequence"

/-- An object as a table; of a repeated name the last value counts. -/
def table {α : Type} (decoder : Decoder α) : Decoder (Table α)
  | .object members => do
      let entries ← members.mapM fun (name, value) =>
        (decoder value).map fun decoded => (name, decoded)
      return Table.ofEntries entries
  | value => fail value "a map"

/-- What a variant written as an object may carry: nothing. -/
def unitPayload (origin : Origin) : Json → Except DecodeError Unit
  | .null => .ok ()
  | .object [] => if origin = .setAside then .ok () else fail (.object []) "unit"
  | value => fail value "unit"

def variantNamed {α : Type} (spellings : List (String × α)) (name : String) :
    Except DecodeError α :=
  match Entries.find? spellings name with
  | some value => .ok value
  | none => .error (.unknownVariant name (Entries.keys spellings))

/-- One of several named values, written as its name or as an object with that name and
`null`.  The spellings are listed in the order in which a diagnostic names them. -/
def variant {α : Type} (origin : Origin) (spellings : List (String × α)) : Decoder α :=
  fun
    | .string name => variantNamed spellings name
    | .object [(name, payload)] => do
        let value ← variantNamed spellings name
        unitPayload origin payload
        return value
    | .object _ => .error .notSingleMember
    | value => fail value "string or map"

end Decoder

/-- A column of a record: its name, whether it may be absent, and what it may hold. -/
structure Column where
  name : String
  required : Bool
  check : Json → Except DecodeError Unit

/-- A record format. -/
structure Record (α : Type) where
  columns : List Column
  /-- The record whose columns hold these values. -/
  build : (String → Option Json) → Except DecodeError α

namespace Record

variable {α β : Type}

def value (x : α) : Record α := ⟨[], fun _ => .ok x⟩

/-- A column without a default. -/
def required (name : String) (decoder : Decoder α) : Record α where
  columns := [⟨name, true, fun json => (decoder json).map fun _ => ()⟩]
  build find :=
    match find name with
    | some json => decoder json
    | none => .error (.missingField name)

/-- A column that holds `default` when it is absent. -/
def optional (name : String) (default : α) (decoder : Decoder α) : Record α where
  columns := [⟨name, false, fun json => (decoder json).map fun _ => ()⟩]
  build find :=
    match find name with
    | some json => decoder json
    | none => .ok default

/-- The columns of both records, those of the first one in front. -/
def apply (function : Record (α → β)) (argument : Record α) : Record β where
  columns := function.columns ++ argument.columns
  build find := do
    let f ← function.build find
    let x ← argument.build find
    return f x

instance : Functor Record where
  map f record := apply (value f) record

instance : Seq Record where
  seq function argument := apply function (argument ())

def column? (record : Record α) (name : String) : Option Column :=
  record.columns.find? (·.name = name)

/-- Checks the members in order; `seen` are the columns already met.  Members with unknown
names are skipped. -/
def checkMembers (record : Record α) (seen : List String) :
    List (String × Json) → Except DecodeError Unit
  | [] => .ok ()
  | (name, json) :: rest =>
      match record.column? name with
      | none => record.checkMembers seen rest
      | some column =>
          if name ∈ seen then .error (.repeatedField name)
          else do
            column.check json
            record.checkMembers (name :: seen) rest

def ofMembers (record : Record α) (members : List (String × Json)) : Except DecodeError α := do
  record.checkMembers [] members
  record.build (Entries.find? members)

/-- Checks elements against the columns in order. -/
def checkItems : List Column → List Json → Except DecodeError Unit
  | column :: columns, json :: rest => do
      column.check json
      checkItems columns rest
  | _, _ => .ok ()

def tooMany (origin : Origin) (given size : Nat) : DecodeError :=
  match origin with
  | .tree => .tooManyElements given
  | .setAside => .tooManySetAside given size

def ofItems (record : Record α) (origin : Origin) (shape : String) (items : List Json) :
    Except DecodeError α := do
  let size := record.columns.length
  checkItems record.columns items
  if (record.columns.drop items.length).any (·.required) then
    throw (.tooFewElements items.length shape size)
  let built ← record.build (Entries.find? ((record.columns.map (·.name)).zip items))
  if size < items.length then throw (tooMany origin items.length size)
  return built

/-- A record given by members or by elements. -/
def decoder (record : Record α) (origin : Origin) (shape : String) : Decoder α
  | .object members => record.ofMembers members
  | .array items => record.ofItems origin shape items
  | json => Decoder.fail json ("struct " ++ shape)

end Record

end GraphBinding
