import GraphBinding.Decoder
import GraphBinding.Json.Skipping

namespace GraphBinding

/-! Values that are checked while their text is read.

Of two faults in a text the first one counts, whether the text stops being JSON there or a
value has the wrong type.  Members that a record does not know are passed over, so that
less can be wrong with them.
-/

/-- What a text should hold, as far as it is checked while it is read. -/
inductive Shape where
  /-- Any value, read in full. -/
  | any
  | boolean
  | string
  /-- One of several named values. -/
  | variant (options : List String)
  /-- An object whose members all have one shape. -/
  | table (item : Shape)
  /-- Columns that may be absent, as the members of an object or in order as an array. -/
  | record (name : String) (columns : List (String × Shape))
  /-- The same, beside members of other names that are read in full; never an array. -/
  | extended (name : String) (columns : List (String × Shape))

namespace Shape

/-- Takes something off the front of the input, or says what is wrong there. -/
abbrev Reading (α : Type) := List Char → Except ReadError (α × List Char)

def untyped {α : Type} (reader : Json.Reader α) : Reading α := fun input =>
  (reader input).mapError .malformed

def malformed {α : Type} (reason : Json.SyntaxError) : Except ReadError α :=
  .error (.malformed reason)

def mistyped {α : Type} (reason : DecodeError) : Except ReadError α := .error (.mistyped reason)

/-- The value that stands here is not what was expected.  A scalar is read, since it is
shown; of an array or object only the beginning counts. -/
def mismatch {α : Type} (expected : String) (input : List Char) : Except ReadError α :=
  match Json.Reader.skipBlank input with
  | '[' :: _ => mistyped (.wrongType .sequence expected)
  | '{' :: _ => mistyped (.wrongType .map expected)
  | input =>
      match Json.Reader.valueWith none input with
      | .ok (value, _) => mistyped (.wrongType (.ofJson value) expected)
      | .error reason => malformed reason

def readBoolean : Reading Json := fun input =>
  match Json.Reader.skipBlank input with
  | 't' :: rest => untyped (Json.Reader.word (.boolean true) ['r', 'u', 'e']) rest
  | 'f' :: rest => untyped (Json.Reader.word (.boolean false) ['a', 'l', 's', 'e']) rest
  | input => mismatch "a boolean" input

def readString : Reading Json := fun input =>
  match Json.Reader.skipBlank input with
  | '"' :: rest => (untyped Json.Reader.string rest).map fun (text, rest) => (.string text, rest)
  | input => mismatch "a string" input

/-- The beginning of an object's next member: its name, or nothing at the closing brace. -/
def readName (first : Bool) : Reading (Option String) := fun input =>
  let name (input : List Char) : Except ReadError (Option String × List Char) :=
    (untyped Json.Reader.string input).map fun (text, rest) => (some text, rest)
  match Json.Reader.skipBlank input with
  | [] => malformed .unfinishedObject
  | '}' :: rest => .ok (none, rest)
  | c :: rest =>
      if first then
        if c = '"' then name rest else malformed .nameNotQuoted
      else if c = ',' then
        match Json.Reader.skipBlank rest with
        | [] => malformed .unfinishedValue
        | '"' :: rest => name rest
        | '}' :: _ => malformed .trailingComma
        | _ => malformed .nameNotQuoted
      else malformed .noObjectSeparator

def readColon : Reading Unit := fun input =>
  match Json.Reader.skipBlank input with
  | [] => malformed .unfinishedObject
  | ':' :: rest => .ok ((), rest)
  | _ => malformed .noColon

/-- How to go on after a member's name, given the members before it, latest first. -/
abbrev MemberReading := List (String × Json) → String → Except ReadError (Reading Json)

/-- Members up to the closing brace. -/
def readMembers (member : MemberReading) :
    List Char → List (String × Json) → Reading (List (String × Json))
  | [], _, _ => malformed .unfinishedObject
  | _ :: bound, before, input =>
      match readName before.isEmpty input with
      | .error reason => .error reason
      | .ok (none, rest) => .ok (before.reverse, rest)
      | .ok (some name, rest) =>
          match (do
            let reading ← member before name
            let ((), rest) ← readColon rest
            reading rest : Except ReadError (Json × List Char)) with
          | .error reason => .error reason
          | .ok (value, rest) => readMembers member bound ((name, value) :: before) rest

def readObject (member : MemberReading) : Reading Json := fun input =>
  (readMembers member input [] input).map fun (members, rest) => (.object members, rest)

/-- A column must not be given twice; `other` reads the members of other names. -/
def columnMember (columns : List (String × Reading Json)) (other : Reading Json) : MemberReading :=
  fun before name =>
    match Entries.find? columns name with
    | none => .ok other
    | some column =>
        if name ∈ Entries.keys before then mistyped (.repeatedField name) else .ok column

/-- A member that was passed over counts as null. -/
def skipped : Reading Json := fun input =>
  (untyped Json.Reader.skipValue input).map fun ((), rest) => (.null, rest)

/-- The beginning of an array's next item, or nothing at the closing bracket. -/
def atItem (first : Bool) (input : List Char) : Except ReadError (Option (List Char)) :=
  match Json.Reader.skipBlank input with
  | [] => malformed .unfinishedList
  | ']' :: _ => .ok none
  | c :: rest =>
      if first then .ok (some (c :: rest))
      else if c = ',' then
        match Json.Reader.skipBlank rest with
        | [] => malformed .unfinishedValue
        | ']' :: _ => malformed .trailingComma
        | rest => .ok (some rest)
      else malformed .noListSeparator

/-- The end of an array after its last column. -/
def readClosing : Reading Unit := fun input =>
  match Json.Reader.skipBlank input with
  | [] => malformed .unfinishedList
  | ']' :: rest => .ok ((), rest)
  | ',' :: rest =>
      match Json.Reader.skipBlank rest with
      | ']' :: _ => malformed .trailingComma
      | _ => malformed .trailingCharacters
  | _ => malformed .trailingCharacters

/-- As many columns as are given. -/
def readItems (first : Bool) : List (Reading Json) → Reading (List Json)
  | [], input => do
      let ((), rest) ← readClosing input
      return ([], rest)
  | column :: columns, input => do
      match ← atItem first input with
      | none =>
          let ((), rest) ← readClosing input
          return ([], rest)
      | some input =>
          let (value, rest) ← column input
          let (values, rest) ← readItems false columns rest
          return (value :: values, rest)

/-- The name of a variant that is written as an object, after the opening brace. -/
def readVariantName : Reading String := fun input =>
  match Json.Reader.skipBlank input with
  | [] => malformed .unfinishedObject
  | '"' :: rest => untyped Json.Reader.string rest
  | '}' :: _ => malformed .noValue
  | _ => malformed .nameNotQuoted

def readUnit : Reading Unit := fun input =>
  match Json.Reader.skipBlank input with
  | 'n' :: rest => untyped (Json.Reader.word () ['u', 'l', 'l']) rest
  | input => mismatch "unit" input

/-- The name is checked as soon as it is read. -/
def variantOf (options : List String) (name : String) : Except ReadError Json :=
  if name ∈ options then .ok (.string name) else mistyped (.unknownVariant name options)

def readVariant (options : List String) : Reading Json := fun input =>
  match Json.Reader.skipBlank input with
  | [] => malformed .unfinishedValue
  | '"' :: rest => do
      let (name, rest) ← untyped Json.Reader.string rest
      return (← variantOf options name, rest)
  | '{' :: rest => do
      let (name, rest) ← readVariantName rest
      let value ← variantOf options name
      let ((), rest) ← readColon rest
      let ((), rest) ← readUnit rest
      match Json.Reader.skipBlank rest with
      | [] => malformed .unfinishedObject
      | '}' :: rest => return (value, rest)
      | _ => malformed .noValue
  | _ => malformed .noValue

/-- An object after its opening brace, or something else. -/
def readBraced (expected : String) (members : Reading Json) : Reading Json := fun input =>
  match Json.Reader.skipBlank input with
  | '{' :: rest => members rest
  | input => mismatch expected input

mutual

/-- Reads a value of a shape; `room` is left for the nesting of what is read in full.  Of a
variant only the name is kept. -/
def read (room : Nat) : Shape → Reading Json
  | .any => untyped (Json.Reader.value room)
  | .boolean => readBoolean
  | .string => readString
  | .variant options => readVariant options
  | .table item =>
      readBraced "a map" (readObject fun _ _ => .ok (item.read (room - 1)))
  | .record name columns => fun input =>
      let readings := readColumns (room - 1) columns
      match Json.Reader.skipBlank input with
      | '[' :: rest =>
          (readItems true (Entries.values readings) rest).map fun (items, rest) =>
            (.array items, rest)
      | input => readBraced ("struct " ++ name) (readObject (columnMember readings skipped)) input
  | .extended name columns =>
      readBraced ("struct " ++ name)
        (readObject
          (columnMember (readColumns (room - 1) columns) (untyped (Json.Reader.value (room - 1)))))

def readColumns (room : Nat) : List (String × Shape) → List (String × Reading Json)
  | [] => []
  | (name, shape) :: rest => (name, shape.read room) :: readColumns room rest

end

end Shape

end GraphBinding
