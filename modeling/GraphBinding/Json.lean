import GraphBinding.Table
import GraphBinding.Binary64

namespace GraphBinding

/-! JSON values.

The members of an object keep the order in which they stand in the text.  A text may
repeat a name; `collapse` is the value in which every name of every object is unique.
-/

inductive Json where
  | null
  | boolean (value : Bool)
  | integer (value : Int)
  /-- A number written with a fraction or an exponent, or too large for an integer. -/
  | real (value : Binary64)
  | string (text : String)
  | array (items : List Json)
  | object (members : List (String × Json))

namespace Json

instance : Inhabited Json := ⟨.null⟩

def isNull : Json → Bool
  | .null => true
  | _ => false

/-- The member of an object; other values have none. -/
def get? : Json → String → Option Json
  | .object members, name => Entries.find? members name
  | _, _ => none

def getD (value : Json) (name : String) : Json := (value.get? name).getD .null

def asString? : Json → Option String
  | .string text => some text
  | _ => none

def asItems? : Json → Option (List Json)
  | .array items => some items
  | _ => none

/-- An integer that fits 64 signed bits; a real never counts, also when it is whole. -/
def asInt64? : Json → Option Int64
  | .integer value =>
      if Int64.minValue.toInt ≤ value ∧ value ≤ Int64.maxValue.toInt then
        some (Int64.ofInt value)
      else none
  | _ => none

def ofInt64 (value : Int64) : Json := .integer value.toInt

def strings (texts : List String) : Json := .array (texts.map .string)

mutual

/-- Keeps of a repeated name the last value at the first position, in every object. -/
def collapse : Json → Json
  | .array items => .array (collapseItems items)
  | .object members => .object (Entries.collapse (collapseMembers members))
  | value => value

def collapseItems : List Json → List Json
  | [] => []
  | item :: rest => item.collapse :: collapseItems rest

def collapseMembers : List (String × Json) → List (String × Json)
  | [] => []
  | (name, value) :: rest => (name, value.collapse) :: collapseMembers rest

end

mutual

/-- In every object, at any depth, no name stands twice. -/
def DistinctNames : Json → Prop
  | .array items => DistinctNamesItems items
  | .object members => (Entries.keys members).Nodup ∧ DistinctNamesMembers members
  | _ => True

def DistinctNamesItems : List Json → Prop
  | [] => True
  | item :: rest => item.DistinctNames ∧ DistinctNamesItems rest

def DistinctNamesMembers : List (String × Json) → Prop
  | [] => True
  | (_, value) :: rest => value.DistinctNames ∧ DistinctNamesMembers rest

end

end Json

end GraphBinding
