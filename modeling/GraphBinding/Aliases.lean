import GraphBinding.Table

namespace GraphBinding

/-! Which exposed field names of input types stand for other, native names. -/

/-- Input type, then alias, then native name. -/
structure Aliases where
  entries : Table (Table String) := Table.empty
deriving DecidableEq

namespace Aliases

def empty : Aliases := {}

def ofType? (aliases : Aliases) (inputType : String) : Option (Table String) :=
  aliases.entries.find? inputType

/-- The native name behind a key, if the key is an alias. -/
def nativeName? (aliases : Aliases) (inputType key : String) : Option String :=
  (aliases.ofType? inputType).bind (·.find? key)

/-- The native name of a key, which is the key itself if it is no alias. -/
def nativeName (aliases : Aliases) (inputType key : String) : String :=
  (aliases.nativeName? inputType key).getD key

def record (aliases : Aliases) (inputType exposed native : String) : Aliases :=
  let known := (aliases.ofType? inputType).getD Table.empty
  ⟨aliases.entries.insert inputType (known.insert exposed native)⟩

def forget (aliases : Aliases) (inputType exposed : String) : Aliases :=
  match aliases.ofType? inputType with
  | some known => ⟨aliases.entries.insert inputType (known.erase exposed)⟩
  | none => aliases

/-- Follows the renaming of an exposed field.  The alias stands for the native name, not
for the alias that it replaces, and going back to the native name leaves no alias. -/
def rename (aliases : Aliases) (inputType field exposed : String) : Aliases :=
  let native := aliases.nativeName inputType field
  let remaining := aliases.forget inputType field
  if native = exposed then remaining else remaining.record inputType exposed native

def isEmpty (aliases : Aliases) : Bool := aliases.entries.values.all (·.isEmpty)

end Aliases

end GraphBinding
