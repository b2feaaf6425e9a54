import GraphBinding.Json.Number

namespace GraphBinding.Json

/-! The compact text of a value: no blanks, members in order, only what must be escaped
in a string escaped. -/

def hexDigit (n : Nat) : Char := Nat.digitChar (n % 16)

/-- A character inside a quoted string.  Beside the quote and the backslash only the
characters below the blank are escaped. -/
def escapeChar (c : Char) : List Char :=
  if c = '"' then ['\\', '"']
  else if c = '\\' then ['\\', '\\']
  else if c = '\x08' then ['\\', 'b']
  else if c = '\x0c' then ['\\', 'f']
  else if c = '\n' then ['\\', 'n']
  else if c = '\r' then ['\\', 'r']
  else if c = '\t' then ['\\', 't']
  else if c.toNat < 0x20 then
    ['\\', 'u', '0', '0', hexDigit (c.toNat / 16), hexDigit c.toNat]
  else [c]

def quotedChars (text : List Char) : List Char :=
  '"' :: text.flatMap escapeChar ++ ['"']

mutual

def chars : Json → List Char
  | .null => ['n', 'u', 'l', 'l']
  | .boolean true => ['t', 'r', 'u', 'e']
  | .boolean false => ['f', 'a', 'l', 's', 'e']
  | .integer value => integerChars value
  | .real value => realChars value
  | .string text => quotedChars text.toList
  | .array items => '[' :: itemChars items ++ [']']
  | .object members => '{' :: memberChars members ++ ['}']

/-- The items separated by commas. -/
def itemChars : List Json → List Char
  | [] => []
  | [item] => item.chars
  | item :: rest => item.chars ++ ',' :: itemChars rest

/-- The members separated by commas. -/
def memberChars : List (String × Json) → List Char
  | [] => []
  | [(name, value)] => quotedChars name.toList ++ ':' :: value.chars
  | (name, value) :: rest =>
      quotedChars name.toList ++ ':' :: value.chars ++ ',' :: memberChars rest

end

def text (value : Json) : String := String.ofList value.chars

/-- A string as a JSON literal. -/
def quoted (text : String) : String := String.ofList (quotedChars text.toList)

end GraphBinding.Json
