import GraphBinding.Json.Syntax
import GraphBinding.Json.Number

namespace GraphBinding.Json

/-! Reading JSON texts, strictly: no comments, no trailing commas, no bare control
characters, paired surrogates, numbers within binary64, and a bounded nesting.

A reader takes something off the front of the input.  The loops over the characters of a
string, the items of an array and the members of an object are bounded by the input they
start from: every round uses up one character of it and takes at least one off.  Nesting is
bounded by the room left for it.
-/

abbrev Reader (α : Type) := List Char → Except SyntaxError (α × List Char)

namespace Reader

def isBlank (c : Char) : Bool := c = ' ' || c = '\t' || c = '\n' || c = '\r'

def skipBlank (input : List Char) : List Char := input.dropWhile isBlank

def hexValue? (c : Char) : Option Nat :=
  if '0' ≤ c ∧ c ≤ '9' then some (c.toNat - '0'.toNat)
  else if 'a' ≤ c ∧ c ≤ 'f' then some (c.toNat - 'a'.toNat + 10)
  else if 'A' ≤ c ∧ c ≤ 'F' then some (c.toNat - 'A'.toNat + 10)
  else none

/-- The four hexadecimal digits of an escape.  Fewer characters are only too few if they
fill less than four bytes. -/
def hexUnit : Reader Nat
  | a :: b :: c :: d :: rest =>
      match hexValue? a, hexValue? b, hexValue? c, hexValue? d with
      | some a, some b, some c, some d => .ok (((a * 16 + b) * 16 + c) * 16 + d, rest)
      | _, _, _, _ => .error .invalidEscape
  | rest =>
      .error (if 4 ≤ (String.ofList rest).utf8ByteSize then .invalidEscape else .unfinishedString)

def isLeadingSurrogate (unit : Nat) : Bool := 0xD800 ≤ unit && unit < 0xDC00

def isTrailingSurrogate (unit : Nat) : Bool := 0xDC00 ≤ unit && unit < 0xE000

/-- What follows `\u`: one unit, or the two units of a surrogate pair. -/
def unicodeEscape : Reader Char := fun input => do
  let (unit, rest) ← hexUnit input
  if isTrailingSurrogate unit then throw .loneSurrogate
  else if ¬ isLeadingSurrogate unit then return (Char.ofNat unit, rest)
  else
    match rest with
    | [] | ['\\'] => throw .unfinishedString
    | '\\' :: 'u' :: rest =>
        let (second, rest) ← hexUnit rest
        if isTrailingSurrogate second then
          return (Char.ofNat (0x10000 + (unit - 0xD800) * 0x400 + (second - 0xDC00)), rest)
        else throw .loneSurrogate
    | _ => throw .unfinishedPair

/-- What follows a backslash. -/
def escape : Reader Char
  | [] => .error .unfinishedString
  | '"' :: rest => .ok ('"', rest)
  | '\\' :: rest => .ok ('\\', rest)
  | '/' :: rest => .ok ('/', rest)
  | 'b' :: rest => .ok ('\x08', rest)
  | 'f' :: rest => .ok ('\x0c', rest)
  | 'n' :: rest => .ok ('\n', rest)
  | 'r' :: rest => .ok ('\r', rest)
  | 't' :: rest => .ok ('\t', rest)
  | 'u' :: rest => unicodeEscape rest
  | _ => .error .invalidEscape

/-- The rest of a string after `written`, up to and with its closing quote. -/
def stringBody : List Char → List Char → Reader String
  | [], _, _ => .error .unfinishedString
  | _ :: _, _, [] => .error .unfinishedString
  | _ :: bound, written, c :: rest =>
      if c = '"' then .ok (String.ofList written.reverse, rest)
      else if c = '\\' then
        match escape rest with
        | .error reason => .error reason
        | .ok (decoded, rest) => stringBody bound (decoded :: written) rest
      else if c.toNat < 0x20 then .error .controlCharacter
      else stringBody bound (c :: written) rest

/-- What follows an opening quote. -/
def string : Reader String := fun input => stringBody input [] input

def digitValue (c : Char) : Nat := c.toNat - '0'.toNat

/-- The digits in front, possibly none. -/
def digits (input : List Char) : List Nat × List Char :=
  ((input.takeWhile Char.isDigit).map digitValue, input.dropWhile Char.isDigit)

/-- At least one digit. -/
def someDigits : Reader (List Nat) := fun input =>
  match digits input with
  | ([], []) => .error .unfinishedValue
  | ([], _) => .error .invalidNumber
  | (found, rest) => .ok (found, rest)

/-- The digits before the point; a zero stands alone. -/
def wholeDigits : Reader (List Nat) := fun input => do
  let (found, rest) ← someDigits input
  match found with
  | 0 :: _ :: _ => throw .invalidNumber
  | _ => return (found, rest)

def fraction : Reader (Option (List Nat))
  | '.' :: rest => do
      let (found, rest) ← someDigits rest
      return (some found, rest)
  | input => .ok (none, input)

def natOfDigits (digits : List Nat) : Nat := digits.foldl (fun value digit => value * 10 + digit) 0

def exponent : Reader (Option Int) := fun input =>
  match input with
  | c :: rest =>
      if c = 'e' ∨ c = 'E' then do
        let (negative, rest) :=
          match rest with
          | '-' :: rest => (true, rest)
          | '+' :: rest => (false, rest)
          | _ => (false, rest)
        let (found, rest) ← someDigits rest
        let magnitude : Int := natOfDigits found
        return (some (if negative then -magnitude else magnitude), rest)
      else .ok (none, input)
  | [] => .ok (none, input)

/-- A number after its sign. -/
def number (negative : Bool) : Reader Json := fun input => do
  let (whole, rest) ← wholeDigits input
  let (fraction, rest) ← fraction rest
  let (exponent, rest) ← exponent rest
  match (NumberLiteral.mk negative whole fraction exponent).value? with
  | some value => return (value, rest)
  | none => throw .numberOutOfRange

/-- The remaining letters of a word that stands for `value`. -/
def word {α : Type} (value : α) : List Char → Reader α
  | [], rest => .ok (value, rest)
  | _ :: _, [] => .error .unfinishedValue
  | letter :: letters, c :: rest => if c = letter then word value letters rest else .error .noWord

/-- Items up to the closing bracket, with at least one to come. -/
def items (item : Reader Json) : List Char → List Json → Reader (List Json)
  | [], _, _ => .error .unfinishedList
  | _ :: bound, before, input =>
      match item input with
      | .error reason => .error reason
      | .ok (value, rest) =>
          match skipBlank rest with
          | [] => .error .unfinishedList
          | c :: rest =>
              if c = ']' then .ok ((value :: before).reverse, rest)
              else if c = ',' then
                match skipBlank rest with
                | [] => .error .unfinishedValue
                | c :: rest =>
                    if c = ']' then .error .trailingComma
                    else items item bound (value :: before) (c :: rest)
              else .error .noListSeparator

/-- What follows an opening bracket. -/
def arrayBody (item : Reader Json) : Reader (List Json) := fun input =>
  match skipBlank input with
  | [] => .error .unfinishedList
  | c :: rest =>
      if c = ']' then .ok ([], rest) else items item input [] (c :: rest)

/-- A name after its opening quote, the colon, and the value. -/
def member (item : Reader Json) : Reader (String × Json) := fun input => do
  let (name, rest) ← string input
  match skipBlank rest with
  | [] => throw .unfinishedObject
  | c :: rest =>
      if c = ':' then do
        let (value, rest) ← item rest
        return ((name, value), rest)
      else throw .noColon

/-- Members up to the closing brace, the opening quote of the next one already taken. -/
def members (item : Reader Json) :
    List Char → List (String × Json) → Reader (List (String × Json))
  | [], _, _ => .error .unfinishedObject
  | _ :: bound, before, input =>
      match member item input with
      | .error reason => .error reason
      | .ok (entry, rest) =>
          match skipBlank rest with
          | [] => .error .unfinishedObject
          | c :: rest =>
              if c = '}' then .ok ((entry :: before).reverse, rest)
              else if c = ',' then
                match skipBlank rest with
                | [] => .error .unfinishedValue
                | c :: rest =>
                    if c = '"' then members item bound (entry :: before) rest
                    else if c = '}' then .error .trailingComma
                    else .error .nameNotQuoted
              else .error .noObjectSeparator

/-- What follows an opening brace. -/
def objectBody (item : Reader Json) : Reader (List (String × Json)) := fun input =>
  match skipBlank input with
  | [] => .error .unfinishedObject
  | c :: rest =>
      if c = '}' then .ok ([], rest)
      else if c = '"' then members item input [] rest
      else .error .nameNotQuoted

/-- A value after blanks, with a reader for the values nested in it if there is room. -/
def valueWith (nested : Option (Reader Json)) : Reader Json := fun input =>
  match skipBlank input with
  | [] => .error .unfinishedValue
  | 'n' :: rest => word .null ['u', 'l', 'l'] rest
  | 't' :: rest => word (.boolean true) ['r', 'u', 'e'] rest
  | 'f' :: rest => word (.boolean false) ['a', 'l', 's', 'e'] rest
  | '"' :: rest => (string rest).map fun (text, rest) => (.string text, rest)
  | '-' :: rest => number true rest
  | '[' :: rest =>
      match nested with
      | none => .error .tooDeep
      | some item => (arrayBody item rest).map fun (items, rest) => (.array items, rest)
  | '{' :: rest =>
      match nested with
      | none => .error .tooDeep
      | some item => (objectBody item rest).map fun (members, rest) => (.object members, rest)
  | c :: rest => if c.isDigit then number false (c :: rest) else .error .noValue

/-- A value in which arrays and objects nest at most `room` deep. -/
def value : Nat → Reader Json
  | 0 => valueWith none
  | room + 1 => valueWith (some (value room))

end Reader

def nestingLimit : Nat := 127

/-- Reads a whole text.  Names repeated within an object are kept. -/
def parseRaw (text : String) : Except SyntaxError Json := do
  let (value, rest) ← Reader.value nestingLimit text.toList
  if (Reader.skipBlank rest).isEmpty then return value else throw .trailingCharacters

/-- Reads a whole text; of a repeated name the last value counts. -/
def parse (text : String) : Except SyntaxError Json := do
  let value ← parseRaw text
  return value.collapse

end GraphBinding.Json
