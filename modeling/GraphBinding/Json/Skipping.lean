import GraphBinding.Json.Parser

namespace GraphBinding.Json.Reader

/-! Passing over a value that nobody asked for.

Only the form is looked at: an escape may stand for half of a surrogate pair, a number may
have any magnitude, and arrays and objects may nest without bound.  The arrays and objects
that are still open are kept in a list, from the inside out.
-/

/-- What follows a backslash. -/
def skipEscape : Reader Unit
  | [] => .error .unfinishedString
  | 'u' :: rest => (hexUnit rest).map fun (_, rest) => ((), rest)
  | c :: rest =>
      if c ∈ ['"', '\\', '/', 'b', 'f', 'n', 'r', 't'] then .ok ((), rest)
      else .error .invalidEscape

/-- What follows an opening quote, up to and with the closing one. -/
def skipStringBody : List Char → Reader Unit
  | [], _ => .error .unfinishedString
  | _ :: _, [] => .error .unfinishedString
  | _ :: bound, c :: rest =>
      if c = '"' then .ok ((), rest)
      else if c = '\\' then
        match skipEscape rest with
        | .error reason => .error reason
        | .ok ((), rest) => skipStringBody bound rest
      else if c.toNat < 0x20 then .error .controlCharacter
      else skipStringBody bound rest

def skipString : Reader Unit := fun input => skipStringBody input input

/-- At least one digit; nothing else about a number can be wrong. -/
def skipDigits : Reader Unit
  | [] => .error .invalidNumber
  | c :: rest => if c.isDigit then .ok ((), rest.dropWhile Char.isDigit) else .error .invalidNumber

def skipExponent : Reader Unit
  | [] => .ok ((), [])
  | c :: rest =>
      if c = 'e' ∨ c = 'E' then
        match rest with
        | '-' :: rest => skipDigits rest
        | '+' :: rest => skipDigits rest
        | _ => skipDigits rest
      else .ok ((), c :: rest)

def skipFraction : Reader Unit
  | '.' :: rest => skipDigits rest
  | input => .ok ((), input)

/-- A number after its sign; a zero in front stands alone. -/
def skipNumber : Reader Unit := fun input => do
  let ((), rest) ←
    match input with
    | '0' :: c :: rest => if c.isDigit then throw .invalidNumber else pure ((), c :: rest)
    | _ => skipDigits input
  let ((), rest) ← skipFraction rest
  skipExponent rest

inductive Enclosure where
  | array
  | object
deriving DecidableEq, Repr

namespace Enclosure

def closing : Enclosure → Char
  | .array => ']'
  | .object => '}'

def unfinished : Enclosure → SyntaxError
  | .array => .unfinishedList
  | .object => .unfinishedObject

def noSeparator : Enclosure → SyntaxError
  | .array => .noListSeparator
  | .object => .noObjectSeparator

/-- What stands before a value inside: nothing, or a name with its colon. -/
def skipName : Enclosure → Reader Unit
  | .array, input => .ok ((), input)
  | .object, input =>
      match skipBlank input with
      | [] => .error .unfinishedObject
      | c :: rest =>
          if c = '"' then do
            let ((), rest) ← skipString rest
            match skipBlank rest with
            | [] => throw .unfinishedObject
            | c :: rest => if c = ':' then pure ((), rest) else throw .noColon
          else .error .nameNotQuoted

end Enclosure

/-- Closes what ends after a value, up to the beginning of the next value; answers with
what is open there, which is nothing after the last value. -/
def skipClosings : List Enclosure → Reader (List Enclosure)
  | [], input => .ok ([], input)
  | inner :: outer, input =>
      match skipBlank input with
      | [] => .error inner.unfinished
      | c :: rest =>
          if c = inner.closing then skipClosings outer rest
          else if c = ',' then (inner.skipName rest).map fun ((), rest) => (inner :: outer, rest)
          else .error inner.noSeparator

/-- The beginning of an array or object after its opening bracket; an empty one closes. -/
def skipOpening (inner : Enclosure) (outer : List Enclosure) : Reader (List Enclosure) :=
  fun input =>
    match skipBlank input with
    | [] => .error inner.unfinished
    | c :: rest =>
        if c = inner.closing then skipClosings outer rest
        else (inner.skipName (c :: rest)).map fun ((), rest) => (inner :: outer, rest)

/-- A value without nested values, after which others may close. -/
def skipScalar (enclosing : List Enclosure) : Reader (List Enclosure) := fun input => do
  let ((), rest) ←
    match input with
    | [] => throw .unfinishedValue
    | 'n' :: rest => word () ['u', 'l', 'l'] rest
    | 't' :: rest => word () ['r', 'u', 'e'] rest
    | 'f' :: rest => word () ['a', 'l', 's', 'e'] rest
    | '"' :: rest => skipString rest
    | '-' :: rest => skipNumber rest
    | c :: rest => if c.isDigit then skipNumber (c :: rest) else throw .noValue
  skipClosings enclosing rest

/-- The beginning of a value within others, up to the beginning of the next value. -/
def skipStep (enclosing : List Enclosure) : Reader (List Enclosure) := fun input =>
  match skipBlank input with
  | '[' :: rest => skipOpening .array enclosing rest
  | '{' :: rest => skipOpening .object enclosing rest
  | input => skipScalar enclosing input

/-- Every step takes something off the input. -/
def skipSteps : List Char → List Enclosure → Reader Unit
  | [], _, _ => .error .unfinishedValue
  | _ :: bound, enclosing, input =>
      match skipStep enclosing input with
      | .error reason => .error reason
      | .ok ([], rest) => .ok ((), rest)
      | .ok (enclosing, rest) => skipSteps bound enclosing rest

/-- Passes over one value. -/
def skipValue : Reader Unit := fun input => skipSteps input [] input

end GraphBinding.Json.Reader
