import GraphBinding.Json
import GraphBinding.Binary64.Shortest

namespace GraphBinding.Json

/-! Numbers as texts.

A number without fraction and exponent that fits 64 bits is an integer.  Of any other
number as many digits count as fit an unsigned word; the word is rounded to binary64
and then scaled by its power of ten, which rounds once more.
-/

/-- The parts of a number as written, digits from the left. -/
structure NumberLiteral where
  negative : Bool
  whole : List Nat
  fraction : Option (List Nat)
  exponent : Option Int
deriving DecidableEq, Repr

namespace NumberLiteral

def wordBound : Nat := Nat.pow 2 64

/-- Appends digits to a word as long as they fit, and says how many did not. -/
def appendDigits : Nat → List Nat → Nat × Nat
  | word, [] => (word, 0)
  | word, digit :: rest =>
      if word * 10 + digit < wordBound then appendDigits (word * 10 + digit) rest
      else (word, rest.length + 1)

/-- The word made of the leading digits, and the power of ten it stands for. -/
def leadingWord (literal : NumberLiteral) : Nat × Int :=
  let (word, dropped) := appendDigits 0 literal.whole
  match literal.fraction with
  | none => (word, dropped)
  | some digits =>
      let (word, droppedAfter) := appendDigits word digits
      (word, dropped - (digits.length - droppedAfter : Nat))

def real? (literal : NumberLiteral) : Option Binary64 :=
  let (word, power) := literal.leadingWord
  ((Binary64.ofNat? word).bind (·.scaleByTen? (power + literal.exponent.getD 0))).map
    (·.withSign literal.negative)

/-- There is no number whose magnitude exceeds binary64.  Zero with a sign is a real. -/
def value? (literal : NumberLiteral) : Option Json :=
  let integer? : Option Int :=
    if literal.fraction.isSome || literal.exponent.isSome then none
    else
      let (word, dropped) := appendDigits 0 literal.whole
      if 0 < dropped then none
      else if ¬ literal.negative then some word
      else if 0 < word ∧ word ≤ Nat.pow 2 63 then some (-(word : Int))
      else none
  match integer? with
  | some value => some (.integer value)
  | none => literal.real?.map .real

end NumberLiteral

/-- The fewest digits that read back.  The point is written in place if the first digit
stands for a power of ten from `-5` to `15`, and a whole number gets the fraction `0`;
otherwise one digit stands before the point and a signed exponent follows. -/
def realChars (x : Binary64) : List Char :=
  let decimal := x.shortest
  let digits := Nat.toDigits 10 decimal.digits
  let leading : Int := digits.length + decimal.power - 1
  let sign := if x.negative then ['-'] else []
  let zeros (count : Int) := List.replicate count.toNat '0'
  let unsigned :=
    if 0 ≤ decimal.power ∧ leading ≤ 15 then digits ++ zeros decimal.power ++ ['.', '0']
    else if 0 ≤ leading ∧ leading ≤ 15 then
      digits.take (leading + 1).toNat ++ '.' :: digits.drop (leading + 1).toNat
    else if -5 ≤ leading ∧ leading < 0 then '0' :: '.' :: zeros (-leading - 1) ++ digits
    else
      let exponent := (if leading < 0 then ['-'] else ['+']) ++ Nat.toDigits 10 leading.natAbs
      let fraction := if digits.length = 1 then [] else '.' :: digits.drop 1
      digits.take 1 ++ fraction ++ 'e' :: exponent
  sign ++ unsigned

def integerChars (value : Int) : List Char :=
  (if value < 0 then ['-'] else []) ++ Nat.toDigits 10 value.natAbs

end GraphBinding.Json
