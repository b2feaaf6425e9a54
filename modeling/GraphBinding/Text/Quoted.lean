import GraphBinding.Text.LetterCase
import GraphBinding.Text.PrintableTable

namespace GraphBinding.Text

/-! Texts quoted for diagnostics: what cannot be seen is escaped. -/

def isPrintable (c : Char) : Bool := !inRanges unprintableRanges c

def joinsPrevious (c : Char) : Bool := inRanges graphemeExtendRanges c

def codePointEscape (c : Char) : List Char :=
  ['\\', 'u', '{'] ++ Nat.toDigits 16 c.toNat ++ ['}']

/-- Marks that would join the quote or the character before them are escaped as well. -/
def quotedChar (c : Char) : List Char :=
  if c = '\x00' then ['\\', '0']
  else if c = '\t' then ['\\', 't']
  else if c = '\n' then ['\\', 'n']
  else if c = '\r' then ['\\', 'r']
  else if c = '"' then ['\\', '"']
  else if c = '\\' then ['\\', '\\']
  else if joinsPrevious c || !isPrintable c then codePointEscape c
  else [c]

def quoted (text : String) : String :=
  String.ofList ('"' :: text.toList.flatMap quotedChar ++ ['"'])

end GraphBinding.Text
