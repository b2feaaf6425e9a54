namespace GraphBinding.Text

/-! The lines of a text.  A line ends at a line feed, with a carriage return directly
before it; the end of the text ends a last line that is not empty. -/

/-- A line given backwards, with its carriage return taken off. -/
def endedLine : List Char → List Char
  | '\r' :: before => before.reverse
  | line => line.reverse

/-- `current` is the line begun so far, backwards. -/
def linesFrom (current : List Char) : List Char → List (List Char)
  | [] => if current.isEmpty then [] else [current.reverse]
  | c :: rest =>
      if c = '\n' then endedLine current :: linesFrom [] rest
      else linesFrom (c :: current) rest

def lines (text : String) : List String := (linesFrom [] text.toList).map String.ofList

end GraphBinding.Text
