import GraphBinding.Text.AlphanumericTable
import GraphBinding.Text.CaseTable

namespace GraphBinding.Text

/-! Character classes and case mappings of single characters, for all of Unicode. -/

def inRanges (ranges : List (Nat × Nat)) (c : Char) : Bool :=
  ranges.any fun (first, last) => first ≤ c.toNat && c.toNat ≤ last

/-- Whether a code point is one of those that the run names. -/
def onRun (first last step : Nat) (c : Char) : Bool :=
  first ≤ c.toNat && c.toNat ≤ last && (c.toNat - first) % step == 0

def inRuns (runs : List (Nat × Nat × Nat)) (c : Char) : Bool :=
  runs.any fun (first, last, step) => onRun first last step c

def isAlphanumeric (c : Char) : Bool := inRanges alphanumericRanges c

def isLower (c : Char) : Bool := inRuns lowercaseRuns c

def isUpper (c : Char) : Bool := inRuns uppercaseRuns c

/-- The form of a character by a table of runs and one of sequences; a character in
neither is its own form. -/
def caseForm (runs : List (Nat × Nat × Nat × Nat)) (sequences : List (Nat × List Nat))
    (c : Char) : List Char :=
  match sequences.lookup c.toNat with
  | some form => form.map Char.ofNat
  | none =>
      match runs.find? fun (first, last, step, _) => onRun first last step c with
      | some (first, _, _, image) => [Char.ofNat (image + (c.toNat - first))]
      | none => [c]

def toLower (c : Char) : List Char := caseForm toLowerRuns toLowerSequences c

def toUpper (c : Char) : List Char := caseForm toUpperRuns toUpperSequences c

end GraphBinding.Text
