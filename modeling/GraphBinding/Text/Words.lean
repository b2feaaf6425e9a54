import GraphBinding.Text.LetterCase

namespace GraphBinding.Text

/-! Names as sequences of words, and the two camel cases made of them.

Characters that are neither letters nor numbers separate pieces.  Within a piece a word
ends where a lowercase letter meets an uppercase one (`userId`), and before the last
letter of an uppercase run that a lowercase letter follows (`HTTPServer`).
-/

def pieces : List Char → List (List Char)
  | [] => [[]]
  | c :: rest =>
      if isAlphanumeric c then
        match pieces rest with
        | [] => [[c]]
        | first :: others => (c :: first) :: others
      else [] :: pieces rest

/-- The case of the last letter that has one, since the word began. -/
inductive LetterRun where
  | none
  | lower
  | upper
deriving DecidableEq

def LetterRun.extend (run : LetterRun) (c : Char) : LetterRun :=
  if isLower c then .lower else if isUpper c then .upper else run

/-- The words of a piece; `current` is the word begun so far, backwards. -/
def pieceWordsFrom (run : LetterRun) (current : List Char) : List Char → List (List Char)
  | [] => []
  | [c] => [(c :: current).reverse]
  | c :: next :: rest =>
      if run.extend c = .lower ∧ isUpper next then
        (c :: current).reverse :: pieceWordsFrom .none [] (next :: rest)
      else if run = .upper ∧ isUpper c ∧ isLower next then
        current.reverse :: pieceWordsFrom .none [c] (next :: rest)
      else pieceWordsFrom (run.extend c) (c :: current) (next :: rest)

def words (name : List Char) : List (List Char) :=
  (pieces name).flatMap (pieceWordsFrom .none [])

/-- A word in lowercase; a sigma that ends it takes its final form. -/
def lowerWord : List Char → List Char
  | [] => []
  | [c] => if c = 'Σ' then ['ς'] else toLower c
  | c :: rest => toLower c ++ lowerWord rest

def capitalWord : List Char → List Char
  | [] => []
  | c :: rest => toUpper c ++ lowerWord rest

/-- `user HTTPServer_id` becomes `userHttpServerId`. -/
def lowerCamel (name : String) : String :=
  match words name.toList with
  | [] => ""
  | first :: others => String.ofList (lowerWord first ++ others.flatMap capitalWord)

/-- `user_id` becomes `UserId`. -/
def upperCamel (name : String) : String :=
  String.ofList ((words name.toList).flatMap capitalWord)

end GraphBinding.Text
