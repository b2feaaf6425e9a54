import GraphBinding.Json

namespace GraphBinding

/-! The data client that resolvers delegate to. -/

inductive Method where
  | findUnique
  | findMany
  | count
deriving DecidableEq, Repr

def Method.name : Method → String
  | .findUnique => "findUnique"
  | .findMany => "findMany"
  | .count => "count"

/-- One operation on a model, with native argument names. -/
structure Request where
  model : String
  method : Method
  arguments : Json

/-- What a resolver asks of the client at a time. -/
inductive Call where
  | execute (request : Request)
  /-- All operations at once; their results come in the same order. -/
  | transaction (requests : List Request)

/-- A client answers depending on the calls it received before, oldest first, so that any
state of its own is covered.  It may refuse with a text. -/
structure DataClient where
  identity : String
  offers : String → Method → Bool
  execute : List Call → Request → Except String Json
  transact : List Call → List Request → Except String (List Json)

/-- The named slots of a request's context. -/
abbrev Context := Table DataClient

end GraphBinding
