import GraphBinding.Client
import GraphBinding.Json.Number

namespace GraphBinding

/-! Why a field could not be resolved. -/

/-- What the client check found. -/
inductive CheckProblem where
  | identity (slot reported expected : String)
  | incomplete (slot model : String)
  | both (slot reported expected model : String)
deriving DecidableEq, Repr

namespace CheckProblem

def identityText (slot reported expected : String) : String :=
  "the client on context field `" ++ slot ++ "` reports identity `" ++ reported ++
    "`, expected `" ++ expected ++ "`"

def incompleteText (slot model : String) : String :=
  "the client on context field `" ++ slot ++ "` has no `findMany` for model `" ++ model ++ "`"

def message : CheckProblem → String
  | .identity slot reported expected => identityText slot reported expected
  | .incomplete slot model => incompleteText slot model
  | .both slot reported expected model =>
      identityText slot reported expected ++ " and " ++ incompleteText slot model

end CheckProblem

inductive PagingArgument where
  | take
  | skip
deriving DecidableEq, Repr

def PagingArgument.name : PagingArgument → String
  | .take => "take"
  | .skip => "skip"

inductive ResolveError where
  | missingClient (slot : String)
  | missingMethod (model : String) (method : Method)
  | missingIdentifier (model field : String)
  | unknownModel (model : String)
  | unknownField (parent field : String)
  | negativeArgument (parent field : String) (argument : PagingArgument) (value : Int64)
  | clientCheck (problem : CheckProblem)
  /-- The client refused. -/
  | refused (text : String)
  /-- The client's record does not tell how many related records there are. -/
  | noRelationCount (model field : String)
  | noCount (model : String)
deriving DecidableEq

namespace ResolveError

def message : ResolveError → String
  | .missingClient slot => "no data client found on the context under `" ++ slot ++ "`"
  | .missingMethod model method =>
      "the data client has no `" ++ method.name ++ "` method for model `" ++ model ++ "`"
  | .missingIdentifier model field =>
      "parent record of model `" ++ model ++ "` is missing unique identifier field `" ++ field ++
        "`"
  | .unknownModel model => "unknown model `" ++ model ++ "`"
  | .unknownField parent field => "unknown field `" ++ parent ++ "." ++ field ++ "`"
  | .negativeArgument parent field argument value =>
      "argument `" ++ argument.name ++ "` of `" ++ parent ++ "." ++ field ++
        "` must not be negative, got " ++ String.ofList (Json.integerChars value.toInt)
  | .clientCheck problem => "client check failed: " ++ problem.message
  | .refused text => "data client error: " ++ text
  | .noRelationCount model field =>
      "data client error: `findUnique` on `" ++ model ++ "` did not return `_count." ++ field ++ "`"
  | .noCount model => "data client error: `count` on `" ++ model ++ "` did not return a number"

end ResolveError

end GraphBinding
