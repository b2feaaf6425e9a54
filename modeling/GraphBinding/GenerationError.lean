import GraphBinding.Decoder.Error

namespace GraphBinding

/-! Why nothing could be generated. -/

inductive GenerationError where
  | unread (reason : ReadError)
  | noIdentifier (model : String)
  | unsupportedScalar (model field scalar : String)
  | identifierNotAField (model identifier : String)
  /-- A root query field of `model` has the name of one that `owner` already has. -/
  | accessorTaken (accessor model owner : String)
  | aliasTaken (inputType field exposed : String)
  | unknownInputType (inputType : String)
  | unknownInputField (inputType field : String)
deriving DecidableEq, Repr

namespace GenerationError

/-- What went wrong, without the class of the error. -/
def detail : GenerationError → String
  | .unread reason => reason.message
  | .noIdentifier model =>
      "unable to resolve a unique identifier for model `" ++ model ++
        "`: it has no @id field, no compound primary key, no @unique field " ++
        "and no compound unique group"
  | .unsupportedScalar model field scalar =>
      "unsupported scalar type `" ++ scalar ++ "` on field `" ++ model ++ "." ++ field ++ "`"
  | .identifierNotAField model identifier =>
      "unique identifier `" ++ identifier ++ "` of model `" ++ model ++
        "` is not a field of the model"
  | .accessorTaken accessor model owner =>
      "query accessor `" ++ accessor ++ "` of model `" ++ model ++
        "` collides with the accessor of model `" ++ owner ++ "`"
  | .aliasTaken inputType field exposed =>
      "cannot alias `" ++ inputType ++ "." ++ field ++ "` as `" ++ exposed ++
        "`: the name is already taken"
  | .unknownInputType inputType => "unknown input type `" ++ inputType ++ "`"
  | .unknownInputField inputType field =>
      "input type `" ++ inputType ++ "` has no field `" ++ field ++ "`"

def message (error : GenerationError) : String :=
  match error with
  | .unread _ => "parse error: " ++ error.detail
  | .identifierNotAField .. | .accessorTaken .. | .aliasTaken .. =>
      "code generation error: " ++ error.detail
  | _ => error.detail

end GenerationError

end GraphBinding
