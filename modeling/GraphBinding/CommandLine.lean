import GraphBinding.CommandLine.Options
import GraphBinding.FileTree
import GraphBinding.Module
import GraphBinding.Reading

namespace GraphBinding

/-! The command line: reads a document and settings, and writes the modules. -/

namespace GenerationError

def structText (name : String) (fields : List (String × String)) : String :=
  let shown := fields.map fun (key, value) => key ++ ": " ++ Text.quoted value
  name ++ " \x7b " ++ ", ".intercalate shown ++ " \x7d"

/-- The error as a record. -/
def report (error : GenerationError) : String :=
  match error with
  | .unread _ => "Parse(" ++ Text.quoted error.detail ++ ")"
  | .noIdentifier model => structText "UniqueIdentifierNotFound" [("model", model)]
  | .unsupportedScalar model field scalar =>
      structText "UnsupportedScalar" [("model", model), ("field", field), ("scalar", scalar)]
  | .unknownInputType inputType => "UnknownInputType(" ++ Text.quoted inputType ++ ")"
  | .unknownInputField inputType field =>
      structText "UnknownInputField" [("input", inputType), ("field", field)]
  | .identifierNotAField .. | .accessorTaken .. | .aliasTaken .. =>
      "CodeGenError(" ++ Text.quoted error.detail ++ ")"

end GenerationError

namespace CommandLine

def sdlFileName : String := "schema.graphql"

inductive Failure where
  | generation (reason : GenerationError)
  | file (reason : FileError)
deriving DecidableEq

def Failure.report : Failure → String
  | .generation reason => reason.report
  | .file reason => reason.report

/-- How a run ends: its exit code and what it says on standard error. -/
structure Outcome where
  exitCode : Nat
  message : String
deriving DecidableEq

abbrev Run (m : Type → Type) (α : Type) := ExceptT Failure m α

variable {m : Type → Type} [Monad m]

def readText (access : FileAccess m) (path : String) : Run m String := do
  match ← access.read path with
  | .ok text => return text
  | .error reason => throw (.generation (.unread (.unreadable path reason.message)))

def fileStep (step : m (Except FileError Unit)) : Run m Unit := do
  match ← step with
  | .ok () => return ()
  | .error reason => throw (.file reason)

def orFail {α : Type} (result : Except ReadError α) : Run m α :=
  ofExcept (result.mapError fun reason => .generation (.unread reason))

def readSettings (access : FileAccess m) : Option String → Run m Settings
  | none => return {}
  | some path => do
      let text ← readText access path
      orFail (Settings.ofText text)

/-- Everything is generated before the first file is written. -/
def generate (access : FileAccess m) (options : Options) : Run m String := do
  let text ← readText access options.document
  let document ← orFail (Document.ofText text)
  let settings ← readSettings access options.settings
  let schema ← ofExcept ((Schema.generate document settings).mapError .generation)
  fileStep (access.createDirectories options.output)
  let files := schema.files
  files.forM fun file => fileStep (access.write (Path.join options.output file.name) file.content)
  if options.sdl then
    fileStep (access.write (Path.join options.output sdlFileName) schema.sdl)
  return "Generated " ++ toString files.length ++ " modules for " ++
    toString document.models.length ++ " models in " ++ options.output ++ "\n"

def usage : String :=
  "Usage: nexus-prisma-gen [OPTIONS] <DMMF>\n\n" ++
    "Options:\n" ++
    "  -s, --settings <SETTINGS>      Settings JSON file\n" ++
    "  -o, --output <OUTPUT>          Output directory [default: node_modules/.nexus-prisma]\n" ++
    "      --sdl                      Also write the generated type graph as GraphQL SDL\n" ++
    "      --log-filter <LOG_FILTER>  Log filter\n" ++
    "  -h, --help                     Print help\n"

def run (access : FileAccess m) (arguments : List String) : m Outcome := do
  match Invocation.ofArguments arguments with
  | .misuse => return ⟨2, usage⟩
  | .help => return ⟨0, ""⟩
  | .generate options =>
      match ← (generate access options).run with
      | .ok message => return ⟨0, message⟩
      | .error failure => return ⟨1, "Error: " ++ failure.report ++ "\n"⟩

end CommandLine

end GraphBinding
