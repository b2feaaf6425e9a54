import GraphBinding.CommandLine

/-! The program: the command line on real files. -/

namespace GraphBinding.CommandLine

/-- The number by which the system names an error, as far as it matters here. -/
def codeOf : IO.Error → UInt32
  | .noFileOrDirectory _ code _ => code
  | .alreadyExists _ code _ => code
  | .inappropriateType _ code _ => code
  | .invalidArgument _ code _ => code
  | _ => 0

def fileErrorOf (error : IO.Error) : FileError :=
  (FileError.all.find? fun known => known.code = (codeOf error).toNat).getD .notFound

def attempt {α : Type} (action : IO α) : IO (Except FileError α) := do
  match ← action.toBaseIO with
  | .ok value => return .ok value
  | .error reason => return .error (fileErrorOf reason)

/-- In a directory the name `.` is taken; elsewhere there is no such name. -/
def isRealDirectory (path : String) : IO Bool := do
  match ← attempt (IO.FS.createDir (Path.join path ".")) with
  | .error .alreadyExists => return true
  | _ => return false

def realFiles : FileAccess IO where
  read path := attempt (IO.FS.readFile path)
  makeDirectory path := attempt (IO.FS.createDir path)
  isDirectory := isRealDirectory
  write path content := attempt (IO.FS.writeFile path content)

end GraphBinding.CommandLine

open GraphBinding.CommandLine in
def main (arguments : List String) : IO UInt32 := do
  let outcome ← run realFiles arguments
  IO.eprint outcome.message
  return outcome.exitCode.toUInt32
