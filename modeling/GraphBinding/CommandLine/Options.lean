namespace GraphBinding

/-! The options of the command line. -/

structure Options where
  document : String
  settings : Option String := none
  output : String := "node_modules/.nexus-prisma"
  /-- Whether to write the schema language as well. -/
  sdl : Bool := false
deriving DecidableEq, Repr

/-- What the arguments ask for. -/
inductive Invocation where
  | generate (options : Options)
  | help
  | misuse
deriving DecidableEq, Repr

namespace Options

/-- Options that take a value. -/
inductive ValueOption where
  | settings
  | output
  | logFilter
deriving DecidableEq, Repr

/-- What was given so far; nothing may be given twice. -/
structure Given where
  document : Option String := none
  settings : Option String := none
  output : Option String := none
  logFilter : Option String := none
  sdl : Bool := false

namespace Given

def addDocument (given : Given) (value : String) : Option Given :=
  if given.document.isSome ∨ value.isEmpty then none
  else some { given with document := some value }

/-- Paths must not be empty. -/
def add (given : Given) (option : ValueOption) (value : String) : Option Given :=
  match option with
  | .settings =>
      if given.settings.isSome ∨ value.isEmpty then none
      else some { given with settings := some value }
  | .output =>
      if given.output.isSome ∨ value.isEmpty then none
      else some { given with output := some value }
  | .logFilter =>
      if given.logFilter.isSome then none else some { given with logFilter := some value }

def addSdl (given : Given) : Option Given :=
  if given.sdl then none else some { given with sdl := true }

def finish (given : Given) : Invocation :=
  match given.document with
  | none => .misuse
  | some document =>
      let defaults : Options := { document }
      .generate { defaults with
        settings := given.settings
        output := given.output.getD defaults.output
        sdl := given.sdl }

end Given

/-- One argument, apart from what follows it. -/
inductive Argument where
  | positional (value : String)
  /-- All arguments after it are positional. -/
  | separator
  | option (option : ValueOption) (attached : Option String)
  | sdl
  | help
  | unknown
deriving DecidableEq, Repr

def longOption (name : List Char) (attached : Option String) : Argument :=
  match String.ofList name with
  | "settings" => .option .settings attached
  | "output" => .option .output attached
  | "log-filter" => .option .logFilter attached
  | "sdl" => if attached.isSome then .unknown else .sdl
  | "help" => if attached.isSome then .unknown else .help
  | _ => .unknown

/-- The value written directly behind a short option, with or without an equals sign. -/
def attachedValue : List Char → Option String
  | [] => none
  | '=' :: value => some (String.ofList value)
  | value => some (String.ofList value)

def shortOption : List Char → Argument
  | 's' :: rest => .option .settings (attachedValue rest)
  | 'o' :: rest => .option .output (attachedValue rest)
  | 'h' :: _ => .help
  | _ => .unknown

def Argument.ofText (text : String) : Argument :=
  match text.toList with
  | ['-', '-'] => .separator
  | '-' :: '-' :: rest =>
      match rest.dropWhile (· ≠ '=') with
      | '=' :: value => longOption (rest.takeWhile (· ≠ '=')) (some (String.ofList value))
      | _ => longOption rest none
  | '-' :: c :: rest => shortOption (c :: rest)
  | _ => .positional text

/-- Reads the arguments from the left; the first that cannot stand where it does decides. -/
def readArguments (given : Given) (onlyPositional : Bool) : List String → Invocation
  | [] => given.finish
  | text :: rest =>
      let continueWith (given? : Option Given) :=
        match given? with
        | some given => readArguments given onlyPositional rest
        | none => .misuse
      match if onlyPositional then .positional text else Argument.ofText text with
      | .positional value => continueWith (given.addDocument value)
      | .separator => readArguments given true rest
      | .sdl => continueWith given.addSdl
      | .help => .help
      | .unknown => .misuse
      | .option option (some value) => continueWith (given.add option value)
      | .option option none =>
          match rest with
          | [] => .misuse
          | value :: rest =>
              match Argument.ofText value with
              | .positional value =>
                  match given.add option value with
                  | some given => readArguments given onlyPositional rest
                  | none => .misuse
              | _ => .misuse

end Options

def Invocation.ofArguments (arguments : List String) : Invocation :=
  Options.readArguments {} false arguments

end GraphBinding
