import GraphBinding.Table

namespace GraphBinding

/-! Files and directories, and what can go wrong with them. -/

inductive FileError where
  | notFound
  | alreadyExists
  | notADirectory
  | isADirectory
  | nameTooLong
deriving DecidableEq, Repr

namespace FileError

def all : List FileError := [.notFound, .alreadyExists, .notADirectory, .isADirectory, .nameTooLong]

def code : FileError → Nat
  | .notFound => 2
  | .alreadyExists => 17
  | .notADirectory => 20
  | .isADirectory => 21
  | .nameTooLong => 36

def kind : FileError → String
  | .notFound => "NotFound"
  | .alreadyExists => "AlreadyExists"
  | .notADirectory => "NotADirectory"
  | .isADirectory => "IsADirectory"
  | .nameTooLong => "InvalidFilename"

def text : FileError → String
  | .notFound => "No such file or directory"
  | .alreadyExists => "File exists"
  | .notADirectory => "Not a directory"
  | .isADirectory => "Is a directory"
  | .nameTooLong => "File name too long"

def message (error : FileError) : String :=
  error.text ++ " (os error " ++ toString error.code ++ ")"

/-- The error as a record. -/
def report (error : FileError) : String :=
  "Os \x7b code: " ++ toString error.code ++ ", kind: " ++ error.kind ++ ", message: \"" ++
    error.text ++ "\" \x7d"

end FileError

/-- A path by its names, from left to right. -/
structure Path where
  /-- Whether it starts at the root. -/
  absolute : Bool
  names : List String
  /-- Whether it ends in a slash, which only a directory may. -/
  slash : Bool
  /-- The bytes of its text. -/
  size : Nat
deriving DecidableEq, Repr

namespace Path

def ofText (text : String) : Path where
  absolute := text.startsWith "/"
  names := (text.splitOn "/").filter (· ≠ "")
  slash := text.endsWith "/"
  size := text.utf8ByteSize

/-- The longest path, which is one byte less than what holds it and its end mark. -/
def sizeLimit : Nat := 4095

def nameLimit : Nat := 255

/-- A name in a directory. -/
def join (directory name : String) : String :=
  if directory.endsWith "/" then directory ++ name else directory ++ "/" ++ name

/-- The names without those that stay where they are, except at the start. -/
def essentialNames (path : Path) : List String :=
  match path.absolute, path.names with
  | false, "." :: rest => "." :: rest.filter (· ≠ ".")
  | _, names => names.filter (· ≠ ".")

/-- The paths of the directories above, from the inside out. -/
def above (text : String) : List String :=
  let path := ofText text
  let start := if path.absolute then "/" else ""
  ((List.range path.essentialNames.length).drop 1).reverse.map fun count =>
    start ++ "/".intercalate (path.essentialNames.take count)

end Path

/-- The file operations of a program. -/
structure FileAccess (m : Type → Type) where
  read : String → m (Except FileError String)
  /-- Makes one directory. -/
  makeDirectory : String → m (Except FileError Unit)
  isDirectory : String → m Bool
  write : String → String → m (Except FileError Unit)

namespace FileAccess

variable {m : Type → Type} [Monad m]

/-- Makes the first of some directories, each of which lies in the next one.  A directory
that is there already is as good as a new one. -/
def makeAlong (access : FileAccess m) : List String → m (Except FileError Unit)
  | [] => return .ok ()
  | path :: above => do
      let unlessThere (reason : FileError) : m (Except FileError Unit) := do
        if ← access.isDirectory path then return .ok () else return .error reason
      match ← access.makeDirectory path with
      | .ok () => return .ok ()
      | .error .notFound =>
          match ← access.makeAlong above with
          | .error reason => return .error reason
          | .ok () =>
              match ← access.makeDirectory path with
              | .ok () => return .ok ()
              | .error reason => unlessThere reason
      | .error reason => unlessThere reason

/-- Makes a directory and those above it. -/
def createDirectories (access : FileAccess m) (path : String) : m (Except FileError Unit) :=
  access.makeAlong (path :: Path.above path)

end FileAccess

/-- A file, or a directory with its entries by name. -/
inductive FileNode where
  | file (content : String)
  | directory (entries : List (String × FileNode))

namespace FileNode

def isDirectory : FileNode → Bool
  | .file _ => false
  | .directory _ => true

/-- Puts a node at a place below this one; directories on the way are made. -/
def put (node : FileNode) : List String → FileNode → FileNode
  | [], new => new
  | name :: rest, new =>
      let entries := match node with
        | .directory entries => entries
        | .file _ => []
      .directory (Entries.insert entries name
        (((Entries.find? entries name).getD (.directory [])).put rest new))

end FileNode

/-- A node with the directories around it, from the inside out, and its name in each. -/
structure Place where
  node : FileNode
  around : List (String × FileNode)

namespace Place

/-- The names that lead to the place from the root. -/
def names (place : Place) : List String := (Entries.keys place.around).reverse

/-- The directory around; the root lies in itself. -/
def parent (place : Place) : Place :=
  match place.around with
  | [] => place
  | (_, directory) :: around => ⟨directory, around⟩

/-- The entry of a directory, if there is one. -/
def entry? (place : Place) (name : String) : Except FileError (Option FileNode) :=
  match place.node with
  | .file _ => .error .notADirectory
  | .directory entries =>
      if Path.nameLimit < name.utf8ByteSize then .error .nameTooLong
      else .ok (Entries.find? entries name)

/-- Follows one name of a path. -/
def enter (place : Place) (name : String) : Except FileError Place :=
  if place.node.isDirectory ∧ name = "." then .ok place
  else if place.node.isDirectory ∧ name = ".." then .ok place.parent
  else
    match place.entry? name with
    | .error reason => .error reason
    | .ok none => .error .notFound
    | .ok (some node) => .ok ⟨node, (name, place.node) :: place.around⟩

def follow (place : Place) : List String → Except FileError Place
  | [] => .ok place
  | name :: rest =>
      match place.enter name with
      | .error reason => .error reason
      | .ok next => next.follow rest

end Place

/-- All files and directories, and the names that lead from the root to the directory in
which paths start. -/
structure FileTree where
  root : FileNode
  current : List String

namespace FileTree

/-- A tree with files by path; those with relative paths lie in the current directory. -/
def ofFiles (current : List String) (files : List (String × String)) : FileTree where
  root :=
    files.foldl (fun root (text, content) =>
        let path := Path.ofText text
        root.put ((if path.absolute then [] else current) ++ path.names.filter (· ≠ "."))
          (.file content))
      ((FileNode.directory []).put current (.directory []))
  current := current

/-- Where a path starts. -/
def start (tree : FileTree) (path : Path) : Except FileError Place :=
  if Path.sizeLimit < path.size then .error .nameTooLong
  else if path.size = 0 then .error .notFound
  else
    let root : Place := ⟨tree.root, []⟩
    if path.absolute then .ok root else root.follow tree.current

def place (tree : FileTree) (text : String) : Except FileError Place := do
  let path := Path.ofText text
  let found ← (← tree.start path).follow path.names
  if path.slash ∧ ¬ found.node.isDirectory then throw .notADirectory
  return found

def read (tree : FileTree) (text : String) : Except FileError String := do
  match (← tree.place text).node with
  | .file content => return content
  | .directory _ => throw .isADirectory

def isDirectory (tree : FileTree) (text : String) : Bool :=
  match tree.place text with
  | .ok found => found.node.isDirectory
  | .error _ => false

/-- The directory in which the last name of a path stands, that name, and what has it.
There is none where a path ends in no name of its own. -/
def lastName (tree : FileTree) (path : Path) :
    Except FileError (Option (Place × String × Option FileNode)) := do
  let directory ← (← tree.start path).follow path.names.dropLast
  match path.names.getLast? with
  | none => return none
  | some name =>
      if directory.node.isDirectory ∧ (name = "." ∨ name = "..") then return none
      else return some (directory, name, ← directory.entry? name)

def makeDirectory (tree : FileTree) (text : String) : Except FileError FileTree := do
  match ← tree.lastName (Path.ofText text) with
  | some (directory, name, none) =>
      return { tree with root := tree.root.put (directory.names ++ [name]) (.directory []) }
  | _ => throw .alreadyExists

def write (tree : FileTree) (text content : String) : Except FileError FileTree := do
  let path := Path.ofText text
  match ← tree.lastName path with
  | none | some (_, _, some (.directory _)) => throw .isADirectory
  | some (directory, name, _) =>
      if path.slash then throw .isADirectory
      else return { tree with root := tree.root.put (directory.names ++ [name]) (.file content) }

/-- A step that changes the tree unless it fails. -/
def step (change : FileTree → Except FileError FileTree) :
    StateM FileTree (Except FileError Unit) :=
  modifyGet fun tree =>
    match change tree with
    | .ok changed => (.ok (), changed)
    | .error reason => (.error reason, tree)

def access : FileAccess (StateM FileTree) where
  read path := modifyGet fun tree => (tree.read path, tree)
  makeDirectory path := step (·.makeDirectory path)
  isDirectory path := modifyGet fun tree => (tree.isDirectory path, tree)
  write path content := step (·.write path content)

end FileTree

end GraphBinding
