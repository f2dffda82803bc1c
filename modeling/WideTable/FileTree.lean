import WideTable.Bytes

namespace WideTable

inductive FileTree
  | file (content : Bytes)
  | directory (entries : List (String × FileTree))

inductive FileError
  | missing
  | notDirectory
  | isDirectory
  | nameTooLong
  | badName
  | notText
  deriving DecidableEq, Repr

def FileError.reason : FileError → String
  | missing => "No such file or directory (os error 2)"
  | notDirectory => "Not a directory (os error 20)"
  | isDirectory => "Is a directory (os error 21)"
  | nameTooLong => "File name too long (os error 36)"
  | badName => "file name contained an unexpected NUL byte"
  | notText => "stream did not contain valid UTF-8"

namespace FileTree

def empty : FileTree :=
  directory []

def maxName : Nat :=
  255

def maxPath : Nat :=
  4095

-- Goes along names from a place with the given directories above it, the nearest first. Outside of the
-- tree everything is empty.
def walk : (names : List String) → (here : FileTree) → (above : List FileTree) →
    Except FileError FileTree
  | [], here, _ => return here
  | _ :: _, file _, _ => throw .notDirectory
  | name :: names, directory entries, above =>
    if name = "" || name = "." then walk names (directory entries) above
    else if name = ".." then
      match above with
      | [] => walk names empty []
      | parent :: above => walk names parent above
    else if maxName < name.utf8ByteSize then throw .nameTooLong
    else
      match entries.lookup name with
      | none => throw .missing
      | some found => walk names found (directory entries :: above)

def find (t : FileTree) (path : String) : Except FileError FileTree :=
  if path.contains '\x00' then throw .badName
  else if path = "" then throw .missing
  else if maxPath < path.utf8ByteSize then throw .nameTooLong
  else walk (path.splitOn "/") (if path.startsWith "/" then empty else t) []

def read (t : FileTree) (path : String) : Except FileError String := do
  match ← t.find path with
  | directory _ => throw .isDirectory
  | file content =>
    match Bytes.text? content with
    | some text => return text
    | none => throw .notText

def replace (name : String) (t : FileTree) : List (String × FileTree) → List (String × FileTree)
  | [] => [(name, t)]
  | (other, u) :: entries =>
    if other = name then (name, t) :: entries else (other, u) :: replace name t entries

def entries : FileTree → List (String × FileTree)
  | directory es => es
  | file _ => []

-- Directories are added where they are missing.
def change (f : FileTree → FileTree) : List String → FileTree → FileTree
  | [], t => f t
  | name :: names, t =>
    let inner := (t.entries.lookup name).getD empty
    directory (replace name (change f names inner) t.entries)

def makeDirectory (t : FileTree) (names : List String) : FileTree :=
  t.change (fun old => directory old.entries) names

def step (here : List String) (name : String) : List String :=
  if name = "" || name = "." then here
  else if name = ".." then here.dropLast
  else here ++ [name]

def makeWay (t : FileTree) (here : List String) : List String → FileTree × List String
  | [] => (t, here)
  | name :: names => makeWay (t.makeDirectory (step here name)) (step here name) names

def addFile (t : FileTree) (path : String) (content : Bytes) : FileTree :=
  let names := path.splitOn "/"
  let (t, here) := t.makeWay [] names.dropLast
  t.change (fun _ => file content) (step here (names.getLast?.getD ""))

def addDirectory (t : FileTree) (path : String) : FileTree :=
  (t.makeWay [] (path.splitOn "/")).1

end FileTree
end WideTable
