import PoolRouting.Text.Split

/-!
A directory as a value, and what comes of opening a path in it. A path is followed part by part, and
the first part that leads nowhere decides the error.
-/

namespace PoolRouting.CommandLine

/-- Why a path gives no text. -/
inductive FileError where
  | missing
  | notDirectory
  | isDirectory
  | nameTooLong
  | nulInName
  | notText
  | other (reason : String)
  deriving DecidableEq

def FileError.message : FileError → String
  | .missing => "No such file or directory (os error 2)"
  | .notDirectory => "Not a directory (os error 20)"
  | .isDirectory => "Is a directory (os error 21)"
  | .nameTooLong => "File name too long (os error 36)"
  | .nulInName => "file name contained an unexpected NUL byte"
  | .notText => "stream did not contain valid UTF-8"
  | .other reason => reason

/-- Files by the names that lead to them, with their contents. -/
structure Directory where
  files : List (List String × String)

/-- Where a path has led so far. Of what lies outside the directory nothing is found. -/
inductive Place where
  | folder (names : List String)
  | file (content : String)
  | outside

namespace Directory

def parts (path : String) : List String := (Text.split '/' path.toList).map String.ofList

/-- An empty part and a lone dot stay where they are. -/
def staysPut (part : String) : Bool := part = "" || part = "."

def ofList (files : List (String × String)) : Directory :=
  ⟨files.map fun (path, content) => ((parts path).filter fun part => !staysPut part, content)⟩

/-- Bytes that a name and a path may have. -/
def nameLimit : Nat := 255

def pathLimit : Nat := 4095

def follow (directory : Directory) (names : List String) : Except FileError Place :=
  match directory.files.lookup names with
  | some content => .ok (.file content)
  | none =>
    if directory.files.any fun file => names.isPrefixOf file.1 then .ok (.folder names)
    else .error .missing

-- Nothing comes behind a file, not even an empty part.
/-- Where one more part leads. -/
def step (directory : Directory) (place : Place) (part : String) : Except FileError Place :=
  match place with
  | .file _ => .error .notDirectory
  | .folder names =>
    if staysPut part then .ok place
    else if part = ".." then .ok (if names.isEmpty then .outside else .folder names.dropLast)
    else if nameLimit < part.utf8ByteSize then .error .nameTooLong
    else directory.follow (names ++ [part])
  | .outside =>
    if staysPut part || part = ".." then .ok place
    else if nameLimit < part.utf8ByteSize then .error .nameTooLong
    else .error .missing

/-- The place that a path leads to. -/
def find (directory : Directory) (path : String) : Except FileError Place :=
  if path.toList.contains '\x00' then .error .nulInName
  else if pathLimit < path.utf8ByteSize then .error .nameTooLong
  else
    let start := if path.toList.head? = some '/' then Place.outside else .folder []
    (parts path).foldlM directory.step start

/-- The text of the file at a path. -/
def read (directory : Directory) (path : String) : Except FileError String :=
  (directory.find path).bind fun
    | .file content => .ok content
    | _ => .error .isDirectory

end Directory
end PoolRouting.CommandLine
