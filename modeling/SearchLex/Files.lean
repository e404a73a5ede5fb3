import SearchLex.Text.Quoted

/-! Text files: how reading one can fail, and a directory as a value to read from. -/

namespace SearchLex

/-- Why a path could not be read as a text. -/
inductive ReadError where
  | notFound
  | notADirectory
  | isADirectory
  /-- The path, or a name in it, has too many bytes. -/
  | nameTooLong
  /-- A zero character stands in the path. -/
  | zeroInPath
  /-- The bytes are not UTF-8. -/
  | notText
  /-- Any other refusal of the system, with its number and words. -/
  | refused (code : Nat) (reason : String)
  deriving DecidableEq, Repr

namespace ReadError

/-- The system's number for an error of its own. -/
def code : ReadError → Option Nat
  | .notFound => some 2
  | .notADirectory => some 20
  | .isADirectory => some 21
  | .nameTooLong => some 36
  | .zeroInPath | .notText => none
  | .refused code _ => some code

def kind : ReadError → String
  | .notFound => "NotFound"
  | .notADirectory => "NotADirectory"
  | .isADirectory => "IsADirectory"
  | .nameTooLong => "InvalidFilename"
  | .zeroInPath => "InvalidInput"
  | .notText => "InvalidData"
  | .refused .. => "Uncategorized"

def reason : ReadError → String
  | .notFound => "No such file or directory"
  | .notADirectory => "Not a directory"
  | .isADirectory => "Is a directory"
  | .nameTooLong => "File name too long"
  | .zeroInPath => "file name contained an unexpected NUL byte"
  | .notText => "stream did not contain valid UTF-8"
  | .refused _ reason => reason

def message (error : ReadError) : String :=
  match error.code with
  | some code => error.reason ++ " (os error " ++ toString code ++ ")"
  | none => error.reason

def details (error : ReadError) : String :=
  let head := match error.code with
    | some code => "Os \x7b code: " ++ toString code ++ ", kind: "
    | none => "Error \x7b kind: "
  head ++ error.kind ++ ", message: " ++ Text.quoted error.reason ++ " \x7d"

end ReadError

/-- What a name in a directory stands for. -/
inductive Entry where
  | file (bytes : ByteArray)
  | folder

/-- A directory: paths relative to it, and what they stand for. -/
structure Directory where
  entries : List (List String × Entry)
  /-- The directory's own path; none if it is the one that relative paths start from. -/
  location : Option String := none

namespace Directory

def nameLimit : Nat := 255

def pathLimit : Nat := 4095

def parts (path : String) : List String := path.splitOn "/"

/-- A directory from paths with slashes. -/
def ofPaths (paths : List (String × Entry)) (location : Option String := none) : Directory where
  entries := paths.map fun (path, entry) => (parts path, entry)
  location

/-- What is found at a path of parts. The directory itself, and every path that others
lead through, is a folder. -/
def find (directory : Directory) (place : List String) : Option Entry :=
  match directory.entries.lookup place with
  | some entry => some entry
  | none =>
    if place.isEmpty || directory.entries.any (place.isPrefixOf ·.1) then some .folder
    else none

/-- Parts of a path that name no file: they stay or go up. -/
def isStep (part : String) : Bool := part == "" || part == "." || part == ".."

/-- A path out of the directory. What lies there is not known, so only folders on the way
up are found. -/
def outside (path : List String) : Except ReadError Entry :=
  match path.dropWhile isStep with
  | [] => .ok .folder
  | name :: _ => .error (if nameLimit < name.utf8ByteSize then .nameTooLong else .notFound)

/-- Follows the parts of a path from a place. Empty parts and single points stay where
they are, and only a folder can be left or passed through. -/
def follow (directory : Directory) (place : List String) : List String → Except ReadError Entry
  | [] =>
    match directory.find place with
    | some entry => .ok entry
    | none => .error .notFound
  | part :: rest =>
    match directory.find place with
    | none => .error .notFound
    | some (.file _) => .error .notADirectory
    | some .folder =>
      if part = "" ∨ part = "." then directory.follow place rest
      else if part = ".." then
        if place.isEmpty then outside rest else directory.follow place.dropLast rest
      else if nameLimit < part.utf8ByteSize then .error .nameTooLong
      else directory.follow (place ++ [part]) rest

/-- The bytes of a path, together with those of the directory it is relative to. -/
def fullSize (directory : Directory) (path : String) : Nat :=
  match directory.location with
  | none => path.utf8ByteSize
  | some location => location.utf8ByteSize + 1 + path.utf8ByteSize

/-- What a path leads to. The path as a whole is checked before any part of it. -/
def resolve (directory : Directory) (path : String) : Except ReadError Entry :=
  if path.toList.contains '\x00' then .error .zeroInPath
  else if path.toList.head? = some '/' then
    if pathLimit < path.utf8ByteSize then .error .nameTooLong else outside (parts path)
  else if pathLimit < directory.fullSize path then .error .nameTooLong
  else if path.isEmpty ∧ directory.location.isNone then .error .notFound
  else directory.follow [] (parts path)

def read (directory : Directory) (path : String) : Except ReadError String := do
  match ← directory.resolve path with
  | .folder => throw .isADirectory
  | .file bytes =>
    match String.fromUTF8? bytes with
    | some text => return text
    | none => throw .notText

end Directory

end SearchLex
