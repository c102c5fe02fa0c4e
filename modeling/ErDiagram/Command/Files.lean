import ErDiagram.Text.Utf8

/-!
Files by path. Every file is known by the names that lead to it from the root, and a path that does not
begin at the root begins at the working directory. Reading and writing either succeed or fail without an
effect. A directory is there as long as a file is in it; the working directory and those above it are
always there.
-/

namespace ErDiagram

/-- Why a file cannot be used. -/
inductive FileError where
  | notFound
  | notDirectory
  | isDirectory
  | nameTooLong
  | other (reason : Text)
deriving DecidableEq

namespace FileError

def message : FileError → Text
  | .notFound => "No such file or directory (os error 2)".toList
  | .notDirectory => "Not a directory (os error 20)".toList
  | .isDirectory => "Is a directory (os error 21)".toList
  | .nameTooLong => "File name too long (os error 36)".toList
  | .other reason => reason

end FileError

/-- Why a text cannot be read. -/
inductive ReadError where
  | file (e : FileError)
  | notUtf8
deriving DecidableEq

namespace ReadError

def message : ReadError → Text
  | .file e => e.message
  | .notUtf8 => "stream did not contain valid UTF-8".toList

end ReadError

/-- Where a path leads, as a list of names from the root. -/
inductive Place where
  | directory (names : List Text)
  | file (names : List Text) (content : ByteArray)
  | missing (names : List Text)

/-- Files with the names that lead to them, and the names of the working directory. -/
structure Files where
  entries : List (List Text × ByteArray) := []
  workingDirectory : List Text := []

namespace Files

/-- A name has at most this many bytes. -/
def nameLimit : Nat := 255

/-- A path has fewer bytes than this. -/
def pathLimit : Nat := 4096

def find? (files : Files) (names : List Text) : Option ByteArray :=
  files.entries.lookup names

def isDirectory (files : Files) (names : List Text) : Bool :=
  names.isPrefixOf files.workingDirectory || files.entries.any fun entry =>
    names.isPrefixOf entry.1 && names.length < entry.1.length

/-- What is at some names. -/
def look (files : Files) (names : List Text) : Place :=
  match files.find? names with
  | some content => .file names content
  | none => if files.isDirectory names then .directory names else .missing names

def isCurrent (name : Text) : Bool :=
  name.isEmpty || name == ['.']

def isParent (name : Text) : Bool :=
  name == ['.', '.']

/-- What a name leads to in a directory. The directory above the root is the root. -/
def enter (files : Files) (directory : List Text) (name : Text) : Except FileError Place :=
  if isCurrent name then .ok (.directory directory)
  else if isParent name then .ok (.directory directory.dropLast)
  else if nameLimit < name.size then .error .nameTooLong
  else .ok (files.look (directory ++ [name]))

/-- Follow names from a place. No name leads on from a file or from what is missing. -/
def follow (files : Files) : Place → List Text → Except FileError Place
  | place, [] => .ok place
  | .missing _, _ :: _ => .error .notFound
  | .file _ _, _ :: _ => .error .notDirectory
  | .directory directory, name :: rest =>
    match files.enter directory name with
    | .error e => .error e
    | .ok place => files.follow place rest

/-- Where a path begins. -/
def start (files : Files) (path : Text) : Place :=
  .directory (if path.head? = some '/' then [] else files.workingDirectory)

/-- Where a path leads. -/
def resolve (files : Files) (path : Text) : Except FileError Place :=
  if pathLimit ≤ path.size then .error .nameTooLong
  else files.follow (files.start path) (path.splitOn '/')

def read (files : Files) (path : Text) : Except FileError ByteArray :=
  match files.resolve path with
  | .ok (.file _ content) => .ok content
  | .ok (.directory _) => .error .isDirectory
  | .ok (.missing _) => .error .notFound
  | .error e => .error e

/-- The names of the file that a path names for writing, new or not. All but the last name have to lead
to a directory, and the last one must not; a slash behind it says that it does. -/
def destination (files : Files) (path : Text) : Except FileError (List Text) :=
  if pathLimit ≤ path.size then .error .nameTooLong
  else
    let names := (path.splitOn '/').filter (!·.isEmpty)
    match names.getLast?, files.follow (files.start path) names.dropLast with
    | none, _ => .error .isDirectory
    | some _, .error e => .error e
    | some _, .ok (.missing _) => .error .notFound
    | some _, .ok (.file _ _) => .error .notDirectory
    | some last, .ok (.directory directory) =>
      if path.getLast? = some '/' then .error .isDirectory
      else
        match files.enter directory last with
        | .error e => .error e
        | .ok (.directory _) => .error .isDirectory
        | .ok (.file names _) => .ok names
        | .ok (.missing names) => .ok names

/-- Replace the content at some names, in place if they are in use. -/
def put (names : List Text) (content : ByteArray) :
    List (List Text × ByteArray) → List (List Text × ByteArray)
  | [] => [(names, content)]
  | entry :: rest =>
    if entry.1 = names then (names, content) :: rest else entry :: put names content rest

/-- Write a file. -/
def write (files : Files) (path : Text) (content : ByteArray) : Except FileError Files :=
  (files.destination path).map fun names =>
    { files with entries := put names content files.entries }

end Files

/-- The text of some bytes. -/
def decodeText (bytes : ByteArray) : Except ReadError Text :=
  match Text.ofUtf8? bytes with
  | some text => .ok text
  | none => .error .notUtf8

end ErDiagram
