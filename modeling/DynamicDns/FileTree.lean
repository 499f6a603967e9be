/-! # Reading files

A tree of files and directories, what a path leads to in it, and why a file
cannot be read as text.
-/

namespace DynamicDns

/-- Why a file cannot be read as text. -/
inductive ReadError where
  | notFound
  /-- A file stands where the path goes on. -/
  | notADirectory
  | isADirectory
  | nameTooLong
  /-- The path holds the character that ends paths. -/
  | nulInPath
  /-- The bytes are no text in UTF-8. -/
  | notUtf8
  /-- Any other failure of the system, with its number. -/
  | system (reason : String) (number : Nat)
  deriving Repr, DecidableEq

def ReadError.message : ReadError → String
  | .notFound => "No such file or directory (os error 2)"
  | .notADirectory => "Not a directory (os error 20)"
  | .isADirectory => "Is a directory (os error 21)"
  | .nameTooLong => "File name too long (os error 36)"
  | .nulInPath => "file name contained an unexpected NUL byte"
  | .notUtf8 => "stream did not contain valid UTF-8"
  | .system reason number => s!"{reason} (os error {number})"

def decodeText (bytes : ByteArray) : Except ReadError String :=
  match String.fromUTF8? bytes with
  | some text => .ok text
  | none => .error .notUtf8

/-- A place among files, by the names on the way to it, the last name first. The way starts at
    the working directory, or at the root where its first name is `/`. It goes up with `..`, which
    only stands where nothing is left to leave out instead. -/
abbrev Place := List String

namespace Place

def root : Place := ["/"]

/-- The directory that holds a place. The root holds itself. -/
def parent : Place → Place
  | [] => [".."]
  | name :: rest =>
    if name = ".." then ".." :: name :: rest
    else if name = "/" then name :: rest
    else rest

/-- The place that a name leads to from a directory. -/
def child (here : Place) (name : String) : Place :=
  if name = "." then here
  else if name = ".." then here.parent
  else name :: here

/-- Whether a place is the working directory, the root, or on the way between them. -/
def isAncestor (place : Place) : Bool :=
  place = root || place.all (· = "..")

def startOf (path : String) : Place :=
  if path.startsWith "/" then root else []

/-- The names that a path spells, those between its slashes. -/
def namesOf (path : String) : List String :=
  (path.splitOn "/").filter (· ≠ "")

/-- The places that names lead through, the last one included. -/
def trail (here : Place) : List String → List Place
  | [] => []
  | name :: rest => here.child name :: trail (here.child name) rest

def ofPath (path : String) : Place :=
  (namesOf path).foldl child (startOf path)

end Place

/-- The files and directories around a working directory. -/
structure FileTree where
  /-- Contents of the files, the latest first. -/
  files : List (Place × ByteArray) := []
  /-- Directories, besides the working directory and those above it. -/
  directories : List Place := []

namespace FileTree

def pathBytes : Nat := 4095

def nameBytes : Nat := 255

inductive Node where
  | file (bytes : ByteArray)
  | directory

/-- Add the directories on the way that names lead. -/
def addTrail (t : FileTree) (start : Place) (names : List String) : FileTree :=
  { t with directories := start.trail names ++ t.directories }

/-- Add a directory under a path, with the directories on the way to it. -/
def addDirectory (t : FileTree) (path : String) : FileTree :=
  t.addTrail (Place.startOf path) (Place.namesOf path)

/-- Add a file under a path, with the directories on the way to it. -/
def addFile (t : FileTree) (path : String) (bytes : ByteArray) : FileTree :=
  let t := t.addTrail (Place.startOf path) (Place.namesOf path).dropLast
  { t with files := (Place.ofPath path, bytes) :: t.files }

def node? (t : FileTree) (place : Place) : Option Node :=
  match t.files.lookup place with
  | some bytes => some (.file bytes)
  | none => if place.isAncestor || t.directories.contains place then some .directory else none

/-- One step of a path from a directory. -/
def step (t : FileTree) (here : Place) (name : String) : Except ReadError (Place × Node) :=
  if nameBytes < name.utf8ByteSize then .error .nameTooLong
  else
    match t.node? (here.child name) with
    | some node => .ok (here.child name, node)
    | none => .error .notFound

/-- Follow the names of a path. Only directories can be passed through. -/
def walk (t : FileTree) : Place → Node → List String → Except ReadError Node
  | _, node, [] => .ok node
  | _, .file _, _ :: _ => .error .notADirectory
  | here, .directory, name :: rest => do
    let (next, node) ← t.step here name
    t.walk next node rest

def readBytes (t : FileTree) (path : String) : Except ReadError ByteArray :=
  if '\x00' ∈ path.toList then .error .nulInPath
  else if path = "" then .error .notFound
  else if pathBytes < path.utf8ByteSize then .error .nameTooLong
  else do
    let names := Place.namesOf path ++ (if path.endsWith "/" then ["."] else [])
    match ← t.walk (Place.startOf path) .directory names with
    | .file bytes => return bytes
    | .directory => .error .isADirectory

def readText (t : FileTree) (path : String) : Except ReadError String := do
  decodeText (← t.readBytes path)

end FileTree

end DynamicDns
