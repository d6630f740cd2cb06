/-!
# Files

A small tree of files, as seen from a working directory, and what comes of reading the file that a
path designates. A path is a list of names between slashes; an empty name or a single dot stays in
place, and two dots lead to the parent. Nothing is known of the directories outside the tree, except
that they are directories.
-/

namespace PocketCalculator

/-! ## Reading a file -/

/-- Why a file that is there cannot be read as text. -/
inductive ReadFailure where
  /-- The path designates a directory. -/
  | isDirectory
  /-- The path leads through a file. -/
  | notDirectory
  /-- The path or a name in it is too long. -/
  | nameTooLong
  /-- The bytes of the file are not UTF-8. -/
  | notText
  /-- Another reason, in words. -/
  | other (reason : String)
deriving DecidableEq, Repr

/-- The wording of a failure. -/
def ReadFailure.reason : ReadFailure → String
  | .isDirectory => "Is a directory (os error 21)"
  | .notDirectory => "Not a directory (os error 20)"
  | .nameTooLong => "File name too long (os error 36)"
  | .notText => "stream did not contain valid UTF-8"
  | .other reason => reason

/-- What comes of reading a file as text. -/
inductive ReadResult where
  | absent
  | failed (failure : ReadFailure)
  | found (text : String)
deriving DecidableEq, Repr

/-- Bytes read as text. -/
def ReadResult.ofBytes (bytes : ByteArray) : ReadResult :=
  match String.fromUTF8? bytes with
  | some text => .found text
  | none => .failed .notText

/-! ## Trees -/

/-- A file with its bytes, or a directory. -/
inductive FileNode where
  | file (bytes : ByteArray)
  | directory

/-- The files and directories below the working directory, each with the names that lead to it, the
latest first. -/
structure FileTree where
  nodes : List (List String × FileNode) := []

/-- Where a path has led so far. -/
inductive Spot where
  /-- A directory of the tree, by the names that lead to it. -/
  | directory (names : List String)
  | file (bytes : ByteArray)
  /-- A directory outside the tree. -/
  | outside

namespace FileTree

/-- The names of a path that do not stay in place. -/
def namesOf (path : String) : List String :=
  (path.splitOn "/").filter fun name => name ≠ "" ∧ name ≠ "."

/-- The tree with one more file or directory. -/
def add (t : FileTree) (path : String) (node : FileNode) : FileTree :=
  ⟨(namesOf path, node) :: t.nodes⟩

/-- The file or directory that the given names lead to. -/
def node? (t : FileTree) (names : List String) : Option FileNode := t.nodes.lookup names

/-- The most bytes of a name. -/
def longestName : Nat := 255

/-- The most bytes of a path. -/
def longestPath : Nat := 4095

/-- One name further on the path. -/
def enter (t : FileTree) : Spot → String → Except ReadResult Spot
  | .file _, _ => .error (.failed .notDirectory)
  | .outside, name =>
      if name = "" ∨ name = "." ∨ name = ".." then .ok .outside
      else if longestName < name.utf8ByteSize then .error (.failed .nameTooLong)
      else .error .absent
  | .directory names, name =>
      if longestName < name.utf8ByteSize then
        .error (.failed .nameTooLong)
      else if name = "" ∨ name = "." then
        .ok (.directory names)
      else if name = ".." then
        .ok (if names.isEmpty then .outside else .directory names.dropLast)
      else
        match t.node? (names ++ [name]) with
        | some (.file bytes) => .ok (.file bytes)
        | some .directory => .ok (.directory (names ++ [name]))
        | none => .error .absent

/-- What comes of reading the file that a path designates. The empty path designates nothing, and a
path that begins with a slash starts outside the tree. -/
def read (t : FileTree) (path : String) : ReadResult :=
  if path.isEmpty then
    .absent
  else if longestPath < path.utf8ByteSize then
    .failed .nameTooLong
  else
    let start : Spot := if path.toList.head? = some '/' then .outside else .directory []
    match (path.splitOn "/").foldlM t.enter start with
    | .ok (.file bytes) => .ofBytes bytes
    | .ok _ => .failed .isDirectory
    | .error result => result

end FileTree

end PocketCalculator
