import TemplateScan.CommandLine.Failure

/-! # File trees

A directory with all that is in it, held in memory, and the reading of files by their paths. A path
is followed name by name: each name but the last must lead to a directory, and so must the last if
anything but a name follows it.
-/

namespace TemplateScan

/-- What a path can lead to. -/
inductive FileNode where
  | file (content : ByteArray)
  | directory

/-- The files and directories below a directory by the names that lead to them, the latest first.
A directory that holds something need not be listed. -/
structure FileTree where
  nodes : List (List String × FileNode) := []

/-- A place that following a path has led to. -/
inductive Place where
  /-- The place below the directory that these names lead to. -/
  | below (names : List String)
  /-- A directory of which nothing is known. -/
  | outside
deriving DecidableEq, Repr

namespace FileTree

/-- The names of a path that is followed from the directory itself. -/
def names (path : String) : List String :=
  (path.splitOn "/").foldl
    (fun names piece =>
      if piece = "" ∨ piece = "." then names
      else if piece = ".." then names.dropLast
      else names ++ [piece])
    []

/-- The tree with the given files and, where there is no content, directories. -/
def ofEntries (entries : List (String × Option ByteArray)) : FileTree :=
  ⟨(entries.map fun entry =>
    (names entry.1, (entry.2.map FileNode.file).getD .directory)).reverse⟩

/-- What some names lead to, if they lead anywhere. -/
def node? (tree : FileTree) (names : List String) : Option FileNode :=
  match tree.nodes.find? (·.1 == names) with
  | some node => some node.2
  | none => if names = [] ∨ tree.nodes.any (names.isPrefixOf ·.1) then some .directory else none

/-- What is at a place, if anything is. -/
def at? (tree : FileTree) : Place → Option FileNode
  | .below names => tree.node? names
  | .outside => some .directory

/-- The greatest number of bytes in a name. -/
def maxNameSize : Nat :=
  255

/-- The number of bytes at which a path is too long. -/
def pathLimit : Nat :=
  4096

/-- Nothing is found under a path. -/
def missing : ReadError :=
  .notFound "No such file or directory (os error 2)"

/-- A path leads on from a file. -/
def notADirectory : ReadError :=
  .other "Not a directory (os error 20)"

/-- A path leads to a directory. -/
def isADirectory : ReadError :=
  .other "Is a directory (os error 21)"

/-- A name or a path is too long. -/
def nameTooLong : ReadError :=
  .other "File name too long (os error 36)"

/-- A path holds U+0000. -/
def nullInName : ReadError :=
  .other "file name contained an unexpected NUL byte"

/-- A file is not UTF-8. -/
def notText : ReadError :=
  .invalidData "stream did not contain valid UTF-8"

/-- Follows a path by one piece. -/
def follow (tree : FileTree) (place : Place) (piece : String) : Except ReadError Place :=
  match tree.at? place with
  | some .directory =>
      if piece = "" ∨ piece = "." then
        .ok place
      else if piece = ".." then
        match place with
        | .below (name :: names) => .ok (.below (name :: names).dropLast)
        | _ => .ok .outside
      else if maxNameSize < piece.utf8ByteSize then
        .error nameTooLong
      else
        match place with
        | .outside => .error missing
        | .below names =>
            if (tree.node? (names ++ [piece])).isSome then .ok (.below (names ++ [piece]))
            else .error missing
  | some (.file _) => .error notADirectory
  | none => .error missing

/-- Where a path leads to. -/
def resolve (tree : FileTree) (path : String) : Except ReadError Place :=
  if path.toList.contains '\x00' then .error nullInName
  else if path = "" then .error missing
  else if pathLimit ≤ path.utf8ByteSize then .error nameTooLong
  else
    let start := if path.toList.head? = some '/' then Place.outside else .below []
    (path.splitOn "/").foldlM tree.follow start

/-- The source that a path leads to. -/
def read (tree : FileTree) (path : String) : Except ReadError Source := do
  match tree.at? (← tree.resolve path) with
  | some (.file content) =>
      if h : content.IsValidUTF8 then .ok ⟨content, h⟩ else .error notText
  | some .directory => .error isADirectory
  | none => .error missing

end FileTree

end TemplateScan
