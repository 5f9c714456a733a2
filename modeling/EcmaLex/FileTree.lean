import EcmaLex.SourceFile

/-!
# Reading files

A file is read as a whole and must hold valid UTF-8; a byte order mark is kept. Reading fails with
one of a few causes. A file tree stands for a directory and what is below it, so that reading can
be told without a file system.

## Main definitions

* `EcmaLex.ReadError` : the causes of failure.
* `EcmaLex.FileTree` : a directory with the files and directories below it.
* `EcmaLex.FileTree.read` : the source file at a path.
-/

namespace EcmaLex

/-- Reasons for which a file cannot be read. A path that goes on behind a file is
`notDirectory`. -/
inductive ReadError
  | notFound
  | isDirectory
  | notDirectory
  | notUtf8
  | other (message : String)
  deriving DecidableEq, Repr

/-- The report of a reason. -/
def ReadError.message : ReadError → String
  | notFound => "No such file or directory (os error 2)"
  | isDirectory => "Is a directory (os error 21)"
  | notDirectory => "Not a directory (os error 20)"
  | notUtf8 => "stream did not contain valid UTF-8"
  | other message => message

/-- The source file with a path and bytes. -/
def SourceFile.ofBytes (path : String) (bytes : ByteArray) : Except ReadError SourceFile :=
  match String.fromUTF8? bytes with
  | some contents => .ok ⟨path, contents⟩
  | none => .error .notUtf8

/-- What is at a place in a file tree. -/
inductive FileTree.Entry
  | file (bytes : ByteArray)
  | directory

/-- A directory: what is below it, each entry with the names that lead to it. -/
structure FileTree where
  entries : List (List String × FileTree.Entry)

namespace FileTree

/-- The parts of a path between its slashes. -/
def components (path : String) : List String := path.splitOn "/"

/-- Whether a part of a path names something. -/
def isName (part : String) : Bool := part != "" && part != "."

/-- The names that lead to an entry. -/
def names (path : String) : List String := (components path).filter isName

/-- What the names lead to. A directory need not be listed if something below it is. -/
def entry? (tree : FileTree) (names : List String) : Option Entry :=
  match tree.entries.find? fun (path, _) => path == names with
  | some (_, entry) => some entry
  | none =>
    if names.isEmpty || tree.entries.any fun (path, _) => names.isPrefixOf path then some .directory
    else none

/-- A place that a path has led to so far: a directory of the tree, by the names that lead to it, a
directory that holds the tree, or a file. -/
inductive Place
  | inside (names : List String)
  | above
  | file (bytes : ByteArray)

/-- The place that one more part of a path leads to. -/
def step (tree : FileTree) : Place → String → Except ReadError Place
  | .file _, _ => .error .notDirectory
  | .above, part => if isName part && part != ".." then .error .notFound else .ok .above
  | .inside names, part =>
    if part == ".." then
      .ok (if names.isEmpty then .above else .inside names.dropLast)
    else if isName part then
      match tree.entry? (names ++ [part]) with
      | some (.file bytes) => .ok (.file bytes)
      | some .directory => .ok (.inside (names ++ [part]))
      | none => .error .notFound
    else .ok (.inside names)

/-- The bytes of the file at a path. A path that starts with a slash leads out of the tree. -/
def bytes (tree : FileTree) (path : String) : Except ReadError ByteArray := do
  if path.isEmpty then throw .notFound
  let start : Place := if path.startsWith "/" then .above else .inside []
  match ← (components path).foldlM tree.step start with
  | .file bytes => return bytes
  | .inside _ | .above => throw .isDirectory

/-- The source file at a path. -/
def read (tree : FileTree) (path : String) : Except ReadError SourceFile := do
  SourceFile.ofBytes path (← tree.bytes path)

end FileTree

end EcmaLex
