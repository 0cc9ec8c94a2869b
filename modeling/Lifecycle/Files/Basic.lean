/-!
# Files

A `ReadError` says why a file cannot be read. A `FileTree` is a directory held in memory:
`FileTree.read` follows a path as a file system does, component by component, so a path through a file
that is not a directory fails differently from a path to nothing.
-/

namespace Lifecycle

/-- Why a file cannot be read. -/
inductive ReadError where
  | notFound
  | isDirectory
  | notDirectory
  | nameTooLong
  /-- A path cannot hold a NUL character. -/
  | nulInPath
  | notText
  /-- Another cause, in the words of the system. -/
  | other (text : String)
  deriving Repr, DecidableEq

/-- The text of the report. -/
def ReadError.message : ReadError → String
  | notFound => "No such file or directory (os error 2)"
  | isDirectory => "Is a directory (os error 21)"
  | notDirectory => "Not a directory (os error 20)"
  | nameTooLong => "File name too long (os error 36)"
  | nulInPath => "file name contained an unexpected NUL byte"
  | notText => "stream did not contain valid UTF-8"
  | other text => text

/-- A way to read the bytes of a file. -/
abbrev FileReader := String → Except ReadError ByteArray

/-- The text in some bytes. -/
def textOfBytes (bytes : ByteArray) : Except ReadError String :=
  match String.fromUTF8? bytes with
  | some s => .ok s
  | none => .error .notText

/-- Read a file that holds text. -/
def FileReader.readText (read : FileReader) (path : String) : Except ReadError String := do
  textOfBytes (← read path)

/-- A file, or a directory of named files and directories. -/
inductive FileTree where
  | file (bytes : ByteArray)
  | directory (entries : List (String × FileTree))
  deriving Inhabited

namespace FileTree

/-- The directory without entries. -/
def empty : FileTree := .directory []

/-- Put a file or directory under a path, with directories on the way. -/
def insert (node : FileTree) : List String → FileTree → FileTree
  | [], _ => node
  | name :: path, .directory entries =>
    let inner := (entries.lookup name).getD empty
    .directory ((name, insert node path inner) :: entries.filter (·.1 != name))
  | name :: path, .file _ => .directory [(name, insert node path empty)]

/-- The greatest size of a name in bytes. -/
def maxName : Nat := 255

/-- The greatest size of a path in bytes. -/
def maxPath : Nat := 4095

/-- Follow the components of a path. `above` holds the directories on the way, innermost first; above
the outermost there is an empty one. An empty component stands for the directory itself. -/
def follow (above : List FileTree) (here : FileTree) : List String → Except ReadError FileTree
  | [] => .ok here
  | name :: path =>
    match here with
    | .file _ => .error .notDirectory
    | .directory entries =>
      if name = "" ∨ name = "." then follow above here path
      else if name = ".." then follow above.tail (above.headD empty) path
      else if maxName < name.utf8ByteSize then .error .nameTooLong
      else match entries.lookup name with
        | none => .error .notFound
        | some inner => follow (here :: above) inner path

/-- What lies around a tree: directories that every system has, and the device that is always empty. -/
def outside : FileTree :=
  .directory (("dev", .directory [("null", .file .empty)]) ::
    ["etc", "home", "proc", "root", "tmp", "usr", "var"].map fun name => (name, empty))

/-- **Read a file** of a tree. A path from the root leads out of it. -/
def read (tree : FileTree) : FileReader := fun path =>
  if path.contains '\x00' then .error .nulInPath
  else if maxPath < path.utf8ByteSize then .error .nameTooLong
  else if path.isEmpty then .error .notFound
  else
    let start := if path.startsWith "/" then outside else tree
    match follow [] start (path.splitOn "/") with
    | .error e => .error e
    | .ok (.file bytes) => .ok bytes
    | .ok (.directory _) => .error .isDirectory

end FileTree

end Lifecycle
