import JobPool.Json.Stop

/-!
A tree of files, as far as reading a file by its path can tell trees apart: directories with named
entries and files with bytes. Reading fails with the reason that the operating system gives.
-/

namespace JobPool

/-- A file or a directory. -/
inductive FileTree where
  | file (bytes : List UInt8)
  | directory (entries : List (String × FileTree))

/-- Why a file cannot be read as text. -/
inductive FileError where
  | nulInPath
  | notFound
  | notADirectory
  | isADirectory
  | nameTooLong
  | notText
  deriving DecidableEq, Repr

/-- The text that reports a reason. -/
def FileError.message : FileError → String
  | nulInPath => "file name contained an unexpected NUL byte"
  | notFound => "No such file or directory (os error 2)"
  | notADirectory => "Not a directory (os error 20)"
  | isADirectory => "Is a directory (os error 21)"
  | nameTooLong => "File name too long (os error 36)"
  | notText => "stream did not contain valid UTF-8"

namespace FileTree

/-- An empty directory. -/
def empty : FileTree := .directory []

/-- The length in bytes from which on a path is too long. -/
def pathLimit : Nat := 4096

/-- The greatest length in bytes of a name in a directory. -/
def nameLimit : Nat := 255

/-- The entry of a directory. -/
def entry? (entries : List (String × FileTree)) (name : String) : Option FileTree :=
  (entries.find? fun e => e.1 = name).map (·.2)

/-- Follows names from the first of a stack of directories, innermost first; `.` stays and `..` goes
to the directory around it. -/
def follow : List FileTree → List String → Except FileError FileTree
  | [], _ => .error .notFound
  | tree :: _, [] => .ok tree
  | .file _ :: _, _ :: _ => .error .notADirectory
  | .directory entries :: around, name :: names =>
    if name = "" ∨ name = "." then follow (.directory entries :: around) names
    else if name = ".." then
      match around with
      | [] => follow [.directory entries] names
      | _ => follow around names
    else if nameLimit < name.utf8ByteSize then .error .nameTooLong
    else
      match entry? entries name with
      | none => .error .notFound
      | some tree => follow (tree :: .directory entries :: around) names

end FileTree

/-- A tree and the directories from the working directory outwards. -/
structure FileSystem where
  root : FileTree
  here : List FileTree

namespace FileSystem

/-- The file or directory that a path leads to. -/
def find (fs : FileSystem) (path : String) : Except FileError FileTree :=
  if path.toList.contains '\x00' then .error .nulInPath
  else if path = "" then .error .notFound
  else if FileTree.pathLimit ≤ path.utf8ByteSize then .error .nameTooLong
  else if path.toList.head? = some '/' then FileTree.follow [fs.root] (path.splitOn "/")
  else FileTree.follow (fs.here ++ [fs.root]) (path.splitOn "/")

/-- The text of the file at a path. -/
def readText (fs : FileSystem) (path : String) : Except FileError String := do
  match ← fs.find path with
  | .directory _ => .error .isADirectory
  | .file bytes =>
    match String.fromUTF8? ⟨bytes.toArray⟩ with
    | some text => return text
    | none => .error .notText

/-- What every system has, an empty working directory, and these entries for temporary files. -/
def withTemporary (entries : List (String × FileTree)) : FileSystem :=
  let dev : FileTree := .directory [("null", .file []), ("shm", .empty)]
  let etc : FileTree := .directory
    [("passwd", .file "root:x:0:0:root:/root:/bin/sh\n".toUTF8.toList)]
  let usr : FileTree := .directory
    [("bin", .empty), ("lib", .empty), ("local", .empty), ("share", .empty), ("sbin", .empty),
      ("include", .empty), ("src", .empty)]
  let var : FileTree := .directory [("tmp", .empty), ("log", .empty), ("lib", .empty)]
  { root := .directory
      [("bin", .empty), ("boot", .empty), ("dev", dev), ("etc", etc), ("home", .empty),
        ("lib", .empty), ("media", .empty), ("mnt", .empty), ("opt", .empty), ("proc", .empty),
        ("root", .empty), ("run", .empty), ("sbin", .empty), ("srv", .empty), ("sys", .empty),
        ("tmp", .directory entries), ("usr", usr), ("var", var)]
    here := [.empty, .empty] }

end FileSystem

end JobPool
