import Compliance.Document
import Compliance.FileTree

/-!
Documents on a disk. Paths are taken relative to a root directory; an absolute path replaces the root. A file that
is not there makes a document absent, whatever else is wrong with a file is an error.
-/

namespace Compliance

/-- What a program can learn about the files it is given paths of. -/
structure FileAccess where
  has : String → Bool
  read : String → Except IoCause String

def FileTree.access (files : FileTree) : FileAccess := ⟨files.has, files.read⟩

structure Workspace where
  root : String
  files : FileAccess

namespace Workspace

/-- A path below a directory, or the path itself when it is absolute. -/
def join (root path : String) : String :=
  if FileTree.isAbsolute path ∨ root = "" then path
  else if root.toList.getLast? = some '/' then root ++ path
  else root ++ "/" ++ path

def resolve (workspace : Workspace) (path : String) : String := join workspace.root path

def read (workspace : Workspace) (path : String) : Except GateError (Option String) :=
  match workspace.files.read (workspace.resolve path) with
  | .ok text => .ok (some text)
  | .error .notFound => .ok none
  | .error cause => .error (.io path cause)

def source (workspace : Workspace) : Source where
  has := fun path => workspace.files.has (workspace.resolve path)
  read := workspace.read

end Workspace

end Compliance
