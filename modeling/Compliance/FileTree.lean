import Compliance.Error
import Compliance.Text.Split

/-!
File trees and paths in them. A tree is made of files, which hold bytes, and of directories, which hold named
entries; there are no links and no permissions, so whatever is in a tree can be reached and read. A path is looked
up component by component from a place in the tree; every component, also the empty one behind a slash at the end,
needs a directory to stand in.
-/

namespace Compliance

inductive Node where
  | file (bytes : ByteArray)
  | directory (entries : List (String × Node))

namespace Node

instance : Inhabited Node := ⟨directory []⟩

def emptyDirectory : Node := directory []

def isDirectory : Node → Bool
  | directory _ => true
  | file _ => false

def entry? (name : String) : Node → Option Node
  | directory entries => entries.lookup name
  | file _ => none

/-- The entry of that name is this node from now on. What is put into a file makes it a directory. -/
def setEntry (node : Node) (name : String) (child : Node) : Node :=
  match node with
  | directory entries => directory ((name, child) :: entries.filter (·.1 != name))
  | file _ => directory [(name, child)]

/-- Puts a node at a place below, with the directories on the way. -/
def put : Node → List String → Node → Node
  | _, [], child => child
  | node, name :: path, child =>
    node.setEntry name (put ((node.entry? name).getD emptyDirectory) path child)

/-- Makes the directories on the way to a place and the one at it, where there are none. -/
def putDirectory : Node → List String → Node
  | node, [] => if node.isDirectory then node else emptyDirectory
  | node, name :: path =>
    node.setEntry name (putDirectory ((node.entry? name).getD emptyDirectory) path)

/-- Takes the node at a place away. -/
def erase : Node → List String → Node
  | node, [] => node
  | directory entries, [name] => directory (entries.filter (·.1 != name))
  | node, name :: path =>
    match node.entry? name with
    | some child => node.setEntry name (erase child path)
    | none => node

end Node

/-- A node with the directories above it, the nearest one first. -/
structure Place where
  node : Node
  above : List Node

namespace Place

def root (tree : Node) : Place := ⟨tree, []⟩

/-- The longest name of an entry, in bytes. -/
def maxName : Nat := 255

/-- The longest path, in bytes. -/
def maxPath : Nat := 4095

/-- The parts of a path between its slashes. -/
def components (path : List Char) : List String := (Text.split '/' path).map String.ofList

/-- The place that one component leads to from a directory. The directory above the root is the root. -/
def step (place : Place) (component : String) : Except IoCause Place :=
  match place.node with
  | .file _ => .error .notDirectory
  | .directory entries =>
    if component = "" ∨ component = "." then .ok place
    else if component = ".." then
      match place.above with
      | [] => .ok place
      | parent :: above => .ok ⟨parent, above⟩
    else if maxName < component.utf8ByteSize then .error .nameTooLong
    else match entries.lookup component with
      | some node => .ok ⟨node, place.node :: place.above⟩
      | none => .error .notFound

def walk (place : Place) : List String → Except IoCause Place
  | [] => .ok place
  | component :: rest => (place.step component).bind fun next => next.walk rest

end Place

/-- A working directory in a tree: the tree, and the names that lead to the directory. The directory is taken to be
in the tree; where the names lead nowhere, neither does any relative path. -/
structure FileTree where
  tree : Node
  directory : List String

namespace FileTree

/-- The absolute path of the working directory. -/
def directoryPath (files : FileTree) : String :=
  if files.directory.isEmpty then "/" else String.join (files.directory.map fun name => "/" ++ name)

/-- Where paths that begin with a slash start. -/
def top (files : FileTree) : Place := .root files.tree

def isAbsolute (path : String) : Bool := path.toList.head? == some '/'

/-- The place that a path leads to. -/
def locate (files : FileTree) (path : String) : Except IoCause Place :=
  if path.toList.contains '\x00' then .error .nulInName
  else if path = "" then .error .notFound
  else if Place.maxPath < path.utf8ByteSize then .error .nameTooLong
  else if isAbsolute path then files.top.walk (Place.components path.toList)
  else (files.top.walk files.directory).bind fun place => place.walk (Place.components path.toList)

/-- Whether a path leads to a file or a directory. -/
def has (files : FileTree) (path : String) : Bool :=
  match files.locate path with
  | .ok _ => true
  | .error _ => false

/-- The text of the file that a path leads to. -/
def read (files : FileTree) (path : String) : Except IoCause String :=
  (files.locate path).bind fun place =>
    match place.node with
    | .directory _ => .error .isDirectory
    | .file bytes =>
      match String.fromUTF8? bytes with
      | some text => .ok text
      | none => .error .notUtf8

end FileTree

end Compliance
