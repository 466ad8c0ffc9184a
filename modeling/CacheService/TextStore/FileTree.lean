import CacheService.Error
import Std.Data.ExtTreeMap

/-!
# File trees

A tree of directories and files, given by the nodes at all paths below a base directory, and the
operations of a file system on it. An operation walks its path from the base on, and the first
component that cannot be followed decides how it fails.
-/

namespace CacheService

/-- Nanoseconds since the beginning of 1970. -/
abbrev Instant : Type :=
  Int

/-- The components of a path below the base directory. -/
abbrev TreePath : Type :=
  List String

inductive FileTree.Content where
  | directory
  | file (bytes : List UInt8)
  deriving DecidableEq

structure FileTree.Node where
  content : FileTree.Content
  modified : Instant

namespace FileTree.Node

def isDirectory (n : Node) : Bool :=
  match n.content with
  | .directory => true
  | .file _ => false

end FileTree.Node

/-- The nodes at all paths but the base, which is a directory. -/
structure FileTree where
  nodes : Std.ExtTreeMap TreePath FileTree.Node := ∅
  baseModified : Instant := 0
  /-- the whole path of the base, which is a temporary directory if nothing else is said -/
  basePath : String := "/tmp/.tmp000000"

namespace FileTree

/-- The most bytes that a name can have. -/
def longestName : Nat :=
  255

/-- The most bytes that a whole path can have. -/
def longestPath : Nat :=
  4095

def base (t : FileTree) : Node where
  content := .directory
  modified := t.baseModified

/-- The node at a path, whether or not it can be reached. -/
def node? (t : FileTree) (path : TreePath) : Option Node :=
  if path.isEmpty then some t.base else t.nodes[path]?

/-! ## Walking -/

/-- Follows the rest of a path from a node. -/
def walk (t : FileTree) (before : TreePath) (node : Node) : TreePath → Except IoError Node
  | [] => .ok node
  | name :: rest =>
    if !node.isDirectory then .error .notADirectory
    else if longestName < name.utf8ByteSize then .error .nameTooLong
    else
      let path := before ++ [name]
      match t.node? path with
      | some next => t.walk path next rest
      | none => .error .notFound

def hasNul (path : TreePath) : Bool :=
  path.any fun name => name.toList.any (· = '\x00')

/-- The bytes of a path below the base directory, with a slash before each name. -/
def pathSize (path : TreePath) : Nat :=
  path.foldl (fun size name => size + 1 + name.utf8ByteSize) 0

/-- Refuses a path that cannot be handed to the file system at all. The path of the base is a part
of it. -/
def checkPath (t : FileTree) (path : TreePath) : Except IoError Unit :=
  if hasNul path then .error .nulInName
  else if longestPath < t.basePath.utf8ByteSize + pathSize path then .error .nameTooLong
  else .ok ()

def find (t : FileTree) (path : TreePath) : Except IoError Node := do
  t.checkPath path
  t.walk [] t.base path

def isDirectory (t : FileTree) (path : TreePath) : Bool :=
  match t.find path with
  | .ok n => n.isDirectory
  | .error _ => false

/-- What is at a path whose parent must be a directory: a node, or nothing. -/
def entry (t : FileTree) (path : TreePath) : Except IoError (Option Node) := do
  t.checkPath path
  match path.getLast? with
  | none => return some t.base
  | some name =>
    let parent ← t.walk [] t.base path.dropLast
    if !parent.isDirectory then throw .notADirectory
    if longestName < name.utf8ByteSize then throw .nameTooLong
    return t.node? path

/-- The names in a directory, each with whether it is a directory itself. -/
def children (t : FileTree) (path : TreePath) : List (String × Bool) :=
  t.nodes.toList.filterMap fun (p, n) =>
    match p.getLast? with
    | some name => if p = path ++ [name] then some (name, n.isDirectory) else none
    | none => none

/-! ## Changing single nodes -/

def touch (t : FileTree) (path : TreePath) (now : Instant) : FileTree :=
  if path.isEmpty then { t with baseModified := now }
  else { t with nodes := t.nodes.modify path fun n => { n with modified := now } }

def place (t : FileTree) (path : TreePath) (node : Node) (now : Instant) : FileTree :=
  { t with nodes := t.nodes.insert path node }.touch path.dropLast now

def erase (t : FileTree) (path : TreePath) (now : Instant) : FileTree :=
  { t with nodes := t.nodes.erase path }.touch path.dropLast now

/-! ## Operations of a file system -/

def read (t : FileTree) (path : TreePath) : Except IoError (List UInt8) := do
  match (← t.find path).content with
  | .directory => throw .isADirectory
  | .file bytes => return bytes

/-- The names in a directory, in order, each with whether it is a directory itself. -/
def list (t : FileTree) (path : TreePath) : Except IoError (List (String × Bool)) := do
  if (← t.find path).isDirectory then return t.children path
  throw .notADirectory

def makeDirectory (now : Instant) (path : TreePath) (t : FileTree) : Except IoError FileTree := do
  match ← t.entry path with
  | some _ => throw .fileExists
  | none => return t.place path ⟨.directory, now⟩ now

def writeFile (now : Instant) (path : TreePath) (bytes : List UInt8) (t : FileTree) :
    Except IoError FileTree := do
  match ← t.entry path with
  | none => return t.place path ⟨.file bytes, now⟩ now
  | some n =>
    if n.isDirectory then throw .isADirectory
    return { t with nodes := t.nodes.insert path ⟨.file bytes, now⟩ }

def removeFile (now : Instant) (path : TreePath) (t : FileTree) : Except IoError FileTree := do
  if (← t.find path).isDirectory then throw .isADirectory
  return t.erase path now

def removeDirectory (now : Instant) (path : TreePath) (t : FileTree) :
    Except IoError FileTree := do
  if !(← t.find path).isDirectory then throw .notADirectory
  if !(t.children path).isEmpty then throw .directoryNotEmpty
  return t.erase path now

/-- Moves a file to another path, in place of a file that is there. -/
def moveFile (now : Instant) (source target : TreePath) (t : FileTree) :
    Except IoError FileTree := do
  if hasNul target then throw .invalidArgument
  let moved ← t.find source
  match ← t.entry target with
  | some n => if n.isDirectory then throw .isADirectory
  | none => pure ()
  return (t.erase source now).place target moved now

def removeAll (now : Instant) (path : TreePath) (t : FileTree) : FileTree :=
  { t with nodes := t.nodes.filter fun p _ => !path.isPrefixOf p }.touch path.dropLast now

/-- Sets when a file was last changed. A directory cannot be opened for it. -/
def setModified (time : Instant) (path : TreePath) (t : FileTree) : Except IoError FileTree := do
  if (← t.find path).isDirectory then throw .isADirectory
  return t.touch path time

end FileTree
end CacheService
