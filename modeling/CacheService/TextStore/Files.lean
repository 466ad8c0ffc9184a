import CacheService.Text.Utf8
import CacheService.TextStore.Layout
import CacheService.TextStore.Name

/-!
# Texts in files

Texts are kept as packed files below a root directory: a directory for each text type, and a file
for each id in it. A text is written to a staging directory first and moved to its place when it is
complete, so that a reader sees the text before or the text after and nothing else.

This module holds what happens on the disk. Names are checked here as far as paths are made of them.
-/

namespace CacheService

structure TextFiles extends TextLayout where
  disk : Disk

namespace TextFiles

/-! ## Paths -/

def display (f : TextFiles) (path : TreePath) : String :=
  String.intercalate "/" (f.base :: path)

def failure (f : TextFiles) (path : TreePath) (e : IoError) : CacheError :=
  .io (f.display path) e

def typePath (f : TextFiles) (textType : String) : Outcome TreePath := do
  TextName.checkType textType
  return f.root ++ [textType]

/-- The file of a text. The id is checked before the type. -/
def entryPath (f : TextFiles) (key : TextKey) : Outcome TreePath := do
  TextName.check "id" key.id
  return (← f.typePath key.textType) ++ [key.id]

def stagingPath (f : TextFiles) : TreePath :=
  f.root ++ [TextName.staging]

/-! ## Calls -/

variable {α : Type}

def call (f : TextFiles) (path : TreePath) (act : Disk → Except IoError α × Disk) :
    Outcome α × TextFiles :=
  let (outcome, disk) := act f.disk
  (outcome.mapError (f.failure path), { f with disk })

/-- Makes a call about a path where nothing need be. -/
def callFound (f : TextFiles) (path : TreePath) (act : Disk → Except IoError α × Disk) :
    Outcome (Option α) × TextFiles :=
  f.call path fun d =>
    match act d with
    | (.ok a, d) => (.ok (some a), d)
    | (.error .notFound, d) => (.ok none, d)
    | (.error e, d) => (.error e, d)

/-- Makes the root directory if it is missing. -/
def opened (f : TextFiles) : Outcome Unit × TextFiles :=
  f.call f.root fun d => d.makeDirectories f.root

def openAt (disk : Disk) (root : TreePath) (base : String) : Outcome Unit × TextFiles :=
  opened { disk, root, base }

/-! ## Reading -/

def textOf (f : TextFiles) (bytes : List UInt8) : Except IoError String := do
  match Text.ofBytes? (← f.packing.unpack bytes) with
  | some s => return s
  | none => throw .invalidUtf8

def find (f : TextFiles) (key : TextKey) : Outcome (Option String) × TextFiles :=
  match f.entryPath key with
  | .error e => (.error e, f)
  | .ok path =>
    match f.callFound path fun d => d.look fun t => t.read path with
    | (.error e, f) => (.error e, f)
    | (.ok none, f) => (.ok none, f)
    | (.ok (some bytes), f) => (((f.textOf bytes).map some).mapError (f.failure path), f)

def modified (f : TextFiles) (key : TextKey) : Outcome (Option Instant) × TextFiles :=
  match f.entryPath key with
  | .error e => (.error e, f)
  | .ok path =>
    f.callFound path fun d => d.look fun t => (t.find path).map FileTree.Node.modified

/-- The nanoseconds since the text under a key was written, if there is one. Times to come are
refused. -/
def age (f : TextFiles) (key : TextKey) : Outcome (Option Nat) × TextFiles :=
  match f.modified key with
  | (.error e, f) => (.error e, f)
  | (.ok none, f) => (.ok none, f)
  | (.ok (some time), f) =>
    let ahead := time - f.disk.now
    if ahead ≤ 0 then (.ok (some (-ahead).toNat), f)
    else
      let path := f.root ++ [key.textType, key.id]
      (.error (.negativeAge (f.display path) (ahead.toNat / 1000000)), f)

/-- The names in a directory that are directories, or those that are not. Where no directory is,
there are none. -/
def names (f : TextFiles) (path : TreePath) (directories : Bool) :
    Outcome (List String) × TextFiles :=
  let (outcome, f) := f.callFound path fun d => d.look fun t => t.list path
  let pick (all : List (String × Bool)) :=
    all.filterMap fun (name, isDirectory) => if isDirectory == directories then some name else none
  (outcome.map fun found => pick (found.getD []), f)

def ids (f : TextFiles) (textType : String) : Outcome (List String) × TextFiles :=
  match f.typePath textType with
  | .error e => (.error e, f)
  | .ok path => f.names path false

def textTypes (f : TextFiles) : Outcome (List String) × TextFiles :=
  let (outcome, f) := f.names f.root true
  (outcome.map fun all => all.filter (· != TextName.staging), f)

/-! ## Writing -/

/-- A file in the staging directory that is not there yet. -/
def stagedPath (f : TextFiles) : TreePath :=
  f.stagingPath ++ [f.staging.name f.disk f.stagingPath]

def write (f : TextFiles) (key : TextKey) (text : String) : Outcome Unit × TextFiles :=
  match f.typePath key.textType with
  | .error e => (.error e, f)
  | .ok directory =>
    match f.call directory fun d => d.makeDirectories directory with
    | (.error e, f) => (.error e, f)
    | (.ok (), f) =>
      match f.call f.stagingPath fun d => d.makeDirectories f.stagingPath with
      | (.error e, f) => (.error e, f)
      | (.ok (), f) =>
        match f.entryPath key with
        | .error e => (.error e, f)
        | .ok path =>
          f.call path fun d => d.replaceFile f.stagedPath path (f.packing.pack (Text.bytes text))

def remove (f : TextFiles) (key : TextKey) : Outcome Bool × TextFiles :=
  match f.entryPath key with
  | .error e => (.error e, f)
  | .ok path =>
    let (outcome, f) := f.callFound path fun d => d.change (FileTree.removeFile d.now path)
    (outcome.map Option.isSome, f)

/-- Removes the files of the given names from a directory, up to the first failure. -/
def removeEach (f : TextFiles) (directory : TreePath) : List String → Outcome Unit × TextFiles
  | [] => (.ok (), f)
  | name :: rest =>
    let path := directory ++ [name]
    match f.call path fun d => d.change (FileTree.removeFile d.now path) with
    | (.error e, f) => (.error e, f)
    | (.ok (), f) => f.removeEach directory rest

/-- Removes all texts of a type and then its directory, and answers how many texts there were. -/
def clear (f : TextFiles) (textType : String) : Outcome Nat × TextFiles :=
  match f.typePath textType with
  | .error e => (.error e, f)
  | .ok directory =>
    match f.names directory false with
    | (.error e, f) => (.error e, f)
    | (.ok ids, f) =>
      match f.removeEach directory ids with
      | (.error e, f) => (.error e, f)
      | (.ok (), f) =>
        let (outcome, f) :=
          f.callFound directory fun d => d.change (FileTree.removeDirectory d.now directory)
        (outcome.map fun _ => ids.length, f)

/-- Clears the given types, up to the first failure, and adds up the texts. -/
def clearEach (f : TextFiles) (count : Nat) : List String → Outcome Nat × TextFiles
  | [] => (.ok count, f)
  | textType :: rest =>
    match f.clear textType with
    | (.error e, f) => (.error e, f)
    | (.ok n, f) => f.clearEach (count + n) rest

def clearAll (f : TextFiles) : Outcome Nat × TextFiles :=
  match f.textTypes with
  | (.error e, f) => (.error e, f)
  | (.ok types, f) => f.clearEach 0 types

end TextFiles
end CacheService
