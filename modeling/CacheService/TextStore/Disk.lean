import CacheService.TextStore.FileTree

/-!
# Disks

A file tree behind calls that can fail. Each call has a number, and a fault of that number makes it
fail without any effect; otherwise it does what the file tree says.
-/

namespace CacheService

/-- A file tree, the time, and the faults to come. -/
structure Disk where
  tree : FileTree := {}
  now : Instant
  /-- calls so far -/
  calls : Nat := 0
  /-- the fault of the call of that number, if it has one -/
  fault : Nat → Option IoError := fun _ => none

namespace Disk

variable {α : Type}

/-- Makes a call that only looks at the tree. -/
def look (d : Disk) (f : FileTree → Except IoError α) : Except IoError α × Disk :=
  let call := d.calls + 1
  let outcome :=
    match d.fault call with
    | some e => .error e
    | none => f d.tree
  (outcome, { d with calls := call })

/-- Makes a call that changes the tree if it succeeds. -/
def change (d : Disk) (f : FileTree → Except IoError FileTree) : Except IoError Unit × Disk :=
  match d.look f with
  | (.error e, d) => (.error e, d)
  | (.ok tree, d) => (.ok (), { d with tree })

/-- Makes a directory. One that is there already is as good. -/
def ensureDirectory (d : Disk) (path : TreePath) : Except IoError Unit × Disk :=
  match d.change (FileTree.makeDirectory d.now path) with
  | (.ok (), d) => (.ok (), d)
  | (.error e, d) => if d.tree.isDirectory path then (.ok (), d) else (.error e, d)

/-- Makes a directory, and those above it if it turns out that they are missing. The path is given
from its last component up. -/
def makeUpwards (d : Disk) (upwards : List String) : Except IoError Unit × Disk :=
  let path := upwards.reverse
  match upwards with
  | [] => d.ensureDirectory path
  | _ :: above =>
    match d.change (FileTree.makeDirectory d.now path) with
    | (.ok (), d) => (.ok (), d)
    | (.error .notFound, d) =>
      match d.makeUpwards above with
      | (.error e, d) => (.error e, d)
      | (.ok (), d) => d.ensureDirectory path
    | (.error e, d) => if d.tree.isDirectory path then (.ok (), d) else (.error e, d)

def makeDirectories (d : Disk) (path : TreePath) : Except IoError Unit × Disk :=
  d.makeUpwards path.reverse

/-- Writes a file under another name first and moves it to its place when it is complete. The other
file is gone afterwards, whether all steps succeed or not. -/
def replaceFile (d : Disk) (staged target : TreePath) (bytes : List UInt8) :
    Except IoError Unit × Disk :=
  let discard (d : Disk) : Disk := { d with tree := d.tree.erase staged d.now }
  match d.change (FileTree.writeFile d.now staged []) with
  | (.error e, d) => (.error e, d)
  | (.ok (), d) =>
    match d.change (FileTree.writeFile d.now staged bytes) with
    | (.error e, d) => (.error e, discard d)
    | (.ok (), d) =>
      match d.change (FileTree.moveFile d.now staged target) with
      | (.error e, d) => (.error e, discard d)
      | (.ok (), d) => (.ok (), d)

end Disk
end CacheService
