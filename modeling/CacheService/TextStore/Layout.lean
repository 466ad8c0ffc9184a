import CacheService.Proofs.Gzip.RoundTrip
import CacheService.TextStore.Disk
import Std.Data.String.ToNat

/-!
# How texts are laid out in files

Where the files are, how bytes are packed in them, and which names files have while they are
written. Any packing and any choice of names will do that meets its laws. Gzip members are such a
packing, and counting up to the first free name is such a choice.
-/

namespace CacheService

/-- A way to pack bytes. -/
structure Packing where
  pack : List UInt8 → List UInt8
  unpack : List UInt8 → Except IoError (List UInt8)
  unpack_pack : ∀ bytes, unpack (pack bytes) = .ok bytes

def Packing.gzip : Packing where
  pack := Gzip.pack
  unpack := Gzip.unpack
  unpack_pack := Gzip.unpack_pack

/-- A short name that can be handed to the file system. -/
def Staging.Plain (name : String) : Prop :=
  name.utf8ByteSize ≤ 10 ∧ '\x00' ∉ name.toList

/-- A way to choose a name in a directory for a file that is being written. The choice may depend on
the calls so far, so a random one is of this kind. -/
structure Staging where
  name : Disk → TreePath → String
  /-- no file has the name yet -/
  free : ∀ (d : Disk) directory, d.tree.nodes.contains (directory ++ [name d directory]) = false
  /-- where there are no files at all, a plain name is chosen -/
  plain : ∀ (d : Disk) directory, (∀ other, d.tree.nodes.contains (directory ++ [other]) = false) →
    Staging.Plain (name d directory)

namespace Staging

def numbered (n : Nat) : String :=
  s!".tmp{100000 + n}"

theorem numbered_inj {m n : Nat} (h : numbered m = numbered n) : m = n := by
  have hsum : 100000 + m = 100000 + n := by simpa [numbered] using h
  omega

/-- The first number whose name is free. Of more names than there are nodes, one is. -/
def firstFree (d : Disk) (directory : TreePath) : Nat :=
  ((List.range (d.tree.nodes.size + 1)).find? fun n =>
    !d.tree.nodes.contains (directory ++ [numbered n])).getD 0

/-- Names that are all taken are no more than there are nodes. -/
theorem le_size_of_taken {nodes : Std.ExtTreeMap TreePath FileTree.Node} {directory : TreePath}
    {k : Nat} (h : ∀ n, n < k → nodes.contains (directory ++ [numbered n]) = true) :
    k ≤ nodes.size := by
  induction k generalizing nodes with
  | zero => exact Nat.zero_le _
  | succ k ih =>
    -- without the node of the last name, the names before it are still taken
    have hlast := h k (Nat.lt_succ_self k)
    have hrest : ∀ n, n < k →
        (nodes.erase (directory ++ [numbered k])).contains (directory ++ [numbered n]) = true := by
      intro n hn
      have hne : k ≠ n := by omega
      have hpath : directory ++ [numbered k] ≠ directory ++ [numbered n] := by
        intro hsame
        exact hne (numbered_inj (by simpa using hsame))
      simp [Std.ExtTreeMap.contains_erase, h n (by omega), hpath]
    have hle := ih hrest
    have hsize := Std.ExtTreeMap.size_erase (t := nodes) (k := directory ++ [numbered k])
    have hpos : nodes.size ≠ 0 := by
      intro hzero
      rw [← Std.ExtTreeMap.eq_empty_iff_size_eq_zero] at hzero
      simp [hzero] at hlast
    rw [hsize, if_pos (by simpa using hlast)] at hle
    omega

theorem firstFree_free (d : Disk) (directory : TreePath) :
    d.tree.nodes.contains (directory ++ [numbered (firstFree d directory)]) = false := by
  unfold firstFree
  cases hfind : (List.range (d.tree.nodes.size + 1)).find? fun n =>
      !d.tree.nodes.contains (directory ++ [numbered n]) with
  | some n => simpa using List.find?_some hfind
  | none =>
    -- then more names are taken than there are nodes
    have htaken : ∀ n, n < d.tree.nodes.size + 1 →
        d.tree.nodes.contains (directory ++ [numbered n]) = true := by
      intro n hn
      have := List.find?_eq_none.1 hfind n (List.mem_range.2 hn)
      simpa using this
    have := le_size_of_taken htaken
    omega

/-- In a directory where nothing is, the first name of all is free. -/
theorem firstFree_of_empty {d : Disk} {directory : TreePath}
    (h : ∀ other, d.tree.nodes.contains (directory ++ [other]) = false) :
    firstFree d directory = 0 := by
  simp [firstFree, List.range_succ_eq_map, h]

/-- Names are counted up to the first that is free. -/
def counted : Staging where
  name d directory := numbered (firstFree d directory)
  free := firstFree_free
  plain := by
    intro d directory h
    rw [firstFree_of_empty h]
    unfold Plain
    decide

end Staging

/-- Where texts are kept, and how. -/
structure TextLayout where
  /-- the path of the root directory below the base of the disk -/
  root : TreePath
  /-- how messages call the base of the disk -/
  base : String
  packing : Packing := .gzip
  staging : Staging := .counted

end CacheService
