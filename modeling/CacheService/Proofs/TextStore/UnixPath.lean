import CacheService.TextStore.Name

/-!
# Paths as Unix reads them

A path is a text with slashes. Joining a name to a path puts a slash between them if there is none
yet, and an absolute path replaces the one it is joined to. What counts is the parts of a path:
slashes in a row are as good as one, and dots between them mean nothing but at the beginning of a
path that is not absolute.

A name that is allowed for texts is one more part of any path to which it is joined (`parts_join`).
-/

namespace CacheService
namespace UnixPath

inductive Part where
  | root
  /-- a dot at the beginning -/
  | here
  /-- two dots -/
  | above
  | name (s : String)
  deriving DecidableEq

/-- What follows a slash. -/
def following (piece : List Char) : List Part :=
  if piece = [] ∨ piece = ['.'] then []
  else if piece = ['.', '.'] then [.above]
  else [.name (String.ofList piece)]

/-- What stands at the beginning, before some more pieces. -/
def beginning (piece : List Char) (more : List (List Char)) : List Part :=
  if piece = [] then
    -- a path that begins with a slash is absolute, and an empty one has no parts
    if more = [] then [] else [.root]
  else if piece = ['.'] then [.here]
  else following piece

def partsOf : List (List Char) → List Part
  | [] => []
  | first :: more => beginning first more ++ more.flatMap following

def parts (path : String) : List Part :=
  partsOf (path.toList.splitOn '/')

/-- The path with another one below it. -/
def join (path below : String) : String :=
  if below.toList.head? = some '/' then below
  else if path = "" ∨ path.toList.getLast? = some '/' then path ++ below
  else path ++ "/" ++ below

/-! ## Names as parts -/

/-- A name that is one part of a path, and none with a meaning of its own. -/
structure Plain (name : String) : Prop where
  nonempty : name ≠ ""
  dot : name ≠ "."
  dots : name ≠ ".."
  slash : '/' ∉ name.toList

variable {name : String}

theorem Plain.toList_ne (h : Plain name) :
    name.toList ≠ [] ∧ name.toList ≠ ['.'] ∧ name.toList ≠ ['.', '.'] :=
  ⟨fun hs => h.nonempty (String.toList_inj.1 hs), fun hs => h.dot (String.toList_inj.1 hs),
    fun hs => h.dots (String.toList_inj.1 hs)⟩

/-- A plain name behind a slash is a part of its own. -/
theorem Plain.following (h : Plain name) : following name.toList = [.name name] := by
  obtain ⟨hnonempty, hdot, hdots⟩ := h.toList_ne
  simp [UnixPath.following, hnonempty, hdot, hdots]

theorem Plain.beginning (h : Plain name) (more : List (List Char)) :
    beginning name.toList more = [.name name] := by
  obtain ⟨hnonempty, hdot, -⟩ := h.toList_ne
  rw [UnixPath.beginning, if_neg hnonempty, if_neg hdot, h.following]

/-- A plain name has no slash in it. -/
theorem Plain.splitOn (h : Plain name) : name.toList.splitOn '/' = [name.toList] :=
  List.splitOn_eq_singleton h.slash

/-- Before a last piece it makes no difference which one that is. -/
theorem beginning_concat (piece last last' : List Char) (more : List (List Char)) :
    beginning piece (more ++ [last]) = beginning piece (more ++ [last']) := by
  simp [beginning]

/-- The last piece adds what follows the last slash. -/
theorem partsOf_concat {pieces : List (List Char)} (hne : pieces ≠ []) (last : List Char) :
    partsOf (pieces ++ [last]) = partsOf (pieces ++ [[]]) ++ following last := by
  obtain ⟨first, more, rfl⟩ := List.exists_cons_of_ne_nil hne
  have hnothing : following [] = [] := rfl
  simp only [List.cons_append, partsOf, List.flatMap_append, List.flatMap_singleton, hnothing,
    List.append_nil, List.append_assoc, beginning_concat first last []]

/-- A slash at the end of a path makes no difference, unless there is nothing before it. -/
theorem partsOf_concat_nil {pieces : List (List Char)} (hroot : pieces ≠ [[]]) :
    partsOf (pieces ++ [[]]) = partsOf pieces := by
  cases pieces with
  | nil => rfl
  | cons first more =>
    have hfirst : beginning first (more ++ [[]]) = beginning first more := by
      unfold beginning
      by_cases hpiece : first = []
      · -- a path that begins with a slash has more pieces
        have hmore : more ≠ [] := fun hmore => hroot (by rw [hpiece, hmore])
        simp [hmore]
      · simp [hpiece]
    have hnothing : following [] = [] := rfl
    simp only [List.cons_append, partsOf, List.flatMap_append, List.flatMap_singleton, hnothing,
      List.append_nil, hfirst]

/-- A plain name below a path adds one part, whatever the path ends with. -/
theorem parts_join (path : String) (h : Plain name) :
    parts (join path name) = parts path ++ [.name name] := by
  have hrelative : name.toList.head? ≠ some '/' :=
    fun hhead => h.slash (List.mem_of_head? hhead)
  unfold parts join
  rw [if_neg hrelative]
  by_cases hempty : path = ""
  · subst hempty
    rw [if_pos (.inl rfl), String.empty_append, h.splitOn, partsOf, h.beginning]
    rfl
  by_cases hslash : path.toList.getLast? = some '/'
  · -- the empty piece after the last slash is replaced
    obtain ⟨front, hfront⟩ := List.getLast?_eq_some_iff.1 hslash
    rw [if_pos (.inr hslash), String.toList_append, hfront, List.append_assoc,
      List.singleton_append, List.splitOn_append_cons_self, List.splitOn_append_cons_self,
      h.splitOn, partsOf_concat (List.splitOn_ne_nil '/' front), h.following]
    rfl
  · -- only the empty path is one empty piece
    have hroot : path.toList.splitOn '/' ≠ [[]] := by
      intro hone
      have hpath : ['/'].intercalate (path.toList.splitOn '/') = path.toList :=
        List.intercalate_splitOn '/'
      rw [hone] at hpath
      exact hempty (String.toList_inj.1 hpath.symm)
    have hjoined : (path ++ "/" ++ name).toList = path.toList ++ '/' :: name.toList := by
      simp
    rw [if_neg (not_or.2 ⟨hempty, hslash⟩), hjoined, List.splitOn_append_cons_self, h.splitOn,
      partsOf_concat (List.splitOn_ne_nil '/' path.toList), partsOf_concat_nil hroot, h.following]

example : parts (join "./texts//" "a b") = [.here, .name "texts", .name "a b"] := by
  decide +kernel

end UnixPath
end CacheService
