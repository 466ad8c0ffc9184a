import CacheService.Proofs.TextStore.Requests

/-!
# Shelves

What a cache of texts in files is to its callers: a map from text types to maps from ids to texts.
A type is there from the first text that is put to it until it is cleared, also while it has no
texts. The answers are given by what the maps hold and by nothing else.
-/

namespace CacheService

theorem TextKey.eq_iff {key key' : TextKey} :
    key = key' ↔ key.textType = key'.textType ∧ key.id = key'.id := by
  cases key
  cases key'
  simp

/-- The requests that can change the texts of a type. -/
def TextRequest.Touches (textType : String) : TextRequest → Prop
  | .put key _ | .getOrInsert key _ | .remove key => key.textType = textType
  | .clear cleared => cleared = textType
  | .clearAll => True
  | .get _ | .getLines _ | .ids _ | .textTypes | .age _ | .modified _ => False

structure Shelved where
  text : String
  time : Instant

/-- The texts of each type that has been put to. -/
abbrev Shelves : Type :=
  Std.ExtTreeMap String (Std.ExtTreeMap String Shelved)

namespace Shelves

/-- The texts of a type, of which there are none if the type is missing. -/
def shelf (s : Shelves) (textType : String) : Std.ExtTreeMap String Shelved :=
  s.getD textType ∅

def at? (s : Shelves) (key : TextKey) : Option Shelved :=
  (s.shelf key.textType)[key.id]?

def put (s : Shelves) (key : TextKey) (new : Shelved) : Shelves :=
  s.insert key.textType ((s.shelf key.textType).insert key.id new)

/-- Takes one text away, and never a type. -/
def remove (s : Shelves) (key : TextKey) : Shelves :=
  s.modify key.textType fun texts => texts.erase key.id

/-- How many texts there are of some types. -/
def sizeOf (s : Shelves) : List String → Nat
  | [] => 0
  | textType :: rest => (s.shelf textType).size + s.sizeOf rest

/-! ## Answers -/

/-- Refuses keys of which no file can be made, where the id is looked at first. -/
def permit (key : TextKey) : Outcome Unit := do
  TextName.check "id" key.id
  TextName.checkType key.textType

/-- Refuses the same keys, where the type is looked at first. -/
def permitText (key : TextKey) : Outcome Unit := do
  TextName.checkKey key
  TextName.checkType key.textType

def read (s : Shelves) (key : TextKey) : Outcome (Option String) := do
  permitText key
  return (s.at? key).map Shelved.text

/-- How long ago the text under a key was put. A text from the future is refused, with the name that
messages have for its place. -/
def age (s : Shelves) (name : TextKey → String) (now : Instant) (key : TextKey) :
    Outcome (Option Nat) := do
  permit key
  match s.at? key with
  | none => return none
  | some shelved =>
    if shelved.time ≤ now then return some (now - shelved.time).toNat
    throw (.negativeAge (name key) ((shelved.time - now).toNat / 1000000))

/-- What shelves answer to a request at some time, and what they are afterwards. -/
def answer (name : TextKey → String) (now : Instant) (s : Shelves) :
    TextRequest → TextAnswer × Shelves
  | .get key => (.found (s.read key), s)
  | .getLines key => (.lines ((s.read key).map fun found => found.map Text.lines), s)
  | .getOrInsert key make =>
    match s.read key, make with
    | .error e, _ => (.supplied ⟨.error e, false⟩, s)
    | .ok (some text), _ => (.supplied ⟨.ok text, false⟩, s)
    | .ok none, .error e => (.supplied ⟨.error e, true⟩, s)
    | .ok none, .ok text => (.supplied ⟨.ok text, true⟩, s.put key ⟨text, now⟩)
  | .put key text =>
    match permitText key with
    | .error e => (.written (.error e), s)
    | .ok () => (.written (.ok ()), s.put key ⟨text, now⟩)
  | .remove key =>
    match permit key with
    | .error e => (.removed (.error e), s)
    | .ok () => (.removed (.ok (s.at? key).isSome), s.remove key)
  | .clear textType =>
    match TextName.checkType textType with
    | .error e => (.cleared (.error e), s)
    | .ok () => (.cleared (.ok (s.shelf textType).size), s.erase textType)
  | .clearAll => (.cleared (.ok (s.sizeOf s.keys)), ∅)
  | .ids textType =>
    (.named ((TextName.checkType textType).map fun _ => (s.shelf textType).keys), s)
  | .textTypes => (.named (.ok s.keys), s)
  | .age key => (.aged (s.age name now key), s)
  | .modified key => (.dated ((permit key).map fun _ => (s.at? key).map Shelved.time), s)

def step (name : TextKey → String) (request : Instant × TextRequest) (s : Shelves) :
    TextAnswer × Shelves :=
  s.answer name request.1 request.2

/-! ## What is on the shelves -/

variable {s s' : Shelves} {key k : TextKey} {textType t : String}

theorem shelf_eq (s : Shelves) (textType : String) : s.shelf textType = s[textType]?.getD ∅ :=
  Std.ExtTreeMap.getD_eq_getD_getElem?

theorem shelf_of_not_mem (h : textType ∉ s) : s.shelf textType = ∅ := by
  rw [shelf_eq, Std.ExtTreeMap.getElem?_eq_none h]
  rfl

/-- The ids on a shelf are those under which there is a text. -/
theorem mem_keys_shelf {id : String} :
    id ∈ (s.shelf textType).keys ↔ (s.at? ⟨textType, id⟩).isSome := by
  rw [Std.ExtTreeMap.mem_keys, ← Std.ExtTreeMap.isSome_getElem?_iff_mem]
  rfl

/-- Shelves are what types they have, and what texts. -/
theorem ext_at? (hmem : ∀ t, t ∈ s ↔ t ∈ s') (hat : ∀ k, s.at? k = s'.at? k) : s = s' := by
  apply Std.ExtTreeMap.ext_getElem?
  intro t
  by_cases ht : t ∈ s
  · -- both have the type, and the same text under each of its ids
    have ht' := (hmem t).1 ht
    obtain ⟨texts, htexts⟩ :=
      Option.isSome_iff_exists.1 (Std.ExtTreeMap.isSome_getElem?_iff_mem.2 ht)
    obtain ⟨texts', htexts'⟩ :=
      Option.isSome_iff_exists.1 (Std.ExtTreeMap.isSome_getElem?_iff_mem.2 ht')
    have hsame : texts = texts' := by
      apply Std.ExtTreeMap.ext_getElem?
      intro id
      simpa [at?, shelf_eq, htexts, htexts'] using hat ⟨t, id⟩
    rw [htexts, htexts', hsame]
  · have ht' : t ∉ s' := fun h => ht ((hmem t).2 h)
    rw [Std.ExtTreeMap.getElem?_eq_none ht, Std.ExtTreeMap.getElem?_eq_none ht']

theorem mem_put {new : Shelved} : t ∈ s.put key new ↔ t = key.textType ∨ t ∈ s := by
  rw [put, Std.ExtTreeMap.mem_insert, Std.LawfulEqOrd.compare_eq_iff_eq, eq_comm]

theorem at?_put (new : Shelved) :
    (s.put key new).at? k = if k = key then some new else s.at? k := by
  rcases key with ⟨textType, id⟩
  rcases k with ⟨t, i⟩
  simp only [at?, shelf_eq, put, Std.ExtTreeMap.getElem?_insert, Std.LawfulEqOrd.compare_eq_iff_eq,
    TextKey.mk.injEq]
  by_cases ht : t = textType
  · subst ht
    by_cases hi : i = id
    · simp [hi]
    · simp [hi, Ne.symm hi, Std.ExtTreeMap.getElem?_insert]
  · simp [ht, Ne.symm ht]

/-- A type stays when its last text is removed. -/
theorem mem_remove : t ∈ s.remove key ↔ t ∈ s :=
  Std.ExtTreeMap.mem_modify

theorem at?_remove : (s.remove key).at? k = if k = key then none else s.at? k := by
  rcases key with ⟨textType, id⟩
  rcases k with ⟨t, i⟩
  simp only [at?, shelf_eq, remove, Std.ExtTreeMap.getElem?_modify,
    Std.LawfulEqOrd.compare_eq_iff_eq, TextKey.mk.injEq]
  by_cases ht : t = textType
  · subst ht
    cases hs : s[t]? with
    | none => simp
    | some texts =>
      by_cases hi : i = id
      · simp [hi]
      · simp [hi, Ne.symm hi, Std.ExtTreeMap.getElem?_erase]
  · simp [ht, Ne.symm ht]

theorem remove_of_missing (h : s.at? key = none) : s.remove key = s := by
  apply ext_at?
  · intro t
    exact mem_remove
  · intro k
    rw [at?_remove]
    split
    · rename_i hk
      rw [hk, h]
    · rfl

theorem mem_erase : t ∈ s.erase textType ↔ t ≠ textType ∧ t ∈ s := by
  rw [Std.ExtTreeMap.mem_erase, ne_eq, ne_eq, Std.LawfulEqOrd.compare_eq_iff_eq, eq_comm]

theorem shelf_erase : shelf (s.erase textType) t = if t = textType then ∅ else s.shelf t := by
  simp only [shelf_eq, Std.ExtTreeMap.getElem?_erase, Std.LawfulEqOrd.compare_eq_iff_eq]
  by_cases ht : t = textType
  · simp [ht]
  · simp [ht, Ne.symm ht]

theorem sizeOf_erase {types : List String} (h : textType ∉ types) :
    sizeOf (s.erase textType) types = s.sizeOf types := by
  induction types with
  | nil => rfl
  | cons t rest ih =>
    rw [List.mem_cons, not_or] at h
    obtain ⟨hne, hrest⟩ := h
    simp only [sizeOf, shelf_erase, if_neg (Ne.symm hne), ih hrest]

theorem at?_erase :
    at? (s.erase textType) k = if k.textType = textType then none else s.at? k := by
  rw [at?, shelf_erase]
  split
  · simp
  · rfl

theorem erase_of_not_mem (h : textType ∉ s) : s.erase textType = s := by
  apply ext_at?
  · intro t
    rw [mem_erase]
    constructor
    · exact fun hmem => hmem.2
    · exact fun hmem => ⟨fun ht => h (ht ▸ hmem), hmem⟩
  · intro k
    rw [at?_erase]
    split
    · rename_i hk
      rw [at?, shelf_of_not_mem (by rwa [hk])]
      simp
    · rfl

/-! ## Other types -/

theorem getElem?_put_of_ne (h : key.textType ≠ t) (new : Shelved) :
    (s.put key new)[t]? = s[t]? := by
  simp only [put, Std.ExtTreeMap.getElem?_insert, Std.LawfulEqOrd.compare_eq_iff_eq, if_neg h]

theorem getElem?_remove_of_ne (h : key.textType ≠ t) : (s.remove key)[t]? = s[t]? := by
  simp only [remove, Std.ExtTreeMap.getElem?_modify, Std.LawfulEqOrd.compare_eq_iff_eq, if_neg h]

/-- A request leaves the types alone that it does not touch. -/
theorem getElem?_answer_of_untouched {request : TextRequest} (h : ¬ request.Touches t)
    (name : TextKey → String) (now : Instant) : (s.answer name now request).2[t]? = s[t]? := by
  cases request with
  | put key text =>
    simp only [answer]
    cases permitText key with
    | error e => rfl
    | ok u => exact getElem?_put_of_ne h _
  | getOrInsert key make =>
    -- only a text that is missing and can be made is put
    simp only [answer]
    split
    · rfl
    · rfl
    · rfl
    · exact getElem?_put_of_ne h _
  | remove key =>
    simp only [answer]
    cases permit key with
    | error e => rfl
    | ok u => exact getElem?_remove_of_ne h
  | clear cleared =>
    simp only [answer]
    cases TextName.checkType cleared with
    | error e => rfl
    | ok u =>
      have hne : ¬ cleared = t := h
      simp only [Std.ExtTreeMap.getElem?_erase, Std.LawfulEqOrd.compare_eq_iff_eq, if_neg hne]
  | clearAll => exact absurd trivial h
  | get key => rfl
  | getLines key => rfl
  | ids textType => rfl
  | textTypes => rfl
  | age key => rfl
  | modified key => rfl

/-- Requests for other types leave the shelf of a type as it is. -/
theorem getElem?_answersOf_of_untouched {requests : List (Instant × TextRequest)}
    (h : ∀ request ∈ requests, ¬ request.2.Touches t) (name : TextKey → String) :
    (answersOf (step name) requests s).2[t]? = s[t]? := by
  induction requests generalizing s with
  | nil => rfl
  | cons request rest ih =>
    obtain ⟨hfirst, hrest⟩ := List.forall_mem_cons.1 h
    calc (answersOf (step name) (request :: rest) s).2[t]?
        = (s.step name request).2[t]? := ih hrest
      _ = s[t]? := getElem?_answer_of_untouched hfirst name request.1

end Shelves
end CacheService
