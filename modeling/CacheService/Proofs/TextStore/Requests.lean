import CacheService.TextStore.Fast

/-!
# Requests to caches of texts

All that a caller can ask of a cache of texts, and what it answers. The same requests are put to
caches with and without copies in memory.
-/

namespace CacheService

inductive TextRequest where
  | get (key : TextKey)
  | getLines (key : TextKey)
  /-- the text under a key, or else the one that is made, unless making it fails -/
  | getOrInsert (key : TextKey) (make : Outcome String)
  | put (key : TextKey) (text : String)
  | remove (key : TextKey)
  | clear (textType : String)
  | clearAll
  | ids (textType : String)
  | textTypes
  | age (key : TextKey)
  | modified (key : TextKey)

def TextRequest.read? : TextRequest → Option TextKey
  | .get key | .getLines key | .getOrInsert key _ => some key
  | _ => none

inductive TextAnswer where
  | found (outcome : Outcome (Option String))
  | lines (outcome : Outcome (Option (List String)))
  | supplied (text : TextCache.Supplied)
  | written (outcome : Outcome Unit)
  | removed (outcome : Outcome Bool)
  | cleared (outcome : Outcome Nat)
  | named (outcome : Outcome (List String))
  | aged (outcome : Outcome (Option Nat))
  | dated (outcome : Outcome (Option Instant))

/-- What a request answers whose read has ended with a text or a failure. -/
def TextRequest.answerRead (request : TextRequest) (outcome : Outcome String) : TextAnswer :=
  match request with
  | .getLines _ => .lines (TextCache.linesOf (outcome.map some))
  | .getOrInsert _ _ => .supplied ⟨outcome, false⟩
  | _ => .found (outcome.map some)

/-- What a tier of type `σ` does besides finding and writing texts. -/
structure TextService (σ : Type) extends TextTier σ where
  remove : TextKey → σ → Outcome Bool × σ
  clear : String → σ → Outcome Nat × σ
  clearAll : σ → Outcome Nat × σ
  ids : String → σ → Outcome (List String) × σ
  textTypes : σ → Outcome (List String) × σ
  age : TextKey → σ → Outcome (Option Nat) × σ
  modified : TextKey → σ → Outcome (Option Instant) × σ

def TextFiles.service : TextService TextFiles where
  toTextTier := TextFiles.tier
  remove := fun key f => f.remove key
  clear := fun textType f => f.clear textType
  clearAll := TextFiles.clearAll
  ids := fun textType f => f.ids textType
  textTypes := TextFiles.textTypes
  age := fun key f => f.age key
  modified := fun key f => f.modified key

/-- Texts in files with copies in memory, while so much memory is free. The files alone are asked
for names and times. -/
def FastTier.service (free : Double) : TextService FastTier where
  toTextTier := FastTier.tier free
  remove := FastTier.remove
  clear := FastTier.clear
  clearAll := FastTier.clearAll
  ids := fun textType => FastTier.onFiles fun f => f.ids textType
  textTypes := FastTier.onFiles TextFiles.textTypes
  age := fun key => FastTier.onFiles fun f => f.age key
  modified := fun key => FastTier.onFiles fun f => f.modified key

/-- What a cache answers to a request, and what it is afterwards. -/
def TextCache.answer {σ : Type} (s : TextService σ) (request : TextRequest) (c : TextCache σ) :
    TextAnswer × TextCache σ :=
  match request with
  | .get key => (c.get s.toTextTier key).map .found id
  | .getLines key => (c.getLines s.toTextTier key).map .lines id
  | .getOrInsert key make => (c.getOrInsert s.toTextTier key make).map .supplied id
  | .put key text => (c.put s.toTextTier key text).map .written id
  | .remove key => (c.onTier (s.remove key)).map .removed id
  | .clear textType => (c.onTier (s.clear textType)).map .cleared id
  | .clearAll => (c.onTier s.clearAll).map .cleared id
  | .ids textType => (c.onTier (s.ids textType)).map .named id
  | .textTypes => (c.onTier s.textTypes).map .named id
  | .age key => (c.onTier (s.age key)).map .aged id
  | .modified key => (c.onTier (s.modified key)).map .dated id

@[simp] theorem TextCache.tier_settle {σ : Type} (c : TextCache σ) (key : TextKey)
    (outcome : Outcome (Option String)) : (c.settle key outcome).tier = c.tier := by
  unfold settle
  cases outcome <;> rfl

/-- What steps in a row answer, and what state they leave. -/
def answersOf {ι σ α : Type} (step : ι → σ → α × σ) : List ι → σ → List α × σ
  | [], s => ([], s)
  | i :: rest, s =>
    let (a, s) := step i s
    let (all, s) := answersOf step rest s
    (a :: all, s)

/-- What every step keeps, steps in a row keep. -/
theorem answersOf_keeps {ι σ α : Type} {step : ι → σ → α × σ} {P : σ → Prop} {is : List ι}
    (hstep : ∀ i ∈ is, ∀ s, P s → P (step i s).2) {s : σ} (h : P s) :
    P (answersOf step is s).2 := by
  induction is generalizing s with
  | nil => exact h
  | cons i rest ih =>
    obtain ⟨hfirst, hrest⟩ := List.forall_mem_cons.1 hstep
    exact ih hrest (hfirst s h)

end CacheService
