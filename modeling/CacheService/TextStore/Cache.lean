import CacheService.Text.Lines
import CacheService.TextStore.Counts
import CacheService.TextStore.Files

/-!
# Caches of texts

A cache adds counters to a tier that finds and writes texts. Names are checked before anything else
happens. Every read that comes to an end without a failure is counted once, by whether it found a
text.
-/

namespace CacheService

structure TextCache (σ : Type) where
  tier : σ
  stats : Stats := {}

structure TextTier (σ : Type) where
  find : TextKey → σ → Outcome (Option String) × σ
  write : TextKey → String → σ → Outcome Unit × σ

namespace TextCache

variable {σ : Type}

/-- Counts a read that has ended. -/
def settle (c : TextCache σ) (key : TextKey) (outcome : Outcome (Option String)) : TextCache σ :=
  match outcome with
  | .ok found => { c with stats := c.stats.record key.textType found.isSome }
  | .error _ => c

def get (t : TextTier σ) (key : TextKey) (c : TextCache σ) :
    Outcome (Option String) × TextCache σ :=
  match TextName.checkKey key with
  | .error e => (.error e, c)
  | .ok () =>
    let (outcome, tier) := t.find key c.tier
    (outcome, settle { c with tier } key outcome)

def linesOf (outcome : Outcome (Option String)) : Outcome (Option (List String)) :=
  outcome.map fun found => found.map Text.lines

def getLines (t : TextTier σ) (key : TextKey) (c : TextCache σ) :
    Outcome (Option (List String)) × TextCache σ :=
  let (outcome, c) := c.get t key
  (linesOf outcome, c)

/-- The text that a caller gets who can make one, and whether it was made. -/
structure Supplied where
  outcome : Outcome String
  made : Bool

/-- Goes on after a read: makes and writes the text if there was none. -/
def supply (t : TextTier σ) (key : TextKey) (make : Outcome String)
    (outcome : Outcome (Option String)) (c : TextCache σ) : Supplied × TextCache σ :=
  match outcome with
  | .error e => (⟨.error e, false⟩, c)
  | .ok (some text) => (⟨.ok text, false⟩, c)
  | .ok none =>
    match make with
    | .error e => (⟨.error e, true⟩, c)
    | .ok text =>
      let (written, tier) := t.write key text c.tier
      (⟨written.map fun _ => text, true⟩, { c with tier })

def getOrInsert (t : TextTier σ) (key : TextKey) (make : Outcome String) (c : TextCache σ) :
    Supplied × TextCache σ :=
  let (outcome, c) := c.get t key
  c.supply t key make outcome

def put (t : TextTier σ) (key : TextKey) (text : String) (c : TextCache σ) :
    Outcome Unit × TextCache σ :=
  match TextName.checkKey key with
  | .error e => (.error e, c)
  | .ok () =>
    let (outcome, tier) := t.write key text c.tier
    (outcome, { c with tier })

/-- An operation of the tier that is not counted. -/
def onTier {α : Type} (act : σ → α × σ) (c : TextCache σ) : α × TextCache σ :=
  let (a, tier) := act c.tier
  (a, { c with tier })

end TextCache

def TextFiles.tier : TextTier TextFiles where
  find := fun key f => f.find key
  write := fun key text f => f.write key text

abbrev DiskCache : Type :=
  TextCache TextFiles
end CacheService
