import CacheService.Lookup.Load
import CacheService.Lookup.OneShot
import CacheService.Lookup.Source
import CacheService.Row.QueryService

/-!
# Lookup tables that fill themselves

A handler joins a source, a query service and a policy. Its state is the table, the guard of the
initial load, the connection and the counts of calls to the source.

The initial load is bracketed by the hooks of the source and happens once; a refresh empties the
table and repeats it. Under the full policy a lookup only reads the table. Under the lazy policy a
lookup that misses runs the statement for its key and reads the table again, so a key that the
service does not know is asked for each time.
-/

namespace CacheService

/-- A source with the service that answers it and the policy that fills its table. -/
structure Handler (σ α : Type) where
  policy : Policy
  source : Provider α
  service : QueryService σ

/-- What the initial load and the loads of single keys change. -/
structure Handler.Contents (σ α : Type) where
  table : KeyTable α := .empty
  link : Connection σ
  /-- calls of the hook before the load -/
  beforeCalls : Nat := 0
  /-- calls of the hook after the load -/
  afterCalls : Nat := 0
  /-- calls that asked for a statement -/
  queryCalls : Nat := 0

namespace Handler

variable {σ α : Type}

/-! ## Loading -/

def hookFailure (h : Handler σ α) (e : CacheError) : CacheError :=
  .initialization h.source.name e.message

def runBefore (h : Handler σ α) (s : Contents σ α) : Outcome Unit × Contents σ α :=
  let call := s.beforeCalls + 1
  let s := { s with beforeCalls := call }
  match h.source.before call with
  | some e => (.error (h.hookFailure e), s)
  | none => (.ok (), s)

def runAfter (h : Handler σ α) (s : Contents σ α) : Outcome Unit × Contents σ α :=
  let call := s.afterCalls + 1
  let s := { s with afterCalls := call }
  match h.source.after call with
  | some e => (.error (h.hookFailure e), s)
  | none => (.ok (), s)

def load (h : Handler σ α) (sql : String) (s : Contents σ α) : Outcome Unit × Contents σ α :=
  match s.link.execute h.service sql with
  | (.error e, link) => (.error e, { s with link })
  | (.ok cursor, link) =>
    let (outcome, cursor, table) := s.table.load h.source.interpreter cursor
    (outcome.map fun _ => (), { s with table, link := link.noteClosed cursor })

/-- The load between the hooks. The full policy cannot do without a statement. -/
def loadInitial (h : Handler σ α) (s : Contents σ α) : Outcome Unit × Contents σ α :=
  let call := s.queryCalls + 1
  let s := { s with queryCalls := call }
  match h.policy with
  | .full =>
    match h.source.fullQuery call with
    | some sql => h.load sql s
    | none => (.error (.configuration s!"{h.source.name} has no full initialization query"), s)
  | .lazy =>
    match h.source.seedQuery call with
    | some sql => h.load sql s
    | none => (.ok (), s)

/-- The initial load with its hooks. Each part runs only if the parts before it succeeded. -/
def start (h : Handler σ α) (s : Contents σ α) : Outcome Unit × Contents σ α :=
  match h.runBefore s with
  | (.error e, s) => (.error e, s)
  | (.ok (), s) =>
    match h.loadInitial s with
    | (.error e, s) => (.error e, s)
    | (.ok (), s) => h.runAfter s

def restart (h : Handler σ α) (s : Contents σ α) : Outcome Unit × Contents σ α :=
  h.start { s with table := .empty }

end Handler

/-! ## Operations -/

structure Handler.State (σ α : Type) extends Handler.Contents σ α where
  guard : OneShot := {}

namespace Handler

variable {σ α : Type}

/-- Runs the initial load unless it has been started before. -/
def init (h : Handler σ α) (s : State σ α) : Outcome Unit × State σ α :=
  let (outcome, guard, contents) := s.guard.run h.start s.toContents
  (outcome.map fun _ => (), { toContents := contents, guard })

/-- Empties the table and loads again, whether it was loaded before or not. -/
def refresh (h : Handler σ α) (s : State σ α) : Outcome Unit × State σ α :=
  let (outcome, guard, contents) := OneShot.rerun h.restart s.toContents
  (outcome, { toContents := contents, guard })

/-- Loads the rows of a key that the table lacks, and reads the table again. -/
def fetch (h : Handler σ α) (key : Key) (s : State σ α) : Outcome (Option α) × State σ α :=
  let call := s.queryCalls + 1
  match h.load (h.source.addQuery call key) { s.toContents with queryCalls := call } with
  | (.error e, contents) => (.error e, { s with toContents := contents })
  | (.ok (), contents) => (.ok (contents.table.get? key), { s with toContents := contents })

def lookup? (h : Handler σ α) (key : Key) (s : State σ α) : Outcome (Option α) × State σ α :=
  match h.init s with
  | (.error e, s) => (.error e, s)
  | (.ok (), s) =>
    match h.policy, s.table.get? key with
    | _, some v => (.ok (some v), s)
    | .full, none => (.ok none, s)
    | .lazy, none => h.fetch key s

/-- The value of a key, or nothing. A null key has no value and starts no load. -/
def lookupOrNone (h : Handler σ α) (key : Key) (s : State σ α) :
    Outcome (Option α) × State σ α :=
  if key.isNull then (.ok none, s) else h.lookup? key s

def notFound (h : Handler σ α) (key : Key) : CacheError :=
  .keyNotFound key.display h.source.name

/-- The value of a key, which must be there. A null key has none and starts no load. -/
def lookup (h : Handler σ α) (key : Key) (s : State σ α) : Outcome α × State σ α :=
  if key.isNull then (.error (h.notFound key), s)
  else
    match h.lookup? key s with
    | (.error e, s) => (.error e, s)
    | (.ok none, s) => (.error (h.notFound key), s)
    | (.ok (some v), s) => (.ok v, s)

end Handler

namespace Handler.State

variable {σ α : Type}

def new (state : σ) : State σ α where
  link := { state }

def isInitialized (s : State σ α) : Bool :=
  s.guard.started

def queries (s : State σ α) : Nat :=
  s.link.executed.length

end Handler.State
end CacheService
