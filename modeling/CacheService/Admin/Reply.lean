import CacheService.Calendar
import CacheService.Json.Document
import CacheService.TextStore.Counts
import CacheService.TextStore.FileTree
import CacheService.TextStore.Name

/-!
# Replies

What the service says in answer to a request, and the document that says it.
-/

namespace CacheService

inductive Reply where
  /-- an object, with the seconds that are left to it -/
  | object (key value : String) (seconds : Option Nat)
  | stored (key : String)
  | removed (count : Nat)
  | guaranteed (key : String) (found : Bool)
  | text (key : TextKey) (contents : String)
  | cleared (textType : String) (count : Nat)
  /-- the seconds since a text was written, and when that was -/
  | age (key : TextKey) (seconds : Nat) (modified : Option Instant)
  /-- numbers of objects and of texts in memory, and the counts of reads -/
  | stats (objects copies : Nat) (total : HitCounts) (perType : List (String × HitCounts))
  /-- the service works at that time -/
  | healthy (now : Instant)
  | failed (e : CacheError)

structure Response where
  status : Nat
  reply : Option Reply

namespace Response

def ok (reply : Reply) : Response where
  status := 200
  reply := some reply

/-- The answer to a request that failed. -/
def failure (e : CacheError) : Response where
  status := e.status
  reply := some (.failed e)

def bare (status : Nat) : Response where
  status := status
  reply := none

end Response

namespace Reply

open Json (Document)

def countsDocument (c : HitCounts) : Document :=
  .object [("hits", .natural c.hits), ("misses", .natural c.misses), ("hit_rate", .real c.rate)]

def orNull {α : Type} (f : α → Document) : Option α → Document
  | some a => f a
  | none => .null

def document : Reply → Document
  | object key value seconds =>
    .object [("key", .text key), ("value", .text value), ("ttl", orNull .natural seconds)]
  | stored key => .object [("message", .text s!"Key '{key}' set successfully"), ("key", .text key)]
  | removed count => .object [("removed", .natural count)]
  | guaranteed key found => .object [("key", .text key), ("guaranteed", .flag found)]
  | text key contents =>
    .object [("text_type", .text key.textType), ("id", .text key.id), ("contents", .text contents)]
  | cleared textType count => .object [("text_type", .text textType), ("removed", .natural count)]
  | age key seconds modified =>
    .object [("text_type", .text key.textType), ("id", .text key.id),
      ("age_seconds", .natural seconds),
      ("last_modified", orNull (.text ∘ Calendar.timestamp Calendar.zoneLetter) modified)]
  | stats objects copies total perType =>
    .object [("objects", .natural objects), ("text_memory_entries", .natural copies),
      ("text_total", countsDocument total),
      ("text_types", .object (perType.map fun (textType, c) => (textType, countsDocument c)))]
  | healthy now =>
    .object [("status", .text "healthy"),
      ("timestamp", .text (Calendar.timestamp Calendar.zeroOffset now))]
  | failed e => .object [("error", .text e.message)]

end Reply
end CacheService
