import CacheService.Proofs.Lookup.FiniteMap
import CacheService.Proofs.Lookup.Requests
import CacheService.Proofs.Text.Utf8

/-!
# Dumps on sinks that fail

A dump is written text by text to a sink that may run out of room at any byte, and is handed on at
the end, which may fail as well. What arrives is always a front part of the whole dump, and where it
is cut does not depend on how the dump was divided into texts (`Sink.writeAll_eq_write`). The
handler is the same afterwards (`Handler.dump_cut`).
-/

namespace CacheService

open Text (bytes bytes_append)

/-! ## Sinks -/

namespace Sink

/-- How many of a number of bytes there is room for, or more. -/
def room (s : Sink) (count : Nat) : Nat :=
  match s.limit with
  | none => count
  | some limit => limit - s.received.length

/-- A text is cut where the room ends, and is refused if something is cut off. -/
theorem write_eq (s : Sink) (text : String) :
    s.write text =
      (if (bytes text).length ≤ s.room (bytes text).length then .ok ()
        else .error (.sink (.other "sink full")),
      { s with received := s.received ++ (bytes text).take (s.room (bytes text).length) }) := by
  rcases s with ⟨_ | limit, flushFails, received⟩
  · simp [write, fitting, room]
  · by_cases hfits : (bytes text).length ≤ limit - received.length
    · simp [write, fitting, room, hfits, List.take_of_length_le]
    · have hroom : limit - received.length ≤ (bytes text).length := by omega
      simp [write, fitting, room, hfits, hroom, Nat.lt_of_not_le]

theorem write_of_fits (s : Sink) (text : String)
    (h : (bytes text).length ≤ s.room (bytes text).length) :
    s.write text = (.ok (), { s with received := s.received ++ bytes text }) := by
  rw [write_eq, if_pos h, List.take_of_length_le h]

/-- Writing two texts in one is writing the first, and then the second if the first has fitted. -/
theorem write_append (s : Sink) (front back : String) :
    s.write (front ++ back) =
      match s.write front with
      | (.error e, s) => (.error e, s)
      | (.ok (), s) => s.write back := by
  rcases s with ⟨_ | limit, flushFails, received⟩
  · -- without a limit everything fits
    simp [write_eq, room, bytes_append, List.take_of_length_le]
  · by_cases hfits : (bytes front).length ≤ limit - received.length
    · have hrest : (bytes front).length + (bytes back).length ≤ limit - received.length ↔
          (bytes back).length ≤ limit - (received.length + (bytes front).length) := by
        omega
      have hfirst := write_of_fits ⟨some limit, flushFails, received⟩ front hfits
      rw [hfirst]
      simp [write_eq, room, bytes_append, hrest, List.take_append, List.take_of_length_le hfits,
        Nat.sub_sub]
    · have hwhole : ¬ (bytes front).length + (bytes back).length ≤ limit - received.length := by
        omega
      have hcut : limit - received.length ≤ (bytes front).length := by omega
      simp [write_eq, room, hfits, hwhole, bytes_append, List.take_append_of_le_length hcut]

/-- Writing texts one after the other is writing all of them in one. -/
theorem writeAll_eq_write (s : Sink) (texts : List String) :
    s.writeAll texts = s.write (String.join texts) := by
  induction texts generalizing s with
  | nil =>
    rw [writeAll, write_of_fits] <;> simp [Text.bytes_eq]
  | cons text rest ih =>
    rw [String.join_cons, write_append, writeAll]
    rcases s.write text with ⟨e | u, s'⟩
    · rfl
    · exact ih s'

/-- What a sink has taken of texts, and the first failure: that of a write, or of handing on. -/
theorem print_eq (s : Sink) (texts : List String) (dump : List UInt8)
    (h : bytes (String.join texts) = dump) :
    s.print texts =
      (if dump.length ≤ s.room dump.length then s.flush
        else .error (.sink (.other "sink full")),
      { s with received := s.received ++ dump.take (s.room dump.length) }) := by
  rw [print, writeAll_eq_write, write_eq, h]
  by_cases hfits : dump.length ≤ s.room dump.length
  · rw [if_pos hfits, if_pos hfits]
    rfl
  · rw [if_neg hfits, if_neg hfits]

end Sink

/-! ## Tables -/

namespace KeyTable

variable {α : Type}

/-- A snapshot is in the order of the keys. -/
theorem pairwise_snapshot (t : KeyTable α) :
    t.snapshot.Pairwise fun a b => a.1.Precedes b.1 := by
  refine List.Pairwise.imp (fun {a b} h => ?_) Std.ExtTreeMap.ordered_keys_toList
  exact (Key.compare_eq_lt_iff a.1 b.1).1 h

/-- A snapshot has the entries of the table, and no others. -/
theorem mem_snapshot (t : KeyTable α) (key : Key) (value : α) :
    (key, value) ∈ t.snapshot ↔ t.entries[key]? = some value :=
  Std.ExtTreeMap.mem_toList_iff_getElem?_eq_some

theorem length_snapshot (t : KeyTable α) : t.snapshot.length = t.size :=
  Std.ExtTreeMap.length_toList

end KeyTable

/-! ## Handlers -/

namespace Handler

variable {σ α : Type}

/-- The dump of a handler is a line with the name, the policy and the number of entries, and a line
for each entry of the snapshot, by ascending keys. Whatever the state of the handler, a sink takes
the front part of the dump that it has room for. Nothing fails if it has room for all of it and can
hand it on; if not, the first failure is answered. The state stays as it is. It makes no difference
in how many pieces the dump is written. -/
theorem dump_cut (h : Handler σ α) (render : α → String) (sink : Sink) (s : State σ α) :
    let entries := s.table.snapshot
    let dump := bytes (s!"{h.source.name} ({h.policy.title}, {entries.length} entries)\n" ++
      String.join (entries.map fun e => s!"{e.1.display}: {render e.2}\n"))
    let room := match sink.limit with
      | none => dump.length
      | some limit => limit - sink.received.length
    let sink' := { sink with received := sink.received ++ dump.take room }
    entries.Pairwise (fun a b => a.1.Precedes b.1) ∧
      (∀ key value, (key, value) ∈ entries ↔ s.table.entries[key]? = some value) ∧
      ∃ outcome, h.serve s (.print render sink) = (.printed outcome sink', s) ∧
        (outcome = .ok () ↔ dump.length ≤ room ∧ sink.flushFails = false) ∧
        (room < dump.length → outcome = .error (.sink (.other "sink full"))) ∧
        (dump.length ≤ room → sink.flushFails = true →
          outcome = .error (.sink (.other "flush failed"))) ∧
        ∀ pieces, bytes (String.join pieces) = dump → sink.print pieces = (outcome, sink') := by
  intro entries dump room sink'
  refine ⟨s.table.pairwise_snapshot, s.table.mem_snapshot,
    if dump.length ≤ room then sink.flush else .error (.sink (.other "sink full")),
    ?_, ?_, ?_, ?_, ?_⟩
  · -- the lines that are printed make up the dump
    have hlines :
        bytes (String.join (Dump.lines render h.source.name h.policy s.table)) = dump := by
      rw [Dump.lines, String.join_cons, Dump.header, ← s.table.length_snapshot]
      rfl
    rw [serve, print, sink.print_eq _ dump hlines]
    rfl
  · by_cases hfits : dump.length ≤ room
    · cases hflush : sink.flushFails <;> simp [hfits, Sink.flush, hflush]
    · simp [hfits]
  · intro hlong
    exact if_neg (Nat.not_le.2 hlong)
  · intro hfits hfails
    rw [if_pos hfits, Sink.flush, if_pos hfails]
  · -- it makes no difference how a dump is cut into pieces
    intro pieces hpieces
    exact sink.print_eq pieces dump hpieces

end Handler
end CacheService
