/-!
# Failures

What can go wrong in the caches, as causes. The wording of each cause is in one place, and so is the
status that the admin service answers with.
-/

namespace CacheService

/-! ## Files and streams -/

inductive IoError where
  | notFound
  | invalidArgument
  | fileExists
  | notADirectory
  | isADirectory
  | nameTooLong
  | directoryNotEmpty
  | nulInName
  | invalidGzipHeader
  | unexpectedEnd
  | incompleteDeflate
  | corruptDeflate
  | checksumMismatch
  | invalidUtf8
  | other (message : String)
  deriving DecidableEq, Repr

namespace IoError

def message : IoError → String
  | notFound => "No such file or directory (os error 2)"
  | invalidArgument => "Invalid argument (os error 22)"
  | fileExists => "File exists (os error 17)"
  | notADirectory => "Not a directory (os error 20)"
  | isADirectory => "Is a directory (os error 21)"
  | nameTooLong => "File name too long (os error 36)"
  | directoryNotEmpty => "Directory not empty (os error 39)"
  | nulInName => "file name contained an unexpected NUL byte"
  | invalidGzipHeader => "invalid gzip header"
  | unexpectedEnd => "unexpected end of file"
  | incompleteDeflate => "incomplete deflate stream"
  | corruptDeflate => "corrupt deflate stream"
  | checksumMismatch => "corrupt gzip stream does not have a matching checksum"
  | invalidUtf8 => "stream did not contain valid UTF-8"
  | other message => message

end IoError

/-! ## Caches -/

inductive CacheError where
  /-- a query or an interpreter is missing or unfit -/
  | configuration (message : String)
  /-- an interpreter made no entry of a row or of a run of rows -/
  | missingKeyValue (interpreter : String)
  /-- a hook around the first load failed -/
  | initialization (handler : String) (message : String)
  /-- a lookup that must succeed found no value -/
  | keyNotFound (key : String) (lookup : String)
  /-- a file operation failed -/
  | io (path : String) (source : IoError)
  /-- a file was modified in the future -/
  | negativeAge (path : String) (aheadMillis : Nat)
  /-- a request body is well formed but not acceptable -/
  | invalidRequest (message : String)
  /-- a text type or an id cannot name a file -/
  | invalidTextType (message : String)
  /-- the query service refused a statement or failed while answering it -/
  | database (sql : String) (message : String)
  /-- a column is absent or holds another kind of value -/
  | column (message : String)
  /-- work handed to another thread did not come back -/
  | blocking (message : String)
  /-- a dump could not be written to its sink -/
  | sink (source : IoError)
  deriving DecidableEq, Repr

namespace CacheError

def message : CacheError → String
  | configuration message => s!"Configuration error: {message}"
  | missingKeyValue interpreter =>
    s!"Row interpreter {interpreter} did not produce a KeyValue"
  | initialization handler message =>
    s!"Cache initialization failed for {handler}: {message}"
  | keyNotFound key lookup => s!"Key not found: {key} (lookup {lookup})"
  | io path source => s!"I/O error on {path}: {source.message}"
  | negativeAge path ahead => s!"Negative age for {path}: modified {ahead} ms in the future"
  | invalidRequest message => s!"Invalid request: {message}"
  | invalidTextType message => s!"Invalid text cache identifier: {message}"
  | database sql message => s!"Database error running [{sql}]: {message}"
  | column message => s!"Column error: {message}"
  | blocking message => s!"Blocking task failed: {message}"
  | sink source => s!"Could not write cache contents: {source.message}"

def status : CacheError → Nat
  | keyNotFound .. => 404
  | invalidTextType _ => 400
  | invalidRequest _ => 400
  | negativeAge .. => 409
  | _ => 500

end CacheError

abbrev Outcome (α : Type) : Type :=
  Except CacheError α

end CacheService
