import CacheService.Sql.Comparison
import CacheService.Sql.Extraction
import CacheService.Sql.Pattern

/-!
# Functions

The functions that a condition can call. An argument is computed only if the function needs it, and
most functions answer null as soon as one of their arguments is null.
-/

namespace CacheService
namespace Sql

inductive Function where
  | abs
  | length
  | lower
  | upper
  | typeName
  | firstNotNull
  | nullIfEqual
  | choose
  | substring
  | position
  /-- removes characters from the beginning, the end or both -/
  | trim (left right : Bool)
  | replace
  | hex
  | unicode
  | least
  | greatest
  | like
  | glob
  /-- answers its argument -/
  | same
  /-- the part of a document, as a document or as a value -/
  | extract (asValue : Bool)
  deriving DecidableEq, Repr

namespace Function

structure Entry where
  function : Function
  least : Nat
  most : Nat

def manyArguments : Nat :=
  127

def entry? (name : String) : Option Entry :=
  match name.toUpper with
  | "ABS" => some ⟨abs, 1, 1⟩
  | "LENGTH" => some ⟨length, 1, 1⟩
  | "LOWER" => some ⟨lower, 1, 1⟩
  | "UPPER" => some ⟨upper, 1, 1⟩
  | "TYPEOF" => some ⟨typeName, 1, 1⟩
  | "COALESCE" => some ⟨firstNotNull, 2, manyArguments⟩
  | "IFNULL" => some ⟨firstNotNull, 2, 2⟩
  | "NULLIF" => some ⟨nullIfEqual, 2, 2⟩
  | "IIF" => some ⟨choose, 3, 3⟩
  | "SUBSTR" | "SUBSTRING" => some ⟨substring, 2, 3⟩
  | "INSTR" => some ⟨position, 2, 2⟩
  | "TRIM" => some ⟨trim true true, 1, 2⟩
  | "LTRIM" => some ⟨trim true false, 1, 2⟩
  | "RTRIM" => some ⟨trim false true, 1, 2⟩
  | "REPLACE" => some ⟨replace, 3, 3⟩
  | "HEX" => some ⟨hex, 1, 1⟩
  | "UNICODE" => some ⟨unicode, 1, 1⟩
  | "MIN" => some ⟨least, 2, manyArguments⟩
  | "MAX" => some ⟨greatest, 2, manyArguments⟩
  | "LIKE" => some ⟨like, 2, 3⟩
  | "GLOB" => some ⟨glob, 2, 2⟩
  | "LIKELY" | "UNLIKELY" => some ⟨same, 1, 1⟩
  | "->" => some ⟨extract false, 2, 2⟩
  | "->>" => some ⟨extract true, 2, 2⟩
  | _ => none

/-- How many arguments a function of all rows has. It has no value for a single row. -/
def ofAllRows? (name : String) : Option (Nat × Nat) :=
  match name.toUpper with
  | "COUNT" => some (0, 1)
  | "GROUP_CONCAT" => some (1, 2)
  | "AVG" | "MAX" | "MIN" | "SUM" | "TOTAL" => some (1, 1)
  | _ => none

/-- Functions that exist but are not understood. -/
def unknown : List String :=
  ["CHANGES", "CHAR", "CURRENT_DATE", "CURRENT_TIME", "CURRENT_TIMESTAMP", "DATE", "DATETIME",
    "FORMAT", "JSON", "JSON_EXTRACT", "JULIANDAY", "LAST_INSERT_ROWID", "LIKELIHOOD", "PRINTF",
    "QUOTE", "RANDOM", "RANDOMBLOB", "ROUND", "SIGN", "SOUNDEX", "STRFTIME", "TIME",
    "TOTAL_CHANGES", "UNIXEPOCH", "ZEROBLOB"]

/-! ## Results -/

def ofString (s : String) : Cell :=
  .text (Text.bytes s)

def ofChars (cs : List Char) : Cell :=
  ofString (String.ofList cs)

def ofNat (n : Nat) : Cell :=
  .integer (Int64.ofNat n)

/-- The size of a number without its sign. The least integer has none. -/
def magnitude : Cell → Except Fault Cell
  | .null => .ok .null
  | .integer i =>
    if i = Int64.minValue then .error .overflow
    else .ok (.integer (if i < 0 then -i else i))
  | c => .ok (.real (.ofMagnitude false c.toDouble.magnitude))

def typeOf : Cell → String
  | .null => "null"
  | .integer _ => "integer"
  | .real _ => "real"
  | .text _ => "text"
  | .blob _ => "blob"

/-- Where a part is cut out: what comes before it and how long it is. A start that is negative
counts from the end, and a negative count takes what stands before the start. -/
def cut (length : Nat) (start : Int) (count : Option Int) : Nat × Nat :=
  let size : Int := count.elim (1000000000 : Int) fun n => n.natAbs
  let (first, size) :=
    if start < 0 then
      let first := start + length
      if first < 0 then (0, max 0 (size + first)) else (first, size)
    else if 0 < start then (start - 1, size)
    else (0, max 0 (size - 1))
  if count.any (· < 0) then
    let before := first - size
    if before < 0 then (0, (size + before).toNat) else (before.toNat, size.toNat)
  else (first.toNat, size.toNat)

def part (c : Cell) (start : Int) (count : Option Int) : Cell :=
  match c with
  | .null => .null
  | .blob bytes =>
    let (first, size) := cut bytes.length start count
    .blob ((bytes.drop first).take size)
  | c =>
    let cs := c.toChars
    let (first, size) := cut cs.length start count
    ofChars ((cs.drop first).take size)

/-- The number of the place, counted from one, at which some items first stand in a list, and zero
if they stand nowhere. -/
def placeOf {α : Type} [BEq α] (sought : List α) : Nat → List α → Nat
  | n, [] => if sought.isEmpty then n else 0
  | n, c :: rest =>
    if sought.isPrefixOf (c :: rest) then n else placeOf sought (n + 1) rest

def exchange (sought put : List Char) (skip : Nat) : List Char → List Char
  | [] => []
  | c :: rest =>
    match skip with
    | n + 1 => exchange sought put n rest
    | 0 =>
      if sought.isPrefixOf (c :: rest) then put ++ exchange sought put (sought.length - 1) rest
      else c :: exchange sought put 0 rest

def strip (left right : Bool) (removed cs : List Char) : List Char :=
  let cs := if left then cs.dropWhile (· ∈ removed) else cs
  if right then (cs.reverse.dropWhile (· ∈ removed)).reverse else cs

def upperByte (b : UInt8) : UInt8 :=
  if 0x61 ≤ b && b ≤ 0x7A then b - 0x20 else b

def hexDigits (b : UInt8) : List Char :=
  (Nat.toDigits 16 (b.toNat / 16) ++ Nat.toDigits 16 (b.toNat % 16)).map Char.toUpper

def matching (p : Pattern) (c : Cell) : Cell :=
  .ofTruth (some (p.accepts c.toChars))

def isLike (pattern c : Cell) (escape : Option Cell) : Except Fault Cell := do
  let escape ← match escape with
    | none => pure none
    | some .null => return .null
    | some e =>
      match e.toChars with
      | [c] => pure (some c)
      | _ => throw .escape
  if pattern = .null || c = .null then return .null
  return matching (.ofLike escape pattern.toChars) c

def extreme (better : Ordering → Bool) : List Cell → Cell
  | [] => .null
  | c :: rest =>
    if (c :: rest).any (· = .null) then .null
    else rest.foldl (fun best d => if better (compare d best) then d else best) c

def firstKnown : List (Except Fault Cell) → Except Fault Cell
  | [] => .ok .null
  | .ok .null :: rest => firstKnown rest
  | c :: _ => c

def onCells (f : Function) (args : List Cell) : Except Fault Cell :=
  let orNull (c : Cell) : Cell := if args.any (· = .null) then .null else c
  match f, args with
  | abs, [c] => magnitude c
  | length, [.blob bytes] => .ok (ofNat bytes.length)
  | length, [c] => .ok (orNull (ofNat c.toChars.length))
  | lower, [c] => .ok (orNull (.text (c.toBytes.map Collation.lowerByte)))
  | upper, [c] => .ok (orNull (.text (c.toBytes.map upperByte)))
  | typeName, [c] => .ok (ofString (typeOf c))
  | nullIfEqual, [c, d] => .ok (if compare c d = .eq then .null else c)
  | substring, [c, start] => .ok (orNull (part c start.toInteger.toInt none))
  | substring, [c, start, count] =>
    .ok (orNull (part c start.toInteger.toInt (some count.toInteger.toInt)))
  | position, [.blob bytes, .blob sought] => .ok (ofNat (placeOf sought 1 bytes))
  | position, [c, sought] => .ok (orNull (ofNat (placeOf sought.toChars 1 c.toChars)))
  | trim left right, [c] => .ok (orNull (ofChars (strip left right [' '] c.toChars)))
  | trim left right, [c, removed] =>
    .ok (orNull (ofChars (strip left right removed.toChars c.toChars)))
  | replace, [c, sought, put] =>
    if sought.toChars.isEmpty then .ok (orNull c)
    else .ok (orNull (ofChars (exchange sought.toChars put.toChars 0 c.toChars)))
  | hex, [c] => .ok (ofChars (c.toBytes.flatMap hexDigits))
  | unicode, [c] => .ok ((c.toChars.head?.map fun c => ofNat c.toNat).getD .null)
  | least, args => .ok (extreme (· != .gt) args)
  | greatest, args => .ok (extreme (· == .gt) args)
  | like, [pattern, c] => isLike pattern c none
  | like, [pattern, c, escape] => isLike pattern c (some escape)
  | glob, [pattern, c] => .ok (orNull (matching (.ofGlob none pattern.toChars) c))
  | same, [c] => .ok c
  | extract asValue, [c, path] => Extraction.extract asValue c path
  | _, _ => .error .unsupported

/-- The result for arguments that are computed on demand. -/
def apply (f : Function) (args : List (Except Fault Cell)) : Except Fault Cell :=
  match f, args with
  | firstNotNull, args => firstKnown args
  | choose, [test, yes, no] => do if (← test).truth? = some true then yes else no
  | f, args => do f.onCells (← args.mapM id)

end Function
end Sql
end CacheService
