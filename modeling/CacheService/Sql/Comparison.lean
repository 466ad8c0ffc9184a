import CacheService.Sql.Numeral

/-!
# Comparing operands

Before two operands are compared, texts may be taken for numbers or numbers for texts, as the types
of the operands ask for. Texts are then compared by the rule of a collation.
-/

namespace CacheService

/-- The kind of value that an operand prefers. -/
inductive Affinity where
  | blob
  | text
  | numeric
  | integer
  | real
  deriving DecidableEq, Repr

namespace Affinity

def isNumeric (t : Affinity) : Bool :=
  t = numeric || t = integer || t = real

def occurs (word : String) : List Char → Bool
  | [] => word.isEmpty
  | c :: rest => word.toList.isPrefixOf (c :: rest) || occurs word rest

def ofType (name : String) : Affinity :=
  let cs := name.toUpper.toList
  if occurs "INT" cs then integer
  else if ["CHAR", "CLOB", "TEXT"].any fun w => occurs w cs then text
  else if occurs "BLOB" cs then blob
  else if ["REAL", "FLOA", "DOUB"].any fun w => occurs w cs then real
  else numeric

def cast (t : Affinity) (c : Cell) : Cell :=
  if c = .null then .null
  else
    match t with
    | blob => .blob c.toBytes
    | text => .text c.toBytes
    | integer => .integer c.toInteger
    | real => .real c.toDouble
    | numeric =>
      match c, c.toNumber with
      | .real x, _ => .real x
      | _, .real x =>
        if x.isFinite && Double.ofInt x.truncated = x && x.truncated.natAbs < 1 <<< 51 then
          .integer (Int64.ofInt x.truncated)
        else .real x
      | _, n => n

/-- Which affinity a comparison has between operands of these affinities, of which a side may have
none. Two sides that both have one agree only if one of them is numeric. -/
def joint (a b : Option Affinity) : Option Affinity :=
  match a, b with
  | some a, some b => some (if a.isNumeric || b.isNumeric then numeric else blob)
  | some a, none => some a
  | none, b => b

def prepare (t : Option Affinity) (a b : Cell) : Cell × Cell :=
  match t with
  | none => (a, b)
  | some t =>
    if t.isNumeric then (a.asNumber, b.asNumber)
    else if t = text && (a.rank = 2 || b.rank = 2) then (a.asText, b.asText)
    else (a, b)

end Affinity

inductive Collation where
  | binary
  /-- letters of ASCII are compared without regard to case -/
  | noCase
  /-- blanks at the end are left out -/
  | rightTrim
  deriving DecidableEq, Repr

namespace Collation

def ofName? (name : String) : Option Collation :=
  match name.toUpper with
  | "BINARY" => some binary
  | "NOCASE" => some noCase
  | "RTRIM" => some rightTrim
  | _ => none

def lowerByte (b : UInt8) : UInt8 :=
  if 0x41 ≤ b && b ≤ 0x5A then b + 0x20 else b

/-- A cell in which a text stands for all texts that the rule takes for equal. -/
def fold (rule : Collation) : Cell → Cell
  | .text bytes =>
    match rule with
    | binary => .text bytes
    | noCase => .text (bytes.map lowerByte)
    | rightTrim => .text (bytes.reverse.dropWhile (· = 0x20)).reverse
  | c => c

def compare (rule : Collation) (a b : Cell) : Ordering :=
  Ord.compare (rule.fold a) (rule.fold b)

end Collation
end CacheService
