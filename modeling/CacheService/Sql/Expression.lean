import CacheService.Sql.Arithmetic
import CacheService.Sql.Function
import CacheService.Sql.Table

/-!
# Expressions

What a condition or a column of a result is computed from: literals, columns, operators and
functions. An expression is checked before it is computed, so that a wrong name is refused even if
there are no rows.
-/

namespace CacheService
namespace Sql

inductive UnaryOperator where
  | not
  | minus
  | plus
  | invert
  deriving DecidableEq, Repr

inductive Operator where
  | or
  | and
  | equal
  | unequal
  | is
  | isNot
  | less
  | atMost
  | greater
  | atLeast
  | arithmetic (op : Operation)
  deriving DecidableEq, Repr

inductive Expression where
  | literal (c : Cell)
  /-- the word for a truth value -/
  | truth (b : Bool)
  /-- a column, with the names before its points -/
  | column (path : List String) (place : Lexeme)
  | unary (op : UnaryOperator) (a : Expression)
  | joined (op : Operator) (a b : Expression)
  /-- the second or the third expression, depending on the truth of the first -/
  | choice (test yes no : Expression)
  | cast (type : Affinity) (a : Expression)
  | collate (name : String) (a : Expression)
  | call (name : Lexeme) (args : List Expression)
  /-- whether the value stands in the only column of a table -/
  | member (a : Expression) (table : List String)
  /-- several values between brackets, which are understood nowhere -/
  | tuple (items : List Expression)

namespace Expression

def affinity? (env : Environment) : Expression → Option Affinity
  | column path _ =>
    (env.column? path).map fun
      | .number => .integer
      | .index _ => .blob
  | cast type _ => some type
  | collate _ a => a.affinity? env
  | _ => none

def collation? : Expression → Option String
  | collate name _ => some name
  | unary .plus a => a.collation?
  | cast _ a => a.collation?
  | _ => none

/-- The collation by which two operands are compared: that of the first one that names one. -/
def collationName (a b : Expression) : String :=
  (a.collation? <|> b.collation?).getD "BINARY"

def isConstant : Expression → Bool
  | literal _ => true
  | truth _ => true
  | column _ _ => false
  | unary _ a => a.isConstant
  | joined _ a b => a.isConstant && b.isConstant
  | choice a b c => a.isConstant && b.isConstant && c.isConstant
  | cast _ a => a.isConstant
  | collate _ a => a.isConstant
  | call _ _ => false
  | member _ _ => false
  | tuple _ => false

/-! ## Checking -/

/-- Refuses a name that is no column. A name between double quotes may be a text instead. -/
def checkColumn (env : Environment) (path : List String) (place : Lexeme) : Except Fault Unit :=
  match path, place.token with
  | [_], .name '"' _ => .ok ()
  | _, _ => if (env.column? path).isSome then .ok () else .error (.noColumn path place)

/-- Refuses a call of a function that is none or has other arguments. A function of all rows can be
called only for a result, and is not understood there. -/
def checkCall (env : Environment) (name : Lexeme) (count : Nat) : Except Fault Unit :=
  let upper := name.called.toUpper
  let fits (bounds : Nat × Nat) : Bool := bounds.1 ≤ count && count ≤ bounds.2
  let bounds? := (Function.entry? upper).map fun e => (e.least, e.most)
  let ofAllRows? := Function.ofAllRows? upper
  if bounds?.any fits || (upper = "MATCH" && count = 2) then .ok ()
  else if ofAllRows?.any fits then .error (if env.forResult then .unsupported else .misuse name)
  else if bounds?.isSome || ofAllRows?.isSome then .error (.argumentCount name)
  else if upper ∈ Function.unknown then .error .unsupported
  else .error (.noFunction name)

def refuseKept : Option Fault → Except Fault (Option Fault)
  | none => .ok none
  | some fault => .error fault

mutual

/-- Looks for wrong names. The fault of a call is kept while only columns and calls are met behind
it, so that a fault of one of these is the one that is found. -/
def findFault (env : Environment) (kept : Option Fault) :
    Expression → Except Fault (Option Fault)
  | truth _ => .ok kept
  | column path place => do
    checkColumn env path place
    return kept
  | call name args =>
    match checkCall env name args.length with
    | .ok () => findFaultInAll env kept args
    | .error .unsupported => .error .unsupported
    | .error fault => findFaultInAll env (some fault) args
  | literal _ => refuseKept kept
  | unary _ a => do
    a.findFault env (← refuseKept kept)
  | joined _ a b => do
    b.findFault env (← a.findFault env (← refuseKept kept))
  | choice a b c => do
    c.findFault env (← b.findFault env (← a.findFault env (← refuseKept kept)))
  | cast _ a => do
    a.findFault env (← refuseKept kept)
  | collate _ a => do
    a.findFault env (← refuseKept kept)
  | member a table => do
    let kept ← refuseKept kept
    discard (env.tables.find table)
    a.findFault env kept
  | tuple items => do
    discard (findFaultInAll env (← refuseKept kept) items)
    throw .unsupported

def findFaultInAll (env : Environment) (kept : Option Fault) :
    List Expression → Except Fault (Option Fault)
  | [] => .ok kept
  | a :: rest => do
    findFaultInAll env (← a.findFault env kept) rest

end

def checkNames (env : Environment) (a : Expression) : Except Fault Unit := do
  discard (refuseKept (← a.findFault env none))

def checkCollation (name : String) : Except Fault Unit :=
  if (Collation.ofName? name).isSome then .ok () else .error (.noCollation name)

mutual

/-- Refuses wrong collations of operands that are compared, and tables that are no lists. -/
def checkUses (env : Environment) : Expression → Except Fault Unit
  | literal _ => .ok ()
  | truth _ => .ok ()
  | column _ _ => .ok ()
  | unary _ a => a.checkUses env
  | joined op a b => do
    if op ∈ [.equal, .unequal, .is, .isNot, .less, .atMost, .greater, .atLeast] then
      checkCollation (collationName a b)
    a.checkUses env
    b.checkUses env
  | choice a b c => do
    a.checkUses env
    b.checkUses env
    c.checkUses env
  | cast _ a => a.checkUses env
  | collate _ a => a.checkUses env
  | call _ args => checkAllUses env args
  | member a table => do
    let t ← env.tables.find table
    if t.columns != 1 then throw (.listWidth t.columns)
    a.checkUses env
  | tuple items => checkAllUses env items

def checkAllUses (env : Environment) : List Expression → Except Fault Unit
  | [] => .ok ()
  | a :: rest => do
    a.checkUses env
    checkAllUses env rest

end

/-! ## Computing -/

/-- Whether both are true. It is unknown only if one is unknown and the other is not false. -/
def both : Option Bool → Option Bool → Option Bool
  | some false, _ => some false
  | _, some false => some false
  | some true, b => b
  | none, _ => none

def opposite (b : Option Bool) : Option Bool :=
  b.map Bool.not

/-- The result of an operator on cells that are as they are compared. -/
def result (op : Operator) (rule : Collation) (a b : Cell) : Cell :=
  let compared (test : Ordering → Bool) : Cell :=
    if a = .null || b = .null then .null else .ofTruth (some (test (rule.compare a b)))
  match op with
  | .or => .ofTruth (opposite (both (opposite a.truth?) (opposite b.truth?)))
  | .and => .ofTruth (both a.truth? b.truth?)
  | .equal => compared Ordering.isEq
  | .unequal => compared Ordering.isNe
  | .less => compared Ordering.isLT
  | .atMost => compared Ordering.isLE
  | .greater => compared Ordering.isGT
  | .atLeast => compared Ordering.isGE
  | .is => .ofTruth (some (rule.compare a b).isEq)
  | .isNot => .ofTruth (some (rule.compare a b).isNe)
  | .arithmetic op => op.apply a b

def unaryResult (op : UnaryOperator) (a : Cell) : Cell :=
  match op with
  | .not => .ofTruth (opposite a.truth?)
  | .minus => a.minus
  | .plus => a
  | .invert => a.inverted

/-- The result of an operator on computed operands. Behind `IS`, the word for a truth value asks
whether the operand counts as true. -/
def joinedResult (env : Environment) (op : Operator) (a b : Expression) (x y : Cell) : Cell :=
  match op, b with
  | .is, truth b => .ofTruth (some (x.truth? == some b))
  | .isNot, truth b => .ofTruth (some (x.truth? != some b))
  | .arithmetic op, _ => op.apply x y
  | .and, _ => result .and .binary x y
  | .or, _ => result .or .binary x y
  | op, b =>
    let rule := (Collation.ofName? (collationName a b)).getD .binary
    let (x, y) := Affinity.prepare (Affinity.joint (a.affinity? env) (b.affinity? env)) x y
    result op rule x y

/-- Whether a cell is among some others, null if that is unknown. -/
def memberResult (kind : Option Affinity) (rule : Collation) (c : Cell) (cells : List Cell) :
    Cell :=
  let found (d : Cell) : Cell :=
    let (x, y) := Affinity.prepare kind c d
    result .equal rule x y
  cells.foldr (fun d rest => result .or .binary (found d) rest) (.ofTruth (some false))

mutual

/-- The value of an expression. The right side of `AND` and `OR` is computed only if the left side
leaves it open. -/
def value (env : Environment) : Expression → Except Fault Cell
  | literal c => .ok c
  | truth b => .ok (.ofTruth (some b))
  | column path _ =>
    match env.column? path with
    | some c => .ok (env.cell c)
    | none => .ok (.text (Text.bytes (String.intercalate "." path)))
  | unary op a => do return unaryResult op (← a.value env)
  | joined op a b => do
    let x ← a.value env
    match op, x.truth? with
    | .and, some false => return .ofTruth (some false)
    | .or, some true => return .ofTruth (some true)
    | _, _ => return joinedResult env op a b x (← b.value env)
  | choice test yes no => do
    if (← test.value env).truth? = some true then yes.value env else no.value env
  | cast type a => do return type.cast (← a.value env)
  | collate _ a => a.value env
  | call name args =>
    let upper := name.called.toUpper
    match Function.entry? upper with
    | some e => e.function.apply (values env args)
    | none => .error (.unusable upper)
  | member a table => do
    let t ← env.tables.find table
    let rule := (a.collation?.bind Collation.ofName?).getD .binary
    let kind := Affinity.joint (a.affinity? env) (some .blob)
    return memberResult kind rule (← a.value env) (t.rows.filterMap List.head?)
  | tuple _ => .error .unsupported

def values (env : Environment) : List Expression → List (Except Fault Cell)
  | [] => []
  | a :: rest => a.value env :: values env rest

end

def holds (env : Environment) (a : Expression) : Except Fault Bool := do
  return (← a.value env).truth? == some true

end Expression
end Sql
end CacheService
