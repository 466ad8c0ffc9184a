import CacheService.Sql.Expression
import CacheService.Sql.Reader

/-!
# Reading expressions

Operators have levels, of which the higher ones bind tighter. An operand is read first, and then all
operators behind it whose levels are allowed, each with its right side. The readers call each other,
and a bound on the depth of these calls is given by the number of lexemes.
-/

namespace CacheService
namespace Sql

def Operator.level : Operator → Nat
  | or => 1
  | and => 2
  | equal | unequal | is | isNot => 4
  | less | atMost | greater | atLeast => 5
  | arithmetic op =>
    match op with
    | .bitAnd | .bitOr | .shiftLeft | .shiftRight => 7
    | .add | .subtract => 8
    | .multiply | .divide | .remainder => 9
    | .concat => 10

def UnaryOperator.level : UnaryOperator → Nat
  | not => 3
  | _ => 12

def Operator.ofSign? (s : String) : Option Operator :=
  match s with
  | "=" | "==" => some equal
  | "<>" | "!=" => some unequal
  | "<" => some less
  | "<=" => some atMost
  | ">" => some greater
  | ">=" => some atLeast
  | "&" => some (arithmetic .bitAnd)
  | "|" => some (arithmetic .bitOr)
  | "<<" => some (arithmetic .shiftLeft)
  | ">>" => some (arithmetic .shiftRight)
  | "+" => some (arithmetic .add)
  | "-" => some (arithmetic .subtract)
  | "*" => some (arithmetic .multiply)
  | "/" => some (arithmetic .divide)
  | "%" => some (arithmetic .remainder)
  | "||" => some (arithmetic .concat)
  | _ => none

namespace Expression

/-! ## Forms of other expressions -/

def negatedIf (negated : Bool) (a : Expression) : Expression :=
  if negated then unary .not a else a

def between (a low high : Expression) : Expression :=
  joined .and (joined .atLeast a low) (joined .atMost a high)

/-- An operand without its affinity and its collation. -/
def bare (a : Expression) : Expression :=
  choice (literal (.integer 1)) a (literal .null)

/-- Whether the value is one of a list. A single value that is the same for all rows keeps its
collation. -/
def among (negated : Bool) (a : Expression) (items : List Expression) : Expression :=
  match items with
  | [] => literal (.ofTruth (some negated))
  | [item] =>
    let side := if item.isConstant then unary .plus item else item.bare
    negatedIf negated (joined .equal a side)
  | item :: rest =>
    let equal (item : Expression) : Expression := joined .equal a item.bare
    negatedIf negated (rest.foldl (fun found item => joined .or found (equal item)) (equal item))

/-- Both conditions. If one of them is zero, so is the result, whatever the other one is. -/
def conjunction (a b : Expression) : Expression :=
  match a, b with
  | literal (.integer 0), _ => literal (.integer 0)
  | _, literal (.integer 0) => literal (.integer 0)
  | a, b => joined .and a b

/-- An operand behind a minus sign. Literals are read together with the sign. -/
def negative : Expression → Expression
  | literal (.integer i) =>
    if i = 0 || i = Int64.minValue then unary .minus (literal (.integer i))
    else literal (.integer (-i))
  | literal (.real x) => literal (.real x.opposite)
  | a => unary .minus a

/-! ## Readers -/

open Reader

def levelsFrom (least : Nat) : Nat → Bool :=
  fun level => least ≤ level

def readMember (path : List String) : Reader (List String) := do
  if ← accept (Lexeme.isSign ".") then return path ++ [← take Lexeme.name?]
  return path

def readPath : Reader (List String) := do
  readMember [← take Lexeme.name?]

def skipSize : Reader Unit := do
  discard (accept fun l => l.isSign "-" || l.isSign "+")
  skip fun l => l.token matches .number _

def readType (read : String) : Nat → Reader String
  | 0 => refuse
  | n + 1 => do
    if ← sees (Lexeme.isSign ")") then return read
    if read != "" then
      if ← accept (Lexeme.isSign "(") then
        skipSize
        if ← accept (Lexeme.isSign ",") then skipSize
        skip (Lexeme.isSign ")")
        return read
    readType (read ++ " " ++ (← take Lexeme.alias?)) n

mutual

def readOperand : Nat → Reader Expression
  | 0 => refuse
  | n + 1 => do
    let some l := (← get).head? | throw .incomplete
    match l.token with
    | .number c =>
      advance
      return literal c
    | .blob bytes =>
      advance
      return literal (.blob bytes)
    | .variable =>
      if (l.text.toList.take 2).map Char.isDigit = [false, true] && l.text.startsWith "#" then
        refuse
      advance
      return literal .null
    | .sign "(" =>
      advance
      if ← sees (Lexeme.isOneOf ["SELECT", "VALUES", "WITH"]) then giveUp
      let items ← readItems n
      skip (Lexeme.isSign ")")
      match items with
      | [a] => return a
      | items => return tuple items
    | .sign "-" =>
      advance
      if ← accept (fun l => l.text == "9223372036854775808") then
        return literal (.integer Int64.minValue)
      return (← readLevel n (levelsFrom UnaryOperator.minus.level)).negative
    | .sign "+" =>
      advance
      return unary .plus (← readLevel n (levelsFrom UnaryOperator.plus.level))
    | .sign "~" =>
      advance
      return unary .invert (← readLevel n (levelsFrom UnaryOperator.invert.level))
    | .word s =>
      match s.toUpper with
      | "NULL" =>
        advance
        return literal .null
      | "NOT" =>
        advance
        return unary .not (← readLevel n (levelsFrom UnaryOperator.not.level))
      | "CASE" =>
        advance
        if ← sees (Lexeme.isKeyword "WHEN") then readCases n none
        else readCases n (some (← readLevel n (levelsFrom 1)))
      | "EXISTS" =>
        advance
        skip (Lexeme.isSign "(")
        if ← sees (Lexeme.isOneOf ["SELECT", "VALUES", "WITH"]) then giveUp
        refuse
      | "CURRENT_DATE" | "CURRENT_TIME" | "CURRENT_TIMESTAMP" =>
        advance
        return call l []
      | _ => readName n l
    | _ => readName n l

/-- Reads an operand that begins with a name or a text. -/
def readName : Nat → Lexeme → Reader Expression
  | 0, _ => refuse
  | n + 1, l => do
    let name ← take Lexeme.name?
    if ← sees (Lexeme.isSign ".") then
      let path ← readMember [name]
      return column (← readMember path) l
    if l.isFunctionName then
      if ← accept (Lexeme.isSign "(") then return ← readCall n l
    match l.token with
    | .string s => return literal (.text (Text.bytes s))
    | .word s =>
      match s.toUpper with
      | "TRUE" => return truth true
      | "FALSE" => return truth false
      | _ => return column [name] l
    | _ => return column [name] l

/-- Reads what follows the name of a function and an opening bracket. -/
def readCall : Nat → Lexeme → Reader Expression
  | 0, _ => refuse
  | n + 1, name => do
    if name.isKeyword "CAST" then
      let a ← readLevel n (levelsFrom 1)
      skip (Lexeme.isKeyword "AS")
      let type ← readType "" (n + 1)
      skip (Lexeme.isSign ")")
      return cast (.ofType type) a
    if name.isKeyword "RAISE" then giveUp
    if ← accept (Lexeme.isSign "*") then
      skip (Lexeme.isSign ")")
      return call name []
    if ← accept (Lexeme.isSign ")") then return call name []
    if ← sees (Lexeme.isKeyword "DISTINCT") then giveUp
    discard (accept (Lexeme.isKeyword "ALL"))
    let args ← readItems n
    skip (Lexeme.isSign ")")
    if (← sees (Lexeme.isKeyword "OVER")) || (← sees (Lexeme.isKeyword "FILTER")) then giveUp
    return call name args

def readItems : Nat → Reader (List Expression)
  | 0 => refuse
  | n + 1 => do
    let a ← readLevel n (levelsFrom 1)
    if ← accept (Lexeme.isSign ",") then return a :: (← readItems n)
    return [a]

/-- Reads the cases of a choice, which may be between the values of an expression. -/
def readCases : Nat → Option Expression → Reader Expression
  | 0, _ => refuse
  | n + 1, base => do
    skip (Lexeme.isKeyword "WHEN")
    let test ← readLevel n (levelsFrom 1)
    let test := base.elim test fun a => joined .equal a test
    skip (Lexeme.isKeyword "THEN")
    let yes ← readLevel n (levelsFrom 1)
    if ← sees (Lexeme.isKeyword "WHEN") then return choice test yes (← readCases n base)
    if ← accept (Lexeme.isKeyword "ELSE") then
      let no ← readLevel n (levelsFrom 1)
      skip (Lexeme.isKeyword "END")
      return choice test yes no
    skip (Lexeme.isKeyword "END")
    return choice test yes (literal .null)

/-- Reads an operand and the operators of some levels behind it. -/
def readLevel : Nat → (Nat → Bool) → Reader Expression
  | 0, _ => refuse
  | n + 1, allowed => do
    readOperators n allowed (← readOperand n)

def readOperators : Nat → (Nat → Bool) → Expression → Reader Expression
  | 0, _, _ => refuse
  | n + 1, allowed, a => do
    let some l := (← get).head? | return a
    match l.token with
    | .sign s =>
      if (s = "->" || s = "->>") && allowed (Operator.arithmetic .concat).level then
        advance
        let b ← readLevel n (levelsFrom ((Operator.arithmetic .concat).level + 1))
        return ← readOperators n allowed (call l [a, b])
      match Operator.ofSign? s with
      | some op =>
        if !allowed op.level then return a
        advance
        let b ← readLevel n (levelsFrom (op.level + 1))
        readOperators n allowed (joined op a b)
      | none => return a
    | .word s =>
      match s.toUpper with
      | "OR" =>
        if !allowed Operator.or.level then return a
        advance
        let b ← readLevel n (levelsFrom (Operator.or.level + 1))
        readOperators n allowed (joined .or a b)
      | "AND" =>
        if !allowed Operator.and.level then return a
        advance
        let b ← readLevel n (levelsFrom (Operator.and.level + 1))
        readOperators n allowed (conjunction a b)
      | "COLLATE" =>
        if !allowed 11 then return a
        advance
        let name ← take Lexeme.alias?
        readOperators n allowed (collate name a)
      | "NOT" =>
        if !allowed UnaryOperator.not.level then return a
        advance
        if ← accept (Lexeme.isKeyword "NULL") then
          return ← readOperators n allowed (joined .isNot a (literal .null))
        readOperators n allowed (← readTest n true a)
      | "IS" | "ISNULL" | "NOTNULL" | "LIKE" | "GLOB" | "REGEXP" | "MATCH" | "BETWEEN" | "IN" =>
        if !allowed Operator.is.level then return a
        readOperators n allowed (← readTest n false a)
      | _ => return a
    | _ => return a

/-- Reads a test that begins with a word. Behind a `NOT` it must be one that can be negated. -/
def readTest : Nat → Bool → Expression → Reader Expression
  | 0, _, _ => refuse
  | n + 1, negated, a => do
    let some l := (← get).head? | throw .incomplete
    let .word s := l.token | refuse
    match s.toUpper, negated with
    | "ISNULL", false =>
      advance
      return joined .is a (literal .null)
    | "NOTNULL", false =>
      advance
      return joined .isNot a (literal .null)
    | "IS", false =>
      advance
      let negated ← accept (Lexeme.isKeyword "NOT")
      let distinct ← accept (Lexeme.isKeyword "DISTINCT")
      if distinct then skip (Lexeme.isKeyword "FROM")
      let b ← readLevel n (levelsFrom (Operator.is.level + 1))
      return joined (if negated = distinct then .is else .isNot) a b
    | "BETWEEN", _ =>
      advance
      let low ← readLevel n fun level => level != Operator.and.level
      skip (Lexeme.isKeyword "AND")
      let high ← readLevel n (levelsFrom (Operator.is.level + 1))
      return negatedIf negated (between a low high)
    | "IN", _ =>
      advance
      if ← accept (Lexeme.isSign "(") then
        if ← sees (Lexeme.isOneOf ["SELECT", "VALUES", "WITH"]) then giveUp
        if ← accept (Lexeme.isSign ")") then return among negated a []
        let items ← readItems n
        skip (Lexeme.isSign ")")
        return among negated a items
      let path ← readPath
      if ← sees (Lexeme.isSign "(") then giveUp
      return negatedIf negated (member a path)
    | "LIKE", _ | "GLOB", _ | "REGEXP", _ | "MATCH", _ =>
      advance
      let pattern ← readLevel n (levelsFrom (Operator.is.level + 1))
      if ← accept (Lexeme.isKeyword "ESCAPE") then
        let escape ← readLevel n (levelsFrom (Operator.is.level + 1))
        return negatedIf negated (call l [pattern, a, escape])
      return negatedIf negated (call l [pattern, a])
    | _, _ => refuse

end

def read : Reader Expression := do
  readLevel (4 * (← get).length + 4) (levelsFrom 1)

end Expression
end Sql
end CacheService
