import CacheService.Sql.Numeral

/-!
# Lexemes

The words, signs and literals of a statement, each with its place. Blanks and comments stand
between them. What cannot be any of them becomes a broken lexeme, so that a statement can be read up
to it and only then fails.
-/

namespace CacheService
namespace Sql

inductive Token where
  /-- a keyword, or a name without quotes -/
  | word (s : String)
  /-- a name between quotes, and the quote -/
  | name (quote : Char) (s : String)
  | string (s : String)
  | number (value : Cell)
  | blob (bytes : List UInt8)
  | variable
  | sign (s : String)
  | broken
  deriving DecidableEq

structure Lexeme where
  token : Token
  text : String
  /-- how many bytes stand before it -/
  offset : Nat
  /-- what stands behind it -/
  rest : List Char

/-! ## Characters -/

/-- A blank on which a run of blanks can begin. -/
def isBlank (c : Char) : Bool :=
  c = ' ' || c = '\t' || c = '\n' || c = '\x0C' || c = '\r'

def isNameChar (c : Char) : Bool :=
  c.isAlphanum || c = '_' || c = '$' || 0x80 ≤ c.toNat

def isHexDigit (c : Char) : Bool :=
  c.isDigit || ('a' ≤ c && c ≤ 'f') || ('A' ≤ c && c ≤ 'F')

def hexValue (c : Char) : Nat :=
  if c.isDigit then c.toNat - '0'.toNat else c.toLower.toNat - 'a'.toNat + 10

def hexNumber (cs : List Char) : Nat :=
  cs.foldl (fun n c => 16 * n + hexValue c) 0

def hexBytes : List Char → List UInt8
  | c :: d :: rest => UInt8.ofNat (hexNumber [c, d]) :: hexBytes rest
  | _ => []

/-! ## Single lexemes

Each of these functions reads a lexeme at the beginning of a list of characters, and answers what it
is and how many characters it has.
-/

/-- Reads the rest of a quoted text. A quote inside is written twice. -/
def closeQuote? (quote : Char) (read : List Char) : List Char → Option (String × List Char)
  | [] => none
  | [c] => if c = quote then some (String.ofList read.reverse, []) else none
  | c :: d :: rest =>
    if c = quote then
      if d = quote then closeQuote? quote (quote :: read) rest
      else some (String.ofList read.reverse, d :: rest)
    else closeQuote? quote (c :: read) (d :: rest)

def quoted (quote : Char) (behind : List Char) : Token × Nat :=
  match closeQuote? quote [] behind with
  | some (s, rest) =>
    (if quote = '\'' then .string s else .name quote s, 1 + behind.length - rest.length)
  | none => (.broken, 1 + behind.length)

def bracketed (behind : List Char) : Token × Nat :=
  let s := behind.takeWhile (· != ']')
  if s.length = behind.length then (.broken, 1 + s.length)
  else (.name '[' (String.ofList s), 2 + s.length)

/-- Reads the bytes that stand as digits behind an opening quote. A broken one ends with the next
quote. -/
def bytes (behind : List Char) : Token × Nat :=
  let digits := behind.takeWhile isHexDigit
  let closing := behind.dropWhile (· != '\'')
  let length := 2 + behind.length - (closing.drop 1).length
  if digits.length + closing.length = behind.length && !closing.isEmpty
    && digits.length % 2 == 0 then (.blob (hexBytes digits), length)
  else (.broken, length)

/-- A whole number as a cell, a floating point number if it is too large. -/
def wholeNumber (n : Nat) : Cell :=
  if n < Int64.maxValue.toInt.toNat + 1 then .integer (Int64.ofNat n) else .real (Double.ofNat n)

/-- Reads a number. Letters right behind it make it broken. -/
def number (cs : List Char) : Token × Nat :=
  let hex := (cs.drop 2).takeWhile isHexDigit
  if cs.head? = some '0' && (cs.drop 1).head?.any (· ∈ ['x', 'X']) && !hex.isEmpty then
    (.number (.integer (Int64.ofNat (hexNumber hex))), 2 + hex.length)
  else
    let whole := cs.takeWhile Char.isDigit
    let behind := cs.drop whole.length
    let places :=
      if behind.head? = some '.' then 1 + ((behind.drop 1).takeWhile Char.isDigit).length else 0
    let power := Numeral.powerLength (behind.drop places)
    let length := whole.length + places + power
    let letters := (cs.drop length).takeWhile isNameChar
    if !letters.isEmpty then (.broken, length + letters.length)
    else if places + power = 0 then (.number (wholeNumber (Reading.digitsValue whole)), length)
    else
      let x := (Reading.double? (String.ofList (cs.take length))).getD (Double.ofNat 0)
      (.number (.real x), length)

/-- Reads a variable of which some characters were read. It may have pairs of colons in its name and
one pair of brackets behind it, with no blank between them. -/
def variableFrom (named : Bool) (length : Nat) : List Char → Token × Nat
  | [] => (if named then .variable else .broken, length)
  | c :: rest =>
    if isNameChar c then variableFrom true (length + 1) rest
    else if c = '(' && named then
      let inner := rest.takeWhile fun d => d != ')' && !isBlank d && d != '\x0B'
      if (rest.drop inner.length).head? = some ')' then (.variable, length + 2 + inner.length)
      else (.broken, length + 1 + inner.length)
    else
      match c, rest with
      | ':', ':' :: rest => variableFrom named (length + 2) rest
      | _, _ => (if named then .variable else .broken, length)

def wordAt (cs : List Char) : Token × Nat :=
  let s := cs.takeWhile isNameChar
  (.word (String.ofList s), s.length)

/-- The signs, each before those that it begins with. -/
def signs : List String :=
  ["->>", "->", "-", "==", "=", "<=", "<>", "<<", "<", ">=", ">>", ">", "!=", "||", "|", "(", ")",
    ";", "+", "*", "/", "%", ",", "&", "~", "."]

def signAt (cs : List Char) : Token × Nat :=
  match signs.find? fun s => s.toList.isPrefixOf cs with
  | some s => (.sign s, s.length)
  | none => (.broken, 1)

/-- How many characters of a comment stand behind its two opening characters. -/
def commentLength : List Char → Nat
  | '*' :: '/' :: _ => 2
  | _ :: rest => 1 + commentLength rest
  | [] => 0

/-- Reads what stands at the beginning: a blank or a comment, which is no token, or a lexeme. -/
def scan (c : Char) (behind : List Char) : Option Token × Nat :=
  let token (read : Token × Nat) : Option Token × Nat := (some read.1, read.2)
  let cs := c :: behind
  if isBlank c then (none, 1 + (behind.takeWhile fun d => isBlank d || d = '\x0B').length)
  else if c = '\uFEFF' then (none, 1)
  else if c = '-' && behind.head? = some '-' then (none, (cs.takeWhile (· != '\n')).length)
  else if c = '/' && behind.head? = some '*' && 1 < behind.length then
    (none, 2 + commentLength (behind.drop 1))
  else if c = '\'' || c = '"' || c = '\x60' then token (quoted c behind)
  else if c = '[' then token (bracketed behind)
  else if (c = 'x' || c = 'X') && behind.head? = some '\'' then token (bytes (behind.drop 1))
  else if c.isDigit || (c = '.' && behind.head?.any Char.isDigit) then token (number cs)
  else if c = '?' then (some .variable, 1 + (behind.takeWhile Char.isDigit).length)
  else if c = '$' || c = '@' || c = ':' || c = '#' then token (variableFrom false 1 behind)
  else if isNameChar c then token (wordAt cs)
  else token (signAt cs)

/-! ## Texts -/

/-- The lexemes of a text of which some characters are still to be skipped. -/
def lexemesFrom (offset skip : Nat) : List Char → List Lexeme
  | [] => []
  | c :: behind =>
    match skip with
    | n + 1 => lexemesFrom (offset + c.utf8Size) n behind
    | 0 =>
      let (token?, length) := scan c behind
      let rest := lexemesFrom (offset + c.utf8Size) (length - 1) behind
      match token? with
      | none => rest
      | some token =>
        let text := String.ofList ((c :: behind).take length)
        { token, text, offset, rest := (c :: behind).drop length } :: rest

/-- The lexemes of a text, which ends where its first character of number zero stands. -/
def lexemes (sql : String) : List Lexeme :=
  lexemesFrom 0 0 (sql.toList.takeWhile (· != '\x00'))

namespace Lexeme

def isKeyword (word : String) (l : Lexeme) : Bool :=
  match l.token with
  | .word s => s.toUpper == word
  | _ => false

def isSign (sign : String) (l : Lexeme) : Bool :=
  l.token == .sign sign

/-- The word or the name between quotes that a lexeme is, and its text if it is neither. -/
def called (l : Lexeme) : String :=
  match l.token with
  | .word s => s
  | .name _ s => s
  | .string s => s
  | _ => l.text

end Lexeme
end Sql
end CacheService
