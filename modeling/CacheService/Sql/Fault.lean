import CacheService.Sql.Lexeme

/-!
# Faults

Why a statement is refused, and the message about it. Some faults have a place in the text of the
statement; their messages show that text and the place.
-/

namespace CacheService
namespace Sql

inductive Fault where
  /-- the lexeme cannot stand where it stands -/
  | unexpected (l : Lexeme)
  /-- the text ends too early -/
  | incomplete
  /-- the statement is none of those that are understood -/
  | unsupported
  /-- there is no statement at all -/
  | empty
  /-- no column has the name, which is given with what stands before its points -/
  | noColumn (path : List String) (l : Lexeme)
  | noTable (path : List String)
  /-- all columns are asked for, but there is no table -/
  | noTables
  | noFunction (l : Lexeme)
  /-- a function has too few or too many arguments -/
  | argumentCount (l : Lexeme)
  /-- a function of all rows stands in a condition on one of them -/
  | misuse (l : Lexeme)
  | noCollation (name : String)
  /-- a table stands for a list of values, but has not one column -/
  | listWidth (columns : Nat)
  /-- the queries on both sides of an operator have not as many columns -/
  | sideWidth (operator : String)
  /-- a clause stands before an operator, but belongs to the end -/
  | early (clause operator : String)
  /-- the rows are to be ordered or grouped by a column of a number that is none -/
  | position (clause : String) (term columns : Nat) (l : Lexeme)
  /-- the rows of several queries are to be ordered by something that is no column -/
  | orderColumn (term : Nat)
  /-- rows of some values are inserted into a table of some columns -/
  | width (table : String) (columns values : Nat)
  /-- rows of unlike numbers of values are inserted -/
  | unevenRows
  /-- the statement has parameters, but no values are given -/
  | parameters (count : Nat)
  | overflow
  /-- what must be an integer is none -/
  | mismatch
  | escape
  /-- groups are to be chosen where there are none -/
  | noGroups
  /-- a text is taken for a JSON document, but is none -/
  | malformedDocument
  /-- a path in a document cannot be read -/
  | wrongPath (rest : String)
  /-- a function cannot be used here -/
  | unusable (function : String)

namespace Fault

def ordinal (n : Nat) : String :=
  let ending :=
    if n / 10 % 10 = 1 then "th"
    else
      match n % 10 with
      | 1 => "st"
      | 2 => "nd"
      | 3 => "rd"
      | _ => "th"
  s!"{n}{ending}"

/-- The message about a fault in a text, of which some bytes do not belong to the statement. -/
def message (text : String) (start : Nat) (fault : Fault) : String :=
  let place (l : Lexeme) : String := s!"in {text} at offset {l.offset - start}"
  let path (names : List String) : String := String.intercalate "." names
  match fault with
  | unexpected l =>
    if l.token = .broken then s!"unrecognized token: \"{l.text}\" {place l}"
    else s!"near \"{l.text}\": syntax error {place l}"
  | incomplete => "incomplete input"
  | unsupported => "unsupported statement"
  | empty => "not an error"
  | noColumn names l => s!"no such column: {path names} {place l}"
  | noTable names => s!"no such table: {path names}"
  | noTables => "no tables specified"
  | noFunction l => s!"no such function: {l.called} {place l}"
  | argumentCount l => s!"wrong number of arguments to function {l.called}() {place l}"
  | misuse l => s!"misuse of aggregate function {l.called}() {place l}"
  | noCollation name => s!"no such collation sequence: {name}"
  | listWidth columns => s!"sub-select returns {columns} columns - expected 1"
  | sideWidth operator =>
    s!"SELECTs to the left and right of {operator} do not have the same number of result columns"
  | early clause operator => s!"{clause} clause should come after {operator} not before"
  | position clause term columns l =>
    let number := ordinal term
    s!"{number} {clause} term out of range - should be between 1 and {columns} {place l}"
  | orderColumn term =>
    let number := ordinal term
    s!"{number} ORDER BY term does not match any column in the result set"
  | width table columns values =>
    s!"table {table} has {columns} columns but {values} values were supplied"
  | unevenRows => "all VALUES must have the same number of terms"
  | parameters count =>
    s!"Wrong number of parameters passed to query. Got 0, needed {count}"
  | overflow => "integer overflow"
  | mismatch => "datatype mismatch"
  | escape => "ESCAPE expression must be a single character"
  | noGroups => "HAVING clause on a non-aggregate query"
  | malformedDocument => "malformed JSON"
  | wrongPath rest =>
    let shown := rest.replace "'" "''"
    s!"JSON path error near '{shown}'"
  | unusable function => s!"unable to use function {function} in the requested context"

end Fault
end Sql
end CacheService
