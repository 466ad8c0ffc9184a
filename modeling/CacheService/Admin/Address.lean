import CacheService.Text.Utf8

/-!
# Addresses of requests

The address of a request: a path with a query and a fragment, a star, a host, or a scheme, a host
and a path. Only the path matters. Percent signs in a path are kept; `unescape` resolves them in a
part of it.
-/

namespace CacheService
namespace Address

def longest : Nat :=
  65534

def isPathChar (c : Char) : Bool :=
  let n := c.toNat
  n = 0x21 || n = 0x22 || (0x24 ≤ n && n ≤ 0x3B) || n = 0x3D || (0x40 ≤ n && n ≤ 0x5F) ||
    (0x61 ≤ n && n ≠ 0x7F)

def isQueryChar (c : Char) : Bool :=
  let n := c.toNat
  n = 0x21 || (0x24 ≤ n && n ≤ 0x3B) || n = 0x3D || (0x3F ≤ n && n ≠ 0x7F)

/-- The path in front of a query and a fragment, which must be well formed. -/
def pathBefore? (cs : List Char) : Option (List Char) :=
  let isEnd (c : Char) := c = '?' || c = '#'
  let path := cs.takeWhile (!isEnd ·)
  let rest := cs.dropWhile (!isEnd ·)
  let query :=
    match rest with
    | '?' :: more => more.takeWhile (· ≠ '#')
    | _ => []
  if path.all isPathChar && query.all isQueryChar then some path else none

/-! ## Hosts -/

def isSchemeChar (c : Char) : Bool :=
  c.isAlphanum || c = '+' || c = '-' || c = '.' || c = '~'

/-- Characters of a host that have no meaning of their own. -/
def isHostChar (c : Char) : Bool :=
  c.isAlphanum || "!$&'()*+,-.;=_~".toList.contains c

structure HostScan where
  colons : Nat := 0
  opened : Bool := false
  closed : Bool := false
  percent : Bool := false
  /-- the last character was the end of a user's name -/
  afterUser : Bool := false

def HostScan.take? (s : HostScan) (c : Char) : Option HostScan :=
  let s := { s with afterUser := false }
  if c = ':' then if 8 ≤ s.colons then none else some { s with colons := s.colons + 1 }
  else if c = '[' then if s.percent || s.opened then none else some { s with opened := true }
  else if c = ']' then
    if !s.opened || s.closed then none
    else some { s with closed := true, colons := 0, percent := false }
  else if c = '@' then some { s with colons := 0, percent := false, afterUser := true }
  else if c = '%' then some { s with percent := true }
  else if isHostChar c then some s
  else none

def HostScan.isValid (s : HostScan) : Bool :=
  s.opened == s.closed && s.colons ≤ 1 && !s.afterUser && !s.percent

def isHostEnd (c : Char) : Bool :=
  c = '/' || c = '?' || c = '#'

def isHost (host : List Char) : Bool :=
  match host.foldlM HostScan.take? {} with
  | some s => s.isValid
  | none => false

def longestScheme : Nat :=
  64

/-- What stands behind a scheme, if there is one. A scheme that is too long is refused. -/
def afterScheme (cs : List Char) : Except Unit (Option (List Char)) :=
  let scheme := cs.takeWhile isSchemeChar
  match cs.dropWhile isSchemeChar with
  | ':' :: '/' :: '/' :: rest =>
    if longestScheme < scheme.length then .error () else .ok (some rest)
  | _ => .ok none

/-- The path of an address that begins with a scheme or a host. -/
def absolutePath? (cs : List Char) : Option (List Char) :=
  match afterScheme cs with
  | .error () => none
  | .ok scheme =>
    let rest := scheme.getD cs
    let host := rest.takeWhile (!isHostEnd ·)
    let behind := rest.dropWhile (!isHostEnd ·)
    if !isHost host then none
    else if scheme.isNone then if behind.isEmpty then some [] else none
    else if host.isEmpty then none
    else (pathBefore? behind).map fun path => if path.isEmpty then ['/'] else path

def path? (address : String) : Option String :=
  let cs := address.toList
  if longest < address.utf8ByteSize then none
  else
    let path :=
      match cs with
      | [] => none
      | ['*'] => some ['*']
      | '/' :: _ => pathBefore? cs
      | _ => absolutePath? cs
    path.map String.ofList

/-! ## Percent signs -/

def hexValue? (b : UInt8) : Option UInt8 :=
  if 0x30 ≤ b && b ≤ 0x39 then some (b - 0x30)
  else if 0x41 ≤ b && b ≤ 0x46 then some (b - 0x41 + 10)
  else if 0x61 ≤ b && b ≤ 0x66 then some (b - 0x61 + 10)
  else none

/-- Puts the byte in place of each percent sign with two digits behind it. Other percent
signs stay. -/
def unescapeBytes : List UInt8 → List UInt8
  | [] => []
  | [a] => [a]
  | [a, b] => [a, b]
  | a :: b :: c :: rest =>
    if a = 0x25 then
      match hexValue? b, hexValue? c with
      | some high, some low => (high * 16 + low) :: unescapeBytes rest
      | _, _ => a :: unescapeBytes (b :: c :: rest)
    else a :: unescapeBytes (b :: c :: rest)

/-- A part of a path without escapes, if that is a text. -/
def unescape (s : String) : Option String :=
  Text.ofBytes? (unescapeBytes (Text.bytes s))

end Address
end CacheService
