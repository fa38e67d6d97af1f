import GatewayClient.Text.Utf8

/-!
# Addresses of requests

An address on the web: a scheme, a host, perhaps a port, a path and perhaps a
query. Reading one is forgiving about slashes, blanks and the case of the scheme;
in the path and the query, what may not stand for itself is written as a percent
sign and two hexadecimal digits, and steps up and in place are taken.

* `Url.ofText?`: the address that a text gives, if a client can send to it.
* `Url.target`: what is asked of the host.
-/

namespace GatewayClient

/-- An address that a request can be sent to. -/
structure Url where
  isSecure : Bool
  host : String
  /-- The port, where it is not the usual one. -/
  port : Option Nat
  /-- The path, which begins with a slash. -/
  path : String
  query : Option String
  deriving DecidableEq, Repr

namespace Url

/-- A path or a query where what may not stand for itself is escaped. -/
def escape (isPlain : Char → Bool) (cs : List Char) : List Char :=
  cs.flatMap fun c =>
    if 0x20 < c.toNat && c.toNat < 0x7F && isPlain c then [c]
    else (Utf8.encode (String.ofList [c])).flatMap fun b =>
      let digit (n : Nat) : Char := if n < 10 then Char.ofNat (48 + n) else Char.ofNat (55 + n)
      ['%', digit (b.toNat / 16), digit (b.toNat % 16)]

/-- A character that stands for itself in a path. -/
def isPlainInPath (c : Char) : Bool := !"\"#<>?`\x7b\x7d^".toList.contains c

/-- A character that stands for itself in a query. -/
def isPlainInQuery (c : Char) : Bool := !"\"#<>'".toList.contains c

/-- The parts of a path between its slashes. -/
def segments : List Char → List (List Char)
  | [] => [[]]
  | c :: rest =>
    if c = '/' || c = '\\' then [] :: segments rest
    else
      match segments rest with
      | [] => [[c]]
      | s :: more => (c :: s) :: more

/-- Whether a part of a path is a step in place. -/
def isHere (s : List Char) : Bool :=
  let s := String.ofList (s.map Char.toLower)
  s = "." || s = "%2e"

/-- Whether a part of a path is a step up. -/
def isUp (s : List Char) : Bool :=
  let s := String.ofList (s.map Char.toLower)
  s = ".." || s = ".%2e" || s = "%2e." || s = "%2e%2e"

/-- The parts of a path after its steps are taken, the last one first. A step that
    comes last leaves an empty part behind. -/
def walk (done : List (List Char)) : List (List Char) → List (List Char)
  | [] => done
  | [s] => if isUp s then [] :: done.drop 1 else if isHere s then [] :: done else s :: done
  | s :: rest =>
    if isUp s then walk (done.drop 1) rest
    else if isHere s then walk done rest
    else walk (s :: done) rest

/-- A path from the text after the host. -/
def pathOf (cs : List Char) : String :=
  let parts := match cs with
    | c :: rest => if c = '/' || c = '\\' then segments rest else segments (c :: rest)
    | [] => [[]]
  String.ofList ((walk [] parts).reverse.flatMap fun s => '/' :: escape isPlainInPath s)

/-- A character that ends the host. -/
def endsAuthority (c : Char) : Bool := c = '/' || c = '\\' || c = '?' || c = '#'

/-- A character that a host does not have. -/
def isForbiddenInHost (c : Char) : Bool :=
  c.toNat ≤ 0x20 || c.toNat = 0x7F || "#/:<>?@[\\]^|%".toList.contains c

/-- The host and the port in the text between the scheme and the path. -/
def hostAndPort? (isSecure : Bool) (cs : List Char) : Option (String × Option Nat) := do
  let cs := (cs.reverse.takeWhile (· ≠ '@')).reverse
  let (host, rest) ← match cs with
    | '[' :: inner =>
      let address := inner.takeWhile (· ≠ ']')
      if !address.isEmpty && address.all (fun c => c.isAlphanum || c = ':' || c = '.') then
        some ('[' :: address ++ [']'], (inner.dropWhile (· ≠ ']')).drop 1)
      else none
    | _ =>
      let host := cs.takeWhile (· ≠ ':')
      if host.isEmpty || host.any isForbiddenInHost then none
      else some (host.map Char.toLower, cs.dropWhile (· ≠ ':'))
  let host := String.ofList host
  match rest with
  | [] => return (host, none)
  | [':'] => return (host, none)
  | ':' :: digits =>
    let port := Nat.ofDigitChars 10 digits 0
    if digits.all Char.isDigit && port < UInt16.size then
      return (host, if port = (if isSecure then 443 else 80) then none else some port)
    else none
  | _ => none

/-- The address that a text gives, if a client can send to it. -/
def ofText? (text : String) : Option Url := do
  let isEdge (c : Char) : Bool := c.toNat ≤ 0x20
  let cs := ((text.toList.dropWhile isEdge).reverse.dropWhile isEdge).reverse
  let cs := cs.filter fun c => c ≠ '\t' && c ≠ '\n' && c ≠ '\r'
  let scheme := String.ofList ((cs.takeWhile (· ≠ ':')).map Char.toLower)
  let isSecure ←
    if scheme = "https" then some true else if scheme = "http" then some false else none
  let rest ← match cs.dropWhile (· ≠ ':') with
    | ':' :: rest => some rest
    | _ => none
  let rest := rest.dropWhile fun c => c = '/' || c = '\\'
  let (host, port) ← hostAndPort? isSecure (rest.takeWhile (!endsAuthority ·))
  let rest := (rest.dropWhile (!endsAuthority ·)).takeWhile (· ≠ '#')
  let query := match rest.dropWhile (· ≠ '?') with
    | [] => none
    | _ :: q => some (String.ofList (escape isPlainInQuery q))
  return { isSecure, host, port, path := pathOf (rest.takeWhile (· ≠ '?')), query }

/-- What is asked of the host: the path and the query. -/
def target (u : Url) : String :=
  match u.query with
  | some q => u.path ++ "?" ++ q
  | none => u.path

end Url

end GatewayClient
