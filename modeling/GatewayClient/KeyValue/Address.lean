import GatewayClient.Decimal.Integer
import GatewayClient.Text.Trim

/-!
# Addresses of key-value servers

An address has a scheme, perhaps a user and a password, a host, perhaps a port,
and perhaps the number of a database as its path.
-/

namespace GatewayClient

/-- Where a key-value server listens. -/
structure ServerAddress where
  host : String
  port : Nat
  database : Int
  deriving DecidableEq, Repr

namespace ServerAddress

/-- The port of a server that does not say another one. -/
def standardPort : Nat := 6379

/-- A character that an address does not have in its host. -/
def isForbidden (c : Char) : Bool := "\x00 #/:<>?@[\\]^|".toList.contains c

/-- The port after a host; none stands for the usual one. -/
def portOf? : List Char → Option Nat
  | [] => some standardPort
  | ':' :: [] => some standardPort
  | ':' :: digits =>
    if Natural.isDigits digits then Natural.ofText? (UInt16.size - 1) digits else none
  | _ => none

/-- The host and the port in the middle of an address. -/
def hostAndPort? (cs : List Char) : Option (String × Nat) :=
  match cs with
  | '[' :: rest => do
    let (host, rest) ← Trim.cut? ']' rest
    if host.isEmpty || !host.all (fun c => c.isAlphanum || c = ':' || c = '.') then none
    else return (String.ofList host, ← portOf? rest)
  | _ =>
    let host := cs.takeWhile (· ≠ ':')
    if host.isEmpty || host.any isForbidden then none
    else (portOf? (cs.dropWhile (· ≠ ':'))).map fun port => (String.ofList host, port)

/-- What comes after the last at sign; all of it if there is none. -/
def withoutUser (cs : List Char) : List Char := (cs.reverse.takeWhile (· ≠ '@')).reverse

/-- The number of the database that a path names. -/
def database? (path : List Char) : Option Int :=
  match Trim.both (· = '/') path with
  | [] => some 0
  | number => Integer.ofText? number

/-- A character that is left out wherever it stands in an address. -/
def isLeftOut (c : Char) : Bool := "\t\n\r".toList.contains c

/-- A text without what does not count in an address. -/
def plain (text : String) : List Char :=
  (Trim.both (·.toNat ≤ 32) text.toList).filter fun c => !isLeftOut c

/-- The server that a text gives the address of. -/
def ofText? (text : String) : Option ServerAddress := do
  let (scheme, rest) ← Trim.cut? ':' (plain text)
  if String.ofList (scheme.map Char.toLower) ≠ "redis" then none
  else
    match rest with
    | '/' :: '/' :: rest =>
      let rest := rest.takeWhile fun c => c ≠ '?' && c ≠ '#'
      let authority := rest.takeWhile (· ≠ '/')
      let (host, port) ← hostAndPort? (withoutUser authority)
      let database ← database? (rest.dropWhile (· ≠ '/'))
      return ⟨host, port, database⟩
    | _ => none

end ServerAddress

end GatewayClient
