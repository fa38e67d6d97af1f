import GatewayClient.Decimal.Binary64
import GatewayClient.KeyValue.Reply

/-!
# Commands of key-value servers

A server keeps a text or a record of named texts under each of its keys. A key may have
a lifetime; once that is over the key is gone. Times on a server are whole milliseconds
of the wall clock.

What a server does on a command is no part of the client: an `Execution` on states `σ`
stands for it. A script runs on the server as one step: no command of another client
comes in between. What it has changed before a command of it is refused stays changed.

* `Command`: what a client asks of a server.
* `ServerAction`: scripts; `ServerAction.command`: one command of a script.
-/

namespace GatewayClient

/-- What a client asks of a server. -/
inductive Command where
  /-- The text under a key. -/
  | get (key : String)
  /-- Puts a text under a key for some time, whatever the key has held. -/
  | set (key value : String) (lifetime : Nat)
  /-- Puts a text under a key for some time, unless the key is there. -/
  | setNew (key value : String) (lifetime : Nat)
  /-- How long a key has left. -/
  | timeLeft (key : String)
  /-- Some fields of the record under a key. -/
  | fields (key : String) (names : List String)
  /-- Sets fields of the record under a key. -/
  | setFields (key : String) (changes : List (String × String))
  /-- Gives a key another lifetime. -/
  | keep (key : String) (lifetime : Nat)
  deriving DecidableEq, Repr

/-- The key that a command is about. -/
def Command.key : Command → String
  | get key => key
  | set key _ _ => key
  | setNew key _ _ => key
  | timeLeft key => key
  | fields key _ => key
  | setFields key _ => key
  | keep key _ => key

/-- The answer of a server to a command at a time, and its state after it. -/
abbrev Execution (σ : Type) := Command → Nat → σ → Reply × σ

/-- A step on a server at some time. -/
abbrev ServerAction (σ α : Type) := ReaderT Nat (ExceptT Refusal (StateM σ)) α

namespace ServerAction

variable {σ α β : Type}

/-- A step at a time, and the server after it. -/
def run (action : ServerAction σ α) (now : Nat) (s : σ) : Except Refusal α × σ :=
  (ReaderT.run action now).run.run s

/-- One command. -/
def command (execute : Execution σ) (c : Command) : ServerAction σ Reply :=
  fun now => ExceptT.mk fun s => ((execute c now s).1.result, (execute c now s).2)

/-- One command whose answer does not matter. -/
def tell (execute : Execution σ) (c : Command) : ServerAction σ Unit := do
  let _ ← command execute c

/-- The number that a text writes, as scripts compute with it: they count in binary64
    numbers. -/
def number (s : Option String) : ServerAction σ Int :=
  match s.bind fun s => Integer.ofText? s.toList with
  | some n => return Binary64.roundInt n
  | none => throw .notANumber

/-- The number that a reply is, as scripts compute with it. -/
def integer : Reply → ServerAction σ Int
  | .integer n => return Binary64.roundInt n
  | _ => throw .notANumber

end ServerAction

end GatewayClient
