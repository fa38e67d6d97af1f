import GatewayClient.Decimal.Integer

/-!
# Replies of key-value servers

A server answers a command with a status, a number, a text, a list of replies, or
nothing; or it refuses the command. A client that expects a certain kind of answer
takes some others for it as well: a text that writes a number is a number, and a
number is the text that writes it.
-/

namespace GatewayClient

/-- Why a server refuses a command. -/
inductive Refusal where
  /-- The key holds another kind of value than the command is for. -/
  | wrongKind
  /-- A script computes with something that is no number. -/
  | notANumber
  /-- No such lifetime can be given to a key. -/
  | badLifetime
  deriving DecidableEq, Repr

/-- What a server answers to a command. -/
inductive Reply where
  /-- A word that tells how it went, such as `OK`. -/
  | status (word : String)
  /-- A number. -/
  | integer (n : Int)
  /-- A text. -/
  | text (s : String)
  /-- There is nothing to answer. -/
  | absent
  /-- Several answers. -/
  | list (replies : List Reply)
  /-- The command was refused. -/
  | refused (reason : Refusal)
  deriving Repr

namespace Reply

/-- The number that a reply is or writes. -/
def integer? : Reply → Option Int
  | integer n => some n
  | status s => Integer.ofText? s.toList
  | text s => Integer.ofText? s.toList
  | _ => none

/-- The two numbers that a reply lists. -/
def integers? : Reply → Option (Int × Int)
  | list [a, b] => do return (← a.integer?, ← b.integer?)
  | _ => none

/-- The text that a reply is, or that there is none. -/
def optionalText? : Reply → Option (Option String)
  | absent => some none
  | status s => some (some s)
  | text s => some (some s)
  | integer n => some (some (String.ofList (Integer.text n)))
  | _ => none

/-- Whether the command was carried out, whatever the answer is. -/
def done? : Reply → Option Unit
  | refused _ => none
  | _ => some ()

/-- The text at a place of a list. -/
def textAt? (i : Nat) : Reply → Option String
  | list replies => replies[i]?.bind fun
    | text s => some s
    | _ => none
  | _ => none

/-- What a script goes on with: it breaks off at a command that is refused. -/
def result : Reply → Except Refusal Reply
  | refused reason => .error reason
  | reply => .ok reply

@[simp] theorem result_refused (reason : Refusal) : (refused reason).result = .error reason := rfl

@[simp] theorem result_status (word : String) : (status word).result = .ok (status word) := rfl

@[simp] theorem result_integer (n : Int) : (integer n).result = .ok (integer n) := rfl

@[simp] theorem result_text (s : String) : (text s).result = .ok (text s) := rfl

@[simp] theorem result_absent : absent.result = .ok absent := rfl

@[simp] theorem result_list (replies : List Reply) : (list replies).result = .ok (list replies) :=
  rfl

end Reply

end GatewayClient
