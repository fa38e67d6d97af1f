import GatewayClient.Json.Token

/-!
# JSON text as it is written

A `Tree` is the shape of a text: members in the order they were written,
repeated names included, to any depth, with the literals that have no value
left in. What a reader may do with such parts is its own affair: a record
ignores the fields it does not know, whatever is in them, and refuses the same
in those it reads.

The reader keeps its open containers in a list, so nesting costs no recursion.
When a text breaks off, the entries its outermost container had gathered until
then are still known. `Outline` is that: a record read in order finds the first
fault of its fields there, even if the text has another one behind it.

* `Tree.parse`: the tree of a well-formed text.
* `Outline.read`: the entries of a record and whether the text is whole.
-/

namespace GatewayClient.Json

/-- A JSON text as it is written. -/
inductive Tree where
  | null
  | bool (value : Bool)
  /-- A number; nothing if it has no value. -/
  | number (value : Option Number)
  /-- A string; nothing if it has no value. -/
  | string (value : Option String)
  | array (items : List Tree)
  | object (members : List (Option String × Tree))
  deriving Repr, Inhabited

/-- The members of an object in the order they were written. -/
abbrev Members := List (Option String × Tree)

/-- A container that waits for a value, with what it holds so far, last first. -/
inductive Frame where
  /-- An array waiting for its next item. -/
  | item (items : List Tree)
  /-- An object waiting for the value of the named member. -/
  | member (members : Members) (name : Option String)

/-- Where the reader stands: what may follow, in which container, inside which
    other containers, the innermost of these first. -/
inductive Position where
  /-- A value. -/
  | value (outer : List Frame)
  /-- A value or the end of an array that was just opened. -/
  | firstItem (outer : List Frame)
  /-- A comma or the end of an array. -/
  | afterItem (held : List Tree) (outer : List Frame)
  /-- A member name, or the end of an object that was just opened. -/
  | memberName (first : Bool) (held : Members) (outer : List Frame)
  /-- The colon after a member name. -/
  | afterName (held : Members) (name : Option String) (outer : List Frame)
  /-- A comma or the end of an object. -/
  | afterMember (held : Members) (outer : List Frame)
  /-- Nothing: the text holds this tree. -/
  | done (tree : Tree)

namespace Position

/-- The position after a complete value. -/
def place (tree : Tree) : List Frame → Position
  | [] => .done tree
  | .item held :: outer => .afterItem (tree :: held) outer
  | .member held name :: outer => .afterMember ((name, tree) :: held) outer

/-- The position after the first token of a value. -/
def start (token : Token) (outer : List Frame) : Option Position :=
  match token with
  | .openBracket => some (.firstItem outer)
  | .openBrace => some (.memberName true [] outer)
  | .null => some (place .null outer)
  | .bool b => some (place (.bool b) outer)
  | .number n => some (place (.number n) outer)
  | .string s => some (place (.string s) outer)
  | _ => none

/-- The position after a token, or nothing if the grammar has none. -/
def step : Position → Token → Option Position
  | .value outer, t => start t outer
  | .firstItem outer, t =>
    if t = .closeBracket then some (place (.array []) outer) else start t (.item [] :: outer)
  | .afterItem held outer, t => match t with
    | .comma => some (.value (.item held :: outer))
    | .closeBracket => some (place (.array held.reverse) outer)
    | _ => none
  | .memberName first held outer, t => match t with
    | .string name => some (.afterName held name outer)
    | .closeBrace => if first then some (place (.object []) outer) else none
    | _ => none
  | .afterName held name outer, t =>
    if t = .colon then some (.value (.member held name :: outer)) else none
  | .afterMember held outer, t => match t with
    | .comma => some (.memberName false held outer)
    | .closeBrace => some (place (.object held.reverse) outer)
    | _ => none
  | .done _, _ => none

/-- The position after as many tokens as the grammar allows, and whether those
    are all of them. -/
def run : Position → List Token → Position × Bool
  | p, [] => (p, true)
  | p, t :: rest =>
    match step p t with
    | some q => run q rest
    | none => (p, false)

end Position

/-- The tree of a text that is well formed to its end. -/
def Tree.parse (text : String) : Option Tree :=
  let (tokens, scanned) := Token.scan text.toList
  match Position.run (.value []) tokens with
  | (.done tree, true) => if scanned then some tree else none
  | _ => none

/-- The entries of a text read as a record. -/
inductive Entries where
  /-- An array gives the fields by position. -/
  | byPosition (values : List Tree)
  /-- An object gives them by name. -/
  | byName (members : Members)
  /-- Neither: there are no fields. -/
  | none

namespace Entries

/-- The entries of a complete tree. -/
def ofTree : Tree → Entries
  | .array values => .byPosition values
  | .object members => .byName members
  | _ => .none

/-- The entries gathered in a container that waits for a value. -/
def ofFrame : Frame → Entries
  | .item held => .byPosition held.reverse
  | .member held _ => .byName held.reverse

/-- The entries gathered in the outermost container at a position. -/
def atPosition : Position → Entries
  | .value outer | .firstItem outer => (outer.getLast?.map ofFrame).getD .none
  | .afterItem held outer => (outer.getLast?.map ofFrame).getD (.byPosition held.reverse)
  | .memberName _ held outer | .afterName held _ outer | .afterMember held outer =>
    (outer.getLast?.map ofFrame).getD (.byName held.reverse)
  | .done tree => ofTree tree

end Entries

/-- A text read as a record: its entries as far as they could be read, and
    whether the text is well formed to its end. -/
structure Outline where
  /-- The entries before the first fault of the text. -/
  entries : Entries
  /-- Whether the text has no fault. -/
  whole : Bool

/-- The outline of a text. -/
def Outline.read (text : String) : Outline :=
  let (tokens, scanned) := Token.scan text.toList
  let (position, accepted) := Position.run (.value []) tokens
  let finished := match position with
    | .done _ => true
    | _ => false
  { entries := Entries.atPosition position, whole := scanned && accepted && finished }

end GatewayClient.Json
