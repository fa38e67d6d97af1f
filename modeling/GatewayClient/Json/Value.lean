import GatewayClient.Json.Tree

/-!
# JSON values

A `Value` is what a payload means: every literal has a value, and the members of
an object have distinct names in ascending order. Reading a tree keeps the last
of the members with one name and allows a bounded number of containers inside
each other; writing is compact, with the members in their order.

* `Value.depth`: the number of containers inside each other.
* `Value.ofTree?`: the value of a tree, if it has one within a depth.
* `Value.toTree`: a value as it would be written.
* `Value.text`: its text.
-/

namespace GatewayClient.Json

/-- A JSON value. Objects list their members by ascending name. -/
inductive Value where
  | null
  | bool (value : Bool)
  | number (value : Number)
  | string (value : String)
  | array (items : List Value)
  | object (members : List (String × Value))
  deriving BEq, Repr, Inhabited

/-- The containers that a payload may open inside each other, the outer record
    included. -/
def maxDepth : Nat := 127

namespace Value

/-- The members with one more, in its place by name; a member of that name is
    replaced. -/
def insertMember (name : String) (value : Value) : List (String × Value) → List (String × Value)
  | [] => [(name, value)]
  | (n, v) :: rest =>
    if name < n then (name, value) :: (n, v) :: rest
    else if n < name then (n, v) :: insertMember name value rest
    else (name, value) :: rest

/-- The object with these members; of members with one name the last stays. -/
def ofMembers (members : List (String × Value)) : Value :=
  .object (members.foldl (fun sorted (name, value) => insertMember name value sorted) [])

mutual

/-- The number of containers inside each other in a value. -/
def depth : Value → Nat
  | .null | .bool _ | .number _ | .string _ => 0
  | .array items => itemsDepth items + 1
  | .object members => membersDepth members + 1

/-- The number of containers inside each other in the items of an array. -/
def itemsDepth : List Value → Nat
  | [] => 0
  | v :: rest => max (depth v) (itemsDepth rest)

/-- The number of containers inside each other in the members of an object. -/
def membersDepth : List (String × Value) → Nat
  | [] => 0
  | (_, v) :: rest => max (depth v) (membersDepth rest)

end

mutual

/-- The value of a tree with at most `depth` containers inside each other. -/
def ofTree? (depth : Nat) : Tree → Option Value
  | .null => some .null
  | .bool b => some (.bool b)
  | .number n => n.map .number
  | .string s => s.map .string
  | .array items =>
    if depth = 0 then none else (ofTrees? (depth - 1) items).map .array
  | .object members =>
    if depth = 0 then none else (ofMembers? (depth - 1) members).map ofMembers

/-- The values of the items of an array. -/
def ofTrees? (depth : Nat) : List Tree → Option (List Value)
  | [] => some []
  | t :: rest => do
    let v ← ofTree? depth t
    return v :: (← ofTrees? depth rest)

/-- The values of the members of an object, as they were written. -/
def ofMembers? (depth : Nat) : List (Option String × Tree) → Option (List (String × Value))
  | [] => some []
  | (name, t) :: rest => do
    let name ← name
    let v ← ofTree? depth t
    return (name, v) :: (← ofMembers? depth rest)

end

mutual

/-- A value as it would be written. -/
def toTree : Value → Tree
  | .null => .null
  | .bool b => .bool b
  | .number n => .number (some n)
  | .string s => .string (some s)
  | .array items => .array (toTrees items)
  | .object members => .object (toMembers members)

/-- The items of an array as they would be written. -/
def toTrees : List Value → List Tree
  | [] => []
  | v :: rest => toTree v :: toTrees rest

/-- The members of an object as they would be written. -/
def toMembers : List (String × Value) → List (Option String × Tree)
  | [] => []
  | (name, v) :: rest => (some name, toTree v) :: toMembers rest

end

/-- The hexadecimal digit of a number below sixteen. -/
def hexDigit (n : Nat) : Char := if n < 10 then Char.ofNat (48 + n) else Char.ofNat (87 + n)

/-- A character inside a string literal. Quotes, backslashes and control
    characters are escaped, everything else stands for itself. -/
def escaped (c : Char) : List Char :=
  match c with
  | '"' => ['\\', '"']
  | '\\' => ['\\', '\\']
  | '\x08' => ['\\', 'b']
  | '\x0c' => ['\\', 'f']
  | '\n' => ['\\', 'n']
  | '\r' => ['\\', 'r']
  | '\t' => ['\\', 't']
  | c =>
    if c.toNat < 0x20 then
      ['\\', 'u', '0', '0', hexDigit (c.toNat / 16), hexDigit (c.toNat % 16)]
    else [c]

/-- A string literal, before the text `rest`. -/
def quoted (s : String) (rest : List Char) : List Char :=
  '"' :: (s.toList.flatMap escaped ++ '"' :: rest)

mutual

/-- The text of a value, before the text `rest`. -/
def textBefore (rest : List Char) : Value → List Char
  | .null => 'n' :: 'u' :: 'l' :: 'l' :: rest
  | .bool true => 't' :: 'r' :: 'u' :: 'e' :: rest
  | .bool false => 'f' :: 'a' :: 'l' :: 's' :: 'e' :: rest
  | .number n => n.text ++ rest
  | .string s => quoted s rest
  | .array [] => '[' :: ']' :: rest
  | .array (v :: items) => '[' :: textBefore (itemsBefore (']' :: rest) items) v
  | .object [] => '{' :: '}' :: rest
  | .object ((name, v) :: members) =>
    '{' :: quoted name (':' :: textBefore (membersBefore ('}' :: rest) members) v)

/-- Further items of an array, each after its comma, before the text `rest`. -/
def itemsBefore (rest : List Char) : List Value → List Char
  | [] => rest
  | v :: items => ',' :: textBefore (itemsBefore rest items) v

/-- Further members of an object, each after its comma, before the text
    `rest`. -/
def membersBefore (rest : List Char) : List (String × Value) → List Char
  | [] => rest
  | (name, v) :: members =>
    ',' :: quoted name (':' :: textBefore (membersBefore rest members) v)

end

/-- The compact text of a value. -/
def text (v : Value) : String := String.ofList (v.textBefore [])

/-- The value of a text, within the depth of a payload. -/
def parse (text : String) : Option Value := (Tree.parse text).bind (ofTree? maxDepth)

/-- The member of an object with a name. -/
def get? (v : Value) (name : String) : Option Value :=
  match v with
  | .object members => (members.find? fun m => m.1 = name).map Prod.snd
  | _ => none

/-- The truth value, if it is one. -/
def asBool? : Value → Option Bool
  | .bool b => some b
  | _ => none

/-- A natural number as a value. -/
def ofNat (n : Nat) : Value := .number (.int n)

/-- An optional part as a value, `null` if it is absent. -/
def ofOption {α : Type} (write : α → Value) : Option α → Value
  | some a => write a
  | none => .null

end Value

end GatewayClient.Json
