import GatewayClient.Config.Variables
import GatewayClient.Text.Alphanumeric

/-!
# Files of variables

A file may give values for variables that are absent. Each of its lines assigns
one: a name, an equals sign and a value. Blank lines and lines that begin with
`#` say nothing, and the word `export` may come before a name.

In a value single quotes keep everything, double quotes keep blanks and allow
escapes, and a blank outside quotes ends it; only a comment may follow. `$name`
and `${name}` stand for the value of another variable. A value goes on to the
next line while a quote or an escape is open.

Reading stops at the first line that is not of this form; what comes before it
counts.

* `Dotenv.lines`: the file cut into lines that each hold a whole assignment.
* `Dotenv.value?`: the value that is written after the equals sign.
* `Dotenv.load`: the variables after a file has filled in what is absent.
-/

namespace GatewayClient.Dotenv

/-! ### Lines -/

/-- What is open at some place of a line. -/
inductive Open where
  /-- Nothing. -/
  | nothing
  /-- Nothing, after a blank: a comment may begin. -/
  | blank
  /-- An escape outside quotes. -/
  | escape
  /-- Double quotes. -/
  | double
  /-- An escape in double quotes. -/
  | doubleEscape
  /-- Single quotes. -/
  | single
  /-- An escape in single quotes. -/
  | singleEscape
  deriving DecidableEq, Repr

/-- What is open after a character outside quotes. -/
def Open.outside (c : Char) : Open :=
  match c with
  | '\\' => .escape
  | '"' => .double
  | '\'' => .single
  | _ => .nothing

/-- What is open after one more character. -/
def Open.after (s : Open) (c : Char) : Open :=
  match s with
  | .blank => outside c
  | .escape => .nothing
  | .nothing => if isBlank c && c ≠ '\n' && c ≠ '\r' then .blank else outside c
  | .double => if c = '\\' then .doubleEscape else if c = '"' then .nothing else .double
  | .doubleEscape => .double
  | .single => if c = '\\' then .singleEscape else if c = '\'' then .nothing else .single
  | .singleEscape => .single

/-- The part of a line before a comment, and what is open at its end; nothing is
    said about the end where a comment begins. -/
def Open.scan (s : Open) : List Char → List Char × Option Open
  | [] => ([], some s)
  | c :: rest =>
    if s = .blank && c = '#' then ([], none)
    else
      let (kept, last) := scan (s.after c) rest
      (c :: kept, last)

/-- A text cut after each line feed. -/
def physical : List Char → List (List Char)
  | [] => []
  | c :: rest =>
    if c = '\n' then ['\n'] :: physical rest
    else
      match physical rest with
      | [] => [[c]]
      | line :: lines => (c :: line) :: lines

/-- A line without the line feed, or the carriage return and the line feed, that
    ends it. -/
def withoutEnd (line : List Char) : List Char :=
  match line.reverse with
  | '\n' :: '\r' :: rest => rest.reverse
  | '\n' :: rest => rest.reverse
  | _ => line

/-- The lines of a file from `s` on, where `before` is the line so far. Nothing
    stands for a line that the file ends in the middle of. -/
def linesFrom (s : Open) (before : List Char) : List (List Char) → List (Option (List Char))
  | [] => if s = .nothing then [] else [none]
  | line :: rest =>
    let whole := before ++ line
    if (whole.dropWhile isBlank).head? = some '#' then some [] :: linesFrom .nothing [] rest
    else
      match s.scan line with
      | (kept, none) => some (before ++ kept) :: linesFrom .nothing [] rest
      | (_, some .nothing) => some (withoutEnd whole) :: linesFrom .nothing [] rest
      | (_, some open') => linesFrom open' whole rest

/-- The lines of a file, without the mark of its encoding. -/
def lines (text : String) : List (Option (List Char)) :=
  let text := match text.toList with
    | '\uFEFF' :: rest => rest
    | cs => cs
  linesFrom .nothing [] (physical text)

/-! ### Values -/

/-- The quotes that are open. -/
inductive Quote where
  | none
  | single
  | double
  deriving DecidableEq, Repr

/-- A reference to a variable of which the name is being read. -/
structure Reference where
  /-- Whether the name is in braces. -/
  braced : Bool
  /-- The name so far. -/
  name : List Char

/-- A value as far as it has been read. -/
structure Draft where
  text : List Char
  quote : Quote
  escaped : Bool
  /-- Whether the value is over. -/
  ended : Bool
  reference : Option Reference

namespace Draft

/-- Nothing read yet. -/
def empty : Draft := ⟨[], .none, false, false, none⟩

/-- The value with one more character. -/
def push (d : Draft) (c : Char) : Draft := { d with text := d.text ++ [c] }

/-- The value with what a name stands for; nothing if there is no such
    variable. -/
def resolve (v : Variables) (d : Draft) (name : List Char) : Draft :=
  let found := ((v.text? (String.ofList name)).getD "").toList
  { d with text := d.text ++ found, reference := none }

/-- One more character of a reference. -/
def refer (v : Variables) (d : Draft) (r : Reference) (c : Char) : Draft :=
  if isAlphanumeric c then { d with reference := some { r with name := r.name ++ [c] } }
  else if r.braced then
    if c = '\x7d' then d.resolve v r.name
    else { d with reference := some { r with name := r.name ++ [c] } }
  else if c = '\x7b' && r.name.isEmpty then { d with reference := some { r with braced := true } }
  else if c = '$' then { d.resolve v r.name with reference := some ⟨false, []⟩ }
  else (d.resolve v r.name).push c

/-- One more character of a value that is not over, outside a reference. -/
def read (d : Draft) (c : Char) : Option Draft :=
  if d.escaped then
    if c = 'n' then some { d.push '\n' with escaped := false }
    else if c = '\\' || c = '\'' || c = '"' || c = '$' || c = ' ' then
      some { d.push c with escaped := false }
    else none
  else
    match d.quote with
    | .single => some (if c = '\'' then { d with quote := .none } else d.push c)
    | .double =>
      if c = '$' then some { d with reference := some ⟨false, []⟩ }
      else if c = '"' then some { d with quote := .none }
      else if c = '\\' then some { d with escaped := true }
      else some (d.push c)
    | .none =>
      if c = '$' then some { d with reference := some ⟨false, []⟩ }
      else if c = '\'' then some { d with quote := .single }
      else if c = '"' then some { d with quote := .double }
      else if c = '\\' then some { d with escaped := true }
      else if c = ' ' || c = '\t' then some { d with ended := true }
      else some (d.push c)

/-- The value with the characters that follow, up to a comment. -/
def readAll (v : Variables) (d : Draft) : List Char → Option Draft
  | [] => some d
  | c :: rest =>
    if d.ended then
      if c = ' ' || c = '\t' then readAll v d rest
      else if c = '#' then some d
      else none
    else
      match d.reference with
      | some r => readAll v (d.refer v r c) rest
      | none => (d.read c).bind fun d => readAll v d rest

/-- The text of a value, if nothing is open at its end. -/
def finish (v : Variables) (d : Draft) : Option (List Char) :=
  match d.quote, d.reference with
  | .none, none => some d.text
  | .none, some r => if r.braced then none else some (d.resolve v r.name).text
  | _, _ => none

end Draft

/-- The value that is written after the equals sign. -/
def value? (v : Variables) (cs : List Char) : Option (List Char) :=
  (Draft.empty.readAll v cs).bind fun d => d.finish v

/-! ### Assignments -/

/-- A character that begins a name. -/
def startsName (c : Char) : Bool := c.isAlpha || c = '_'

/-- A character of a name. -/
def inName (c : Char) : Bool := c.isAlphanum || c = '_' || c = '.'

/-- The name at the start of a line, and what comes after it. -/
def name? (cs : List Char) : Option (List Char × List Char) :=
  if cs.head?.any startsName then some (cs.takeWhile inName, cs.dropWhile inName) else none

/-- What comes after an equals sign. -/
def afterEquals? : List Char → Option (List Char)
  | '=' :: rest => some rest
  | _ => none

/-- The name and the text of the value in a line that assigns one. -/
def target? (cs : List Char) : Option (List Char × List Char) := do
  let (name, rest) ← name? cs
  let rest := rest.dropWhile isBlank
  match afterEquals? rest with
  | some rest => return (name, rest)
  | none =>
    if name = "export".toList then
      let (name, rest) ← name? rest
      return (name, ← afterEquals? (rest.dropWhile isBlank))
    else none

/-- The assignment in a line, if it is one; an inner nothing is a line that says
    nothing. -/
def assignment? (v : Variables) (line : List Char) : Option (Option (String × String)) :=
  let cs := Trim.both isBlank line
  if cs.isEmpty || cs.head? = some '#' then some none
  else do
    let (name, rest) ← target? cs
    let rest := rest.dropWhile isBlank
    if rest.isEmpty || rest.head? = some '#' then return some (String.ofList name, "")
    else
      return some (String.ofList name, String.ofList (← value? v rest))

/-- The variables after the lines of a file have filled in what is absent, up to
    the first line that is no assignment. -/
def loadLines (v : Variables) : List (Option (List Char)) → Variables
  | [] => v
  | none :: _ => v
  | some line :: rest =>
    match assignment? v line with
    | none => v
    | some none => loadLines v rest
    | some (some (name, value)) => loadLines (v.fill name value) rest

/-- The variables after a file has filled in what is absent. -/
def load (v : Variables) (text : String) : Variables := loadLines v (lines text)

end GatewayClient.Dotenv
