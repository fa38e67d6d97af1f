/-!
# Media types

The type of the content of a file: a type and a subtype with a slash between
them, and parameters. Words are tokens of ASCII characters; the value of a
parameter may be in double quotes instead.

* `MediaType.spelled?`: a media type as it is written in a header, with all in
  lower case but the values of parameters.
-/

namespace GatewayClient.MediaType

/-- A character of a token. -/
def isToken (c : Char) : Bool := c.isAlphanum || "!#$%&'*+-.^_`|~".toList.contains c

/-- A character between double quotes. -/
def isQuoted (c : Char) : Bool := 31 < c.toNat && c.toNat ≠ 127

/-- A text with its ASCII letters in lower case. -/
def lower (cs : List Char) : List Char := cs.map Char.toLower

/-- The value of a parameter as it is written: the case of a character set does
    not matter. -/
def spellValue (name value : List Char) : List Char :=
  if lower name = "charset".toList then lower value else value

/-- The value in double quotes at the start of a text, after the first of them,
    with what comes after the second. Its first character is never taken for the
    closing quote. -/
def quotedValue? : List Char → Option (List Char × List Char)
  | [] => none
  | c :: rest =>
    let more := rest.takeWhile fun d => isQuoted d && d ≠ '"'
    match rest.dropWhile fun d => isQuoted d && d ≠ '"' with
    | '"' :: rest => if isQuoted c then some (c :: more, rest) else none
    | _ => none

/-- What comes after a parameter: a semicolon and the next one, or nothing. -/
def nextParameter? : List Char → Option (List Char)
  | [] => some []
  | ';' :: rest => some rest
  | _ => none

/-- The parameter at the start of a text as it is written, with what comes after
    its semicolon and whether it has one. -/
def parameter? (cs : List Char) : Option (List Char × List Char) :=
  let name := cs.takeWhile isToken
  match name, cs.dropWhile isToken with
  | [], _ => none
  | _, '=' :: '"' :: rest => do
    let (value, rest) ← quotedValue? rest
    let blanks := rest.takeWhile (· = ' ')
    let rest := rest.dropWhile (· = ' ')
    let next ← nextParameter? rest
    return (lower name ++ '=' :: '"' :: spellValue name value ++ '"' :: blanks
      ++ rest.take 1, next)
  | _, '=' :: rest => do
    let value := rest.takeWhile isToken
    let rest := rest.dropWhile isToken
    let next ← nextParameter? rest
    if value.isEmpty && !rest.isEmpty then none
    else return (lower name ++ '=' :: spellValue name value ++ rest.take 1, next)
  | _, _ => none

/-- The parameters in a text as they are written, and whether there are any.
    `fuel` is more than the length of the text, of which each parameter takes
    some. -/
def parameters? : Nat → List Char → Option (List Char × Bool)
  | 0, _ => none
  | _ + 1, [] => some ([], false)
  | fuel + 1, ' ' :: rest => do
    let (text, any) ← parameters? fuel rest
    return (' ' :: text, any)
  | fuel + 1, cs => do
    let (text, rest) ← parameter? cs
    let (more, _) ← parameters? fuel rest
    return (text ++ more, true)

/-- The type and the subtype at the start of a text, with what comes after them.
    The subtype may be empty where nothing comes. -/
def essence? (cs : List Char) : Option (List Char × List Char) :=
  let type := cs.takeWhile isToken
  match type, cs.dropWhile isToken with
  | [], _ => none
  | _, '/' :: rest =>
    let subtype := rest.takeWhile isToken
    let rest := rest.dropWhile isToken
    if subtype.isEmpty && !rest.isEmpty then none
    else some (lower (type ++ '/' :: subtype), rest)
  | _, _ => none

/-- A media type as it is written in a header, if the text is one. A semicolon
    after which no parameter comes is left out. -/
def spelled? (text : String) : Option String := do
  let (essence, rest) ← essence? text.toList
  match rest with
  | [] => return String.ofList essence
  | ';' :: rest =>
    let (parameters, any) ← parameters? (rest.length + 1) rest
    return String.ofList (if any then essence ++ ';' :: parameters else essence)
  | _ => none

end GatewayClient.MediaType
