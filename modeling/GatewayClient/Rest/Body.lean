import GatewayClient.Json.Value
import GatewayClient.Rest.Form
import GatewayClient.Rest.MediaType

/-!
# Request bodies

What a request carries: nothing, a JSON value, a form, or files with a JSON value
beside them. A body is encoded before anything is sent, and encoding may fail: an
entry of a JSON object needs a string for its name, and the type of a file must
be a media type.

* `Body.ofEntries`: a body that is a JSON object of the given entries.
* `Body.encode`: the type and the bytes of the content.
-/

namespace GatewayClient

/-- Why a body cannot be encoded. -/
inductive EncodeError where
  /-- The name of an entry is no string. -/
  | keyNotString
  /-- The type of a file is no media type. -/
  | badMediaType
  deriving DecidableEq, Repr

/-- The reason for people. -/
def EncodeError.reason : EncodeError → String
  | keyNotString => "key must be a string"
  | badMediaType => "builder error"

/-- A file to upload. -/
structure Attachment where
  filename : String
  /-- The type of the file, as the caller gives it. -/
  contentType : Option String
  data : List UInt8
  deriving DecidableEq, Repr

/-- What a request carries. -/
inductive Body where
  | empty
  | json (value : Json.Value)
  | form (pairs : List (String × String))
  /-- Files, and a value beside them. -/
  | multipart (payload : Option Json.Value) (files : List Attachment)

/-- The content of a request as it is sent. -/
structure Content where
  contentType : String
  bytes : List UInt8
  deriving DecidableEq, Repr

/-- One part of a content of several. -/
structure Part where
  name : String
  filename : Option String
  contentType : Option String
  data : List UInt8
  deriving DecidableEq, Repr

namespace Part

/-- A file name between quotes: a backslash comes before what would end the quotes
    or the line. -/
def escapedFilename (s : String) : String :=
  String.ofList (s.toList.flatMap fun c =>
    if c = '\\' || c = '"' || c = '\r' || c = '\n' then ['\\', c] else [c])

/-- The headers of a part. -/
def header (p : Part) : String :=
  "Content-Disposition: form-data; name=\"" ++ p.name ++ "\""
    ++ (match p.filename with
      | some f => "; filename=\"" ++ escapedFilename f ++ "\""
      | none => "")
    ++ (match p.contentType with
      | some t => "\r\nContent-Type: " ++ t
      | none => "")

/-- The bytes of a part, after the boundary that begins it. -/
def bytes (boundary : String) (p : Part) : List UInt8 :=
  Utf8.encode ("--" ++ boundary ++ "\r\n" ++ p.header ++ "\r\n\r\n") ++ p.data
    ++ Utf8.encode "\r\n"

/-- The part of an uploaded file, by its place among the files. -/
def ofAttachment? (index : Nat) (a : Attachment) : Except EncodeError Part := do
  let contentType ← match a.contentType with
    | none => pure none
    | some t => match MediaType.spelled? t with
      | some t => pure (some t)
      | none => throw .badMediaType
  return ⟨s!"files[{index}]", some a.filename, contentType, a.data⟩

/-- The parts of uploaded files from a place on. -/
def ofAttachments? (index : Nat) : List Attachment → Except EncodeError (List Part)
  | [] => return []
  | a :: rest => do
    let part ← ofAttachment? index a
    return part :: (← ofAttachments? (index + 1) rest)

/-- The part of the value beside the files. -/
def ofPayload (v : Json.Value) : Part :=
  ⟨"payload_json", none, some "application/json", Utf8.encode v.text⟩

/-- All parts, with the boundary that ends them; no bytes for no part. -/
def content (boundary : String) (parts : List Part) : List UInt8 :=
  if parts.isEmpty then []
  else parts.flatMap (bytes boundary) ++ Utf8.encode ("--" ++ boundary ++ "--\r\n")

end Part

namespace Body

/-- The name of an entry. -/
def entryName : Json.Value → Except EncodeError String
  | .string s => .ok s
  | _ => .error .keyNotString

/-- The body that is a JSON object of the given entries. -/
def ofEntries (entries : List (Json.Value × Json.Value)) : Except EncodeError Body := do
  let members ← entries.mapM fun (key, value) => do return (← entryName key, value)
  return .json (.ofMembers members)

/-- The content of a body; a boundary separates its parts where it has several. -/
def encode (boundary : String) : Body → Except EncodeError (Option Content)
  | empty => .ok none
  | json v => .ok (some ⟨"application/json", Utf8.encode v.text⟩)
  | form pairs =>
    .ok (some ⟨"application/x-www-form-urlencoded", Utf8.encode (Form.text pairs)⟩)
  | multipart payload files => do
    let parts := (payload.map Part.ofPayload).toList ++ (← Part.ofAttachments? 0 files)
    return some ⟨"multipart/form-data; boundary=" ++ boundary, Part.content boundary parts⟩

end Body

end GatewayClient
