import GatewayClient.KeyValue.Documented

/-!
# Servers that keep their keys in a table

A server that forgets a key as soon as the millisecond is over in which its lifetime
ends. It is the least that does what is documented.

* `Server.execute`: the answer to a command.
-/

namespace GatewayClient

/-- The keys of a server. -/
structure Server where
  entries : Table String Entry
  deriving Repr

namespace Server

/-- A server without keys. -/
def empty : Server := ⟨∅⟩

/-- How its keys are seen. -/
def view : View Server := ⟨fun s key => s.entries.get? key, fun _ _ => true⟩

/-- The server with an entry under a key. -/
def put (s : Server) (key : String) (e : Entry) : Server := ⟨s.entries.insert key e⟩

/-- The server without a key. -/
def remove (s : Server) (key : String) : Server := ⟨s.entries.erase key⟩

/-- The answer to a command at a time, and the server after it. -/
def execute : Execution Server
  | .get key, now, s => (View.textReply (view.find? s key now), s)
  | .set key value lifetime, now, s =>
    if IsLifetime now lifetime then
      (.status "OK", s.put key ⟨.text value, some (now + lifetime)⟩)
    else (.refused .badLifetime, s)
  | .setNew key value lifetime, now, s =>
    if IsLifetime now lifetime then
      if (view.find? s key now).isSome then (.absent, s)
      else (.status "OK", s.put key ⟨.text value, some (now + lifetime)⟩)
    else (.refused .badLifetime, s)
  | .timeLeft key, now, s => (.integer (View.left now (view.find? s key now)), s)
  | .fields key names, now, s =>
    match View.record? (view.find? s key now) with
    | some fields => (View.fieldsReply names fields, s)
    | none => (.refused .wrongKind, s)
  | .setFields key changes, now, s =>
    match View.record? (view.find? s key now) with
    | some fields =>
      (.integer ((View.withFields fields changes).size - fields.size),
        s.put key ⟨.record (View.withFields fields changes),
          (view.find? s key now).bind (·.expiry)⟩)
    | none => (.refused .wrongKind, s)
  | .keep key lifetime, now, s =>
    if Integer.Fits ((now : Int) + lifetime) then
      match view.find? s key now with
      | some e =>
        (.integer 1,
          if lifetime = 0 then s.remove key
          else s.put key { e with expiry := some (now + lifetime) })
      | none => (.integer 0, s)
    else (.refused .badLifetime, s)

end Server

end GatewayClient
