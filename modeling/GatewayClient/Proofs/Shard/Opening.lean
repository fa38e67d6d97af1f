import GatewayClient.Proofs.Shard.Basic

/-!
# What a shard says first

A connection begins with one message of the shard. It is operation 6, with token, identifier
and number, where a session is resumed, and operation 2, with what the shard is and wants, where
a new one is asked for. Neither has the name or the number of an event.

* `Handshake.members`: the members of the object that is written.
* `Shard.members_opening_iff`: a shard's message is the one with these members.
* `Session.handshake_eq_resume_iff`, `Session.handshake_eq_identify_iff`: which of the two it is.
* `Greeting.brief`: a greeting of the gateway after which a shard goes on to say it.
-/

namespace GatewayClient

open Json

/-- The members of the object that a presence is written as, by name. -/
def Presence.sorted (p : Presence) : List (String × Value) :=
  [("activities", .array p.activities), ("afk", .bool p.afk),
    ("since", p.since.elim .null .ofNat), ("status", .string p.status)]

/-- The members of the object that the first message of a shard is written as. Those of its
    payload are by name. -/
def Handshake.members (index : Nat) (config : ShardConfig) : Handshake → List (String × Value)
  | .resume sessionId seq =>
    [("op", .ofNat 6),
      ("d", .object [("seq", .ofNat seq), ("session_id", .string sessionId),
        ("token", .string config.token)])]
  | .identify =>
    [("op", .ofNat 2),
      ("d", .object ([("compress", .bool config.compress), ("intents", .ofNat config.intents),
          ("large_threshold", .ofNat config.largeThreshold)]
        ++ (config.presence.map fun p => ("presence", .object p.sorted)).toList
        ++ [("properties", .object [("browser", .string config.properties.browser),
            ("device", .string config.properties.device), ("os", .string config.properties.os)]),
          ("shard", .array [.ofNat index, .ofNat config.shardCount]),
          ("token", .string config.token)]))]

/-! ## Which members an envelope has -/

theorem OpCode.code_injective {op op' : OpCode} (h : op.code = op'.code) : op = op' := by
  have hop := ofCode?_code op
  rw [h, ofCode?_code, Option.some.injEq] at hop
  exact hop.symm

theorem Presence.ofMembers_members (p : Presence) :
    Value.ofMembers p.members = .object p.sorted := by
  obtain ⟨since, activities, status, afk⟩ := p
  cases since with
  | none => rfl
  | some n => rfl

theorem Properties.ofMembers_members (p : Properties) : Value.ofMembers p.members =
    .object [("browser", .string p.browser), ("device", .string p.device),
      ("os", .string p.os)] := rfl

namespace Envelope

/-- A message that only carries a payload has no other members. -/
theorem members_eq_iff (op : OpCode) {e : Envelope} {payload : Value} :
    e.members = [("op", .ofNat op.code), ("d", payload)] ↔ ofPayload op payload = e := by
  constructor
  · obtain ⟨op', name, sequence, payload'⟩ := e
    intro h
    cases name with
    | some name => cases sequence <;> simp [members] at h
    | none =>
      cases sequence with
      | some n => simp [members] at h
      | none =>
        simp only [members, Option.map_none, Option.toList_none, List.append_nil,
          List.cons_append, List.nil_append, List.cons.injEq, Prod.mk.injEq, true_and, and_true,
          Value.ofNat, Value.number.injEq, Json.Number.int.injEq, Int.natCast_inj] at h
        rw [ofPayload, OpCode.code_injective h.1, h.2]
  · rintro rfl
    rfl

end Envelope

namespace Session

variable {s : Session}

theorem handshake_eq_resume_iff {sessionId : String} {seq : Nat} :
    s.handshake = .resume sessionId seq ↔ s.id = some sessionId ∧ s.sequence = some seq := by
  obtain ⟨id, sequence, resumeUrl⟩ := s
  cases id <;> cases sequence <;> simp [handshake]

theorem handshake_eq_identify_iff :
    s.handshake = .identify ↔ s.id = .none ∨ s.sequence = .none := by
  obtain ⟨id, sequence, resumeUrl⟩ := s
  cases id <;> cases sequence <;> simp [handshake]

end Session

namespace Shard

theorem opening_resume (s : Shard) (sessionId : String) (seq : Nat) :
    s.opening (.resume sessionId seq) = .ofPayload .resume (.object [("seq", .ofNat seq),
      ("session_id", .string sessionId), ("token", .string s.config.token)]) := rfl

theorem opening_identify (s : Shard) : ∃ payload,
    s.opening .identify = .ofPayload .identify payload ∧
    Handshake.identify.members s.index s.config = [("op", .ofNat 2), ("d", payload)] := by
  refine ⟨_, rfl, ?_⟩
  rw [Handshake.members, Identify.members, ShardConfig.identify, Properties.ofMembers_members]
  cases s.config.presence with
  | none => rfl
  | some p =>
    rw [Option.map_some, Option.toList_some, ← p.ofMembers_members]
    rfl

/-- A shard's first message is the one with these members. -/
theorem members_opening_iff (s : Shard) (handshake : Handshake) (e : Envelope) :
    e.members = handshake.members s.index s.config ↔ s.opening handshake = e := by
  cases handshake with
  | resume sessionId seq =>
    rw [opening_resume]
    exact Envelope.members_eq_iff .resume
  | identify =>
    obtain ⟨payload, hopening, hmembers⟩ := s.opening_identify
    rw [hopening, hmembers]
    exact Envelope.members_eq_iff .identify

end Shard

/-! ## What the gateway says before -/

/-- A greeting that asks for a heartbeat every millisecond. -/
def Greeting.brief : Greeting :=
  .text (String.ofList ['[', '1', '0', ',', 'n', 'u', 'l', 'l', ',', 'n', 'u', 'l', 'l', ',',
    '[', '1', ']', ']'])

/-- A gateway can greet so that an attempt goes on. -/
theorem Greeting.interval_brief : brief.interval = .ok (Duration.ofMillis 1) := by
  have hread : Json.Outline.read (String.ofList ['[', '1', '0', ',', 'n', 'u', 'l', 'l', ',',
      'n', 'u', 'l', 'l', ',', '[', '1', ']', ']']) =
      ⟨.byPosition [.number (some (.int 10)), .null, .null, .array [.number (some (.int 1))]],
        true⟩ := by
    rw [Json.Outline.read, String.toList_ofList]
    rfl
  rw [brief, interval, Frame.read, Envelope.read, hread]
  rfl

end GatewayClient
