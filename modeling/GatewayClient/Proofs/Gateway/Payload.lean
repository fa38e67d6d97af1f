import GatewayClient.Gateway.Payload
import GatewayClient.Proofs.Gateway.Envelope

/-!
# Payloads on the wire

What the client sends comes back from the text of its message with every field as it was,
in an object whose members stand in another order than they were written in.

* `Envelope.Carries`: a message brings a payload through its own text.
* `Identify.IsPlain`, `Resume.IsPlain`, `Presence.IsPlain`: the payloads a client can hold
  that have no fractions in them.
-/

namespace GatewayClient

open Json

/-! ## Presences -/

namespace Presence

/-- A presence that a client can hold, with no fractions in its activities. -/
structure IsPlain (p : Presence) : Prop where
  /-- Its instant is a word. -/
  since : ∀ n ∈ p.since, n ≤ Number.maxWord
  activities : ∀ v ∈ p.activities, v.IsPlain

variable {p : Presence}

theorem nodup_members (p : Presence) : (p.members.map Prod.fst).Nodup := by
  change ["since", "activities", "status", "afk"].Nodup
  decide

theorem isPlain_members (hp : p.IsPlain) : (Value.ofMembers p.members).IsPlain := by
  refine Value.isPlain_ofMembers ?_
  simp only [members, List.forall_mem_cons, List.not_mem_nil, false_implies, implies_true]
  exact ⟨Value.isPlain_ofOption fun n hn => Value.isPlain_ofNat (hp.since n hn),
    Value.isPlain_array hp.activities, Value.isPlain_string _, Value.isPlain_bool _, trivial⟩

theorem ofTree?_members (hp : p.IsPlain) {n : Nat} (hn : (Value.ofMembers p.members).depth ≤ n) :
    ofTree? n (Value.ofMembers p.members).toTree = some p := by
  have hdepth : Value.itemsDepth p.activities ≤ n - 2 := by
    have : Value.depth (.array p.activities) < (Value.ofMembers p.members).depth :=
      Value.depth_lt_ofMembers p.nodup_members (m := ("activities", .array p.activities))
        (by simp [members])
    rw [Value.depth] at this
    omega
  have hactivities : (Value.array p.activities).toTree.list? (Value.ofTree? (n - 2)) =
      some p.activities :=
    Value.list?_toTree fun v hv => Value.ofTree?_toTree v (hp.activities v hv).sorted
      (Value.itemsDepth_le_iff.1 hdepth v hv)
  have hsince := Value.optional_ofOption hp.since
  rw [ofTree?, Value.fields_ofMembers p.nodup_members]
  simp [Value.fieldOf, members, Field.withDefault, Field.required, hactivities, hsince]

end Presence

/-! ## Requests for a session -/

namespace Properties

theorem nodup_members (p : Properties) : (p.members.map Prod.fst).Nodup := by
  change ["os", "browser", "device"].Nodup
  decide

theorem isPlain_members (p : Properties) : (Value.ofMembers p.members).IsPlain := by
  refine Value.isPlain_ofMembers ?_
  simp [members, Value.isPlain_string]

theorem ofTree?_members (p : Properties) : ofTree? (Value.ofMembers p.members).toTree = some p := by
  rw [ofTree?, Value.fields_ofMembers p.nodup_members]
  simp [Value.fieldOf, members, Field.required]

end Properties

namespace Identify

/-- A request that a client can hold, with no fractions in its presence. -/
structure IsPlain (p : Identify) : Prop where
  largeThreshold : p.largeThreshold < UInt32.size
  shard : p.shard.1 < UInt32.size ∧ p.shard.2 < UInt32.size
  presence : ∀ q ∈ p.presence, q.IsPlain
  intents : p.intents ≤ Number.maxWord

variable {p : Identify}

theorem nodup_members (p : Identify) : (p.members.map Prod.fst).Nodup := by
  cases hpresence : p.presence <;> simp [members, hpresence]

theorem isPlain_members (hp : p.IsPlain) : (Value.ofMembers p.members).IsPlain := by
  have hword {n : Nat} (h : n < UInt32.size) : (Value.ofNat n).IsPlain :=
    Value.isPlain_ofNat (Nat.le_trans (Nat.le_of_lt h) (by decide))
  refine Value.isPlain_ofMembers fun m hm => ?_
  simp only [members, List.mem_append, List.mem_cons, List.not_mem_nil, or_false,
    Option.mem_toList, Option.map_eq_some_iff] at hm
  rcases hm with ((rfl | rfl | rfl | rfl | rfl) | ⟨q, hq, rfl⟩) | rfl
  · exact Value.isPlain_string p.token
  · exact p.properties.isPlain_members
  · exact Value.isPlain_bool p.compress
  · exact hword hp.largeThreshold
  · refine Value.isPlain_array ?_
    simp [hword hp.shard.1, hword hp.shard.2]
  · exact Presence.isPlain_members (hp.presence q hq)
  · exact Value.isPlain_ofNat hp.intents

theorem ofTree?_members (hp : p.IsPlain) {n : Nat} (hn : (Value.ofMembers p.members).depth ≤ n) :
    ofTree? n (Value.ofMembers p.members).toTree = some p := by
  have hshard : (Value.array [Value.ofNat p.shard.1, Value.ofNat p.shard.2]).toTree.pair?
      Tree.word32? = some p.shard := by
    simp [Value.toTree, Value.toTrees, Tree.pair?, Value.word32?_ofNat hp.shard.1,
      Value.word32?_ofNat hp.shard.2]
  have hpresence : ∀ q ∈ p.presence, Presence.ofTree? (n - 1) (Value.ofMembers q.members).toTree =
      some q := by
    intro q hq
    have : (Value.ofMembers q.members).depth < (Value.ofMembers p.members).depth :=
      Value.depth_lt_ofMembers p.nodup_members (m := ("presence", .ofMembers q.members))
        (by simp [members, Option.mem_def.1 hq])
    exact Presence.ofTree?_members (hp.presence q hq) (by omega)
  rw [ofTree?, Value.fields_ofMembers p.nodup_members]
  have hthreshold := Value.word32?_ofNat hp.largeThreshold
  have hintents := Value.word64?_ofNat hp.intents
  -- Without a presence there is no member for it, so the two lists of members differ.
  obtain ⟨token, properties, compress, threshold, shard, presence, intents⟩ := p
  cases presence with
  | none =>
    simp [Value.fieldOf, members, Field.required, Properties.ofTree?_members, hshard, hthreshold,
      hintents, Field.optional]
  | some q =>
    simp [Value.fieldOf, members, Field.required, Properties.ofTree?_members, hshard, hthreshold,
      hintents, Value.optional_ofMembers, hpresence q rfl]

end Identify

namespace Resume

/-- A request that a client can hold. -/
def IsPlain (p : Resume) : Prop := p.seq ≤ Number.maxWord

variable {p : Resume}

theorem nodup_members (p : Resume) : (p.members.map Prod.fst).Nodup := by
  change ["token", "session_id", "seq"].Nodup
  decide

theorem isPlain_members (hp : p.IsPlain) : (Value.ofMembers p.members).IsPlain := by
  refine Value.isPlain_ofMembers ?_
  simp [members, Value.isPlain_string, Value.isPlain_ofNat hp]

theorem ofTree?_members (hp : p.IsPlain) : ofTree? (Value.ofMembers p.members).toTree = some p := by
  rw [ofTree?, Value.fields_ofMembers p.nodup_members]
  simp [Value.fieldOf, members, Field.required, Value.word64?_ofNat hp]

end Resume

/-! ## Messages -/

namespace Envelope

/-- A message that is read from its own text as one with the operation `op` and without name
    and number, whose payload gives `a`. -/
def Carries {α : Type} (e : Envelope) (op : OpCode) (ofValue? : Value → Option α) (a : α) : Prop :=
  ∃ received, read e.write = .ok received ∧ received.op = op ∧ received.name = none ∧
    received.sequence = none ∧ ofValue? received.payload = some a

theorem carries_ofPayload {α : Type} {op : OpCode} {v : Value} {ofValue? : Value → Option α}
    {a : α} (hv : v.IsPlain) (hdepth : (ofPayload op v).depth ≤ maxDepth)
    (h : ofValue? v = some a) : (ofPayload op v).Carries op ofValue? a := by
  have hplain : (ofPayload op v).IsPlain := ⟨nofun, hv, hdepth⟩
  exact ⟨ofPayload op v, read_write hplain, rfl, rfl, rfl, h⟩

theorem carries_resume {p : Resume} (hp : p.IsPlain) :
    (resume p).Carries .resume Resume.ofValue? p := by
  refine carries_ofPayload (Resume.isPlain_members hp) ?_ (Resume.ofTree?_members hp)
  have hshallow : (Value.ofMembers p.members).depth ≤ 0 + 1 :=
    Value.depth_ofMembers_le (by simp [Resume.members, Value.depth, Value.ofNat])
  exact Nat.le_trans (Nat.succ_le_succ hshallow) (by decide)

theorem carries_heartbeat {last : Option Nat} (hlast : ∀ n ∈ last, n ≤ Number.maxWord) :
    (heartbeat last).Carries .heartbeat lastOfValue? last := by
  refine carries_ofPayload (Value.isPlain_ofOption fun n hn => Value.isPlain_ofNat (hlast n hn))
    ?_ ?_
  · cases last <;> simp [depth, ofPayload, Value.ofOption, Value.ofNat, Value.depth, maxDepth]
  · exact Value.optional_ofOption hlast

/-- What the client sends to open or to continue a session, to show a presence or to be heard
    comes out of the text of its message as it was put in. A presence that there is not is
    no member of a request, but an instant that there is not is a member that is `null`. -/
theorem carries_payload :
    (∀ p : Identify, p.IsPlain → (identify p).depth ≤ maxDepth →
      (identify p).Carries .identify Identify.ofValue? p ∧
      (identify p).payload.get? "presence" = p.presence.map fun q => .ofMembers q.members) ∧
    (∀ p : Resume, p.IsPlain → (resume p).Carries .resume Resume.ofValue? p) ∧
    (∀ p : Presence, p.IsPlain → (presenceUpdate p).depth ≤ maxDepth →
      (presenceUpdate p).Carries .presenceUpdate Presence.ofValue? p ∧
      (presenceUpdate p).payload.get? "since" = some (.ofOption .ofNat p.since)) ∧
    ∀ last : Option Nat, (∀ n ∈ last, n ≤ Number.maxWord) →
      (heartbeat last).Carries .heartbeat lastOfValue? last := by
  refine ⟨fun p hp hdepth => ⟨?_, ?_⟩, fun p hp => carries_resume hp,
    fun p hp hdepth => ⟨?_, ?_⟩, fun last hlast => carries_heartbeat hlast⟩
  · exact carries_ofPayload (Identify.isPlain_members hp) hdepth
      (Identify.ofTree?_members hp (Nat.le_refl _))
  · refine (Value.get?_ofMembers p.nodup_members _).trans ?_
    cases hpresence : p.presence <;> simp [Identify.members, hpresence]
  · exact carries_ofPayload (Presence.isPlain_members hp) hdepth
      (Presence.ofTree?_members hp (Nat.le_refl _))
  · refine (Value.get?_ofMembers p.nodup_members _).trans ?_
    simp [Presence.members]

/-- A presence without an instant, with an activity of several containers. -/
def busyPresence : Presence where
  since := none
  activities := [.object [("name", .string "\"é\n"),
    ("types", .array [.number (.int (-1)), .object [], .null])]]
  status := "dnd"
  afk := true

theorem isPlain_busyPresence : busyPresence.IsPlain := by
  refine ⟨by decide, fun v hv => ?_⟩
  rw [List.mem_singleton.1 hv]
  exact ⟨by decide, by decide⟩

/-- A request with numbers at their bounds. -/
def wideIdentify (presence : Option Presence) : Identify where
  token := "\\token"
  properties := .ofProgram "linux" "client"
  compress := false
  largeThreshold := 4294967295
  shard := (0, 4294967295)
  presence := presence
  intents := 18446744073709551615

theorem isPlain_wideIdentify {presence : Option Presence} (h : ∀ q ∈ presence, q.IsPlain) :
    (wideIdentify presence).IsPlain := by
  have hlast : 4294967295 < UInt32.size := by decide
  have hmax : 18446744073709551615 ≤ Number.maxWord := by decide
  exact ⟨hlast, ⟨Nat.zero_lt_of_lt hlast, hlast⟩, h, hmax⟩

theorem carries_payload_wide :
    ((identify (wideIdentify (some busyPresence))).Carries .identify Identify.ofValue?
        (wideIdentify (some busyPresence)) ∧
      (identify (wideIdentify none)).Carries .identify Identify.ofValue? (wideIdentify none) ∧
      (identify (wideIdentify none)).payload.get? "presence" = none) ∧
    (resume ⟨"token", "id", 7⟩).Carries .resume Resume.ofValue? ⟨"token", "id", 7⟩ ∧
    ((presenceUpdate busyPresence).Carries .presenceUpdate Presence.ofValue? busyPresence ∧
      (presenceUpdate busyPresence).payload.get? "since" = some .null) ∧
    (heartbeat (some 18446744073709551615)).Carries .heartbeat lastOfValue?
      (some 18446744073709551615) ∧
    (heartbeat none).Carries .heartbeat lastOfValue? none := by
  obtain ⟨hidentify, hresume, hpresence, hheartbeat⟩ := carries_payload
  have hbusy := hidentify (wideIdentify (some busyPresence))
    (isPlain_wideIdentify fun q hq => Option.some.inj hq ▸ isPlain_busyPresence) (by decide)
  have hnone := hidentify (wideIdentify none) (isPlain_wideIdentify nofun) (by decide)
  exact ⟨⟨hbusy.1, hnone⟩, hresume _ (by unfold Resume.IsPlain; decide),
    hpresence _ isPlain_busyPresence (by decide), hheartbeat _ (by decide), hheartbeat _ nofun⟩

end Envelope

end GatewayClient
