/-!
# Kinds of events

The events that listeners can ask for, by the names that dispatch messages carry.
A message with any other name reaches no listener.
-/

namespace GatewayClient

/-- A kind of event. -/
inductive EventKind where
  | ready
  | resumed
  | guildCreate
  | guildUpdate
  | guildDelete
  | guildBanAdd
  | guildBanRemove
  | guildRoleCreate
  | guildRoleUpdate
  | guildRoleDelete
  | channelCreate
  | channelUpdate
  | channelDelete
  | messageCreate
  | messageUpdate
  | messageDelete
  | messageDeleteBulk
  | messageReactionAdd
  | messageReactionRemove
  | guildMemberAdd
  | guildMemberUpdate
  | guildMemberRemove
  | guildMembersChunk
  | presenceUpdate
  | typingStart
  | voiceStateUpdate
  | userUpdate
  | interactionCreate
  deriving DecidableEq, Repr

namespace EventKind

/-- All kinds of events. -/
def all : List EventKind :=
  [ready, resumed, guildCreate, guildUpdate, guildDelete, guildBanAdd, guildBanRemove,
    guildRoleCreate, guildRoleUpdate, guildRoleDelete, channelCreate, channelUpdate,
    channelDelete, messageCreate, messageUpdate, messageDelete, messageDeleteBulk,
    messageReactionAdd, messageReactionRemove, guildMemberAdd, guildMemberUpdate,
    guildMemberRemove, guildMembersChunk, presenceUpdate, typingStart, voiceStateUpdate,
    userUpdate, interactionCreate]

/-- The name that a dispatch message carries. -/
def wireName : EventKind → String
  | ready => "READY"
  | resumed => "RESUMED"
  | guildCreate => "GUILD_CREATE"
  | guildUpdate => "GUILD_UPDATE"
  | guildDelete => "GUILD_DELETE"
  | guildBanAdd => "GUILD_BAN_ADD"
  | guildBanRemove => "GUILD_BAN_REMOVE"
  | guildRoleCreate => "GUILD_ROLE_CREATE"
  | guildRoleUpdate => "GUILD_ROLE_UPDATE"
  | guildRoleDelete => "GUILD_ROLE_DELETE"
  | channelCreate => "CHANNEL_CREATE"
  | channelUpdate => "CHANNEL_UPDATE"
  | channelDelete => "CHANNEL_DELETE"
  | messageCreate => "MESSAGE_CREATE"
  | messageUpdate => "MESSAGE_UPDATE"
  | messageDelete => "MESSAGE_DELETE"
  | messageDeleteBulk => "MESSAGE_DELETE_BULK"
  | messageReactionAdd => "MESSAGE_REACTION_ADD"
  | messageReactionRemove => "MESSAGE_REACTION_REMOVE"
  | guildMemberAdd => "GUILD_MEMBER_ADD"
  | guildMemberUpdate => "GUILD_MEMBER_UPDATE"
  | guildMemberRemove => "GUILD_MEMBER_REMOVE"
  | guildMembersChunk => "GUILD_MEMBERS_CHUNK"
  | presenceUpdate => "PRESENCE_UPDATE"
  | typingStart => "TYPING_START"
  | voiceStateUpdate => "VOICE_STATE_UPDATE"
  | userUpdate => "USER_UPDATE"
  | interactionCreate => "INTERACTION_CREATE"

/-- The kind of event with a name. -/
def ofName? (name : String) : Option EventKind := all.find? fun k => k.wireName = name

theorem ofName?_wireName (k : EventKind) : ofName? k.wireName = some k := by cases k <;> decide

end EventKind

end GatewayClient
