import GatewayClient.Config.Dotenv
import GatewayClient.Proofs.Text.Utf8
import GatewayClient.RateLimit.Setup

/-!
# Settings that are demanded

Variables give settings exactly if they meet all demands, which stand in an order: the first
one that is not met is the fault that is reported. What variables say is told by the texts
alone, apart from the way in which they are read.

* `Natural.Writes`, `Form.IsWritten`: the texts that can be read.
* `Demand.Holds`, `Demand.fault`: what is demanded of variables, and what is wrong where it does
  not hold.
* `Demand.Decides`: the result that demands lead to, one after the other.
* `Variables.decides_settings`: the settings are decided by `Variables.demands`.
* `Variables.text?_load`: a file gives the variables that are absent.
* `Variables.settings_verdict`: what a process and a file say together.
-/

namespace GatewayClient

/-! ## Texts -/

/-- Whether a text writes a number: in digits, perhaps after a plus sign. -/
def Natural.Writes (cs : List Char) (n : Nat) : Prop :=
  ∃ digits, (cs = digits ∨ cs = '+' :: digits) ∧ digits ≠ [] ∧ (∀ c ∈ digits, c.isDigit) ∧
    Nat.ofDigitChars 10 digits 0 = n

theorem Natural.isDigits_iff {cs : List Char} :
    isDigits cs ↔ cs ≠ [] ∧ ∀ c ∈ cs, c.isDigit := by
  simp [isDigits]

/-- The numbers that are read are those that are written, if they are not too large. -/
theorem Natural.ofText?_eq_some_iff {max n : Nat} {cs : List Char} :
    ofText? max cs = some n ↔ Writes cs n ∧ n ≤ max := by
  have hunsigned {digits : List Char} (h : cs = digits ∨ cs = '+' :: digits)
      (hdigits : ∀ c ∈ digits, c.isDigit) : unsigned cs = digits := by
    rcases h with rfl | rfl
    · unfold unsigned
      split
      · exact absurd (hdigits '+' List.mem_cons_self) (by decide)
      · rfl
    · rfl
  have hsigned : cs = unsigned cs ∨ cs = '+' :: unsigned cs := by
    unfold unsigned
    split
    · exact .inr rfl
    · exact .inl rfl
  constructor
  · intro h
    simp only [ofText?, Option.ite_none_right_eq_some, Option.some.injEq, isDigits_iff] at h
    obtain ⟨⟨hne, hdigits⟩, hle, rfl⟩ := h
    exact ⟨⟨_, hsigned, hne, hdigits, rfl⟩, hle⟩
  · rintro ⟨⟨digits, hcs, hne, hdigits, rfl⟩, hle⟩
    simp only [ofText?, hunsigned hcs hdigits, if_pos (isDigits_iff.2 ⟨hne, hdigits⟩), if_pos hle]

/-- The forms of values. -/
inductive Form where
  /-- A backend. -/
  | backend
  /-- A number below a bound. -/
  | number (bound : Nat)
  /-- A truth value. -/
  | flag
  deriving DecidableEq, Repr

/-- Whether a text has a form. -/
def Form.IsWritten : Form → String → Prop
  | backend, s => ∃ b : Backend, lowercased s = b.name
  | number bound, s => ∃ n < bound, Natural.Writes s.toList n
  | flag, s => s = "true" ∨ s = "false"

/-- Whether a way to read texts reads those of a form. -/
def Form.IsReadBy {α : Type} (form : Form) (read : String → Option α) : Prop :=
  ∀ s, (read s).isSome ↔ form.IsWritten s

theorem Backend.ofText?_eq_some_iff {s : String} {b : Backend} :
    Backend.ofText? s = some b ↔ lowercased s = b.name := by
  have hname : Backend.ofName? b.name = some b := by cases b <;> rfl
  constructor
  · intro h
    have hfound : (all.find? fun b => b.name = lowercased s) = some b := h
    simpa [eq_comm] using List.find?_some hfound
  · intro h
    rw [Backend.ofText?, h, hname]

theorem Form.isReadBy_backend : backend.IsReadBy Backend.ofText? := fun s => by
  simp only [IsWritten, Option.isSome_iff_exists, Backend.ofText?_eq_some_iff]

theorem Form.isReadBy_number (bound : Nat) :
    (number (bound + 1)).IsReadBy fun s => Natural.ofText? bound s.toList := fun s => by
  simp only [IsWritten, Option.isSome_iff_exists, Natural.ofText?_eq_some_iff, Nat.lt_succ_iff,
    and_comm]

theorem Form.isReadBy_flag : flag.IsReadBy Variables.flag? := fun s => by
  unfold Variables.flag? IsWritten
  split
  · simp [*]
  · split <;> simp [*]

/-! ## Demands -/

/-- What is demanded of variables. -/
inductive Demand where
  /-- A variable that is there can be read. -/
  | readable (name : String) (form : Form)
  /-- A number is not zero. -/
  | nonzero (name : String)
  /-- A variable can be read if another one is there. -/
  | readableWith (other name : String) (form : Form)
  /-- A variable is there if a backend is asked for. -/
  | presentFor (backend : Backend) (name : String)
  /-- A variable is there. -/
  | present (name : String)
  deriving DecidableEq, Repr

namespace Demand

variable {α β : Type} {v : Variables} {a : α} {b : β} {ds ds' : List Demand}
  {r : Except ConfigError α}

/-- Whether variables meet a demand. -/
def Holds (v : Variables) : Demand → Prop
  | readable name form => ∀ raw, v.text? name = some raw → form.IsWritten (trimmed raw)
  | nonzero name => ∀ raw, v.text? name = some raw → ¬ Natural.Writes (trimmed raw).toList 0
  | readableWith other name form => (∃ raw, v.text? other = some raw) →
    ∀ raw, v.text? name = some raw → form.IsWritten (trimmed raw)
  | presentFor backend name => (∃ raw, v.text? "RATE_LIMIT_BACKEND" = some raw ∧
      lowercased (trimmed raw) = backend.name) → ∃ raw, v.text? name = some raw
  | present name => ∃ raw, v.text? name = some raw

/-- What is wrong with variables that do not meet a demand. -/
def fault (v : Variables) : Demand → ConfigError
  | readable name _ | readableWith _ name _ => .invalid name ((v.text? name).getD "")
  | nonzero name => .invalid name "0"
  | presentFor _ name | present name => .missing name

/-- What demands lead to, one after the other: a value where all of them hold, or what is wrong
    with the first one that does not. -/
inductive Decides (v : Variables) (a : α) : List Demand → Except ConfigError α → Prop
  | accepted : Decides v a [] (.ok a)
  | held {d : Demand} {ds : List Demand} {r : Except ConfigError α} :
    d.Holds v → Decides v a ds r → Decides v a (d :: ds) r
  | refused {d : Demand} {ds : List Demand} :
    ¬ d.Holds v → Decides v a (d :: ds) (.error (d.fault v))

/-- What comes after a value is decided by further demands. -/
theorem Decides.bind {f : α → Except ConfigError β} (h : Decides v a ds r)
    (hf : Decides v b ds' (f a)) : Decides v b (ds ++ ds') (r >>= f) := by
  induction h with
  | accepted => exact hf
  | held hd _ ih => exact .held hd ih
  | refused hd => exact .refused hd

/-- One demand may stand for another that comes to the same. -/
theorem Decides.of_iff {d d' : Demand} (h : Decides v a [d] r) (hholds : d'.Holds v ↔ d.Holds v)
    (hfault : d'.fault v = d.fault v) : Decides v a [d'] r := by
  cases h with
  | held hd h => exact .held (hholds.2 hd) (by cases h; exact .accepted)
  | refused hd => exact hfault ▸ .refused fun hd' => hd (hholds.1 hd')

theorem Decides.eq_ok_iff {s : α} (h : Decides v a ds r) :
    r = .ok s ↔ (∀ d ∈ ds, d.Holds v) ∧ s = a := by
  induction h with
  | accepted => simp [eq_comm]
  | held hd _ ih => simp [ih, hd]
  | refused hd => simp [hd]

theorem Decides.eq_error_iff {e : ConfigError} (h : Decides v a ds r) :
    r = .error e ↔ ∃ before d after, ds = before ++ d :: after ∧
      (∀ d' ∈ before, d'.Holds v) ∧ ¬ d.Holds v ∧ e = d.fault v := by
  induction h with
  | accepted => simp
  | @held d ds r hd _ ih =>
    rw [ih]
    constructor
    · rintro ⟨before, d', after, rfl, hbefore, hd', he⟩
      exact ⟨d :: before, d', after, rfl, List.forall_mem_cons.2 ⟨hd, hbefore⟩, hd', he⟩
    · rintro ⟨before, d', after, heq, hbefore, hd', he⟩
      cases before with
      | nil =>
        cases heq
        exact absurd hd hd'
      | cons _ before =>
        cases heq
        exact ⟨before, d', after, rfl, (List.forall_mem_cons.1 hbefore).2, hd', he⟩
  | @refused d ds hd =>
    constructor
    · intro h
      cases h
      exact ⟨[], d, ds, rfl, List.forall_mem_nil _, hd, rfl⟩
    · rintro ⟨before, d', after, heq, hbefore, hd', rfl⟩
      cases before with
      | nil =>
        cases heq
        rfl
      | cons _ before =>
        cases heq
        exact absurd (List.forall_mem_cons.1 hbefore).1 hd

end Demand

/-! ## What variables say -/

namespace Variables

open Demand

variable {α : Type} {v : Variables} {name : String} {read : String → Option α} {form : Form}

/-- What a variable says, or a default where it is absent. -/
def valueOf (v : Variables) (name : String) (read : String → Option α) (default : α) : α :=
  ((v.text? name).bind fun raw => read (trimmed raw)).getD default

/-- How to keep to the limits. -/
def limits (v : Variables) : RateLimitSettings where
  backend := v.valueOf "RATE_LIMIT_BACKEND" Backend.ofText? .memory
  identifyCooldownMs := v.valueOf "IDENTIFY_COOLDOWN_MS" word64? 6000
  identifyConcurrency := v.valueOf "IDENTIFY_CONCURRENCY" word32? 1
  maxAttempts := v.valueOf "RATE_LIMIT_MAX_ATTEMPTS" word32? 64

/-- Where the shared accounts are. -/
def shared (v : Variables) : Option RedisSettings :=
  (v.text? "REDIS_URL").map fun url =>
    { url, maxConnections := v.valueOf "REDIS_MAX_CONNECTIONS" word32? 10 }

/-- What the variables say, if they meet all demands. -/
def values (v : Variables) : Settings where
  app := {
    name := (v.text? "APP_NAME").getD "chat-client"
    environment := ((v.text? "APP_ENV").bind Environment.ofText?).getD .development
    token := (v.text? "BOT_TOKEN").getD "" }
  gateway := {
    url := (v.text? "GATEWAY_URL").getD ""
    shardCount := v.valueOf "SHARD_COUNT" word32? 1
    largeThreshold := v.valueOf "GATEWAY_LARGE_THRESHOLD" word32? 250
    intents := v.valueOf "GATEWAY_INTENTS" word64? 0
    compress := v.valueOf "GATEWAY_COMPRESS" flag? false }
  rest := {
    baseUrl := (v.text? "API_BASE_URL").getD "http://127.0.0.1:8080/api/v10"
    timeoutMs := v.valueOf "API_TIMEOUT_MS" word64? 5000 }
  rateLimit := v.limits
  redis := v.shared

/-- A number in 32 bits. -/
def word32 : Form := .number UInt32.size

/-- A number in 64 bits. -/
def word64 : Form := .number UInt64.size

/-- What is demanded of the variables for the limits. -/
def limitDemands : List Demand :=
  [.readable "RATE_LIMIT_BACKEND" .backend, .readable "IDENTIFY_COOLDOWN_MS" word64,
    .readable "IDENTIFY_CONCURRENCY" word32, .readable "RATE_LIMIT_MAX_ATTEMPTS" word32,
    .nonzero "IDENTIFY_CONCURRENCY"]

/-- What is demanded of the variables for shared accounts. -/
def sharedDemands : List Demand :=
  [.readableWith "REDIS_URL" "REDIS_MAX_CONNECTIONS" word32, .presentFor .redis "REDIS_URL"]

/-- All that is demanded of the variables, in the order in which they are looked up. -/
def demands : List Demand := limitDemands ++ sharedDemands ++
  [.readable "SHARD_COUNT" word32, .nonzero "SHARD_COUNT", .present "BOT_TOKEN",
    .present "GATEWAY_URL", .readable "GATEWAY_LARGE_THRESHOLD" word32,
    .readable "GATEWAY_INTENTS" word64, .readable "GATEWAY_COMPRESS" .flag,
    .readable "API_TIMEOUT_MS" word64]

theorem isReadBy_word32 : word32.IsReadBy word32? := Form.isReadBy_number (UInt32.size - 1)

theorem isReadBy_word64 : word64.IsReadBy word64? := Form.isReadBy_number (UInt64.size - 1)

/-- A variable that is looked up by its form. -/
theorem decides_parsed (hread : form.IsReadBy read) (name : String) (default : α) :
    Decides v (v.valueOf name read default) [.readable name form] (v.parsed name read default) := by
  unfold parsed valueOf
  cases htext : v.text? name with
  | none => exact .held (by simp [Holds, htext]) .accepted
  | some raw =>
    have hholds : (Demand.readable name form).Holds v ↔ (read (trimmed raw)).isSome := by
      simp [Holds, htext, hread (trimmed raw)]
    cases hvalue : read (trimmed raw) with
    | none =>
      have hfault : (Demand.readable name form).fault v = .invalid name raw := by
        simp [fault, htext]
      simp only [Option.bind_some, hvalue]
      exact hfault ▸ .refused (by simp [hholds, hvalue])
    | some a =>
      simp only [Option.bind_some, hvalue, Option.getD_some]
      exact .held (by simp [hholds, hvalue]) .accepted

/-- A variable that must be there. -/
theorem decides_required (name : String) :
    Decides v ((v.text? name).getD "") [.present name] (v.required name) := by
  unfold required
  cases htext : v.text? name with
  | none => exact .refused (by simp [Holds, htext])
  | some s => exact .held ⟨s, htext⟩ .accepted

/-- A number is zero exactly if its variable says so. -/
theorem valueOf_eq_zero_iff (v : Variables) (name : String) {default : Nat}
    (hdefault : default ≠ 0) :
    v.valueOf name word32? default = 0 ↔ ¬ (Demand.nonzero name).Holds v := by
  simp only [valueOf, Holds]
  cases htext : v.text? name with
  | none => simp [hdefault]
  | some raw =>
    have hzero : word32? (trimmed raw) = some 0 ↔ Natural.Writes (trimmed raw).toList 0 := by
      simp [word32?, Natural.ofText?_eq_some_iff]
    cases hvalue : word32? (trimmed raw) with
    | none => simp [hvalue, ← hzero, hdefault]
    | some n => simp [hvalue, ← hzero]

theorem decides_nonzero (v : Variables) (name : String) {default : Nat} (hdefault : default ≠ 0) :
    Decides v () [.nonzero name] (nonzero name (v.valueOf name word32? default)) := by
  have hzero := v.valueOf_eq_zero_iff name hdefault
  unfold nonzero
  split
  · exact .refused (hzero.1 ‹_›)
  · exact .held (Classical.not_not.1 fun h => ‹¬ _› (hzero.2 h)) .accepted

theorem decides_rateLimit (v : Variables) : Decides v v.limits limitDemands v.rateLimit := by
  refine (decides_parsed Form.isReadBy_backend _ _).bind ?_
  refine (decides_parsed isReadBy_word64 _ _).bind ?_
  refine (decides_parsed isReadBy_word32 _ _).bind ?_
  refine (decides_parsed isReadBy_word32 _ _).bind ?_
  exact (v.decides_nonzero _ Nat.one_ne_zero).bind .accepted

/-- The backend is one that variables ask for, or the default. -/
theorem backend_eq_redis_iff (v : Variables) : v.limits.backend = .redis ↔
    ∃ raw, v.text? "RATE_LIMIT_BACKEND" = some raw ∧
      lowercased (trimmed raw) = Backend.redis.name := by
  simp only [limits, valueOf]
  cases htext : v.text? "RATE_LIMIT_BACKEND" with
  | none => simp
  | some raw =>
    simp only [Option.bind_some, Option.some.injEq, exists_eq_left',
      ← Backend.ofText?_eq_some_iff]
    cases Backend.ofText? (trimmed raw) <;> simp

theorem decides_redis (v : Variables) :
    Decides v v.shared sharedDemands (v.redis v.limits.backend) := by
  have hbackend := v.backend_eq_redis_iff
  unfold redis shared
  cases hurl : v.text? "REDIS_URL" with
  | some url =>
    have hpresent : (Demand.presentFor .redis "REDIS_URL").Holds v := fun _ => ⟨url, hurl⟩
    have hwith : (Demand.readableWith "REDIS_URL" "REDIS_MAX_CONNECTIONS" word32).Holds v ↔
        (Demand.readable "REDIS_MAX_CONNECTIONS" word32).Holds v :=
      ⟨fun h => h ⟨url, hurl⟩, fun h _ => h⟩
    have hread := (decides_parsed (v := v) isReadBy_word32 "REDIS_MAX_CONNECTIONS" 10).of_iff
      hwith rfl
    exact hread.bind (.held hpresent .accepted)
  | none =>
    have habsent : ¬ ∃ raw, v.text? "REDIS_URL" = some raw := by simp [hurl]
    refine .held (fun hother => absurd hother habsent) ?_
    cases hredis : v.limits.backend with
    | redis => exact .refused fun h => habsent (h (hbackend.1 hredis))
    | memory =>
      refine .held (fun h => ?_) .accepted
      exact absurd (hredis.symm.trans (hbackend.2 h)) nofun

theorem decides_settings (v : Variables) : Decides v v.values demands v.settings := by
  refine (decides_rateLimit v).bind ?_
  refine (decides_redis v).bind ?_
  refine (decides_parsed isReadBy_word32 _ _).bind ?_
  refine (v.decides_nonzero _ Nat.one_ne_zero).bind ?_
  refine (decides_required _).bind ?_
  refine (decides_required _).bind ?_
  refine (decides_parsed isReadBy_word32 _ _).bind ?_
  refine (decides_parsed isReadBy_word64 _ _).bind ?_
  refine (decides_parsed Form.isReadBy_flag _ _).bind ?_
  exact (decides_parsed isReadBy_word64 _ _).bind .accepted

/-! ## Files -/

/-- What fills an absent variable gives it its text, and every other one keeps its own. -/
theorem text?_fill (v : Variables) (name value name' : String) : (v.fill name value).text? name' =
    (v.text? name').or (if name = name' then some value else none) := by
  unfold fill
  split
  · rename_i hsome
    obtain ⟨s, hs⟩ := Option.isSome_iff_exists.1 hsome
    by_cases hname : name = name'
    · subst hname
      simp [hs]
    · simp [hname]
  · rename_i hnone
    have hnone : v.text? name = none := by simpa using hnone
    by_cases hname : name = name'
    · subst hname
      rw [hnone, if_pos rfl, text?, Table.get?_insert_self, Option.bind_some, Utf8.decode?_encode]
      rfl
    · simp [text?, Table.get?_insert_of_ne _ _ hname, hname]

end Variables

/-- The assignments of a file, up to the first line that is none. -/
def Dotenv.assignments (v : Variables) : List (Option (List Char)) → List (String × String)
  | [] => []
  | none :: _ => []
  | some line :: rest =>
    match assignment? v line with
    | none => []
    | some none => assignments v rest
    | some (some (name, value)) => (name, value) :: assignments (v.fill name value) rest

/-- A file gives a variable that is absent the text that it assigns to it first. -/
theorem Variables.text?_loadLines (v : Variables) (ls : List (Option (List Char))) (name : String) :
    (Dotenv.loadLines v ls).text? name = (v.text? name).or
      (((Dotenv.assignments v ls).find? (·.1 = name)).map Prod.snd) := by
  induction ls generalizing v with
  | nil => simp [Dotenv.loadLines, Dotenv.assignments]
  | cons line rest ih =>
    cases line with
    | none => simp [Dotenv.loadLines, Dotenv.assignments]
    | some line =>
      simp only [Dotenv.loadLines, Dotenv.assignments]
      cases Dotenv.assignment? v line with
      | none => simp
      | some a =>
        cases a with
        | none => exact ih v
        | some a =>
          simp only [ih, text?_fill, Option.or_assoc, List.find?_cons]
          by_cases hname : a.1 = name <;> simp [hname]

/-! ## The verdict -/

/-- What holds of all settings that variables give. -/
structure Settings.IsSound (s : Settings) : Prop where
  concurrency : 1 ≤ s.rateLimit.identifyConcurrency
  shards : 1 ≤ s.gateway.shardCount
  /-- A backend that shares its accounts has an address. -/
  address : s.rateLimit.backend = .redis → s.redis.isSome
  /-- A limiter takes over the settings as they are, with one attempt instead of none. -/
  limiter : LimiterConfig.ofSettings s.rateLimit = {
    identifyCooldown := Duration.ofMillis s.rateLimit.identifyCooldownMs
    identifyConcurrency := s.rateLimit.identifyConcurrency
    maxAttempts := max s.rateLimit.maxAttempts 1 }

namespace Variables

theorem isSound_values {v : Variables} (h : ∀ d ∈ demands, d.Holds v) : v.values.IsSound := by
  have hconcurrency : v.limits.identifyConcurrency ≠ 0 := fun hzero =>
    (v.valueOf_eq_zero_iff _ Nat.one_ne_zero).1 hzero
      (h _ (by simp [demands, limitDemands]))
  have hshards : v.values.gateway.shardCount ≠ 0 := fun hzero =>
    (v.valueOf_eq_zero_iff _ Nat.one_ne_zero).1 hzero (h _ (by simp [demands]))
  refine ⟨Nat.pos_of_ne_zero hconcurrency, Nat.pos_of_ne_zero hshards, fun hredis => ?_, ?_⟩
  · obtain ⟨url, hurl⟩ := h (.presentFor .redis "REDIS_URL") (by simp [demands, sharedDemands])
      (v.backend_eq_redis_iff.1 hredis)
    simp [values, shared, hurl]
  · have hmax : max v.values.rateLimit.identifyConcurrency 1 =
        v.values.rateLimit.identifyConcurrency := Nat.max_eq_left (Nat.pos_of_ne_zero hconcurrency)
    rw [LimiterConfig.ofSettings, hmax]

/-- The verdict. What a process and a file say together gives settings exactly if it meets all
    demands; else the first one that it does not meet is the fault. -/
theorem settings_verdict (given : Variables) (file : Option String) :
    let v := file.elim given (Dotenv.load given)
    (∀ name, v.text? name = (given.text? name).or
      (((file.elim [] fun text => Dotenv.assignments given (Dotenv.lines text)).find?
        (·.1 = name)).map Prod.snd)) ∧
    ((∃ s, v.settings = .ok s) ↔ ∀ d ∈ demands, d.Holds v) ∧
    (∀ e, v.settings = .error e ↔ ∃ before d after, demands = before ++ d :: after ∧
      (∀ d' ∈ before, d'.Holds v) ∧ ¬ d.Holds v ∧ e = d.fault v) ∧
    ∀ s, v.settings = .ok s → s = v.values ∧ s.IsSound := by
  intro v
  refine ⟨fun name => ?_, ?_, fun e => (decides_settings v).eq_error_iff, fun s hs => ?_⟩
  · cases file with
    | none => simp [v]
    | some text => exact text?_loadLines _ _ _
  · simp only [(decides_settings v).eq_ok_iff, exists_and_left, exists_eq, and_true]
  · obtain ⟨hholds, rfl⟩ := (decides_settings v).eq_ok_iff.1 hs
    exact ⟨rfl, isSound_values hholds⟩

/-- Blanks around a number do no harm. The file says where the gateway is; its number of
    shards does not count, since the process has one. -/
theorem settings_verdict_padded : ∃ v s,
    v = Dotenv.load ⟨[("SHARD_COUNT", Utf8.encode " 2 "), ("BOT_TOKEN", Utf8.encode "t")]⟩
      "GATEWAY_URL=ws://h\nSHARD_COUNT=3\n" ∧
    (∀ d ∈ demands, d.Holds v) ∧ v.settings = .ok s ∧ s.IsSound ∧
    s.gateway.shardCount = 2 ∧ s.gateway.url = "ws://h" := by
  obtain ⟨-, haccepted, -, hsound⟩ := settings_verdict
    ⟨[("SHARD_COUNT", Utf8.encode " 2 "), ("BOT_TOKEN", Utf8.encode "t")]⟩
    (some "GATEWAY_URL=ws://h\nSHARD_COUNT=3\n")
  have hread : (Dotenv.load ⟨[("SHARD_COUNT", Utf8.encode " 2 "),
      ("BOT_TOKEN", Utf8.encode "t")]⟩ "GATEWAY_URL=ws://h\nSHARD_COUNT=3\n").settings.toOption.map
        (fun s => (s.gateway.shardCount, s.gateway.url)) = some (2, "ws://h") := by decide +kernel
  simp only [Option.elim_some] at haccepted hsound
  generalize Dotenv.load _ _ = v at haccepted hsound hread
  refine ⟨v, ?_⟩
  cases hs : v.settings with
  | error e => simp [hs, Except.toOption] at hread
  | ok s =>
    obtain ⟨hcount, hurl⟩ : s.gateway.shardCount = 2 ∧ s.gateway.url = "ws://h" := by
      simpa [hs, Except.toOption] using hread
    exact ⟨s, rfl, haccepted.1 ⟨s, hs⟩, rfl, (hsound s hs).2, hcount, hurl⟩

end Variables

end GatewayClient
