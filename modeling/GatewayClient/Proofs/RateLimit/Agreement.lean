import GatewayClient.Proofs.KeyValue.Server
import GatewayClient.Proofs.RateLimit.Memory
import GatewayClient.Proofs.RateLimit.Shared

/-!
# Two stores that agree

Accounts in memory and accounts on a server answer alike. The one keeps deadlines and
compares them with the clock, the other keeps numbers under keys that vanish when
their lifetime is over.

They part in one millisecond. A slot that is held until some time is free at this time
in memory, while the key of the slot may still be there: then the server puts the
attempt off, by no time at all.

* `SharedAccounts.AnswersAlike`: how both stores answer the operations of a run.
* `SharedAccounts.Agree`: when what both keep comes to the same.
* `SharedAccounts.Agree.stepsAlike`: an operation is answered alike, and what it is about
  is alike afterwards.
* `SharedAccounts.Agree.after`: the rest stays as it is.
* `SharedAccounts.answersAlike`: so are all operations of a run.

A client's own accounts never forget, so the run has to come back to a bucket or a
name before the server drops it.
-/

namespace GatewayClient

namespace SharedAccounts

/-! ## Runs that both stores can count -/

/-- The instant of the last operation, which comes first in a list of the past. -/
def latest (past : List TimedCall) : Instant := past.head?.elim 0 TimedCall.time

/-- When the server drops a bucket, in milliseconds: some time after the end of the
    window that was reported last. -/
def bucketLapse? (key : String) : List TimedCall → Option Nat
  | [] => none
  | ⟨time, .record k u⟩ :: past =>
    if k = key then some (Duration.millis time + Duration.millis u.resetAfter + idleTime)
    else bucketLapse? key past
  | _ :: past => bucketLapse? key past

/-- When the server drops the name of a bucket, in milliseconds. -/
def nameLapse? (route : String) : List TimedCall → Option Nat
  | [] => none
  | ⟨time, .learnBucket r _⟩ :: past =>
    if r = route then some (Duration.millis time + nameTime) else nameLapse? route past
  | _ :: past => nameLapse? route past

/-- Whether a duration is a whole number of milliseconds, and its end one that the
    server counts exactly. -/
def IsExact (epoch : Nat) (now : Instant) (d : Duration) : Prop :=
  Duration.IsWhole d ∧ epoch + Duration.millis now + Duration.millis d < exactBound

/-- What is expected of an operation after those of the past: durations that both count
    exactly, some of them not zero; a report that leaves no more tokens than there are;
    and that the server has not dropped what it is about. -/
def IsRegular (epoch : Nat) (past : List TimedCall) (now : Instant) : StoreCall → Prop
  | .take key => ∀ lapse ∈ bucketLapse? key past, Duration.millis now < lapse
  | .record key u => (∀ lapse ∈ bucketLapse? key past, Duration.millis now < lapse) ∧
    u.remaining ≤ u.limit ∧ u.limit < exactBound ∧ IsExact epoch now u.resetAfter
  | .lockout => True
  | .lockOut d => Duration.ofMillis 1 ≤ d ∧ IsExact epoch now d
  | .bucketOf route => ∀ lapse ∈ nameLapse? route past, Duration.millis now < lapse
  | .learnBucket _ _ => Integer.Fits ((epoch + Duration.millis now : Nat) + (nameTime : Nat))
  | .trySlot _ cooldown => Duration.ofMillis 1 ≤ cooldown ∧ IsExact epoch now cooldown

/-- Whether operations come one after the other, in whole milliseconds of which the wall
    clock shows a positive number, and each is as expected after those before it. -/
def AreRegular (epoch : Nat) : List TimedCall → List TimedCall → Prop
  | _, [] => True
  | past, c :: rest => latest past ≤ c.time ∧ Duration.IsWhole c.time ∧
    0 < epoch + Duration.millis c.time ∧ IsRegular epoch past c.time c.call ∧
    AreRegular epoch (c :: past) rest

instance (epoch : Nat) (now : Instant) (d : Duration) : Decidable (IsExact epoch now d) :=
  inferInstanceAs (Decidable (_ ∧ _))

instance (epoch : Nat) (past : List TimedCall) (now : Instant) (call : StoreCall) :
    Decidable (IsRegular epoch past now call) :=
  match call with
  | .take key => inferInstanceAs (Decidable (∀ lapse ∈ bucketLapse? key past, _ < lapse))
  | .record key _ =>
    inferInstanceAs (Decidable ((∀ lapse ∈ bucketLapse? key past, _ < lapse) ∧ _ ∧ _ ∧ _))
  | .lockout => inferInstanceAs (Decidable True)
  | .lockOut _ => inferInstanceAs (Decidable (_ ∧ _))
  | .bucketOf route => inferInstanceAs (Decidable (∀ lapse ∈ nameLapse? route past, _ < lapse))
  | .learnBucket _ _ => inferInstanceAs (Decidable (Integer.Fits _))
  | .trySlot _ _ => inferInstanceAs (Decidable (_ ∧ _))

instance decidableAreRegular (epoch : Nat) :
    (past calls : List TimedCall) → Decidable (AreRegular epoch past calls)
  | _, [] => inferInstanceAs (Decidable True)
  | past, c :: rest =>
    have := decidableAreRegular epoch (c :: past) rest
    inferInstanceAs (Decidable (_ ∧ _ ∧ _ ∧ _ ∧ _))

/-! ## How both answer -/

/-- How operations are answered by accounts in memory and by accounts on a server. Some slots
    may be loose: the stores are not compared there any more. -/
inductive AnswersAlike {σ : Type} (execute : Execution σ) (epoch : Nat) :
    List Nat → MemoryAccounts → σ → List TimedCall → Prop
  | nil (loose : List Nat) (m : MemoryAccounts) (s : σ) : AnswersAlike execute epoch loose m s []
  /-- Both give the same answer, which is no error. -/
  | same {loose : List Nat} {m m' : MemoryAccounts} {s s' : σ} {c : TimedCall}
    {rest : List TimedCall} (reply : StoreReply) :
    (MemoryAccounts.store.perform c.call).runAt c.time m = (.ok reply, m') →
      ((store execute epoch).perform c.call).runAt c.time s = (.ok reply, s') →
        AnswersAlike execute epoch loose m' s' rest →
          AnswersAlike execute epoch loose m s (c :: rest)
  /-- A slot is asked for at the very time until which it was held in memory. It is granted
      there, and the server puts the attempt off by no time. -/
  | parts {loose : List Nat} {m m' : MemoryAccounts} {s s' : σ} {c : TimedCall}
    {rest : List TimedCall} (slot : Nat) (cooldown : Duration) : c.call = .trySlot slot cooldown →
      m.slots.get? slot = some c.time →
        (MemoryAccounts.store.perform c.call).runAt c.time m = (.ok (.heldFor none), m') →
          ((store execute epoch).perform c.call).runAt c.time s = (.ok (.heldFor (some 0)), s') →
            AnswersAlike execute epoch (slot :: loose) m' s' rest →
              AnswersAlike execute epoch loose m s (c :: rest)
  /-- Of a loose slot it is known only that neither store fails. -/
  | apart {loose : List Nat} {m m' : MemoryAccounts} {s s' : σ} {c : TimedCall}
    {rest : List TimedCall} (slot : Nat) (cooldown : Duration) (held held' : Option Duration) :
    c.call = .trySlot slot cooldown → slot ∈ loose → held.isSome ∨ held'.isSome →
      (MemoryAccounts.store.perform c.call).runAt c.time m = (.ok (.heldFor held), m') →
        ((store execute epoch).perform c.call).runAt c.time s = (.ok (.heldFor held'), s') →
          AnswersAlike execute epoch loose m' s' rest →
            AnswersAlike execute epoch loose m s (c :: rest)
  /-- Once both stores grant it at the same time, it is not loose any more. -/
  | meets {loose : List Nat} {m m' : MemoryAccounts} {s s' : σ} {c : TimedCall}
    {rest : List TimedCall} (slot : Nat) (cooldown : Duration) :
    c.call = .trySlot slot cooldown → slot ∈ loose →
      (MemoryAccounts.store.perform c.call).runAt c.time m = (.ok (.heldFor none), m') →
        ((store execute epoch).perform c.call).runAt c.time s = (.ok (.heldFor none), s') →
          AnswersAlike execute epoch (loose.filter (· ≠ slot)) m' s' rest →
            AnswersAlike execute epoch loose m s (c :: rest)

/-! ## What both keep -/

/-- Whether a bucket and the entry under its key are alike: both unknown, or the entry
    holds the bucket until the server drops it. -/
inductive KnownAlike (epoch : Nat) : Option Bucket → Option Entry → Option Nat → Prop
  | unknown : KnownAlike epoch none none none
  | known {b : Bucket} {fields : Table String String} {lapse : Nat} :
    Holds epoch fields b → b.IsRegular epoch →
      KnownAlike epoch (some b) (some ⟨.record fields, some (epoch + lapse)⟩) (some lapse)

/-- Whether a name and the entry under its key are alike. -/
inductive NamedAlike (epoch : Nat) : Option String → Option Entry → Option Nat → Prop
  | unknown : NamedAlike epoch none none none
  | known (name : String) (lapse : Nat) :
    NamedAlike epoch (some name) (some ⟨.text name, some (epoch + lapse)⟩) (some lapse)

/-- Whether both were to hold something until the same time, or never held it. -/
inductive HeldAlike (epoch : Nat) : Option Instant → Option Entry → Prop
  | never : HeldAlike epoch none none
  | upTo {held : Instant} (d : Datum) : Duration.IsWhole held →
    HeldAlike epoch (some held) (some ⟨d, some (epoch + Duration.millis held)⟩)

/-- Whether both have the account locked out until the same time. The lockout that is over is
    forgotten in memory. -/
inductive LockedAlike (epoch : Nat) (now : Instant) : Option Instant → Option Entry → Prop
  | held {held : Option Instant} {e : Option Entry} : HeldAlike epoch held e →
    LockedAlike epoch now held e
  | forgotten {d : Datum} {x : Nat} : x ≤ epoch + Duration.millis now →
    LockedAlike epoch now none (some ⟨d, some x⟩)

/-- Whether what both keep of one thing is alike. -/
def Alike (epoch : Nat) (past : List TimedCall) (m : MemoryAccounts) (e : Option Entry) :
    AccountKey → Prop
  | .bucket key => KnownAlike epoch (m.buckets.get? key) e (bucketLapse? key past)
  | .name route => NamedAlike epoch (m.names.get? route) e (nameLapse? route past)
  | .slot n => HeldAlike epoch (m.slots.get? n) e
  | .lockout => LockedAlike epoch (latest past) m.lockedUntil e

/-- Whether accounts in memory and on a server agree after some operations, but for the slots
    that are loose. -/
def Agree {σ : Type} (view : View σ) (epoch : Nat) (past : List TimedCall) (loose : List Nat)
    (m : MemoryAccounts) (s : σ) : Prop :=
  ∀ k : AccountKey, (∀ n ∈ loose, k ≠ .slot n) → Alike epoch past m (view.holds s k.text) k

variable {σ : Type} {view : View σ} {execute : Execution σ} {epoch : Nat} {past : List TimedCall}
  {m m' : MemoryAccounts} {s s' : σ} {now now' : Instant} {held : Option Instant}
  {e : Option Entry} {key : String}

theorem LockedAlike.mono (h : LockedAlike epoch now held e) (hle : now ≤ now') :
    LockedAlike epoch now' held e := by
  cases h with
  | held h => exact .held h
  | forgotten hx =>
    have hmillis : Duration.millis now ≤ Duration.millis now' := Nat.div_le_div_right hle
    exact .forgotten (by omega)

/-- What is held until a later time is there; the server has as much time left for it. -/
theorem filter_isThere_of_lt {r : Instant} (key : String) (d : Datum) (hr : Duration.IsWhole r)
    (hnow : Duration.IsWhole now) (hlt : now < r) :
    (some (Entry.mk d (some (epoch + Duration.millis r)))).filter
      (view.isThere key (epoch + Duration.millis now)) =
        some ⟨d, some (epoch + Duration.millis r)⟩ := by
  have hmillis := (hnow.lt_iff hr).1 hlt
  exact Option.filter_some_pos (View.isThere_of_lt d (by omega))

/-- What was held until an earlier time is gone. -/
theorem filter_isThere_of_gt {r : Instant} (key : String) (d : Datum) (hr : Duration.IsWhole r)
    (hnow : Duration.IsWhole now) (hlt : r < now) :
    (some (Entry.mk d (some (epoch + Duration.millis r)))).filter
      (view.isThere key (epoch + Duration.millis now)) = none := by
  have hmillis := (hr.lt_iff hnow).1 hlt
  exact Option.filter_some_neg (View.not_isThere_of_lt d (by omega))

/-- What is over by now has no time left. -/
theorem left_le_zero {x wall : Nat} (d : Datum) (hle : x ≤ wall) :
    View.left wall ((some (Entry.mk d (some x))).filter (view.isThere key wall)) ≤ 0 := by
  rw [Option.filter_some]
  split
  · simp only [View.left]
    omega
  · exact (by decide : (-2 : Int) ≤ 0)

/-! ## Buckets that a record can hold -/

section Bucket

variable {b : Bucket} {u : BucketUpdate}

theorem isRegular_take (hb : b.IsRegular epoch) (now : Instant) :
    (b.take now).2.IsRegular epoch := by
  have hrefill := isRegular_refill hb now
  rw [Bucket.take_snd]
  exact ⟨Nat.le_trans (Nat.sub_le _ _) hrefill.remaining_le, hrefill.limit_lt, hrefill.reset⟩

theorem isWhole_waitAt (hb : b.IsRegular epoch) (hnow : Duration.IsWhole now) :
    Duration.IsWhole (b.waitAt now) := by
  unfold Bucket.waitAt
  split
  · rename_i reset hr
    rw [(hb.reset reset hr).1.sub_eq hnow]
    exact Duration.isWhole_ofMillis _
  · exact Duration.isWhole_ofMillis 250

/-- The server's answer to a request, read as the client's own one. -/
theorem exists_integers?_tokenReply (hb : b.IsRegular epoch) (hnow : Duration.IsWhole now) :
    ∃ taken wait, (tokenReply (b.take now).1).integers? = some (taken, wait) ∧
      admission taken wait = (b.take now).1 := by
  unfold Bucket.take
  by_cases htoken : 0 < (b.refill now).remaining
  · simp only [htoken, if_true]
    exact ⟨1, 0, rfl, if_pos rfl⟩
  · simp only [htoken, if_false]
    have hwhole := isWhole_waitAt (isRegular_refill hb now) hnow
    refine ⟨0, Duration.millis ((b.refill now).waitAt now), rfl, ?_⟩
    rw [admission, if_neg (by decide), Int.toNat_natCast, hwhole]

/-- A report leaves a bucket that a record can hold. -/
theorem isRegular_report {n : Nat} (hn : n ≤ u.limit) (hlimit : u.limit < exactBound)
    (hnow : Duration.IsWhole now) (hpos : 0 < epoch + Duration.millis now)
    (hexact : IsExact epoch now u.resetAfter) :
    Bucket.IsRegular epoch ⟨u.limit, n, some (now + u.resetAfter)⟩ := by
  refine ⟨hn, hlimit, ?_⟩
  rintro _ ⟨⟩
  have hless := hexact.2
  rw [hnow.millis_add hexact.1]
  exact ⟨hnow.add hexact.1, by omega, by omega⟩

end Bucket

/-! ## Numbers that the server computes exactly -/

namespace IsExact

variable {d : Duration}

theorem after?_eq (h : IsExact epoch now d) (hnow : Duration.IsWhole now) :
    Instant.after? now d = some (now + d) := by
  have hless := h.2
  exact Instant.after?_of_exact hnow h.1 (by omega)

theorem millis_eq (h : IsExact epoch now d) : millis d = Duration.millis d := by
  have hbound : exactBound < UInt64.size := by decide
  have hless := h.2
  exact Nat.min_eq_left (by omega)

/-- The end of a duration does not go around. -/
theorem bmod_eq (h : IsExact epoch now d) (hnow : Duration.IsWhole now) :
    Int.bmod ((epoch + Duration.millis now : Nat) + millis d) UInt64.size =
      resetMark epoch (some (now + d)) := by
  have hbound : exactBound < UInt64.size / 2 := by decide
  have hless := h.2
  have hmark : resetMark epoch (some (now + d)) =
      epoch + (Duration.millis now + Duration.millis d) := by
    rw [resetMark, hnow.millis_add h.1]
  rw [h.millis_eq, hmark, ← Int.natCast_add, Nat.add_assoc]
  exact Int.bmod_eq_of_le (by omega) (by omega)

theorem lifetime_eq (h : IsExact epoch now d) :
    (millis d + idleTime) % UInt64.size = Duration.millis d + idleTime := by
  have hbound : exactBound + idleTime < UInt64.size := by decide
  have hless := h.2
  rw [h.millis_eq]
  exact Nat.mod_eq_of_lt (by omega)

/-- A duration of a millisecond or more is not counted as none. -/
theorem millis_pos (h : IsExact epoch now d) (hd : Duration.ofMillis 1 ≤ d) :
    0 < Duration.millis d := by
  have hone := ((Duration.isWhole_ofMillis 1).le_iff h.1).1 hd
  rwa [Duration.millis_ofMillis] at hone

theorem max_eq (h : IsExact epoch now d) (hd : Duration.ofMillis 1 ≤ d) :
    max (millis d) 1 = Duration.millis d := by
  rw [h.millis_eq]
  exact Nat.max_eq_left (h.millis_pos hd)

theorem fits (h : IsExact epoch now d) :
    Integer.Fits ((epoch + Duration.millis now : Nat) + Duration.millis d) := by
  exact_mod_cast Integer.fits_of_lt h.2

end IsExact

/-! ## Operations -/

/-- What an operation is about. -/
def subject : StoreCall → AccountKey
  | .take key => .bucket key
  | .record key _ => .bucket key
  | .lockout => .lockout
  | .lockOut _ => .lockout
  | .bucketOf route => .name route
  | .learnBucket route _ => .name route
  | .trySlot slot _ => .slot slot

/-- Whether both stores answer an operation alike, given what the server holds of what it is
    about, and keep that alike afterwards. -/
def StepsAlike (view : View σ) (execute : Execution σ) (epoch : Nat) (past : List TimedCall)
    (now : Instant) (call : StoreCall) (m : MemoryAccounts) (e : Option Entry) : Prop :=
  ∃ reply m' after, (MemoryAccounts.store.perform call).runAt now m = (.ok reply, m') ∧
    view.Turns (subject call).text now ((store execute epoch).perform call) e (.ok reply) after ∧
    Alike epoch (⟨now, call⟩ :: past) m' after (subject call)

/-- The time that the server has left for something is what the client's own deadline
    leaves. -/
theorem timeLeft_eq {r : Instant} (epoch : Nat) (hr : Duration.IsWhole r)
    (hnow : Duration.IsWhole now) (hlt : now < r) :
    (0 : Int) < (epoch + Duration.millis r : Nat) - (epoch + Duration.millis now : Nat) ∧
      Duration.ofMillis ((epoch + Duration.millis r : Nat) -
        (epoch + Duration.millis now : Nat) : Int).toNat = r - now := by
  have hmillis := (hnow.lt_iff hr).1 hlt
  refine ⟨by omega, ?_⟩
  rw [hr.sub_eq hnow]
  congr 1
  omega

/-- The account is locked out on the server for as long as in memory. -/
theorem LockedAlike.left_or_over (h : LockedAlike epoch now held e) (hnow : Duration.IsWhole now) :
    (∃ r, now < r ∧ Duration.IsWhole r ∧ held = some r ∧
      View.left (epoch + Duration.millis now)
        (e.filter (view.isThere lockoutKey (epoch + Duration.millis now))) =
          (epoch + Duration.millis r : Nat) - (epoch + Duration.millis now : Nat)) ∨
    (∀ r ∈ held, r ≤ now) ∧ View.left (epoch + Duration.millis now)
      (e.filter (view.isThere lockoutKey (epoch + Duration.millis now))) ≤ 0 := by
  cases h with
  | forgotten hx => exact .inr ⟨nofun, left_le_zero _ hx⟩
  | held h =>
    cases h with
    | never => exact .inr ⟨nofun, (by decide : (-2 : Int) ≤ 0)⟩
    | @upTo r d hwhole =>
      by_cases hlt : now < r
      · refine .inl ⟨r, hlt, hwhole, rfl, ?_⟩
        rw [filter_isThere_of_lt lockoutKey d hwhole hnow hlt]
        rfl
      · have hmillis := mt (hnow.lt_iff hwhole).2 hlt
        refine .inr ⟨?_, left_le_zero d (by omega)⟩
        rintro _ ⟨⟩
        exact Nat.le_of_not_lt hlt

section Operations

variable (hdoc : view.IsDocumented execute)

include hdoc

theorem stepsAlike_take (h : Alike epoch past m e (.bucket key)) (hnow : Duration.IsWhole now)
    (hkept : ∀ lapse ∈ bucketLapse? key past, Duration.millis now < lapse) :
    StepsAlike view execute epoch past now (.take key) m e := by
  have hk : KnownAlike epoch (m.buckets.get? key) e (bucketLapse? key past) := h
  have hafter : (m.take key now).2.buckets.get? key =
      (StoreCall.take key).bucketAfter key now (m.buckets.get? key) :=
    MemoryAccounts.get?_buckets_take key key
  simp only [StoreCall.bucketAfter, if_true] at hafter
  -- What both keep is given a name, so that the relation can be taken apart.
  generalize hm : m.buckets.get? key = known at hk hafter
  generalize hl : bucketLapse? key past = lapse? at hk
  cases hk with
  | unknown =>
    have htake : (m.take key now).1 = .granted := by simp only [MemoryAccounts.take, hm]
    refine ⟨_, _, none, MemoryAccounts.perform_take, ?_, ?_⟩
    · rw [htake]
      exact turns_perform_take (turns_takeToken_of_none hdoc rfl _ _) rfl
    · show KnownAlike epoch _ none (bucketLapse? key past)
      rw [hafter, hl]
      exact .unknown
  | @known b fields lapse hf hb =>
    have hlt := hkept lapse hl
    have hthere : view.isThere (bucketKey key) (epoch + Duration.millis now)
      ⟨.record fields, some (epoch + lapse)⟩ := View.isThere_of_lt _ (by omega)
    obtain ⟨fields', hturns, hf'⟩ := exists_turns_takeToken hdoc hthere hf hb hnow
    obtain ⟨taken, wait, hread, hadmission⟩ := exists_integers?_tokenReply hb hnow
    have htake : (m.take key now).1 = (b.take now).1 := by simp only [MemoryAccounts.take, hm]
    refine ⟨_, _, some ⟨.record fields', some (epoch + lapse)⟩, MemoryAccounts.perform_take, ?_, ?_⟩
    · rw [htake, ← hadmission]
      exact turns_perform_take hturns hread
    · show KnownAlike epoch _ _ (bucketLapse? key past)
      rw [hafter, hl]
      exact .known hf' (isRegular_take hb now)

theorem stepsAlike_record {u : BucketUpdate} (h : Alike epoch past m e (.bucket key))
    (hnow : Duration.IsWhole now) (hpos : 0 < epoch + Duration.millis now)
    (hregular : IsRegular epoch past now (.record key u)) :
    StepsAlike view execute epoch past now (.record key u) m e := by
  obtain ⟨hkept, hremaining, hlimit, hexact⟩ := hregular
  have hk : KnownAlike epoch (m.buckets.get? key) e (bucketLapse? key past) := h
  have hafter : (m.record key u now).buckets.get? key =
      (StoreCall.record key u).bucketAfter key now (m.buckets.get? key) :=
    MemoryAccounts.get?_buckets_record key u key
  have hdeadline := hexact.after?_eq hnow
  have hlife :
      IsLifetime (epoch + Duration.millis now) (Duration.millis u.resetAfter + idleTime) := by
    have hbound : exactBound + idleTime < Nat.pow 2 63 := by decide
    have hless := hexact.2
    exact ⟨Nat.add_pos_right _ (by decide), by omega, by omega⟩
  have hself : bucketLapse? key (⟨now, .record key u⟩ :: past) =
      some (Duration.millis now + Duration.millis u.resetAfter + idleTime) := if_pos rfl
  have hless := Nat.lt_of_le_of_lt hremaining hlimit
  -- The numbers in the command are those that are meant, since none of them goes around.
  have hcommand {n : Nat} {fields : Table String String}
      (hfields : View.record? (e.filter (view.isThere (bucketKey key)
        (epoch + Duration.millis now))) = some fields)
      (hleft :
        tokensAfter? fields u.remaining (epoch + Duration.millis now : Nat) = some (n : Int)) :
      view.Turns (bucketKey key) now ((store execute epoch).perform (.record key u)) e
        (.ok .entered) (some ⟨.record (reportedFields fields u.limit n
          (resetMark epoch (some (now + u.resetAfter)))), some (epoch + (Duration.millis now +
            Duration.millis u.resetAfter + idleTime))⟩) := by
    have hreport := turns_report hdoc hfields hleft (turns_enter hdoc hfields u.limit n
      (resetMark epoch (some (now + u.resetAfter))) hlife)
    rw [← hexact.bmod_eq hnow, ← hexact.lifetime_eq] at hreport
    have hlapse : epoch + (Duration.millis now + Duration.millis u.resetAfter + idleTime) =
        epoch + Duration.millis now + (millis u.resetAfter + idleTime) % UInt64.size := by
      rw [hexact.lifetime_eq]
      omega
    rw [hlapse, ← hexact.bmod_eq hnow]
    exact (turns_record hreport).bind (.pure _ _)
  simp only [StoreCall.bucketAfter, if_true] at hafter
  generalize hm : m.buckets.get? key = known at hk hafter
  generalize hl : bucketLapse? key past = lapse? at hk
  cases hk with
  | unknown =>
    refine ⟨_, _, _, MemoryAccounts.perform_record (by rw [hdeadline]; rfl),
      hcommand rfl (tokensAfter?_empty hless _), ?_⟩
    show KnownAlike epoch _ _ _
    rw [hafter, hself, Option.elim, Bucket.ofUpdate?, hdeadline]
    exact .known (holds_reportedFields ∅ ⟨u.limit, u.remaining, some (now + u.resetAfter)⟩)
      (isRegular_report hremaining hlimit hnow hpos hexact)
  | @known b fields lapse hf hb =>
    have hlt := hkept lapse hl
    have hthere : view.isThere (bucketKey key) (epoch + Duration.millis now)
      ⟨.record fields, some (epoch + lapse)⟩ := View.isThere_of_lt _ (by omega)
    have hn : b.remainingAfter u now ≤ u.limit :=
      Nat.le_trans (b.remainingAfter_le_report u now) hremaining
    refine ⟨_, _, _, MemoryAccounts.perform_record (by rw [hdeadline]; rfl),
      hcommand (congrArg View.record? (Option.filter_some_pos hthere))
        (tokensAfter?_of_holds hf hb hnow hless), ?_⟩
    show KnownAlike epoch _ _ _
    rw [hafter, hself, Option.elim, Bucket.reported, hdeadline]
    exact .known
      (holds_reportedFields fields ⟨u.limit, b.remainingAfter u now, some (now + u.resetAfter)⟩)
      (isRegular_report hn hlimit hnow hpos hexact)

theorem stepsAlike_lockout (h : LockedAlike epoch now m.lockedUntil e)
    (hnow : Duration.IsWhole now) : StepsAlike view execute epoch past now .lockout m e := by
  have hturns := turns_perform_lockout
    (hdoc.turns_timeLeft lockoutKey (epoch + Duration.millis now) e)
  refine ⟨_, _, e, MemoryAccounts.perform_lockout, ?_, ?_⟩
  · rcases h.left_or_over hnow with ⟨r, hlt, hwhole, hr, hleft⟩ | ⟨hle, hleft⟩
    · obtain ⟨hpos, hwait⟩ := timeLeft_eq epoch hwhole hnow hlt
      have hown : (m.lockout now).1 = some (r - now) := by
        simp only [MemoryAccounts.lockout, hr, hlt, if_true]
      rwa [hleft, if_pos hpos, hwait, ← hown] at hturns
    · have hown : (m.lockout now).1 = none := by
        rw [MemoryAccounts.lockout_fst, Option.map_eq_none_iff, Option.filter_eq_none_iff]
        exact fun r hr => by simpa using hle r hr
      rwa [if_neg (Int.not_lt.2 hleft), ← hown] at hturns
  · show LockedAlike epoch now (m.lockout now).2.lockedUntil e
    rw [MemoryAccounts.lockout_snd]
    -- A lockout that is over by now is forgotten.
    generalize m.lockedUntil = held at h
    cases h with
    | forgotten hx => exact .forgotten hx
    | held h =>
      cases h with
      | never => exact .held .never
      | @upTo r d hwhole =>
        rw [Option.filter_some]
        split
        · exact .held (.upTo d hwhole)
        · next hover =>
          have hmillis := mt (hnow.lt_iff hwhole).2 (by simpa using hover)
          exact .forgotten (by omega)

theorem stepsAlike_lockOut {d : Duration} (h : LockedAlike epoch now m.lockedUntil e)
    (hnow : Duration.IsWhole now) (hregular : IsRegular epoch past now (.lockOut d)) :
    StepsAlike view execute epoch past now (.lockOut d) m e := by
  obtain ⟨hd, hexact⟩ := hregular
  have hpos := hexact.millis_pos hd
  have hbound : Duration.millis d < exactBound := by
    have hless := hexact.2
    omega
  have hlife : IsLifetime (epoch + Duration.millis now) (Duration.millis d) := ⟨hpos, hexact.fits⟩
  have hown : m.lockOut? d now = some (if m.lockedUntil.all (· < now + d) then
      { m with lockedUntil := some (now + d) } else m) := by
    rw [MemoryAccounts.lockOut?, hexact.after?_eq hnow, Option.map_some]
  -- The server has less time left for a lockout exactly where its deadline in memory is earlier.
  have hless : Binary64.roundInt (View.left (epoch + Duration.millis now)
        (e.filter (view.isThere lockoutKey (epoch + Duration.millis now)))) <
      Binary64.roundInt (Duration.millis d : Nat) ↔ m.lockedUntil.all (· < now + d) := by
    rw [Binary64.roundInt_lt_iff hbound]
    rcases h.left_or_over hnow with ⟨r, hlt, hwhole, hr, hleft⟩ | ⟨hle, hleft⟩
    · have hend := hwhole.lt_iff (hnow.add hexact.1)
      rw [hnow.millis_add hexact.1] at hend
      rw [hleft, hr, Option.all_some, decide_eq_true_eq, hend]
      omega
    · have hall : m.lockedUntil.all (· < now + d) := by
        rw [Option.all_eq_true]
        intro r hr
        have hd : 0 < d := Nat.pos_of_ne_zero fun h => by simp [h, Duration.millis] at hpos
        exact decide_eq_true (Nat.lt_of_le_of_lt (hle r hr) (Nat.lt_add_of_pos_right hd))
      simp only [hall, iff_true]
      omega
  by_cases hlong : m.lockedUntil.all (· < now + d)
  · -- The lockout that is there ends earlier.
    have hturns := turns_extend hdoc (hless.2 hlong) hlife
    rw [if_pos hlong] at hown
    rw [← hexact.max_eq hd] at hturns
    refine ⟨_, _, _, MemoryAccounts.perform_lockOut hown, (turns_lockOut hturns).bind (.pure _ _),
      ?_⟩
    show LockedAlike epoch now (some (now + d)) _
    rw [hexact.max_eq hd, Nat.add_assoc, ← hnow.millis_add hexact.1]
    exact .held (.upTo _ (hnow.add hexact.1))
  · have hturns := turns_extend_of_le hdoc (Int.not_lt.1 (mt hless.1 hlong))
    rw [if_neg hlong] at hown
    rw [← hexact.max_eq hd] at hturns
    exact ⟨_, _, e, MemoryAccounts.perform_lockOut hown, (turns_lockOut hturns).bind (.pure _ _), h⟩

theorem stepsAlike_bucketOf {route : String} (h : Alike epoch past m e (.name route))
    (hkept : ∀ lapse ∈ nameLapse? route past, Duration.millis now < lapse) :
    StepsAlike view execute epoch past now (.bucketOf route) m e := by
  have hk : NamedAlike epoch (m.names.get? route) e (nameLapse? route past) := h
  have hturns := hdoc.turns_get (nameKey route) (epoch + Duration.millis now) e
  refine ⟨_, m, e, MemoryAccounts.perform_bucketOf, ?_, h⟩
  generalize m.names.get? route = known at hk
  generalize hl : nameLapse? route past = lapse? at hk
  cases hk with
  | unknown => exact (turns_bucketOf hturns rfl).bind (.pure _ _)
  | known name lapse =>
    have hlt := hkept lapse hl
    have hthere : view.isThere (nameKey route) (epoch + Duration.millis now)
      ⟨.text name, some (epoch + lapse)⟩ := View.isThere_of_lt _ (by omega)
    rw [Option.filter_some_pos hthere] at hturns
    exact (turns_bucketOf hturns rfl).bind (.pure _ _)

theorem stepsAlike_learnBucket {route name : String}
    (hfits : Integer.Fits ((epoch + Duration.millis now : Nat) + (nameTime : Nat))) :
    StepsAlike view execute epoch past now (.learnBucket route name) m e := by
  have hself : nameLapse? route (⟨now, .learnBucket route name⟩ :: past) =
      some (Duration.millis now + nameTime) := if_pos rfl
  have hturns := hdoc.turns_set (nameKey route) name e ⟨(by decide : 0 < nameTime), hfits⟩
  refine ⟨_, _, _, MemoryAccounts.perform_learnBucket, (turns_learnBucket hturns).bind (.pure _ _),
    ?_⟩
  show NamedAlike epoch ((m.names.insert route name).get? route) _ _
  rw [Table.get?_insert_self, hself, Nat.add_assoc]
  exact .known name _

/-- A slot is granted or held in both stores, unless it is asked for at the very time until
    which it was held. -/
theorem stepsAlike_trySlot {slot : Nat} {cooldown : Duration}
    (h : Alike epoch past m e (.slot slot)) (hnow : Duration.IsWhole now) (hregular : IsRegular epoch past now (.trySlot slot cooldown)) :
    StepsAlike view execute epoch past now (.trySlot slot cooldown) m e ∨
    m.slots.get? slot = some now ∧ ∃ m' after,
      (MemoryAccounts.store.perform (.trySlot slot cooldown)).runAt now m =
        (.ok (.heldFor none), m') ∧
      view.Turns (slotKey slot) now ((store execute epoch).perform (.trySlot slot cooldown)) e
        (.ok (.heldFor (some 0))) after := by
  obtain ⟨hd, hexact⟩ := hregular
  have hmax := hexact.max_eq hd
  have hlife : IsLifetime (epoch + Duration.millis now) (max (millis cooldown) 1) := by
    rw [hmax]
    exact ⟨hexact.millis_pos hd, hexact.fits⟩
  have hk : HeldAlike epoch (m.slots.get? slot) e := h
  -- Where it is free in memory, it is held by both from now on if it is free on the server.
  have hfree (hover : ∀ r ∈ m.slots.get? slot, r ≤ now) : ∃ m',
      (MemoryAccounts.store.perform (.trySlot slot cooldown)).runAt now m =
        (.ok (.heldFor none), m') ∧ m'.slots.get? slot = some (now + cooldown) := by
    have hnone : (m.slots.get? slot).filter (now < ·) = none := by
      rw [Option.filter_eq_none_iff]
      exact fun r hr => by simpa using hover r hr
    refine ⟨{ m with slots := m.slots.insert slot (now + cooldown) },
      MemoryAccounts.perform_trySlot ?_, Table.get?_insert_self _ _ _⟩
    simp only [MemoryAccounts.trySlot?, hnone, hexact.after?_eq hnow, Option.map_some]
  have hgranted (hover : ∀ r ∈ m.slots.get? slot, r ≤ now)
      (hfound : e.filter (view.isThere (slotKey slot) (epoch + Duration.millis now)) = none) :
      StepsAlike view execute epoch past now (.trySlot slot cooldown) m e := by
    obtain ⟨m', hown, hslot⟩ := hfree hover
    have hturns := hdoc.turns_setNew "1" hlife hfound
    refine ⟨_, m', _, hown, (turns_trySlot_of_free hturns).bind (.pure _ _), ?_⟩
    show HeldAlike epoch (m'.slots.get? slot) _
    rw [hslot, hmax, Nat.add_assoc, ← hnow.millis_add hexact.1]
    exact .upTo _ (hnow.add hexact.1)
  generalize hm : m.slots.get? slot = held at hk
  cases hk with
  | never => exact .inl (hgranted (by simp [hm]) rfl)
  | @upTo r d hwhole =>
    have hput {left : Int} (hfound : (some (Entry.mk d (some (epoch + Duration.millis r)))).filter
        (view.isThere (slotKey slot) (epoch + Duration.millis now)) =
          some ⟨d, some (epoch + Duration.millis r)⟩)
        (hleft : (epoch + Duration.millis r : Nat) - (epoch + Duration.millis now : Nat) = left) :
        view.Turns (slotKey slot) now ((store execute epoch).perform (.trySlot slot cooldown))
          (some ⟨d, some (epoch + Duration.millis r)⟩)
          (.ok (.heldFor (some (slotWait left cooldown))))
          (some ⟨d, some (epoch + Duration.millis r)⟩) := by
      have hheld := hdoc.turns_timeLeft (slotKey slot) (epoch + Duration.millis now)
        (some ⟨d, some (epoch + Duration.millis r)⟩)
      rw [hfound, View.left, hleft] at hheld
      exact (turns_trySlot_of_held (hdoc.turns_setNew_found "1" hlife hfound) hheld).bind
        (.pure _ _)
    rcases Nat.lt_trichotomy now r with hlt | rfl | hlt
    · obtain ⟨hleft, hwait⟩ := timeLeft_eq epoch hwhole hnow hlt
      have hturns := hput (filter_isThere_of_lt (slotKey slot) d hwhole hnow hlt) rfl
      rw [slotWait, if_neg (by omega), hwait] at hturns
      have hown : m.trySlot? slot cooldown now = some (some (r - now), m) := by
        simp only [MemoryAccounts.trySlot?, hm, Option.filter_some, hlt, decide_true, if_true]
      exact .inl ⟨_, m, _, MemoryAccounts.perform_trySlot hown, hturns, h⟩
    · -- In this millisecond the server may have forgotten the slot or not.
      have hover : ∀ t ∈ m.slots.get? slot, t ≤ now := by simp [hm]
      by_cases hthere : view.isThere (slotKey slot) (epoch + Duration.millis now)
          ⟨d, some (epoch + Duration.millis now)⟩
      · obtain ⟨m', hown, -⟩ := hfree hover
        have hturns := hput (Option.filter_some_pos hthere) (Int.sub_self _)
        exact .inr ⟨rfl, m', _, hown, hturns⟩
      · exact .inl (hgranted hover (Option.filter_some_neg (by simpa using hthere)))
    · exact .inl (hgranted (by simpa [hm] using Nat.le_of_lt hlt)
        (filter_isThere_of_gt (slotKey slot) d hwhole hnow hlt))

/-- Whatever both hold of a slot, neither store fails to answer whether it is free. If both
    grant it, they hold it until the same time. -/
theorem exists_trySlot {slot : Nat} {cooldown : Duration} (m : MemoryAccounts) (e : Option Entry)
    (hnow : Duration.IsWhole now) (hregular : IsRegular epoch past now (.trySlot slot cooldown)) :
    ∃ held m' held' after,
      (MemoryAccounts.store.perform (.trySlot slot cooldown)).runAt now m =
        (.ok (.heldFor held), m') ∧
      view.Turns (slotKey slot) now ((store execute epoch).perform (.trySlot slot cooldown)) e
        (.ok (.heldFor held')) after ∧
      (held = none → held' = none → HeldAlike epoch (m'.slots.get? slot) after) := by
  obtain ⟨hd, hexact⟩ := hregular
  have hlife : IsLifetime (epoch + Duration.millis now) (max (millis cooldown) 1) := by
    rw [hexact.max_eq hd]
    exact ⟨hexact.millis_pos hd, hexact.fits⟩
  have hown : ∃ held m', (MemoryAccounts.store.perform (.trySlot slot cooldown)).runAt now m =
      (.ok (.heldFor held), m') ∧ (held = none → m'.slots.get? slot = some (now + cooldown)) := by
    cases hheld : (m.slots.get? slot).filter (now < ·) with
    | some r =>
      refine ⟨some (r - now), m, MemoryAccounts.perform_trySlot ?_, fun h => by cases h⟩
      simp only [MemoryAccounts.trySlot?, hheld]
    | none =>
      refine ⟨none, { m with slots := m.slots.insert slot (now + cooldown) },
        MemoryAccounts.perform_trySlot ?_, fun _ => Table.get?_insert_self _ _ _⟩
      simp only [MemoryAccounts.trySlot?, hheld, hexact.after?_eq hnow, Option.map_some]
  obtain ⟨held, m', hown, hslot⟩ := hown
  cases hfound : e.filter (view.isThere (slotKey slot) (epoch + Duration.millis now)) with
  | none =>
    have hturns := hdoc.turns_setNew "1" hlife hfound
    refine ⟨held, m', none, _, hown, (turns_trySlot_of_free hturns).bind (.pure _ _),
      fun hfree _ => ?_⟩
    rw [hslot hfree, hexact.max_eq hd, Nat.add_assoc, ← hnow.millis_add hexact.1]
    exact .upTo _ (hnow.add hexact.1)
  | some found =>
    have hheld := hdoc.turns_timeLeft (slotKey slot) (epoch + Duration.millis now) e
    exact ⟨held, m', some _, _, hown,
      (turns_trySlot_of_held (hdoc.turns_setNew_found "1" hlife hfound) hheld).bind (.pure _ _),
      fun _ h => by cases h⟩

end Operations

/-! ## Runs -/

variable {call : StoreCall} {calls : List TimedCall} {loose loose' : List Nat}

theorem Agree.empty (epoch : Nat) (hempty : ∀ key, view.holds s key = none) :
    Agree view epoch [] [] .empty s := by
  intro k _
  rw [hempty]
  cases k with
  | bucket key => exact .unknown
  | name route => exact .unknown
  | slot n => exact .never
  | lockout => exact .held .never

/-- What an operation is not about stays alike. -/
theorem Alike.perform {k : AccountKey} (h : Alike epoch past m e k) (hk : k ≠ subject call)
    (htime : latest past ≤ now) :
    Alike epoch (⟨now, call⟩ :: past) ((MemoryAccounts.store.perform call).runAt now m).2 e k := by
  cases k with
  | bucket key =>
    have hbucket : call.bucketAfter key now (m.buckets.get? key) = m.buckets.get? key ∧
        bucketLapse? key (⟨now, call⟩ :: past) = bucketLapse? key past := by
      cases call with
      | take k =>
        have hkey : k ≠ key := fun he => hk (he ▸ rfl)
        exact ⟨if_neg hkey, rfl⟩
      | record k u =>
        have hkey : k ≠ key := fun he => hk (he ▸ rfl)
        exact ⟨if_neg hkey, if_neg hkey⟩
      | _ => exact ⟨rfl, rfl⟩
    rw [Alike, MemoryAccounts.bucket_perform, hbucket.1, hbucket.2]
    exact h
  | name route =>
    have hname : call.nameAfter route (m.names.get? route) = m.names.get? route ∧
        nameLapse? route (⟨now, call⟩ :: past) = nameLapse? route past := by
      cases call with
      | learnBucket r name =>
        have hroute : r ≠ route := fun he => hk (he ▸ rfl)
        exact ⟨if_neg hroute, if_neg hroute⟩
      | _ => exact ⟨rfl, rfl⟩
    rw [Alike, MemoryAccounts.names_perform, hname.1, hname.2]
    exact h
  | slot n =>
    have hslot : call.slotAfter n now (m.slots.get? n) = m.slots.get? n := by
      cases call with
      | trySlot n' d =>
        have hn : n' ≠ n := fun he => hk (he ▸ rfl)
        exact if_neg fun hfree => hn hfree.1
      | _ => rfl
    rw [Alike, MemoryAccounts.slots_perform, hslot]
    exact h
  | lockout =>
    have hlock : call.lockAfter now m.lockedUntil = m.lockedUntil := by
      cases call with
      | lockout => exact absurd rfl hk
      | lockOut d => exact absurd rfl hk
      | _ => rfl
    rw [Alike, MemoryAccounts.lockedUntil_perform, hlock]
    exact LockedAlike.mono h htime

/-- Both stores agree after an operation if they do on what it is about, or that is loose by
    then. -/
theorem Agree.after {result : Except StoreError StoreReply} (h : Agree view epoch past loose m s)
    (htime : latest past ≤ now)
    (hown : (MemoryAccounts.store.perform call).runAt now m = (result, m'))
    (hexcept : view.EqExcept (subject call).text s s')
    (hloose : ∀ n ∈ loose, subject call ≠ .slot n → n ∈ loose')
    (hself : (∀ n ∈ loose', subject call ≠ .slot n) →
      Alike epoch (⟨now, call⟩ :: past) m' (view.holds s' (subject call).text) (subject call)) :
    Agree view epoch (⟨now, call⟩ :: past) loose' m' s' := by
  intro k hk
  by_cases hsubject : k = subject call
  · subst hsubject
    exact hself hk
  · -- Other things are kept under other keys.
    rw [hexcept _ (mt AccountKey.text_injective hsubject)]
    have hstrict : ∀ n ∈ loose, k ≠ .slot n := fun n hn he =>
      hk n (hloose n hn fun hs => hsubject (he.trans hs.symm)) he
    have hother := (h k hstrict).perform hsubject htime
    rwa [hown] at hother

section Runs

variable (hdoc : view.IsDocumented execute)

include hdoc

/-- Operations on what is not loose are answered alike, but for a slot that is asked for at
    the very time until which it was held. -/
theorem Agree.stepsAlike (h : Agree view epoch past loose m s) (htime : latest past ≤ now)
    (hnow : Duration.IsWhole now) (hpos : 0 < epoch + Duration.millis now)
    (hregular : IsRegular epoch past now call) (hstrict : ∀ n ∈ loose, subject call ≠ .slot n) :
    StepsAlike view execute epoch past now call m (view.holds s (subject call).text) ∨
    ∃ slot cooldown, call = .trySlot slot cooldown ∧ m.slots.get? slot = some now ∧ ∃ m' after,
      (MemoryAccounts.store.perform call).runAt now m = (.ok (.heldFor none), m') ∧
      view.Turns (slotKey slot) now ((store execute epoch).perform call)
        (view.holds s (subject call).text) (.ok (.heldFor (some 0))) after := by
  have halike := h (subject call) hstrict
  cases call with
  | take key => exact .inl (stepsAlike_take hdoc halike hnow hregular)
  | record key u => exact .inl (stepsAlike_record hdoc halike hnow hpos hregular)
  | lockout => exact .inl (stepsAlike_lockout hdoc (LockedAlike.mono halike htime) hnow)
  | lockOut d => exact .inl (stepsAlike_lockOut hdoc (LockedAlike.mono halike htime) hnow hregular)
  | bucketOf route => exact .inl (stepsAlike_bucketOf hdoc halike hregular)
  | learnBucket route name => exact .inl (stepsAlike_learnBucket hdoc hregular)
  | trySlot slot d =>
    refine (stepsAlike_trySlot hdoc halike hnow hregular).imp_right ?_
    rintro ⟨hheld, m', after, hown, hturns⟩
    exact ⟨slot, d, rfl, hheld, m', after, hown, hturns⟩

theorem Agree.runsAlike (h : Agree view epoch past loose m s)
    (hregular : AreRegular epoch past calls) : AnswersAlike execute epoch loose m s calls := by
  induction calls generalizing past loose m s with
  | nil => exact .nil loose m s
  | cons c rest ih =>
    obtain ⟨now, call⟩ := c
    obtain ⟨htime, hnow, hpos, hc, hrest⟩ := hregular
    by_cases hstrict : ∀ n ∈ loose, subject call ≠ .slot n
    · rcases h.stepsAlike hdoc htime hnow hpos hc hstrict with
        ⟨reply, m', after, hown, hturns, halike⟩ | ⟨slot, d, rfl, hheld, m', after, hown, hturns⟩
      · obtain ⟨s', hshared, hexcept, rfl⟩ := hturns s rfl
        exact .same reply hown hshared
          (ih (h.after htime hown hexcept (fun n hn _ => hn) fun _ => halike) hrest)
      · -- From now on the slot is loose.
        obtain ⟨s', hshared, hexcept, -⟩ := hturns s rfl
        exact .parts slot d rfl hheld hown hshared (ih (h.after htime hown hexcept
          (fun n hn _ => List.mem_cons_of_mem slot hn)
          fun hself => absurd rfl (hself slot List.mem_cons_self)) hrest)
    · obtain ⟨slot, hslot, hsubject⟩ : ∃ n ∈ loose, subject call = .slot n := by
        simpa using hstrict
      obtain ⟨d, rfl⟩ : ∃ d, call = .trySlot slot d := by
        cases call with
        | trySlot n d => exact ⟨d, by rw [AccountKey.slot.inj hsubject]⟩
        | _ => cases hsubject
      obtain ⟨held, m', held', after, hown, hturns, hboth⟩ :=
        exists_trySlot hdoc m (view.holds s (slotKey slot)) hnow hc
      obtain ⟨s', hshared, hexcept, rfl⟩ := hturns s rfl
      by_cases hsome : held.isSome ∨ held'.isSome
      · exact .apart slot d held held' rfl hslot hsome hown hshared (ih (h.after htime hown hexcept
          (fun n hn _ => hn) fun hself => absurd rfl (hself slot hslot)) hrest)
      · obtain ⟨rfl, rfl⟩ : held = none ∧ held' = none := by simpa using hsome
        refine .meets slot d rfl hslot hown hshared (ih (h.after htime hown hexcept
          (fun n hn hne => ?_) fun _ => hboth rfl rfl) hrest)
        exact List.mem_filter.2 ⟨hn, by simpa using fun he : n = slot => hne (he ▸ rfl)⟩

end Runs

/-- Accounts in memory and accounts on a server that does what is documented answer all
    operations of a run alike, both starting with none. -/
theorem answersAlike (hdoc : view.IsDocumented execute) (hempty : ∀ key, view.holds s key = none)
    (hregular : AreRegular epoch [] calls) : AnswersAlike execute epoch [] .empty s calls :=
  (Agree.empty epoch hempty).runsAlike hdoc hregular

/-- A run over all operations, with a window that is over exactly when a request comes, one
    whose end is not known, and a lockout that would end before the one that is there. -/
def mixedCalls : List TimedCall := [
  ⟨Duration.ofMillis 1, .take "a"⟩,
  ⟨Duration.ofMillis 1, .record "a" ⟨1, 1, Duration.ofMillis 10⟩⟩,
  ⟨Duration.ofMillis 2, .take "a"⟩,
  ⟨Duration.ofMillis 3, .take "a"⟩,
  ⟨Duration.ofMillis 11, .take "a"⟩,
  ⟨Duration.ofMillis 11, .take "a"⟩,
  ⟨Duration.ofMillis 12, .record "a" ⟨1, 1, Duration.ofMillis 5⟩⟩,
  ⟨Duration.ofMillis 12, .take "a"⟩,
  ⟨Duration.ofMillis 13, .lockOut (Duration.ofMillis 4)⟩,
  ⟨Duration.ofMillis 14, .lockOut (Duration.ofMillis 1)⟩,
  ⟨Duration.ofMillis 15, .lockout⟩,
  ⟨Duration.ofMillis 17, .lockout⟩,
  ⟨Duration.ofMillis 17, .learnBucket "r" "a"⟩,
  ⟨Duration.ofMillis 18, .bucketOf "r"⟩,
  ⟨Duration.ofMillis 18, .trySlot 0 (Duration.ofMillis 6)⟩,
  ⟨Duration.ofMillis 19, .trySlot 0 (Duration.ofMillis 6)⟩,
  ⟨Duration.ofMillis 24, .trySlot 0 (Duration.ofMillis 6)⟩,
  ⟨Duration.ofMillis 25, .trySlot 0 (Duration.ofMillis 6)⟩,
  ⟨Duration.ofMillis 40, .trySlot 0 (Duration.ofMillis 6)⟩,
  ⟨Duration.ofMillis 41, .trySlot 0 (Duration.ofMillis 6)⟩]

theorem answersAlike_mixedCalls : AreRegular 1700000000000 [] mixedCalls ∧
    AnswersAlike Server.execute 1700000000000 [] .empty Server.empty mixedCalls := by
  have hregular : AreRegular 1700000000000 [] mixedCalls := by decide
  exact ⟨hregular, answersAlike Server.isDocumented (fun _ => rfl) hregular⟩

/-- Two attempts at a slot, the second at the very time at which the first one's hold ends. -/
def partingCalls : List TimedCall := [
  ⟨Duration.ofMillis 1, .trySlot 0 (Duration.ofMillis 6)⟩,
  ⟨Duration.ofMillis 7, .trySlot 0 (Duration.ofMillis 6)⟩]

theorem answers_partingCalls : AreRegular 1700000000000 [] partingCalls ∧
    Server.view.IsDocumented Server.execute ∧
    MemoryAccounts.store.answers partingCalls .empty =
      [.ok (.heldFor none), .ok (.heldFor none)] ∧
    (store Server.execute 1700000000000).answers partingCalls Server.empty =
      [.ok (.heldFor none), .ok (.heldFor (some 0))] :=
  ⟨by decide, Server.isDocumented, rfl, rfl⟩

end SharedAccounts

end GatewayClient
