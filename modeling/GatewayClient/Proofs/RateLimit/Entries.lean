import GatewayClient.Proofs.RateLimit.Agreement

/-!
# What accounts on a server hold

Each operation of the accounts reads and writes one key, whatever the server holds and even
if the server refuses it halfway. What it puts there is of the kind that the operations on
this key expect, as long as counts of tokens are words of 32 bits: so no operation of any
client ever finds a value of the wrong kind, or a text where a number should be.

* `Limiter.shared`, `View.nameOf?`: a limiter with accounts on a server, and the names there.
* `SharedAccounts.IsWritten`: what an operation puts under its key.
* `SharedAccounts.keeps_perform`: what an operation keeps.
* `SharedAccounts.isLocal_perform`: it has to do with nothing but what it is about.
* `SharedAccounts.Sound`, `SharedAccounts.sound_after`: what the accounts hold, whatever has
  happened to them.
-/

namespace GatewayClient

/-- The limiter of a client whose accounts are on a server. -/
def Limiter.shared {σ : Type} (execute : Execution σ) (epoch : Nat) (config : LimiterConfig) :
    Limiter σ :=
  ⟨SharedAccounts.store execute epoch, config⟩

/-- The name in an entry that was found. -/
def SharedAccounts.nameIn? (found : Option Entry) : Option String :=
  found.bind fun e => match e.datum with
    | .text name => some name
    | .record _ => none

/-- The name that a server has for the bucket of a route. -/
def View.nameOf? {σ : Type} (view : View σ) (s : σ) (route : Route) (wall : Nat) : Option String :=
  SharedAccounts.nameIn? (view.find? s (SharedAccounts.nameKey route.key) wall)

namespace SharedAccounts

open Binary64 (roundInt)

variable {σ : Type} {view : View σ} {execute : Execution σ} {key : String} {count : Int → Prop}
  {good : Entry → Prop}

/-! ## Scripts -/

/-- Whether records may hold some numbers as counts of tokens, whatever else they hold and
    however long they last. -/
structure AreRecords (count : Int → Prop) (good : Entry → Prop) : Prop where
  read : ∀ {fields name n}, View.IsGoodRecord good fields → name = "limit" ∨ name = "remaining" →
    ((fields.get? name).bind fun s => Integer.ofText? s.toList) = some n → count (roundInt n)
  set : ∀ {fields} changes expiry, View.IsGoodRecord good fields →
    (∀ c ∈ changes, c.1 = "limit" ∨ c.1 = "remaining" → ∃ n, count n ∧ c.2 = digits n) →
      good ⟨.record (View.withFields fields changes), expiry⟩
  keep : ∀ (e : Entry) (x : Nat), good e → Integer.Fits x → good { e with expiry := some x }
  /-- Taking a token leaves such a number. -/
  take : ∀ n, count n → 0 < n → count (roundInt (n - 1))

section Scripts

variable (hdoc : view.IsDocumented execute)

include hdoc

theorem keeps_spend (hgood : AreRecords count good) {left : Option String}
    (hleft : ∀ n, (left.bind fun s => Integer.ofText? s.toList) = some n → count (roundInt n))
    (reset now : Int) (pending : Nat) :
    view.Keeps key good (spend execute key left reset now pending) fun _ => True := by
  refine (View.Keeps.number left).bind fun remaining hremaining => ?_
  obtain ⟨n, hn, rfl⟩ := hremaining
  split
  · next hpos =>
    have hput : View.Puts good
        (.setFields key [("remaining", digits (roundInt (roundInt n - 1)))]) := by
      refine fun fields expiry hfields => hgood.set _ expiry hfields fun c hc _ => ?_
      obtain rfl := List.mem_singleton.1 hc
      exact ⟨_, hgood.take _ (hleft n hn) hpos, rfl⟩
    exact (hdoc.keeps_tell hput).bind fun _ _ => .done _
  · exact .done _

theorem keeps_takeToken (hgood : AreRecords count good) (now : Int) (pending : Nat) :
    view.Keeps key good (takeToken execute key now pending) fun _ => True := by
  refine (hdoc.keeps_command (c := .fields key _) trivial).bind fun state hstate => ?_
  obtain ⟨fields, hfields, rfl⟩ := hstate
  simp only [View.textAt?_fieldsReply, List.getElem?_cons_zero, List.getElem?_cons_succ,
    Option.bind_some]
  split
  · exact .done _
  · next limit hlimit =>
    refine (View.Keeps.number _).bind fun reset _ => ?_
    split
    · have hput : View.Puts good (.setFields key [("reset_at", digits 0)]) := by
        refine fun fields expiry hfields => hgood.set _ expiry hfields fun c hc hname => ?_
        obtain rfl := List.mem_singleton.1 hc
        simp at hname
      refine (hdoc.keeps_tell hput).bind fun _ _ => keeps_spend hdoc hgood (fun n hn => ?_) _ _ _
      exact hgood.read hfields (.inl rfl) (hlimit ▸ hn)
    · exact keeps_spend hdoc hgood (fun n hn => hgood.read hfields (.inr rfl) hn) _ _ _

theorem keeps_report (hgood : AreRecords count good) {limit remaining : Nat} (hlimit : count limit)
    (hremaining : count (roundInt remaining)) (resetAt now : Int) (lifetime : Nat) :
    view.Keeps key good (report execute key limit remaining resetAt now lifetime)
      fun _ => True := by
  have henter {left : Int} (hleft : count left) :
      view.Keeps key good (enter execute key limit left resetAt lifetime) fun _ => True := by
    have hput : View.Puts good (.setFields key [("limit", digits limit),
        ("remaining", digits left), ("reset_at", digits resetAt)]) := by
      refine fun fields expiry hfields => hgood.set _ expiry hfields fun c hc hname => ?_
      simp only [List.mem_cons, List.not_mem_nil, or_false] at hc
      obtain rfl | rfl | rfl := hc
      · exact ⟨_, hlimit, rfl⟩
      · exact ⟨_, hleft, rfl⟩
      · simp at hname
    exact (hdoc.keeps_tell hput).bind fun _ _ =>
      (hdoc.keeps_tell (c := .keep key lifetime) hgood.keep).bind fun _ _ => .done _
  refine (hdoc.keeps_command (c := .fields key _) trivial).bind fun state hstate => ?_
  obtain ⟨fields, hfields, rfl⟩ := hstate
  simp only [View.textAt?_fieldsReply, List.getElem?_cons_zero, List.getElem?_cons_succ,
    Option.bind_some]
  split
  · refine (View.Keeps.number _).bind fun known hknown => henter ?_
    obtain ⟨n, hn, rfl⟩ := hknown
    rcases Int.le_total (roundInt remaining) (roundInt n) with hle | hle
    · rwa [Int.min_eq_left hle]
    · rw [Int.min_eq_right hle]
      exact hgood.read hfields (.inr rfl) hn
  · exact henter hremaining

theorem keeps_extend (lifetime : Nat)
    (hgood : ∀ x : Nat, Integer.Fits x → good ⟨.text "1", some x⟩) :
    view.Keeps key good (extend execute key lifetime) fun _ => True := by
  refine (hdoc.keeps_command (c := .timeLeft key) trivial).bind fun reply _ =>
    (View.Keeps.integer reply).bind fun left _ => ?_
  split
  · exact (hdoc.keeps_tell (c := .set key "1" lifetime) hgood).bind fun _ _ => .done _
  · exact .done _

end Scripts

/-! ## Operations -/

/-- What an operation puts under its key. -/
def IsWritten (count : Int → Prop) (good : Entry → Prop) : StoreCall → Prop
  | .take _ => AreRecords count good
  | .record _ u => AreRecords count good ∧ count u.limit ∧ count (roundInt u.remaining)
  | .lockOut _ | .trySlot _ _ => ∀ x : Nat, Integer.Fits x → good ⟨.text "1", some x⟩
  | .learnBucket _ name => ∀ x : Nat, Integer.Fits x → good ⟨.text name, some x⟩
  | .lockout | .bucketOf _ => True

theorem keeps_ask {α : Type} (epoch : Nat) (read : Reply → Option α)
    {c : Nat → ServerAction σ Reply} {post : Reply → Prop}
    (h : ∀ wall, view.Keeps key good (c wall) post) :
    view.Keeps key good (ask epoch read c) fun _ => True := by
  intro now before hbefore
  obtain ⟨result, after, hturns, hafter, -⟩ :=
    h (epoch + Duration.millis now) (epoch + Duration.millis now) before hbefore
  cases result with
  | error reason => exact ⟨_, after, turns_ask_error hturns, hafter, nofun⟩
  | ok reply =>
    cases hread : read reply with
    | none => exact ⟨_, after, turns_ask_unread hturns hread, hafter, nofun⟩
    | some a => exact ⟨_, after, turns_ask hturns hread, hafter, fun _ _ => trivial⟩

/-- The mark of a slot is put there, or else looked at. -/
theorem keeps_trySlot (hdoc : view.IsDocumented execute) (epoch slot : Nat) (d : Duration)
    (hgood : ∀ x : Nat, Integer.Fits x → good ⟨.text "1", some x⟩) :
    view.Keeps (slotKey slot) good ((store execute epoch).trySlot slot d) fun _ => True := by
  simp only [store]
  refine (keeps_ask epoch _ fun _ => hdoc.keeps_command (c := .setNew _ "1" _) hgood).bind
    fun found _ => ?_
  split
  · split
    · exact .done _
    · exact .throw _
  · exact (keeps_ask epoch _ fun _ => hdoc.keeps_command (c := .timeLeft _) trivial).bind
      fun _ _ => .done _

/-- An operation keeps what is good under its key as long as what it puts there is. -/
theorem keeps_perform (hdoc : view.IsDocumented execute) (epoch : Nat) {call : StoreCall}
    (hgood : IsWritten count good call) :
    view.Keeps (subject call).text good ((store execute epoch).perform call) fun _ => True := by
  cases call <;> simp only [Store.perform, store]
  case take key =>
    exact ((keeps_ask epoch _ fun wall => keeps_takeToken hdoc hgood wall _).bind
      fun _ _ => .done _).bind fun _ _ => .done _
  case record key u =>
    obtain ⟨hrecords, hlimit, hremaining⟩ := hgood
    exact ((keeps_ask epoch _ fun wall =>
      keeps_report hdoc hrecords hlimit hremaining _ wall _).bind fun _ _ => .done _).bind
        fun _ _ => .done _
  case lockout =>
    exact ((keeps_ask epoch _ fun _ => hdoc.keeps_command (c := .timeLeft _) trivial).bind
      fun _ _ => .done _).bind fun _ _ => .done _
  case lockOut d =>
    exact ((keeps_ask epoch _ fun _ => keeps_extend hdoc _ hgood).bind
      fun _ _ => .done _).bind fun _ _ => .done _
  case bucketOf route =>
    exact (keeps_ask epoch _ fun _ => hdoc.keeps_command (c := .get _) trivial).bind
      fun _ _ => .done _
  case learnBucket route name =>
    exact (keeps_ask epoch _ fun _ => hdoc.keeps_command (c := .set _ name _) hgood).bind
      fun _ _ => .done _
  case trySlot slot d => exact (keeps_trySlot hdoc epoch slot d hgood).bind fun _ _ => .done _

/-- An operation has to do with one key only, whatever the server holds. -/
theorem isLocal_perform (hdoc : view.IsDocumented execute) (epoch : Nat) (call : StoreCall) :
    view.IsLocal (subject call).text ((store execute epoch).perform call) := by
  have hrecords : AreRecords (fun _ => True) (fun _ => True) :=
    ⟨fun _ _ _ => trivial, fun _ _ _ _ => trivial, fun _ _ _ _ => trivial, fun _ _ _ => trivial⟩
  have hgood : IsWritten (fun _ => True) (fun _ => True) call := by
    cases call with
    | take key => exact hrecords
    | record key u => exact ⟨hrecords, trivial, trivial⟩
    | lockout => trivial
    | bucketOf route => trivial
    | _ => exact fun _ _ => trivial
  exact keeps_perform hdoc epoch hgood

/-- To ask for a name changes nothing, whatever the server holds. -/
theorem same_perform_bucketOf (hdoc : view.IsDocumented execute) (epoch : Nat) (route : String)
    (now : Instant) (s : σ) :
    view.Same s (((store execute epoch).perform (.bucketOf route)).runAt now s).2 := by
  obtain ⟨result, hask⟩ : ∃ result, view.Turns (nameKey route) now
      (ask epoch Reply.optionalText? fun _ => .command execute (.get (nameKey route)))
      (view.holds s (nameKey route)) result (view.holds s (nameKey route)) := by
    have hget := hdoc.turns_get (nameKey route) (epoch + Duration.millis now)
      (view.holds s (nameKey route))
    cases hresult : (View.textReply ((view.holds s (nameKey route)).filter (view.isThere
        (nameKey route) (epoch + Duration.millis now)))).result with
    | error reason =>
      rw [hresult] at hget
      exact ⟨_, turns_ask_error hget⟩
    | ok reply =>
      rw [hresult] at hget
      cases hread : reply.optionalText? with
      | none => exact ⟨_, turns_ask_unread hget hread⟩
      | some known => exact ⟨_, turns_ask hget hread⟩
  have hperform : ∃ result, view.Turns (nameKey route) now
      ((store execute epoch).perform (.bucketOf route)) (view.holds s (nameKey route)) result
      (view.holds s (nameKey route)) := by
    cases result with
    | error reason => exact ⟨_, hask.bind_error⟩
    | ok known => exact ⟨_, hask.bind (.pure _ _)⟩
  obtain ⟨result, hturns⟩ := hperform
  obtain ⟨s', hrun, hexcept, hafter⟩ := hturns s rfl
  rw [StoreAction.runAt, hrun]
  exact hexcept.same hafter

/-! ## What is held -/

/-- A count of tokens. -/
def IsCount (n : Int) : Prop := ∃ m : Nat, m < UInt32.size ∧ n = m

/-- Whether the counts in a record are such, if it has them. -/
def HasCounts (fields : Table String String) : Prop :=
  ∀ name text, name = "limit" ∨ name = "remaining" → fields.get? name = some text →
    ∃ n, IsCount n ∧ text = digits n

/-- What the operations on a key expect to find there. -/
def IsSound : AccountKey → Entry → Prop
  | .bucket _, e => ∃ fields, e.datum = .record fields ∧ HasCounts fields
  | .name _, e => ∃ name, e.datum = .text name
  | .slot _, _ => True
  | .lockout, e => ∃ word, ∃ expiry : Nat, e = ⟨.text word, some expiry⟩ ∧ Integer.Fits expiry

/-- Whether each key holds what the operations on it expect. -/
def Sound (view : View σ) (s : σ) : Prop :=
  ∀ (k : AccountKey) e, view.holds s k.text = some e → IsSound k e

/-- Whether the counts of tokens that an operation enters are words of 32 bits. -/
def IsCounted : StoreCall → Prop
  | .record _ u => u.limit < UInt32.size ∧ u.remaining < UInt32.size
  | _ => True

theorem IsCount.lt {m : Nat} (h : m < UInt32.size) : m < exactBound := by
  have hsize : UInt32.size < exactBound := by decide
  omega

theorem IsCount.fits {n : Int} (h : IsCount n) : Integer.Fits n := by
  obtain ⟨m, hm, rfl⟩ := h
  exact Integer.fits_of_lt (IsCount.lt hm)

/-- Scripts compute with counts exactly. -/
theorem IsCount.roundInt_eq {n : Int} (h : IsCount n) : roundInt n = n := by
  obtain ⟨m, hm, rfl⟩ := h
  rw [Binary64.roundInt_natCast, Binary64.roundNat_of_lt (IsCount.lt hm)]

theorem hasCounts_of_isGoodRecord {fields : Table String String}
    (h : View.IsGoodRecord (IsSound (.bucket key)) fields) : HasCounts fields := by
  rcases h with rfl | ⟨expiry, fields', heq, hcounts⟩
  · exact fun _ _ _ hget => nomatch hget
  · cases heq
    exact hcounts

theorem HasCounts.withFields {fields : Table String String} (h : HasCounts fields)
    {changes : List (String × String)}
    (hchanges : ∀ c ∈ changes, c.1 = "limit" ∨ c.1 = "remaining" →
      ∃ n, IsCount n ∧ c.2 = digits n) :
    HasCounts (View.withFields fields changes) := by
  induction changes generalizing fields with
  | nil => exact h
  | cons c rest ih =>
    refine ih (fun name text hname hget => ?_) fun c' hc' =>
      hchanges c' (List.mem_cons_of_mem _ hc')
    rw [Table.get?_insert] at hget
    split at hget
    · next heq =>
      obtain rfl := Option.some_inj.1 hget
      exact hchanges c List.mem_cons_self (heq ▸ hname)
    · exact h name text hname hget

theorem areRecords_isSound (key : String) : AreRecords IsCount (IsSound (.bucket key)) where
  read := by
    intro fields name n hfields hname hn
    obtain ⟨text, htext, hnumber⟩ := Option.bind_eq_some_iff.1 hn
    obtain ⟨m, hm, rfl⟩ := hasCounts_of_isGoodRecord hfields name text hname htext
    rw [ofText?_digits hm.fits, Option.some_inj] at hnumber
    subst hnumber
    rwa [hm.roundInt_eq]
  set changes expiry hfields hchanges :=
    ⟨_, rfl, (hasCounts_of_isGoodRecord hfields).withFields hchanges⟩
  keep _ _ he _ := he
  take := by
    rintro _ ⟨m, hm, rfl⟩ hpos
    have hless : IsCount ((m : Int) - 1) := ⟨m - 1, by omega, by omega⟩
    rwa [hless.roundInt_eq]

theorem isWritten_isSound {call : StoreCall} (h : IsCounted call) :
    IsWritten IsCount (IsSound (subject call)) call := by
  cases call with
  | take key => exact areRecords_isSound key
  | record key u =>
    have hremaining : IsCount u.remaining := ⟨_, h.2, rfl⟩
    exact ⟨areRecords_isSound key, ⟨_, h.1, rfl⟩, by rwa [hremaining.roundInt_eq]⟩
  | lockout => trivial
  | lockOut d => exact fun x hx => ⟨"1", x, rfl, hx⟩
  | bucketOf route => trivial
  | learnBucket route name => exact fun _ _ => ⟨name, rfl⟩
  | trySlot slot d => exact fun _ _ => trivial

theorem Sound.perform (hdoc : view.IsDocumented execute) {s : σ} (h : Sound view s) (epoch : Nat)
    {call : StoreCall} (hcall : IsCounted call) (now : Instant) :
    Sound view (((store execute epoch).perform call).runAt now s).2 := by
  intro k e he
  by_cases hk : k = subject call
  · subst hk
    obtain ⟨result, after, hturns, hafter, -⟩ :=
      keeps_perform hdoc epoch (isWritten_isSound hcall) now _ (h (subject call))
    obtain ⟨s', hrun, -, rfl⟩ := hturns s rfl
    rw [StoreAction.runAt, hrun] at he
    exact hafter e he
  · have hexcept := (isLocal_perform hdoc epoch call).eqExcept now s _
      (mt AccountKey.text_injective hk)
    exact h k e (hexcept.symm.trans he)

/-- Whatever operations the accounts have come through, each key holds what the operations on
    it expect. -/
theorem sound_after (hdoc : view.IsDocumented execute) {s : σ}
    (hempty : ∀ key, view.holds s key = none) (epoch : Nat) {calls : List TimedCall}
    (hcalls : ∀ c ∈ calls, IsCounted c.call) :
    Sound view ((store execute epoch).after calls s) := by
  have hrun : ∀ s, Sound view s → Sound view ((store execute epoch).after calls s) := by
    induction calls with
    | nil => exact fun _ h => h
    | cons c rest ih =>
      intro s h
      exact ih (fun c' hc' => hcalls c' (List.mem_cons_of_mem _ hc')) _
        (h.perform hdoc epoch (hcalls c List.mem_cons_self) c.time)
  refine hrun s fun k e he => ?_
  rw [hempty] at he
  cases he

end SharedAccounts

end GatewayClient
