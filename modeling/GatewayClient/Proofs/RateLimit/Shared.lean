import GatewayClient.Proofs.KeyValue.Documented
import GatewayClient.Proofs.RateLimit.Bucket
import GatewayClient.RateLimit.Shared

/-!
# The scripts of accounts on a server

The record of a bucket on a server holds what a client that keeps its own accounts
knows of it, as long as times are whole milliseconds and numbers small enough: a
deadline in milliseconds of the wall clock, and 0 where the client does not know it.
Each script does to the record what the client does to its bucket.

* `SharedAccounts.Holds`: a record that holds a bucket.
* `SharedAccounts.exists_turns_takeToken`, `SharedAccounts.turns_report`,
  `SharedAccounts.turns_extend`: what becomes of a key with the scripts.
* `SharedAccounts.turns_ask`: what the client is told.
* `SharedAccounts.AccountKey.text_injective`: no two things are kept under one key.
-/

namespace GatewayClient

/-- The first number that a server does not compute with exactly. -/
def exactBound : Nat := Nat.pow 2 53

theorem Instant.after?_of_exact {now : Instant} {d : Duration} (hnow : Duration.IsWhole now)
    (hd : Duration.IsWhole d) (h : Duration.millis now + Duration.millis d < exactBound) :
    Instant.after? now d = some (now + d) := by
  have hlimit : Duration.ofMillis exactBound < Instant.limit := by decide
  have hexact : now + d < Duration.ofMillis exactBound := by
    rwa [(hnow.add hd).lt_iff (Duration.isWhole_ofMillis _), hnow.millis_add hd,
      Duration.millis_ofMillis]
  exact if_pos (Nat.lt_trans hexact hlimit)

theorem Integer.fits_of_lt {n : Nat} (h : n < exactBound) : Integer.Fits n := by
  have hbound : exactBound < Nat.pow 2 63 := by decide
  exact ⟨by omega, by omega⟩

/-- Whether a bucket is one that the record on a server can hold: its deadline is a whole
    number of milliseconds on a wall clock that shows `epoch` when the client's starts,
    and no number is too large. -/
structure Bucket.IsRegular (epoch : Nat) (b : Bucket) : Prop where
  remaining_le : b.remaining ≤ b.limit
  limit_lt : b.limit < exactBound
  reset : ∀ reset, b.resetAt = some reset → Duration.IsWhole reset ∧
    0 < epoch + Duration.millis reset ∧ epoch + Duration.millis reset < exactBound

namespace SharedAccounts

/-! ## Keys -/

/-- What the accounts keep under a key of its own. -/
inductive AccountKey where
  /-- What is known about a bucket. -/
  | bucket (key : String)
  /-- The name of the bucket of a route. -/
  | name (route : String)
  /-- Until when a handshake slot is held. -/
  | slot (n : Nat)
  /-- Until when the whole account is locked out. -/
  | lockout

namespace AccountKey

/-- The key on the server. -/
def text : AccountKey → String
  | bucket key => bucketKey key
  | name route => nameKey route
  | slot n => slotKey n
  | lockout => lockoutKey

/-- The letter after what all keys begin with, by which the kind of one is known. -/
def letter : AccountKey → Char
  | bucket _ => 'b'
  | name _ => 'h'
  | slot _ => 'i'
  | lockout => 'g'

theorem getElem?_append {n : Nat} {p : String} {c : Char} (h : p.toList[n]? = some c)
    (rest : String) : (p ++ rest).toList[n]? = some c := by
  rw [String.toList_append, List.getElem?_append_left (List.getElem?_eq_some_iff.1 h).1]
  exact h

theorem getElem?_text (k : AccountKey) : k.text.toList[10]? = some k.letter := by
  cases k with
  | bucket key => exact getElem?_append rfl key
  | name route => exact getElem?_append rfl route
  | slot n => exact getElem?_append rfl _
  | lockout => rfl

/-- No two things are kept under one key. -/
theorem text_injective {k k' : AccountKey} (h : k.text = k'.text) : k = k' := by
  have hletter : k.letter = k'.letter := by
    rw [← Option.some_inj, ← getElem?_text, ← getElem?_text, h]
  cases k with
  | bucket key =>
    cases k' with
    | bucket key' => exact congrArg bucket ((String.append_right_inj _).1 h)
    | _ => exact absurd hletter (by simp [letter])
  | name route =>
    cases k' with
    | name route' => exact congrArg name ((String.append_right_inj _).1 h)
    | _ => exact absurd hletter (by simp [letter])
  | slot n =>
    cases k' with
    | slot n' =>
      have hdigits := String.ofList_inj.1 ((String.append_right_inj _).1 h)
      exact congrArg slot (Natural.toDigits_injective hdigits)
    | _ => exact absurd hletter (by simp [letter])
  | lockout =>
    cases k' with
    | lockout => rfl
    | _ => exact absurd hletter (by simp [letter])
end AccountKey

/-! ## Records -/

/-- The end of a window as a record has it. -/
def resetMark (epoch : Nat) : Option Instant → Nat
  | none => 0
  | some reset => epoch + Duration.millis reset

/-- Whether the fields of a record hold a bucket. -/
structure Holds (epoch : Nat) (fields : Table String String) (b : Bucket) : Prop where
  limit : fields.get? "limit" = some (digits b.limit)
  remaining : fields.get? "remaining" = some (digits b.remaining)
  reset : fields.get? "reset_at" = some (digits (resetMark epoch b.resetAt))

variable {σ : Type} {epoch : Nat} {now : Instant} {b : Bucket} {fields : Table String String}

theorem ofText?_digits {n : Int} (h : Integer.Fits n) :
    Integer.ofText? (digits n).toList = some n := by
  rw [digits, String.toList_ofList, Integer.ofText?_text n h]

theorem number_digits {n : Int} (h : Integer.Fits n) :
    (ServerAction.number (some (digits n)) : ServerAction σ Int) = pure (Binary64.roundInt n) := by
  simp only [ServerAction.number, Option.bind_some, ofText?_digits h]

/-- Scripts compute exactly with the numbers that a record of a bucket has. -/
theorem number_digits_of_lt {n : Nat} (h : n < exactBound) :
    (ServerAction.number (some (digits n)) : ServerAction σ Int) = pure (n : Int) := by
  rw [number_digits (Integer.fits_of_lt h), Binary64.roundInt_natCast, Binary64.roundNat_of_lt h]

theorem resetMark_lt (hb : b.IsRegular epoch) : resetMark epoch b.resetAt < exactBound := by
  cases hr : b.resetAt with
  | none => exact Nat.two_pow_pos 53
  | some reset => exact (hb.reset reset hr).2.2

theorem isRegular_refill (hb : b.IsRegular epoch) (now : Instant) :
    (b.refill now).IsRegular epoch := by
  by_cases hopen : b.isOpen now
  · rwa [Bucket.refill_of_isOpen hopen]
  · rw [Bucket.refill_of_not_isOpen hopen]
    exact ⟨Nat.le_refl _, hb.limit_lt, fun reset hr => by cases hr⟩

/-- The window of a record is over when that of its bucket is, also as a script sees it. -/
theorem resetMark_le_iff (hb : b.IsRegular epoch) (hnow : Duration.IsWhole now) :
    (0 < resetMark epoch b.resetAt ∧
      resetMark epoch b.resetAt ≤ Binary64.roundNat (epoch + Duration.millis now)) ↔
      ¬ b.isOpen now := by
  rw [Binary64.le_roundNat_iff (resetMark_lt hb), Bucket.isOpen_iff]
  cases hr : b.resetAt with
  | none => simp [resetMark]
  | some reset =>
    obtain ⟨hwhole, hpos, -⟩ := hb.reset reset hr
    simp only [resetMark, Option.some_inj, forall_eq', hnow.lt_iff hwhole]
    omega

/-- What a script answers to a request where the client answers it itself. -/
def tokenReply : Admission → Reply
  | .granted => .list [.integer 1, .integer 0]
  | .wait d => .list [.integer 0, .integer (Duration.millis d)]

theorem Holds.insert_reset (hf : Holds epoch fields b) :
    Holds epoch (fields.insert "reset_at" (digits 0)) { b with resetAt := none } := by
  refine ⟨?_, ?_, fields.get?_insert_self _ _⟩
  · rw [Table.get?_insert_of_ne _ _ (by decide), hf.limit]
  · rw [Table.get?_insert_of_ne _ _ (by decide), hf.remaining]

theorem word_natCast {n : Nat} (h : n < exactBound) : word n = n := if_pos (Integer.fits_of_lt h)

/-- The wait that a record gives is that of its bucket, in milliseconds. -/
theorem waitAt_eq (hb : b.IsRegular epoch) (hnow : Duration.IsWhole now) (hopen : b.isOpen now) :
    word (if (resetMark epoch b.resetAt : Int) = 0
      then Binary64.roundInt (millis pendingWait : Nat)
      else Binary64.roundInt ((resetMark epoch b.resetAt : Int) -
        Binary64.roundInt (epoch + Duration.millis now : Nat))) =
      Duration.millis (b.waitAt now) := by
  cases hr : b.resetAt with
  | none =>
    have hpending : millis pendingWait = Duration.millis pendingWait := by decide
    have hlt : Duration.millis pendingWait < exactBound := by decide
    simp only [resetMark, Bucket.waitAt, hr, Int.natCast_eq_zero, if_true, hpending,
      Binary64.roundInt_natCast, Binary64.roundNat_of_lt hlt, word_natCast hlt]
  | some reset =>
    obtain ⟨hwhole, hpos, hbound⟩ := hb.reset reset hr
    have hlt := (hnow.lt_iff hwhole).1 (Bucket.isOpen_iff.1 hopen reset hr)
    have hwall : epoch + Duration.millis now < exactBound := by omega
    have hleft : ((resetMark epoch (some reset) : Nat) : Int) -
        (epoch + Duration.millis now : Nat) = (Duration.millis reset - Duration.millis now : Nat) := by
      rw [resetMark]
      omega
    have hless : Duration.millis reset - Duration.millis now < exactBound := by omega
    have hwait : Duration.millis (b.waitAt now) = Duration.millis reset - Duration.millis now := by
      simp only [Bucket.waitAt, hr, hwhole.sub_eq hnow, Duration.millis_ofMillis]
    rw [if_neg (by rw [resetMark]; omega), hwait, Binary64.roundInt_natCast,
      Binary64.roundNat_of_lt hwall, hleft, Binary64.roundInt_natCast,
      Binary64.roundNat_of_lt hless, word_natCast hless]

/-! ## Scripts -/

section Scripts

variable {view : View σ} {execute : Execution σ} {key : String} {expiry : Option Nat} {wall : Nat}
  {before : Option Entry}

/-- Whatever is written into a record, it stays there with its lifetime. -/
theorem turns_setFields_there (hdoc : view.IsDocumented execute)
    (hthere : view.isThere key wall ⟨.record fields, expiry⟩) (changes : List (String × String)) :
    view.Turns key wall (ServerAction.tell execute (.setFields key changes))
      (some ⟨.record fields, expiry⟩) (.ok ())
      (some ⟨.record (View.withFields fields changes), expiry⟩) := by
  have hfound : (some (Entry.mk (.record fields) expiry)).filter (view.isThere key wall) =
      some ⟨.record fields, expiry⟩ := Option.filter_some_pos hthere
  have hset := hdoc.turns_setFields changes
    (congrArg View.record? hfound)
  rw [hfound] at hset
  exact hset.tell

/-- A token is taken from the record of a bucket in an open window. The number of tokens that
    the record has counts only if there is none to take. -/
theorem exists_turns_spend (hdoc : view.IsDocumented execute)
    (hthere : view.isThere key wall ⟨.record fields, expiry⟩) (hb : b.IsRegular epoch)
    (hnow : Duration.IsWhole now) (hopen : b.isOpen now)
    (hlimit : fields.get? "limit" = some (digits b.limit))
    (hreset : fields.get? "reset_at" = some (digits (resetMark epoch b.resetAt)))
    (hempty : b.remaining = 0 → fields.get? "remaining" = some (digits b.remaining)) :
    ∃ fields', view.Turns key wall
        (spend execute key (some (digits b.remaining)) (resetMark epoch b.resetAt)
          (Binary64.roundInt (epoch + Duration.millis now : Nat)) (millis pendingWait))
        (some ⟨.record fields, expiry⟩) (.ok (tokenReply (b.take now).1))
        (some ⟨.record fields', expiry⟩) ∧
      Holds epoch fields' (b.take now).2 := by
  have hless := Nat.lt_of_le_of_lt hb.remaining_le hb.limit_lt
  simp only [spend, number_digits_of_lt hless, pure_bind, Int.natCast_pos, Bucket.take,
    Bucket.refill_of_isOpen hopen, waitAt_eq hb hnow hopen]
  by_cases htoken : 0 < b.remaining
  · have hspent : Binary64.roundInt ((b.remaining : Int) - 1) = (b.remaining - 1 : Nat) := by
      have hsub : (b.remaining : Int) - 1 = (b.remaining - 1 : Nat) := by omega
      rw [hsub, Binary64.roundInt_natCast,
        Binary64.roundNat_of_lt (Nat.lt_of_le_of_lt (Nat.sub_le _ _) hless)]
    simp only [if_pos htoken, hspent]
    refine ⟨_, (turns_setFields_there hdoc hthere _).bind (.pure _ _), ?_,
      Table.get?_insert_self _ _ _, ?_⟩
    · exact (fields.get?_insert_of_ne _ (show "remaining" ≠ "limit" by decide)).trans hlimit
    · exact (fields.get?_insert_of_ne _ (show "remaining" ≠ "reset_at" by decide)).trans hreset
  · simp only [if_neg htoken]
    exact ⟨fields, .pure _ _, hlimit, hempty (by omega), hreset⟩

/-- A bucket without a record admits. -/
theorem turns_takeToken_of_none (hdoc : view.IsDocumented execute)
    (hfound : before.filter (view.isThere key wall) = none) (now : Int) (pending : Nat) :
    view.Turns key wall (takeToken execute key now pending) before (.ok (tokenReply .granted))
      before := by
  refine (hdoc.turns_fields ["limit", "remaining", "reset_at"]
    (congrArg View.record? hfound)).bind ?_
  simp only [View.textAt?_fieldsReply, List.getElem?_cons_zero, Option.bind_some, Table.get?_empty]
  exact .pure _ _

/-- A request to the server takes a token exactly where one to the bucket that its record
    holds does, and is told to wait as long. -/
theorem exists_turns_takeToken (hdoc : view.IsDocumented execute)
    (hthere : view.isThere key (epoch + Duration.millis now) ⟨.record fields, expiry⟩)
    (hf : Holds epoch fields b) (hb : b.IsRegular epoch) (hnow : Duration.IsWhole now) :
    ∃ fields', view.Turns key (epoch + Duration.millis now)
        (takeToken execute key (epoch + Duration.millis now : Nat) (millis pendingWait))
        (some ⟨.record fields, expiry⟩) (.ok (tokenReply (b.take now).1))
        (some ⟨.record fields', expiry⟩) ∧
      Holds epoch fields' (b.take now).2 := by
  have hfound : (some (Entry.mk (.record fields) expiry)).filter
      (view.isThere key (epoch + Duration.millis now)) = some ⟨.record fields, expiry⟩ :=
    Option.filter_some_pos hthere
  have hread := hdoc.turns_fields ["limit", "remaining", "reset_at"]
    (congrArg View.record? hfound)
  have hover : ((0 : Int) < resetMark epoch b.resetAt ∧ (resetMark epoch b.resetAt : Int) ≤
      Binary64.roundInt (epoch + Duration.millis now : Nat)) ↔ ¬ b.isOpen now := by
    rw [Binary64.roundInt_natCast, Int.natCast_pos, Int.ofNat_le]
    exact resetMark_le_iff hb hnow
  by_cases hopen : b.isOpen now
  · obtain ⟨fields', hspend, hf'⟩ := exists_turns_spend hdoc hthere hb hnow hopen hf.limit hf.reset
      fun _ => hf.remaining
    refine ⟨fields', hread.bind ?_, hf'⟩
    simp only [View.textAt?_fieldsReply, List.getElem?_cons_zero, List.getElem?_cons_succ,
      Option.bind_some, hf.limit, hf.remaining, hf.reset, number_digits_of_lt (resetMark_lt hb),
      pure_bind, if_neg (mt hover.1 (not_not_intro hopen))]
    exact hspend
  · -- The window is over, which is entered first.
    have hrefill := Bucket.refill_of_not_isOpen hopen
    have hopened := hf.insert_reset
    -- A bucket without a limit has no tokens before, either.
    have hempty (hzero : (b.refill now).remaining = 0) :
        (fields.insert "reset_at" (digits 0)).get? "remaining" =
          some (digits (b.refill now).remaining) := by
      have hnone : b.remaining = 0 := by
        have hle := hb.remaining_le
        simp only [hrefill] at hzero
        omega
      rw [hzero, ← hnone]
      exact hopened.remaining
    have hthere' : view.isThere key (epoch + Duration.millis now)
      ⟨.record (fields.insert "reset_at" (digits 0)), expiry⟩ := hthere
    obtain ⟨fields', hspend, hf'⟩ := exists_turns_spend hdoc hthere' (isRegular_refill hb now) hnow
      (b.isOpen_refill now) (by rw [hrefill]; exact hopened.limit)
      (by rw [hrefill]; exact hopened.reset) hempty
    rw [Bucket.take_refill] at hspend hf'
    rw [hrefill] at hspend
    refine ⟨fields', hread.bind ?_, hf'⟩
    simp only [View.textAt?_fieldsReply, List.getElem?_cons_zero, List.getElem?_cons_succ,
      Option.bind_some, hf.limit, hf.reset, number_digits_of_lt (resetMark_lt hb), pure_bind,
      if_pos (hover.2 hopen)]
    exact (turns_setFields_there hdoc hthere [("reset_at", digits 0)]).bind hspend

/-! ### Reports -/

/-- The tokens that a report leaves in a record, if there is a number where it needs one. -/
def tokensAfter? (fields : Table String String) (remaining : Nat) (now : Int) : Option Int :=
  let reset := ((fields.get? "reset_at").bind fun s => Integer.ofText? s.toList).map
    Binary64.roundInt
  if (fields.get? "remaining").isSome && reset.any fun r => r = 0 || Binary64.roundInt now < r then
    ((fields.get? "remaining").bind fun s => Integer.ofText? s.toList).map fun known =>
      min (Binary64.roundInt remaining) (Binary64.roundInt known)
  else some (Binary64.roundInt remaining)

/-- A record with the fields that a report sets. -/
def reportedFields (fields : Table String String) (limit : Nat) (left resetAt : Int) :
    Table String String :=
  View.withFields fields
    [("limit", digits limit), ("remaining", digits left), ("reset_at", digits resetAt)]

theorem get?_reportedFields_reset (fields : Table String String) (limit : Nat)
    (left resetAt : Int) :
    (reportedFields fields limit left resetAt).get? "reset_at" = some (digits resetAt) :=
  Table.get?_insert_self _ _ _

/-- The fields that a report sets hold the bucket that it tells of. -/
theorem holds_reportedFields (fields : Table String String) (b : Bucket) :
    Holds epoch (reportedFields fields b.limit b.remaining (resetMark epoch b.resetAt)) b := by
  simp only [reportedFields, View.withFields, List.foldl_cons, List.foldl_nil]
  refine ⟨?_, ?_, Table.get?_insert_self _ _ _⟩
  · rw [Table.get?_insert_of_ne _ _ (by decide), Table.get?_insert_of_ne _ _ (by decide),
      Table.get?_insert_self]
  · rw [Table.get?_insert_of_ne _ _ (by decide), Table.get?_insert_self]

section Report

variable {limit remaining lifetime : Nat} {left resetAt now' : Int}
  (hdoc : view.IsDocumented execute)
  (hfields : View.record? (before.filter (view.isThere key wall)) = some fields)

include hdoc hfields

/-- A report goes on with the tokens that are left. -/
theorem turns_report {result : Except Refusal Reply} {after : Option Entry}
    (hleft : tokensAfter? fields remaining now' = some left)
    (henter : view.Turns key wall (enter execute key limit left resetAt lifetime) before result
      after) :
    view.Turns key wall (report execute key limit remaining resetAt now' lifetime) before result
      after := by
  refine (hdoc.turns_fields ["remaining", "reset_at"] hfields).bind ?_
  simp only [View.textAt?_fieldsReply, List.getElem?_cons_zero, List.getElem?_cons_succ,
    Option.bind_some]
  rw [tokensAfter?] at hleft
  split
  · next hopen =>
    rw [if_pos hopen] at hleft
    obtain ⟨known, hknown, rfl⟩ := Option.map_eq_some_iff.1 hleft
    obtain ⟨text, htext, hnumber⟩ := Option.bind_eq_some_iff.1 hknown
    simpa only [ServerAction.number, htext, Option.bind_some, hnumber, pure_bind] using henter
  · next hover =>
    rw [if_neg hover, Option.some_inj] at hleft
    exact hleft ▸ henter

/-- The fields are set before the lifetime is. -/
theorem turns_enter (limit : Nat) (left resetAt : Int) (hlife : IsLifetime wall lifetime) :
    view.Turns key wall (enter execute key limit left resetAt lifetime) before
      (.ok (.integer (word left)))
      (some ⟨.record (reportedFields fields limit left resetAt), some (wall + lifetime)⟩) := by
  have hthere : view.isThere key wall ⟨.record (reportedFields fields limit left resetAt),
    (before.filter (view.isThere key wall)).bind (·.expiry)⟩ := View.isThere_found _ before
  have hkeep := hdoc.turns_keep hlife (Option.filter_some_pos hthere)
  exact (hdoc.turns_setFields _ hfields).tell.bind (hkeep.tell.bind (.pure _ _))

/-- If the lifetime is refused, they stay set. -/
theorem turns_enter_refused (limit : Nat) (left resetAt : Int)
    (hlife : ¬ Integer.Fits ((wall : Int) + (lifetime : Nat))) :
    view.Turns key wall (enter execute key limit left resetAt lifetime) before
      (.error .badLifetime) (some ⟨.record (reportedFields fields limit left resetAt),
        (before.filter (view.isThere key wall)).bind (·.expiry)⟩) :=
  (hdoc.turns_setFields _ hfields).tell.bind
    (hdoc.turns_keep_refused _ _ hlife).tell_error.bind_error

/-- A record that is given no time is taken away. -/
theorem turns_enter_zero (limit : Nat) (left resetAt : Int) (hwall : Integer.Fits wall) :
    view.Turns key wall (enter execute key limit left resetAt 0) before
      (.ok (.integer (word left))) none := by
  have hthere : view.isThere key wall ⟨.record (reportedFields fields limit left resetAt),
    (before.filter (view.isThere key wall)).bind (·.expiry)⟩ := View.isThere_found _ before
  have hkeep := hdoc.turns_keep_zero hwall (Option.filter_some_pos hthere)
  exact (hdoc.turns_setFields _ hfields).tell.bind (hkeep.tell.bind (.pure _ _))

end Report

/-- A report on a bucket whose record is there leaves the tokens that the client leaves. -/
theorem tokensAfter?_of_holds {u : BucketUpdate} (hf : Holds epoch fields b)
    (hb : b.IsRegular epoch) (hnow : Duration.IsWhole now) (hu : u.remaining < exactBound) :
    tokensAfter? fields u.remaining (epoch + Duration.millis now : Nat) =
      some ((b.remainingAfter u now : Nat) : Int) := by
  have hless := Nat.lt_of_le_of_lt hb.remaining_le hb.limit_lt
  have hround (n : Nat) (hn : n < exactBound) : Binary64.roundInt n = n := by
    rw [Binary64.roundInt_natCast, Binary64.roundNat_of_lt hn]
  -- The script takes a window for open exactly where the client does.
  have hwindow : ((resetMark epoch b.resetAt : Int) = 0 ∨
      ((Binary64.roundNat (epoch + Duration.millis now) : Nat) : Int) < resetMark epoch b.resetAt) ↔
        b.isOpen now :=
    Decidable.not_iff_not.1 (Iff.trans (by omega) (resetMark_le_iff hb hnow))
  simp only [tokensAfter?, hf.reset, hf.remaining, Option.bind_some, Option.map_some,
    Option.any_some, ofText?_digits (Integer.fits_of_lt hless),
    ofText?_digits (Integer.fits_of_lt (resetMark_lt hb)),
    hround _ hless, hround _ hu, hround _ (resetMark_lt hb), Option.isSome_some, Bool.true_and,
    Bool.or_eq_true, decide_eq_true_eq, Binary64.roundInt_natCast, hwindow, Bucket.remainingAfter]
  split
  · rw [Option.some_inj]
    omega
  · rfl

theorem tokensAfter?_empty {remaining : Nat} (h : remaining < exactBound) (now : Int) :
    tokensAfter? ∅ remaining now = some (remaining : Int) := by
  simp only [tokensAfter?, Table.get?_empty, Option.isSome_none, Bool.false_and,
    if_neg Bool.false_ne_true, Binary64.roundInt_natCast, Binary64.roundNat_of_lt h]

/-! ### Lockouts -/

section Extend

variable {lifetime : Nat} (hdoc : view.IsDocumented execute)

include hdoc

/-- A mark that is not there, or ends before the new one as a script sees it, is replaced. -/
theorem turns_extend
    (hless : Binary64.roundInt (View.left wall (before.filter (view.isThere key wall))) <
      Binary64.roundInt lifetime)
    (hlife : IsLifetime wall lifetime) :
    view.Turns key wall (extend execute key lifetime) before (.ok (.integer 1))
      (some ⟨.text "1", some (wall + lifetime)⟩) := by
  refine (hdoc.turns_timeLeft key wall before).bind ?_
  simp only [ServerAction.integer, pure_bind, if_pos hless]
  exact (hdoc.turns_set key "1" before hlife).tell.bind (.pure _ _)

/-- It stays if the new lifetime is refused. -/
theorem turns_extend_refused
    (hless : Binary64.roundInt (View.left wall (before.filter (view.isThere key wall))) <
      Binary64.roundInt lifetime)
    (hlife : ¬ IsLifetime wall lifetime) :
    view.Turns key wall (extend execute key lifetime) before (.error .badLifetime) before := by
  refine (hdoc.turns_timeLeft key wall before).bind ?_
  simp only [ServerAction.integer, pure_bind, if_pos hless]
  exact (hdoc.turns_set_refused key "1" before hlife).tell_error.bind_error

/-- A mark that ends no earlier stays, whatever the new lifetime is. -/
theorem turns_extend_of_le (hle : Binary64.roundInt lifetime ≤
      Binary64.roundInt (View.left wall (before.filter (view.isThere key wall)))) :
    view.Turns key wall (extend execute key lifetime) before (.ok (.integer 1)) before := by
  refine (hdoc.turns_timeLeft key wall before).bind ?_
  simp only [ServerAction.integer, pure_bind, if_neg (Int.not_lt.2 hle)]
  exact .pure _ _

end Extend

end Scripts

/-! ## Operations

What an operation answers and leaves, given what becomes of its key on the server. -/

section Operations

variable {view : View σ} {execute : Execution σ} {before after : Option Entry} {reply : Reply}

section Ask

variable {α : Type} {key : String} {read : Reply → Option α} {c : Nat → ServerAction σ Reply}
  {a : α}

theorem turns_ask
    (h : view.Turns key (epoch + Duration.millis now) (c (epoch + Duration.millis now)) before
      (.ok reply) after) (hread : read reply = some a) :
    view.Turns key now (ask epoch read c) before (.ok a) after := by
  intro s hs
  obtain ⟨s', hrun, hexcept, hafter⟩ := h s hs
  refine ⟨s', ?_, hexcept, hafter⟩
  show (ask epoch read c).runAt now s = (.ok a, s')
  rw [ask, StoreAction.runAt_of]
  simp only [ServerAction.run, hrun, hread, Option.elim_some]

/-- An answer that cannot be read is an error. -/
theorem turns_ask_unread
    (h : view.Turns key (epoch + Duration.millis now) (c (epoch + Duration.millis now)) before
      (.ok reply) after) (hread : read reply = none) :
    view.Turns key now (ask epoch read c) before (.error .command) after := by
  intro s hs
  obtain ⟨s', hrun, hexcept, hafter⟩ := h s hs
  refine ⟨s', ?_, hexcept, hafter⟩
  show (ask epoch read c).runAt now s = (.error .command, s')
  rw [ask, StoreAction.runAt_of]
  simp only [ServerAction.run, hrun, hread, Option.elim_none]

theorem turns_ask_error {reason : Refusal}
    (h : view.Turns key (epoch + Duration.millis now) (c (epoch + Duration.millis now)) before
      (.error reason) after) :
    view.Turns key now (ask epoch read c) before (.error .command) after := by
  intro s hs
  obtain ⟨s', hrun, hexcept, hafter⟩ := h s hs
  refine ⟨s', ?_, hexcept, hafter⟩
  show (ask epoch read c).runAt now s = (.error .command, s')
  rw [ask, StoreAction.runAt_of]
  simp only [ServerAction.run, hrun]

end Ask

variable {key route name : String} {u : BucketUpdate} {d : Duration} {n : Int} {slot : Nat}

theorem turns_perform_take {taken wait : Int}
    (h : view.Turns (bucketKey key) (epoch + Duration.millis now)
      (takeToken execute (bucketKey key) (epoch + Duration.millis now : Nat) (millis pendingWait))
      before (.ok reply) after)
    (hread : reply.integers? = some (taken, wait)) :
    view.Turns (bucketKey key) now ((store execute epoch).perform (.take key)) before
      (.ok (.admission (admission taken wait))) after := by
  simp only [Store.perform, store]
  exact .bind (.bind (turns_ask h hread) (.pure _ _)) (.pure _ _)

theorem turns_record
    (h : view.Turns (bucketKey key) (epoch + Duration.millis now)
      (report execute (bucketKey key) u.limit u.remaining
        (Int.bmod ((epoch + Duration.millis now : Nat) + millis u.resetAfter) UInt64.size)
        (epoch + Duration.millis now : Nat) ((millis u.resetAfter + idleTime) % UInt64.size))
      before (.ok (.integer n)) after) :
    view.Turns (bucketKey key) now ((store execute epoch).record key u) before (.ok ()) after := by
  simp only [store]
  exact .bind (turns_ask h rfl) (.pure _ _)

theorem turns_record_error {reason : Refusal}
    (h : view.Turns (bucketKey key) (epoch + Duration.millis now)
      (report execute (bucketKey key) u.limit u.remaining
        (Int.bmod ((epoch + Duration.millis now : Nat) + millis u.resetAfter) UInt64.size)
        (epoch + Duration.millis now : Nat) ((millis u.resetAfter + idleTime) % UInt64.size))
      before (.error reason) after) :
    view.Turns (bucketKey key) now ((store execute epoch).record key u) before (.error .command)
      after := by
  simp only [store]
  exact .bind_error (turns_ask_error h)

theorem turns_perform_lockout
    (h : view.Turns lockoutKey (epoch + Duration.millis now)
      (ServerAction.command execute (.timeLeft lockoutKey)) before (.ok (.integer n)) after) :
    view.Turns lockoutKey now ((store execute epoch).perform .lockout) before
      (.ok (.lockedFor (if 0 < n then some (Duration.ofMillis n.toNat) else none))) after := by
  simp only [Store.perform, store]
  exact .bind (.bind (turns_ask h rfl) (.pure _ _)) (.pure _ _)

theorem turns_lockOut
    (h : view.Turns lockoutKey (epoch + Duration.millis now)
      (extend execute lockoutKey (max (millis d) 1)) before (.ok (.integer n)) after) :
    view.Turns lockoutKey now ((store execute epoch).lockOut d) before (.ok ()) after := by
  simp only [store]
  exact .bind (turns_ask h rfl) (.pure _ _)

theorem turns_lockOut_error {reason : Refusal}
    (h : view.Turns lockoutKey (epoch + Duration.millis now)
      (extend execute lockoutKey (max (millis d) 1)) before (.error reason) after) :
    view.Turns lockoutKey now ((store execute epoch).lockOut d) before (.error .command) after := by
  simp only [store]
  exact .bind_error (turns_ask_error h)

theorem turns_bucketOf {known : Option String}
    (h : view.Turns (nameKey route) (epoch + Duration.millis now)
      (ServerAction.command execute (.get (nameKey route))) before (.ok reply) after)
    (hread : reply.optionalText? = some known) :
    view.Turns (nameKey route) now ((store execute epoch).bucketOf route) before (.ok known)
      after := by
  simp only [store]
  exact turns_ask h hread

theorem turns_learnBucket
    (h : view.Turns (nameKey route) (epoch + Duration.millis now)
      (ServerAction.command execute (.set (nameKey route) name nameTime)) before
      (.ok (.status "OK")) after) :
    view.Turns (nameKey route) now ((store execute epoch).learnBucket route name) before (.ok ())
      after := by
  simp only [store]
  exact turns_ask h rfl

/-- A slot that is free is taken. -/
theorem turns_trySlot_of_free
    (h : view.Turns (slotKey slot) (epoch + Duration.millis now)
      (ServerAction.command execute (.setNew (slotKey slot) "1" (max (millis d) 1))) before
      (.ok (.status "OK")) after) :
    view.Turns (slotKey slot) now ((store execute epoch).trySlot slot d) before (.ok none)
      after := by
  simp only [store]
  exact .bind (turns_ask h rfl) (.pure _ _)

/-- Otherwise the time is asked for which it is still held. -/
theorem turns_trySlot_of_held {between : Option Entry}
    (h : view.Turns (slotKey slot) (epoch + Duration.millis now)
      (ServerAction.command execute (.setNew (slotKey slot) "1" (max (millis d) 1))) before
      (.ok .absent) between)
    (h' : view.Turns (slotKey slot) (epoch + Duration.millis now)
      (ServerAction.command execute (.timeLeft (slotKey slot))) between (.ok (.integer n)) after) :
    view.Turns (slotKey slot) now ((store execute epoch).trySlot slot d) before
      (.ok (some (slotWait n d))) after := by
  simp only [store]
  exact .bind (turns_ask h rfl) (.bind (turns_ask h' rfl) (.pure _ _))

end Operations

end SharedAccounts

end GatewayClient
