import GatewayClient.Proofs.RateLimit.Bucket

/-!
# The windows of the server

A server counts the requests to a bucket in windows of a fixed length. A response
tells how much of a window is left when it is made, and the client adds that to
the instant at which it comes. So a response that was under way for some time sets
a deadline that lies as much too late: usually within a later window. When the
client then starts a window by itself, the server has none to give.

* `FixedWindow`: a server with one bucket; `Dialogue`: a client and that server,
  with the responses that are under way.
* `Dialogue.IsReachable.admissions_le`: how many requests a window of the server may
  get, in terms of the deadlines that lie within it.
* `admissions_le_limit_iff`: no window gets too many requests exactly if all
  deadlines are ends of windows.
-/

namespace GatewayClient

/-- A server that counts the requests to a bucket in windows of a fixed length. -/
structure FixedWindow where
  /-- The tokens of a window. -/
  limit : Nat
  /-- The length of a window. -/
  length : Duration
  /-- How long the window at the start of the client's clock has been open. -/
  elapsed : Duration
  limit_pos : 0 < limit
  elapsed_lt : elapsed < length

namespace FixedWindow

variable (s : FixedWindow)

/-- The number of the window at an instant. -/
def windowAt (t : Instant) : Nat := (t + s.elapsed) / s.length

/-- How much of the window at an instant is left. -/
def left (t : Instant) : Duration := s.length - (t + s.elapsed) % s.length

/-- Whether a window ends at an instant, and the next one begins. -/
def isEnd (t : Instant) : Bool := (t + s.elapsed) % s.length = 0

/-- Whether an instant lies within a window, and not at its beginning. -/
def isWithin (k : Nat) (t : Instant) : Bool := s.windowAt t = k && !s.isEnd t

/-- The response to a request, where the window has received so many with it. -/
def respond (received : Nat) (t : Instant) : BucketUpdate :=
  ⟨s.limit, s.limit - received, s.left t⟩

end FixedWindow

/-- A client that uses a bucket of a server, and what is under way between them. -/
structure Dialogue where
  accounts : MemoryAccounts
  now : Instant
  /-- When requests were admitted, which is when the server receives them; the last
      first. -/
  admitted : List Instant
  /-- The responses that are under way. -/
  underWay : List BucketUpdate
  /-- When responses were entered and the deadlines that they set, the last first. -/
  delivered : List (Instant × Instant)

/-- What happens next between a client and a server. -/
inductive DialogueMove where
  /-- The client wants to send a request. -/
  | request
  /-- One of the responses under way comes. -/
  | deliver (i : Nat)
  /-- Time passes. -/
  | advance (d : Duration)

namespace Dialogue

variable (s : FixedWindow) (key : String)

/-- What the client knows of the bucket. -/
def bucket? (e : Dialogue) : Option Bucket := e.accounts.buckets.get? key

/-- The number of requests that were admitted within a window of the server. -/
def admissions (e : Dialogue) (k : Nat) : Nat := e.admitted.countP (s.windowAt · = k)

/-- The number of deadlines set so far that lie within a window of the server. -/
def deadlinesWithin (e : Dialogue) (k : Nat) : Nat := e.delivered.countP (s.isWithin k ·.2)

/-- One step, if the move is possible. -/
def step (e : Dialogue) : DialogueMove → Option Dialogue
  | .request =>
    let (answer, accounts) := e.accounts.take key e.now
    match answer with
    | .granted =>
      let admitted := e.now :: e.admitted
      let received := admitted.countP (s.windowAt · = s.windowAt e.now)
      some { e with accounts, admitted, underWay := e.underWay ++ [s.respond received e.now] }
    | .wait _ => some { e with accounts }
  | .deliver i => do
    let u ← e.underWay[i]?
    return { e with
      accounts := e.accounts.record key u e.now
      underWay := e.underWay.eraseIdx i
      delivered := ((Instant.after? e.now u.resetAfter).map (e.now, ·)).toList ++ e.delivered }
  | .advance d => some { e with now := e.now + d }

/-- The dialogues that some moves lead to, where the client knows nothing of the
    bucket at first. -/
inductive IsReachable : Dialogue → Prop
  | start (m : MemoryAccounts) (now : Instant) :
    m.buckets.get? key = none → IsReachable ⟨m, now, [], [], []⟩
  | step {e e' : Dialogue} (m : DialogueMove) :
    IsReachable e → e.step s key m = some e' → IsReachable e'

end Dialogue

namespace FixedWindow

variable (s : FixedWindow)

theorem length_pos : 0 < s.length := Nat.lt_of_le_of_lt (Nat.zero_le _) s.elapsed_lt

theorem left_pos (t : Instant) : 0 < s.left t :=
  Nat.sub_pos_of_lt (Nat.mod_lt _ s.length_pos)

theorem windowAt_mono {t t' : Instant} (h : t ≤ t') : s.windowAt t ≤ s.windowAt t' :=
  Nat.div_le_div_right (Nat.add_le_add_right h _)

/-- Before the end of a window it is not yet the next one. -/
theorem windowAt_lt_of_isEnd {t r : Instant} (hr : s.isEnd r) (h : t < r) :
    s.windowAt t < s.windowAt r := by
  have hmod : (r + s.elapsed) % s.length = 0 := by simpa [isEnd] using hr
  have hdiv : s.length * s.windowAt r = r + s.elapsed := by
    simpa [windowAt, hmod] using Nat.div_add_mod (r + s.elapsed) s.length
  show (t + s.elapsed) / s.length < s.windowAt r
  rw [Nat.div_lt_iff_lt_mul s.length_pos, Nat.mul_comm, hdiv]
  exact Nat.add_lt_add_right h _

/-- Just before the end of a window one nanosecond of it is left. -/
theorem left_of_isEnd_succ {t : Instant} (h : s.isEnd (t + 1)) : s.left t = 1 := by
  have hend : ((t + s.elapsed) % s.length + 1) % s.length = 0 := by
    rw [Nat.mod_add_mod, Nat.add_right_comm]
    simpa [isEnd] using h
  have hlt : (t + s.elapsed) % s.length < s.length := Nat.mod_lt _ s.length_pos
  have hlast : (t + s.elapsed) % s.length + 1 = s.length := by
    refine Nat.le_antisymm hlt (Nat.le_of_not_lt fun hlt' => ?_)
    rw [Nat.mod_eq_of_lt hlt'] at hend
    exact Nat.succ_ne_zero _ hend
  exact Nat.sub_eq_of_eq_add' hlast.symm

/-- A window begins before all instants within it. -/
theorem exists_isEnd {r : Instant} (hfirst : s.length ≤ r + s.elapsed) (hend : ¬ s.isEnd r) :
    ∃ t, s.isEnd (t + 1) ∧ t + 1 < r ∧ s.windowAt (t + 1) = s.windowAt r := by
  have hsum : s.length * s.windowAt r + (r + s.elapsed) % s.length = r + s.elapsed :=
    Nat.div_add_mod _ _
  have hwithin : 0 < (r + s.elapsed) % s.length := by
    simpa [isEnd, Nat.pos_iff_ne_zero] using hend
  have hbegin : s.elapsed < s.length * s.windowAt r :=
    Nat.lt_of_lt_of_le s.elapsed_lt
      (Nat.le_mul_of_pos_right _ (Nat.div_pos hfirst s.length_pos))
  -- It is not the window in which the clock started, so it begins after that.
  obtain ⟨t, ht⟩ := Nat.exists_eq_add_of_lt hbegin
  have ht' : t + 1 + s.elapsed = s.length * s.windowAt r := by
    rw [ht, Nat.add_comm, Nat.add_assoc]
  refine ⟨t, ?_, ?_, ?_⟩
  · simp [isEnd, ht']
  · refine Nat.lt_of_add_lt_add_right (n := s.elapsed) ?_
    rw [ht', ← hsum]
    exact Nat.lt_add_of_pos_right hwithin
  · rw [windowAt, ht', Nat.mul_div_cancel_left _ s.length_pos]

/-! ## What a bucket may still give in a window -/

/-- The tokens that a bucket may still give in a window of the server, without
    another response: those that it has, those of the window that the client starts
    at a deadline within it, and only the latter once the deadline is over. -/
def reserve (k : Nat) (now : Instant) (b : Bucket) : Nat :=
  if b.isOpen now then b.remaining + if b.resetAt.any (s.isWithin k) then s.limit else 0
  else s.limit

variable {s} {k : Nat} {now : Instant} {b : Bucket}

theorem reserve_of_isOpen (h : b.isOpen now) :
    s.reserve k now b = b.remaining + if b.resetAt.any (s.isWithin k) then s.limit else 0 :=
  if_pos h

theorem reserve_of_not_isOpen (h : ¬ b.isOpen now) : s.reserve k now b = s.limit := if_neg h

/-- A token that is taken comes out of the reserve. -/
theorem reserve_take (k : Nat) (now : Instant) (hb : b.limit = s.limit) :
    (decide ((b.take now).1 = .granted)).toNat + s.reserve k now (b.take now).2 ≤
      s.reserve k now b := by
  have hsum := b.take_add_remaining now
  by_cases h : b.isOpen now
  · have hopen : (b.take now).2.isOpen now := by
      rw [Bucket.take_snd, Bucket.refill_of_isOpen h]
      exact h
    have hreset : (b.take now).2.resetAt = b.resetAt := by
      rw [Bucket.take_snd, Bucket.refill_of_isOpen h]
    rw [if_pos h] at hsum
    rw [reserve_of_isOpen hopen, reserve_of_isOpen h, hreset]
    omega
  · -- The client starts a window, of which it does not know the end.
    have hreset : (b.take now).2.resetAt = none := by
      rw [Bucket.take_snd, Bucket.refill_of_not_isOpen h]
    have hopen : (b.take now).2.isOpen now := by simp [Bucket.isOpen, hreset]
    rw [if_neg h] at hsum
    rw [reserve_of_isOpen hopen, reserve_of_not_isOpen h, hreset]
    simp only [Option.any_none, Bool.false_eq_true, if_false]
    omega

/-- A bucket that the client does not overrate may give a window, and another one if
    its deadline lies within the window. -/
theorem reserve_le (k : Nat) (now : Instant) (hb : b.remaining ≤ s.limit) :
    s.reserve k now b ≤ s.limit + if b.resetAt.any (s.isWithin k) then s.limit else 0 := by
  by_cases h : b.isOpen now
  · rw [reserve_of_isOpen h]
    exact Nat.add_le_add_right hb _
  · rw [reserve_of_not_isOpen h]
    exact Nat.le_add_right _ _

/-- A response adds to the reserve only with a deadline within the window. -/
theorem reserve_reported (k : Nat) (now : Instant) (b : Bucket) {u : BucketUpdate}
    (hu : u.remaining ≤ s.limit) (hpos : 0 < u.resetAfter) :
    s.reserve k now (b.reported u now) ≤ s.reserve k now b +
      if (Instant.after? now u.resetAfter).any (s.isWithin k) then s.limit else 0 := by
  cases hafter : Instant.after? now u.resetAfter with
  | none =>
    -- The deadline stays as it was, and with it whether the window is open.
    have hreset : (b.reported u now).resetAt = b.resetAt := by simp [Bucket.reported, hafter]
    have hopen : (b.reported u now).isOpen now = b.isOpen now := by simp [Bucket.isOpen, hreset]
    by_cases h : b.isOpen now
    · rw [reserve_of_isOpen (hopen ▸ h), reserve_of_isOpen h, hreset]
      have := b.remainingAfter_le u now
      simp only [h, if_true] at this
      simp only [Bucket.reported]
      omega
    · rw [reserve_of_not_isOpen (hopen ▸ h), reserve_of_not_isOpen h]
      exact Nat.le_add_right _ _
  | some reset =>
    have hreset : (b.reported u now).resetAt = some reset := by simp [Bucket.reported, hafter]
    have hopen : (b.reported u now).isOpen now := by
      rw [Bucket.isOpen_iff]
      rintro r hr
      rw [hreset, Option.some_inj] at hr
      rw [← hr, Instant.after?_eq_some hafter]
      exact Nat.lt_add_of_pos_right hpos
    have hle := b.remainingAfter_le u now
    rw [reserve_of_isOpen hopen, hreset, Option.any_some]
    refine Nat.add_le_add_right ?_ _
    by_cases h : b.isOpen now
    · rw [reserve_of_isOpen h]
      simp only [h, if_true] at hle
      exact Nat.le_trans hle (Nat.le_add_right _ _)
    · rw [reserve_of_not_isOpen h]
      simp only [h] at hle
      exact Nat.le_trans hle hu

/-- With time the reserve does not grow, except that the window of the client may
    end before the server's begins. -/
theorem reserve_advance {d : Duration} (hk : s.windowAt (now + d) ≤ k) :
    s.reserve k (now + d) b ≤ s.reserve k now b ∨
      s.reserve k (now + d) b = s.limit ∧ s.windowAt now < k := by
  by_cases hlater : b.isOpen (now + d)
  · have hopen : b.isOpen now := by
      rw [Bucket.isOpen_iff] at hlater ⊢
      intro reset hr
      exact Nat.lt_of_le_of_lt (Nat.le_add_right _ _) (hlater reset hr)
    exact .inl (Nat.le_of_eq (by rw [reserve_of_isOpen hlater, reserve_of_isOpen hopen]))
  · rw [reserve_of_not_isOpen hlater]
    by_cases hopen : b.isOpen now
    · -- The deadline comes in between. Within the window it was paid for already.
      obtain ⟨reset, hr, hle⟩ : ∃ reset, b.resetAt = some reset ∧ reset ≤ now + d := by
        simpa [Bucket.isOpen_iff] using hlater
      have hlt := Bucket.isOpen_iff.1 hopen reset hr
      by_cases hin : s.isWithin k reset
      · refine .inl ?_
        rw [reserve_of_isOpen hopen, hr, Option.any_some, if_pos hin]
        exact Nat.le_add_left _ _
      · refine .inr ⟨rfl, ?_⟩
        have hwin := Nat.le_trans (s.windowAt_mono hle) hk
        rcases Nat.lt_or_eq_of_le hwin with hwin | hwin
        · exact Nat.lt_of_le_of_lt (s.windowAt_mono (Nat.le_of_lt hlt)) hwin
        · -- A deadline in the window and not within it is its beginning.
          have hend : s.isEnd reset := by simpa [isWithin, hwin] using hin
          exact hwin ▸ s.windowAt_lt_of_isEnd hend hlt
    · exact .inl (Nat.le_of_eq (by rw [reserve_of_not_isOpen hopen]))

end FixedWindow

namespace Dialogue

open FixedWindow

/-! ## What a window gets at most -/

variable {s : FixedWindow} {key : String} {e e' : Dialogue} {k : Nat}

/-- Whether a window of the server begins after a response was entered. -/
def IsInformed (s : FixedWindow) (e : Dialogue) (k : Nat) : Prop :=
  ∃ d ∈ e.delivered, s.windowAt d.1 < k

/-- The requests of a window and what the bucket may still give are within the limit
    and what the deadlines within the window add. -/
def IsWithinBudget (s : FixedWindow) (key : String) (e : Dialogue) (k : Nat) : Prop :=
  ∃ b, e.bucket? key = some b ∧
    e.admissions s k + s.reserve k e.now b ≤ s.limit * (1 + e.deadlinesWithin s k)

/-- A request is admitted or not, and changes nothing but the bucket if it is not. -/
theorem step_request (he : e.step s key .request = some e') :
    e'.now = e.now ∧ e'.delivered = e.delivered ∧
      e'.bucket? key = (e.bucket? key).map (fun b => (b.take e.now).2) ∧
      ((e.accounts.take key e.now).1 = .granted ∧ e'.admitted = e.now :: e.admitted ∧
          (∃ n, e'.underWay = e.underWay ++ [s.respond n e.now]) ∨
        (e.accounts.take key e.now).1 ≠ .granted ∧ e'.admitted = e.admitted ∧
          e'.underWay = e.underWay) := by
  have hbucket : (e.accounts.take key e.now).2.buckets.get? key =
      (e.bucket? key).map (fun b => (b.take e.now).2) := by
    rw [MemoryAccounts.get?_buckets_take, StoreCall.bucketAfter, if_pos rfl, bucket?]
  simp only [step] at he
  split at he
  · cases he
    exact ⟨rfl, rfl, hbucket, .inl ⟨‹_›, rfl, _, rfl⟩⟩
  · cases he
    exact ⟨rfl, rfl, hbucket, .inr ⟨by simp [*], rfl, rfl⟩⟩

/-- A response that comes is entered, and its deadline with it if there is one. -/
theorem step_deliver {i : Nat} (he : e.step s key (.deliver i) = some e') :
    ∃ u, e.underWay[i]? = some u ∧ e'.now = e.now ∧ e'.admitted = e.admitted ∧
      e'.underWay = e.underWay.eraseIdx i ∧
      e'.bucket? key = (StoreCall.record key u).bucketAfter key e.now (e.bucket? key) ∧
      e'.delivered =
        ((Instant.after? e.now u.resetAfter).map (e.now, ·)).toList ++ e.delivered := by
  simp only [step] at he
  obtain ⟨u, hu, he⟩ := Option.bind_eq_some_iff.1 he
  cases he
  exact ⟨u, hu, rfl, rfl, rfl, MemoryAccounts.get?_buckets_record key u key, rfl⟩

/-- The token of a request comes out of the reserve of any window that it counts in. -/
theorem IsWithinBudget.request (h : IsWithinBudget s key e k)
    (hlimit : ∀ b, e.bucket? key = some b → b.limit = s.limit)
    (he : e.step s key .request = some e') : IsWithinBudget s key e' k := by
  obtain ⟨hnow, hdelivered, hbucket, hcases⟩ := step_request he
  obtain ⟨b, hb, hle⟩ := h
  have htake := reserve_take k e.now (hlimit b hb)
  have hanswer : (e.accounts.take key e.now).1 = (b.take e.now).1 := by
    rw [bucket?] at hb
    simp only [MemoryAccounts.take, hb]
  refine ⟨(b.take e.now).2, by rw [hbucket, hb, Option.map_some], ?_⟩
  rw [hnow, deadlinesWithin, hdelivered]
  refine Nat.le_trans ?_ hle
  -- Even if the request counts in another window, its token is gone for this one.
  rcases hcases with ⟨hgranted, hadmitted, -⟩ | ⟨hgranted, hadmitted, -⟩
  · rw [hanswer] at hgranted
    simp only [hgranted, decide_true, Bool.toNat_true] at htake
    simp only [admissions, hadmitted, List.countP_cons]
    split <;> omega
  · simp only [admissions, hadmitted]
    exact Nat.add_le_add_left (Nat.le_trans (Nat.le_add_left _ _) htake) _

/-- A deadline that a response sets counts among those within its window. -/
theorem limit_mul_deadlinesWithin_deliver {u : BucketUpdate} (hdelivered : e'.delivered =
      ((Instant.after? e.now u.resetAfter).map (e.now, ·)).toList ++ e.delivered) :
    s.limit * (1 + e'.deadlinesWithin s k) = s.limit * (1 + e.deadlinesWithin s k) +
      if (Instant.after? e.now u.resetAfter).any (s.isWithin k) then s.limit else 0 := by
  rw [deadlinesWithin, hdelivered, List.countP_append, deadlinesWithin]
  cases Instant.after? e.now u.resetAfter with
  | none => simp
  | some reset =>
    simp only [Option.map_some, Option.toList_some, List.countP_singleton, Option.any_some]
    split
    · simp only [Nat.mul_add, Nat.mul_one]
      omega
    · simp

/-- What a response adds to the reserve, its deadline adds to the budget. -/
theorem IsWithinBudget.deliver {i : Nat} (h : IsWithinBudget s key e k)
    (hunder : ∀ u ∈ e.underWay, u.remaining ≤ s.limit ∧ 0 < u.resetAfter)
    (he : e.step s key (.deliver i) = some e') : IsWithinBudget s key e' k := by
  obtain ⟨u, hu, hnow, hadmitted, -, hbucket, hdelivered⟩ := step_deliver he
  obtain ⟨hremaining, hpos⟩ := hunder u (List.mem_of_getElem? hu)
  obtain ⟨b, hb, hle⟩ := h
  have hreported := reserve_reported k e.now b hremaining hpos
  refine ⟨b.reported u e.now, by simp [hbucket, hb, StoreCall.bucketAfter], ?_⟩
  rw [limit_mul_deadlinesWithin_deliver hdelivered, hnow, admissions, hadmitted]
  rw [admissions] at hle
  omega

/-- What holds of a reachable dialogue. -/
structure Sound (s : FixedWindow) (key : String) (e : Dialogue) : Prop where
  /-- The responses under way are those of the server. -/
  underWay : ∀ u ∈ e.underWay, u.limit = s.limit ∧ u.remaining ≤ s.limit ∧ 0 < u.resetAfter
  /-- What the client knows, it knows from the server. -/
  limit : ∀ b, e.bucket? key = some b → b.limit = s.limit
  /-- Requests were admitted in the past. -/
  admitted : ∀ t ∈ e.admitted, t ≤ e.now
  /-- Deadlines are not beyond the clock. -/
  delivered : ∀ d ∈ e.delivered, d.2 < Instant.limit
  /-- A window that begins after a response is within its budget until it is over. -/
  budget : ∀ k, IsInformed s e k → s.windowAt e.now ≤ k → IsWithinBudget s key e k
  /-- When it is over, its requests still are. -/
  admissions_le : ∀ k, IsInformed s e k →
    e.admissions s k ≤ s.limit * (1 + e.deadlinesWithin s k)

/-- No requests were admitted in a window yet to come. -/
theorem Sound.admissions_eq_zero (h : Sound s key e) (hk : s.windowAt e.now < k) :
    e.admissions s k = 0 := by
  refine List.countP_eq_zero.2 fun t ht => ?_
  have := s.windowAt_mono (h.admitted t ht)
  simp only [decide_eq_true_eq]
  omega

theorem Sound.request (h : Sound s key e) (he : e.step s key .request = some e') :
    Sound s key e' := by
  obtain ⟨hnow, hdelivered, hbucket, hcases⟩ := step_request he
  refine ⟨?_, ?_, ?_, ?_, ?_, ?_⟩
  · rcases hcases with ⟨-, -, n, hunder⟩ | ⟨-, -, hunder⟩
    · rw [hunder]
      intro u hu
      rcases List.mem_append.1 hu with hu | hu
      · exact h.underWay u hu
      · rw [List.mem_singleton.1 hu]
        exact ⟨rfl, Nat.sub_le _ _, s.left_pos _⟩
    · exact hunder ▸ h.underWay
  · intro b' hb'
    rw [hbucket] at hb'
    obtain ⟨b, hb, rfl⟩ := Option.map_eq_some_iff.1 hb'
    rw [b.take_limit]
    exact h.limit b hb
  · rw [hnow]
    rcases hcases with ⟨-, hadmitted, -⟩ | ⟨-, hadmitted, -⟩
    · rw [hadmitted]
      exact List.forall_mem_cons.2 ⟨Nat.le_refl _, h.admitted⟩
    · exact hadmitted ▸ h.admitted
  · exact hdelivered ▸ h.delivered
  · intro k hinformed hk
    rw [IsInformed, hdelivered] at hinformed
    exact (h.budget k hinformed (hnow ▸ hk)).request h.limit he
  · intro k hinformed
    rw [IsInformed, hdelivered] at hinformed
    by_cases hk : s.windowAt e.now ≤ k
    · obtain ⟨b, -, hle⟩ := (h.budget k hinformed hk).request h.limit he
      exact Nat.le_trans (Nat.le_add_right _ _) hle
    · -- The window is over, and the request does not count in it.
      have hwithin : e'.deadlinesWithin s k = e.deadlinesWithin s k := by
        simp only [deadlinesWithin, hdelivered]
      refine Nat.le_trans (Nat.le_of_eq ?_) (hwithin ▸ h.admissions_le k hinformed)
      rcases hcases with ⟨-, hadmitted, -⟩ | ⟨-, hadmitted, -⟩
      · rw [Dialogue.admissions, hadmitted,
          List.countP_cons_of_neg (by simp only [decide_eq_true_eq]; omega)]
        rfl
      · rw [Dialogue.admissions, hadmitted]
        rfl

/-- The first response that comes before a window leaves it a budget: the client has
    not admitted requests in it and knows one deadline. -/
theorem Sound.isWithinBudget_first {i : Nat} (h : Sound s key e)
    (he : e.step s key (.deliver i) = some e') (hold : ¬ IsInformed s e k)
    (hinformed : IsInformed s e' k) : IsWithinBudget s key e' k := by
  obtain ⟨u, hu, hnow, hadmitted, -, hbucket, hdelivered⟩ := step_deliver he
  obtain ⟨-, hremaining, hpos⟩ := h.underWay u (List.mem_of_getElem? hu)
  have hmul := limit_mul_deadlinesWithin_deliver (s := s) (k := k) hdelivered
  obtain ⟨d, hd, hdk⟩ := hinformed
  rw [hdelivered] at hd
  cases hafter : Instant.after? e.now u.resetAfter with
  | none => exact absurd ⟨d, by simpa [hafter] using hd, hdk⟩ hold
  | some reset =>
    have hk : s.windowAt e.now < k := by
      rcases List.mem_append.1 hd with hd | hd
      · simp only [hafter, Option.map_some, Option.toList_some, List.mem_singleton] at hd
        rw [hd] at hdk
        exact hdk
      · exact absurd ⟨d, hd, hdk⟩ hold
    obtain ⟨b, hb, hreset, hrem⟩ : ∃ b, e'.bucket? key = some b ∧ b.resetAt = some reset ∧
        b.remaining ≤ s.limit := by
      rw [hbucket, StoreCall.bucketAfter, if_pos rfl]
      cases e.bucket? key with
      | none => exact ⟨⟨u.limit, u.remaining, some reset⟩, by simp [Bucket.ofUpdate?, hafter], rfl,
          hremaining⟩
      | some b => exact ⟨b.reported u e.now, rfl, by simp [Bucket.reported, hafter],
          Nat.le_trans (b.remainingAfter_le_report u e.now) hremaining⟩
    have hres := reserve_le k e.now hrem
    rw [hreset] at hres
    refine ⟨b, hb, ?_⟩
    rw [hmul, hafter, hnow, admissions, hadmitted, ← admissions, h.admissions_eq_zero hk,
      Nat.zero_add]
    exact Nat.le_trans hres (Nat.add_le_add_right
      (Nat.le_mul_of_pos_right _ (Nat.add_pos_left Nat.one_pos _)) _)

theorem Sound.deliver {i : Nat} (h : Sound s key e) (he : e.step s key (.deliver i) = some e') :
    Sound s key e' := by
  obtain ⟨u, hu, hnow, hadmitted, hunder, hbucket, hdelivered⟩ := step_deliver he
  obtain ⟨hlimit, -, -⟩ := h.underWay u (List.mem_of_getElem? hu)
  have hbudget : ∀ k, IsInformed s e' k → s.windowAt e.now ≤ k → IsWithinBudget s key e' k := by
    intro k hinformed hk
    by_cases hold : IsInformed s e k
    · exact (h.budget k hold hk).deliver (fun u hu => (h.underWay u hu).2) he
    · exact h.isWithinBudget_first he hold hinformed
  refine ⟨fun u' hu' => h.underWay u' (List.mem_of_mem_eraseIdx (hunder ▸ hu')), ?_, ?_, ?_, ?_, ?_⟩
  · intro b' hb'
    rw [hbucket, StoreCall.bucketAfter, if_pos rfl] at hb'
    cases hb : e.bucket? key with
    | none =>
      rw [hb] at hb'
      obtain ⟨reset, -, rfl⟩ := Option.map_eq_some_iff.1 hb'
      exact hlimit
    | some b =>
      rw [hb] at hb'
      cases hb'
      exact hlimit
  · rw [hnow, hadmitted]
    exact h.admitted
  · rw [hdelivered]
    intro d hd
    rcases List.mem_append.1 hd with hd | hd
    · obtain ⟨reset, hafter, rfl⟩ := Option.map_eq_some_iff.1 (Option.mem_toList.1 hd)
      exact Instant.after?_lt_limit hafter
    · exact h.delivered d hd
  · intro k hinformed hk
    exact hbudget k hinformed (hnow ▸ hk)
  · intro k hinformed
    by_cases hk : s.windowAt e.now ≤ k
    · obtain ⟨b, -, hle⟩ := hbudget k hinformed hk
      exact Nat.le_trans (Nat.le_add_right _ _) hle
    · -- The window is over, so that the response is not the first one before it.
      have hold : IsInformed s e k := by
        obtain ⟨d, hd, hdk⟩ := hinformed
        rw [hdelivered] at hd
        rcases List.mem_append.1 hd with hd | hd
        · obtain ⟨reset, -, rfl⟩ := Option.map_eq_some_iff.1 (Option.mem_toList.1 hd)
          exact absurd (Nat.le_of_lt hdk) hk
        · exact ⟨d, hd, hdk⟩
      rw [limit_mul_deadlinesWithin_deliver hdelivered, Dialogue.admissions, hadmitted]
      exact Nat.le_trans (h.admissions_le k hold) (Nat.le_add_right _ _)

theorem Sound.advance {d : Duration} (h : Sound s key e)
    (he : e.step s key (.advance d) = some e') : Sound s key e' := by
  cases he
  have hzero : ∀ k, s.windowAt e.now < k → e.admissions s k = 0 := fun k => h.admissions_eq_zero
  refine ⟨h.underWay, h.limit, fun t ht => Nat.le_trans (h.admitted t ht) (Nat.le_add_right _ _),
    h.delivered, fun k hinformed hk => ?_, h.admissions_le⟩
  have hnow := Nat.le_trans (s.windowAt_mono (Nat.le_add_right e.now d)) hk
  obtain ⟨b, hb, hle⟩ := h.budget k hinformed hnow
  refine ⟨b, hb, ?_⟩
  rcases reserve_advance (b := b) hk with hres | ⟨hres, hlt⟩
  · exact Nat.le_trans (Nat.add_le_add_left hres _) hle
  · -- The client starts a window before the server does; nothing of that one is spent.
    rw [show Dialogue.admissions s { e with now := e.now + d } k = 0 from hzero k hlt, hres,
      Nat.zero_add]
    exact Nat.le_mul_of_pos_right _ (Nat.add_pos_left Nat.one_pos _)

/-- The run lemma. -/
theorem IsReachable.sound (h : IsReachable s key e) : Sound s key e := by
  induction h with
  | start m now hm =>
    exact ⟨by simp, by simp [bucket?, hm], by simp, by simp, by simp [IsInformed],
      by simp [IsInformed]⟩
  | step m _ hstep ih =>
    cases m with
    | request => exact ih.request hstep
    | deliver i => exact ih.deliver hstep
    | advance d => exact ih.advance hstep

/-- The requests of a window that begins after a response are at most the limit, and
    once more the limit for each deadline that lies within the window. -/
theorem IsReachable.admissions_le (h : IsReachable s key e) (hk : IsInformed s e k) :
    e.admissions s k ≤ s.limit * (1 + e.deadlinesWithin s k) :=
  h.sound.admissions_le k hk

/-! ## A window that gets too many -/

/-- Where there are tokens, a request takes one. -/
theorem exists_step_request {b : Bucket} (hb : e.bucket? key = some b)
    (h : 0 < (b.refill e.now).remaining) :
    ∃ e', e.step s key .request = some e' ∧ e'.now = e.now ∧ e'.delivered = e.delivered ∧
      (∃ us, e'.underWay = e.underWay ++ us) ∧
      e'.admissions s (s.windowAt e.now) = e.admissions s (s.windowAt e.now) + 1 ∧
      e'.bucket? key =
        some { b.refill e.now with remaining := (b.refill e.now).remaining - 1 } := by
  have htake : (e.accounts.take key e.now).1 = .granted := by
    rw [bucket?] at hb
    simpa only [MemoryAccounts.take, hb, Bucket.take_fst_eq_granted_iff] using h
  obtain ⟨e', he⟩ : ∃ e', e.step s key .request = some e' := by
    simp only [step, htake, Option.some.injEq, exists_eq']
  obtain ⟨hnow, hdelivered, hbucket, hcases⟩ := step_request he
  rcases hcases with ⟨-, hadmitted, n, hunder⟩ | ⟨hwait, -⟩
  · refine ⟨e', he, hnow, hdelivered, ⟨_, hunder⟩, ?_, ?_⟩
    · rw [admissions, hadmitted, List.countP_cons_of_pos (by simp), admissions]
    · rw [hbucket, hb, Option.map_some, Bucket.take_snd]
  · exact absurd htake hwait

/-- So do several in a row. -/
theorem IsReachable.requests {b : Bucket} (he : IsReachable s key e)
    (hb : e.bucket? key = some b) (n : Nat) (h : n < (b.refill e.now).remaining) :
    ∃ e', IsReachable s key e' ∧ e'.now = e.now ∧ e'.delivered = e.delivered ∧
      (∃ us, e'.underWay = e.underWay ++ us) ∧
      e'.admissions s (s.windowAt e.now) = e.admissions s (s.windowAt e.now) + (n + 1) ∧
      e'.bucket? key =
        some { b.refill e.now with remaining := (b.refill e.now).remaining - (n + 1) } := by
  induction n with
  | zero =>
    obtain ⟨e', hstep, hrest⟩ := exists_step_request (s := s) hb h
    exact ⟨e', he.step _ hstep, hrest⟩
  | succ n ih =>
    obtain ⟨e₁, he₁, hnow₁, hdelivered₁, ⟨us₁, hunder₁⟩, hadm₁, hb₁⟩ := ih (Nat.lt_of_succ_lt h)
    -- The first request has opened the window, so the next ones find it open.
    have hrefill : ∀ r, Bucket.refill { b.refill e.now with remaining := r } e.now =
        { b.refill e.now with remaining := r } :=
      fun r => Bucket.refill_of_isOpen (b.isOpen_refill e.now)
    obtain ⟨e₂, hstep, hnow₂, hdelivered₂, ⟨us₂, hunder₂⟩, hadm₂, hb₂⟩ :=
      exists_step_request (s := s) hb₁ (by rw [hnow₁, hrefill]; exact Nat.sub_pos_of_lt h)
    rw [hnow₁] at hadm₂ hb₂
    refine ⟨e₂, he₁.step _ hstep, hnow₂.trans hnow₁, hdelivered₂.trans hdelivered₁, ?_, ?_, ?_⟩
    · exact ⟨us₁ ++ us₂, by rw [hunder₂, hunder₁, List.append_assoc]⟩
    · rw [hadm₂, hadm₁, Nat.add_assoc]
    · rw [hb₂, hrefill, Nat.sub_sub]

/-- A response that comes makes the client start a window at its deadline, whatever
    it tells of the tokens that are left. -/
theorem IsReachable.restart {u : BucketUpdate} {us : List BucketUpdate} (he : IsReachable s key e)
    (hu : e.underWay = u :: us) (h : e.now + u.resetAfter < Instant.limit) :
    ∃ e', IsReachable s key e' ∧ e'.now = e.now + u.resetAfter ∧
      e'.delivered = (e.now, e.now + u.resetAfter) :: e.delivered ∧ e'.underWay = us ∧
      e'.admitted = e.admitted ∧
      ∃ b, e'.bucket? key = some b ∧ b.refill e'.now = ⟨u.limit, u.limit, none⟩ := by
  obtain ⟨e', he'⟩ : ∃ e', e.step s key (.deliver 0) = some e' := by simp [Dialogue.step, hu]
  obtain ⟨u', hu', hnow, hadmitted, hunder, hbucket, hdelivered⟩ := step_deliver he'
  obtain rfl : u = u' := by simpa [hu] using hu'
  have hafter : Instant.after? e.now u.resetAfter = some (e.now + u.resetAfter) := if_pos h
  obtain ⟨b, hb, hlimit, hreset⟩ : ∃ b, e'.bucket? key = some b ∧ b.limit = u.limit ∧
      b.resetAt = some (e.now + u.resetAfter) := by
    rw [hbucket, StoreCall.bucketAfter, if_pos rfl]
    cases e.bucket? key with
    | none => exact ⟨⟨u.limit, u.remaining, some (e.now + u.resetAfter)⟩,
        by rw [Option.elim_none, Bucket.ofUpdate?, hafter, Option.map_some], rfl, rfl⟩
    | some b => exact ⟨b.reported u e.now, rfl, rfl, by simp [Bucket.reported, hafter]⟩
  refine ⟨{ e' with now := e'.now + u.resetAfter },
    (he.step _ he').step (.advance u.resetAfter) rfl, by rw [hnow], ?_, ?_, hadmitted, b, hb, ?_⟩
  · rw [hdelivered, hafter]
    rfl
  · rw [hunder, hu]
    rfl
  · rw [hnow, Bucket.refill_of_not_isOpen (by simp [Bucket.isOpen, hreset]), hlimit]

/-- A response that was under way until just before an instant within a window makes
    the client start that window twice. -/
theorem exists_limit_lt_admissions (s : FixedWindow) (key : String) {r : Instant}
    (hr : r < Instant.limit) (hfirst : s.length ≤ r + s.elapsed) (hend : ¬ s.isEnd r) :
    ∃ e, IsReachable s key e ∧ (∀ d ∈ e.delivered, s.isEnd d.2 ∨ d.2 = r) ∧
      IsInformed s e (s.windowAt r) ∧ s.limit < e.admissions s (s.windowAt r) := by
  obtain ⟨t, ht, htr, hk⟩ := s.exists_isEnd hfirst hend
  have hleft : s.left t = 1 := s.left_of_isEnd_succ ht
  have hlt : s.windowAt t < s.windowAt r := hk ▸ s.windowAt_lt_of_isEnd ht (Nat.lt_succ_self t)
  -- Two requests just before the window begins, whose responses tell of that.
  obtain ⟨e₁, he₁, hnow₁, hadmitted₁, hdelivered₁, u₁, u₂, hunder₁, hu₁, hu₂⟩ :
      ∃ e, IsReachable s key e ∧ e.now = t ∧ e.admitted = [t, t] ∧ e.delivered = [] ∧
        ∃ u u', e.underWay = [u, u'] ∧ (u.limit = s.limit ∧ u.resetAfter = 1) ∧
          u'.limit = s.limit ∧ u'.resetAfter = 1 :=
    ⟨_, ((IsReachable.start .empty t rfl).step .request rfl).step .request rfl, rfl, rfl, rfl,
      _, _, rfl, ⟨rfl, hleft⟩, rfl, hleft⟩
  obtain ⟨e₂, he₂, hnow₂, hdelivered₂, hunder₂, hadmitted₂, b₂, hb₂, hrefill₂⟩ :=
    he₁.restart hunder₁ (by rw [hnow₁, hu₁.2]; exact Nat.lt_trans htr hr)
  rw [hnow₁, hu₁.2] at hnow₂ hdelivered₂
  rw [hdelivered₁] at hdelivered₂
  rw [hu₁.1] at hrefill₂
  -- The client gives all tokens of the window when it begins.
  have hlimit := s.limit_pos
  obtain ⟨e₃, he₃, hnow₃, hdelivered₃, ⟨us₃, hunder₃⟩, hadm₃, -⟩ :=
    he₂.requests hb₂ (s.limit - 1) (by rw [hrefill₂]; exact Nat.sub_lt hlimit Nat.one_pos)
  rw [hnow₂, hk] at hadm₃
  -- The other response comes within the window, and makes it begin again.
  obtain ⟨d, hd⟩ := Nat.exists_eq_add_of_lt htr
  obtain ⟨e₄, he₄, hnow₄, hdelivered₄, -, hadmitted₄, b₄, hb₄, hrefill₄⟩ :=
    (he₃.step (.advance d) rfl).restart (hunder₃.trans (by rw [hunder₂, List.singleton_append]))
      (by simp only [hnow₃, hnow₂, hu₂.2, ← hd]; exact hr)
  simp only [hnow₃, hnow₂, hu₂.2, hdelivered₃, hdelivered₂, ← hd] at hnow₄ hdelivered₄
  obtain ⟨e₅, he₅, -, hdelivered₅, -, hadm₅, -⟩ :=
    he₄.requests hb₄ 0 (by rw [hrefill₄, hu₂.1]; exact hlimit)
  rw [hnow₄] at hadm₅
  refine ⟨e₅, he₅, ?_, ?_, ?_⟩
  · simp [hdelivered₅, hdelivered₄, ht]
  · exact ⟨(t, t + 1), by simp [hdelivered₅, hdelivered₄], hlt⟩
  · rw [hadm₅, admissions, hadmitted₄]
    rw [admissions] at hadm₃
    simp only
    omega

end Dialogue

open Dialogue FixedWindow in
/-- When a client keeps to the limit. Say that the deadlines that it sets are ends of
    windows, as those of responses that come at once, or certain other instants. Then
    every window that begins after a response gets at most the limit, whatever
    requests there are and in which order responses come, exactly if the other
    instants that can be deadlines in such a window are ends of windows too. -/
theorem admissions_le_limit_iff (s : FixedWindow) (key : String) (late : Instant → Prop) :
    (∀ e, IsReachable s key e → (∀ d ∈ e.delivered, s.isEnd d.2 ∨ late d.2) →
        ∀ k, IsInformed s e k → e.admissions s k ≤ s.limit) ↔
      ∀ r, late r → r < Instant.limit → s.length ≤ r + s.elapsed → s.isEnd r := by
  constructor
  · intro h r hlate hr hfirst
    refine Decidable.byContradiction fun hend => ?_
    obtain ⟨e, he, hdelivered, hinformed, hlt⟩ := exists_limit_lt_admissions s key hr hfirst hend
    refine Nat.not_lt.2 (h e he (fun d hd => ?_) _ hinformed) hlt
    rcases hdelivered d hd with hd | rfl
    · exact .inl hd
    · exact .inr hlate
  · intro h e he hdelivered k hinformed
    have hle := he.admissions_le hinformed
    suffices hzero : e.deadlinesWithin s k = 0 by simpa [hzero] using hle
    -- A deadline within the window would have to be one of the other instants.
    refine List.countP_eq_zero.2 fun d hd hwithin => ?_
    obtain ⟨hk, hend⟩ : s.windowAt d.2 = k ∧ ¬ s.isEnd d.2 := by simpa [isWithin] using hwithin
    obtain ⟨d₀, -, hk₀⟩ := hinformed
    have hfirst : s.length ≤ d.2 + s.elapsed :=
      (Nat.div_pos_iff.1 (Nat.lt_of_le_of_lt (Nat.zero_le _) (hk ▸ hk₀))).2
    rcases hdelivered d hd with hd' | hlate
    · exact hend hd'
    · exact hend (h d.2 hlate (he.sound.delivered d hd) hfirst)

/-- A server that allows one request a second. -/
def FixedWindow.perSecond : FixedWindow := ⟨1, .ofSeconds 1, 0, by decide, by decide⟩

open Dialogue Duration in
/-- A server that allows one request a second gets two in its second window. Both
    requests of its first window are sent 1 ms before the end, since nothing is known
    of the bucket yet. One response comes at once. The other one is under way for
    501 ms and still tells of 1 ms, after which the client believes that a window
    begins. -/
theorem two_admissions_perSecond :
    ∃ e, IsReachable .perSecond "b" e ∧
      e.delivered = [(ofMillis 1500, ofMillis 1501), (ofMillis 999, ofMillis 1000)] ∧
      IsInformed .perSecond e 1 ∧ FixedWindow.perSecond.limit < e.admissions .perSecond 1 := by
  have h₀ : IsReachable .perSecond "b" ⟨.empty, ofMillis 999, [], [], []⟩ := .start _ _ rfl
  have h₁ := (h₀.step .request rfl).step .request rfl
  have h₂ := (h₁.step (.deliver 0) rfl).step (.advance (ofMillis 1)) rfl
  have h₃ := (h₂.step .request rfl).step (.advance (ofMillis 500)) rfl
  have h₄ := (h₃.step (.deliver 0) rfl).step (.advance (ofMillis 1)) rfl
  exact ⟨_, h₄.step .request rfl, rfl, ⟨_, .tail _ (.head _), by decide⟩, by decide⟩

end GatewayClient
