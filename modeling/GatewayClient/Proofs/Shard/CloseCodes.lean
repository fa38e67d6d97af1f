import GatewayClient.Proofs.Shard.History
import GatewayClient.Proofs.Shard.Survival

/-!
# Close codes

When the gateway closes a connection, its code says whether the session is void and whether
it makes sense to connect again. The reader of a connection honours that. While a shard waits
for the greeting, a close is a failure like any other: the session stays, and the shard tries
again whatever the code.

* `Task.closing?`: where the gateway's close is read.
* `System.ComesTo`: what comes of a task while nothing else gets in its way.
* `Task.outlook?`: what will come of it; `Task.Goes.outlook`: no step changes that.
* `System.isHonoured_iff`: when a close code is honoured.
-/

namespace GatewayClient

variable {Listener : Type}

/-- Nothing is known of a session that could be resumed. -/
def Session.IsVoid (s : Session) : Prop := s.id = .none ∧ s.sequence = .none

/-- After a close the session is void if it was, or if the code says so. -/
theorem Session.isVoid_afterClose_iff (s : Session) (code : Nat) :
    (s.afterClose code).IsVoid ↔ s.IsVoid ∨ code ∈ [1000, 1001, 4007] := by
  rw [← CloseCode.codeClears_iff, afterClose]
  split
  · rename_i hclears
    exact iff_of_true ⟨rfl, rfl⟩ (.inr hclears)
  · rename_i hkeeps
    exact ⟨.inl, fun h => h.resolve_right hkeeps⟩

theorem CloseCode.codeIsFatal_iff {code : Nat} :
    codeIsFatal code ↔ code ∈ [4004, 4010, 4011, 4012, 4013, 4014] := by
  constructor
  · intro h
    obtain ⟨c, hc, hfatal⟩ := (Option.any_eq_true _ _).1 h
    have hcode : c.code = code := by simpa using List.find?_some hc
    rw [← hcode]
    cases c <;> first | decide | cases hfatal
  · intro h
    simp only [List.mem_cons, List.not_mem_nil, or_false] at h
    rcases h with rfl | rfl | rfl | rfl | rfl | rfl <;> decide

/-- Whether a shard that has lost its connection, perhaps by a close code, connects again. -/
def Shard.retries (s : Shard) (code : Option Nat) : Bool :=
  s.wantsReconnect && !code.any CloseCode.codeIsFatal

namespace Task

/-- How a task reads that the gateway closes the connection with a code: as the first thing
    that comes, in an attempt to connect that the shard makes by itself, or as the reader of
    the connection that the shard has. -/
def closing? (s : Shard) (code : Nat) : Task → Option Input
  | .connecting .application _ => none
  | .connecting _ (.greet _) => some (.greeting (.closed (some code)))
  | .reading generation _ =>
    if s.generation = generation then some (.inbound (.closed (some code))) else none
  | _ => none

/-- Whether a task reads what comes on a connection that was established. -/
def isReader : Task → Bool
  | .reading _ _ => true
  | _ => false

/-- Whether a task is an attempt to connect that a loop is about to make. -/
def isNewAttempt : Task → Bool
  | .connecting (.background _) .start => true
  | _ => false

/-- What will come of a task that handles a loss or a failure: the session in the end, and
    whether a loop attempts to connect. -/
def outlook? (s : Shard) : Task → Option (Session × Bool)
  | .losing generation code =>
    if s.generation = generation then some ((s.voidSession code).session, s.retries code) else none
  | .voiding code => some ((s.voidSession code).session, s.retries code)
  | .tearingDown _ _ (.decide code) => some (s.session, s.retries code)
  | .deciding code => some (s.session, s.retries code)
  | .connecting .starting .fail => some (s.session, s.retries none)
  | .connecting (.background _) .fail => some (s.session, !s.isShutDown)
  | .asleep _ _ => some (s.session, !s.isShutDown)
  | .retrying _ => some (s.session, !s.isShutDown)
  | .connecting (.background _) .start => some (s.session, true)
  | _ => none

/-- How many steps such a task takes at most until it ends or is such an attempt. -/
def remaining : Task → Nat
  | .losing _ _ => 10
  | .voiding _ => 9
  | .tearingDown _ .stop _ => 8
  | .tearingDown _ .mark _ => 7
  | .tearingDown _ .sink _ => 6
  | .tearingDown _ (.deliver _) _ => 5
  | .tearingDown _ .finish _ => 4
  | .connecting _ .fail => 4
  | .deciding _ => 3
  | .asleep _ _ => 2
  | .retrying _ => 1
  | _ => 0

/-- When a task goes on at the earliest. -/
def earliest : Task → Instant
  | .asleep _ wake => wake
  | _ => 0

variable {s s' : Shard} {bus : Bus Listener} {fresh : Connection} {stopped : List Connection}
  {now : Instant} {input : Input} {t : Task} {r : Step Listener} {o : Session × Bool}

/-- Nothing has changed of what matters to such a task: not the session, not whether the shard
    was shut down, and not what tells whether a loss is news. -/
structure IsSpared (t : Task) (s s' : Shard) : Prop where
  session : s'.session = s.session
  isShutDown : s'.isShutDown = s.isShutDown
  generation : ∀ generation code, t = .losing generation code → s'.generation = s.generation

theorem IsSpared.outlook (h : t.IsSpared s s') (hidentity : s'.identity = s.identity) :
    t.outlook? s' = t.outlook? s := by
  obtain ⟨hsession, hshut, hgeneration⟩ := h
  obtain ⟨-, hconfig⟩ := Prod.mk.inj hidentity
  have hretries (code : Option Nat) : s'.retries code = s.retries code := by
    rw [Shard.retries, Shard.retries, Shard.wantsReconnect, Shard.wantsReconnect, hshut, hconfig]
  have hvoid (code : Option Nat) :
      (s'.voidSession code).session = (s.voidSession code).session := by
    cases code <;> simp [Shard.voidSession, hsession]
  cases t with
  | losing generation code => simp only [outlook?, hgeneration _ _ rfl, hvoid, hretries]
  | voiding code => simp only [outlook?, hvoid, hretries]
  | tearingDown code point next => cases next <;> simp only [outlook?, hsession, hretries]
  | deciding code => simp only [outlook?, hsession, hretries]
  | connecting by' point =>
    cases by' <;> cases point <;> simp only [outlook?, hsession, hretries, hshut]
  | asleep failures wake => simp only [outlook?, hsession, hshut]
  | retrying failures => simp only [outlook?, hsession, hshut]
  | _ => rfl

/-- A step does not change which shard it is. -/
theorem Goes.identity (h : t.Goes s fresh now input r) : r.shard.identity = s.identity := by
  cases h with
  | markDisconnecting code next =>
    simp only [Shard.markDisconnecting]
    split <;> rfl
  | void code => cases code <;> rfl
  | _ => rfl

/-- The step lemma: no step changes what will come of a task. -/
theorem Goes.outlook (h : t.Goes s fresh now input r) (ho : t.outlook? s = some o)
    (hnew : t.isNewAttempt = false) :
    (r.tasks = [] ∧ o = (r.shard.session, false)) ∨
      ∃ t', r.tasks = [t'] ∧ t'.outlook? r.shard = some o := by
  cases h with
  | lose generation code hgeneration =>
    refine .inr ⟨_, rfl, ?_⟩
    rw [outlook?, if_pos hgeneration] at ho
    cases code <;> exact ho
  | notNews generation code hgeneration =>
    rw [outlook?, if_neg hgeneration] at ho
    cases ho
  | void code => exact .inr ⟨_, rfl, by cases code <;> exact ho⟩
  | takeStop code next | takeSink code next | noSink code next | close code c next
  | tornDown code next =>
    cases next with
    | decide code => exact .inr ⟨_, rfl, ho⟩
    | _ => cases ho
  | markDisconnecting code next =>
    cases next with
    | decide code =>
      refine .inr ⟨_, rfl, ?_⟩
      rw [Shard.markDisconnecting]
      split <;> exact ho
    | _ => cases ho
  | reconnect code hwants hfatal =>
    have hretries : s.retries code = true := by rw [Shard.retries, hwants, hfatal]; rfl
    have hshut : s.isShutDown = false := by
      rw [Shard.wantsReconnect, Bool.and_eq_true, Bool.not_eq_true'] at hwants
      exact hwants.1
    refine .inr ⟨_, rfl, ?_⟩
    rw [← ho, outlook?, outlook?, hretries, hshut]
    rfl
  | stayDead code hstay =>
    refine .inl ⟨rfl, ?_⟩
    rw [outlook?, Shard.retries, hstay] at ho
    exact (Option.some.inj ho).symm
  | failStarting => exact .inr ⟨_, rfl, ho⟩
  | failBackground failures d => exact .inr ⟨_, rfl, ho⟩
  | retry failures hshut =>
    refine .inr ⟨_, rfl, ?_⟩
    rw [← ho, outlook?, outlook?, hshut]
    rfl
  | giveUp failures hshut =>
    refine .inl ⟨rfl, ?_⟩
    rw [outlook?, hshut] at ho
    exact (Option.some.inj ho).symm
  | wake failures => exact .inr ⟨_, rfl, ho⟩
  | failing by' point hpoint =>
    rcases hpoint with rfl | ⟨c, rfl⟩ | ⟨c, interval, rfl⟩ | ⟨c, interval, e, rfl⟩ <;>
      cases by' <;> cases ho
  | start by' | startOver by' =>
    cases by' with
    | background failures => cases hnew
    | _ => cases ho
  | replace by' | markConnecting by' | aim by' | dial by' | greet by' | identify by' | resume by'
  | slot by' | deliver by' | number by' | installStop by' | resetHeartbeat by' | installSink by'
  | establish by' | launch by' => cases by' <;> cases ho
  | _ => cases ho

/-- Such a task can take a step as soon as it does not sleep any more, and comes closer to
    its end. -/
theorem exists_step_of_outlook (bus : Bus Listener) (fresh : Connection)
    (stopped : List Connection) (ho : t.outlook? s = some o) (hnew : t.isNewAttempt = false)
    (hnow : t.earliest ≤ now) : ∃ input r, t.step s bus fresh stopped now input = some r ∧
      ∀ t' ∈ r.tasks, t'.remaining < t.remaining := by
  cases t with
  | losing generation code =>
    by_cases hgeneration : s.generation = generation
    · refine ⟨.nothing, ⟨s.bump, [.voiding code], none, [.lost generation]⟩, ?_,
        by simp [remaining]⟩
      simp only [step, Shard.bumpFrom, hgeneration, if_true]
    · rw [outlook?, if_neg hgeneration] at ho
      cases ho
  | voiding code => exact ⟨.nothing, _, rfl, by simp [remaining]⟩
  | tearingDown code point next =>
    cases next with
    | decide reason =>
      cases point with
      | sink =>
        cases hs : s.sink with
        | none =>
          refine ⟨.nothing, ⟨{ s with sink := none }, [.tearingDown code .finish (.decide reason)],
            none, []⟩, ?_, by simp [remaining]⟩
          simp only [step, teardownStep, Shard.takeSink, hs, goto]
        | some c =>
          refine ⟨.nothing, ⟨{ s with sink := none },
            [.tearingDown code (.deliver c) (.decide reason)], none, []⟩, ?_, by simp [remaining]⟩
          simp only [step, teardownStep, Shard.takeSink, hs, goto]
      | deliver c => exact ⟨.delivered true, _, rfl, by simp [remaining]⟩
      | _ => exact ⟨.nothing, _, rfl, by simp [remaining, after]⟩
    | _ => cases ho
  | deciding code =>
    refine ⟨.nothing, _, rfl, ?_⟩
    split <;> simp [remaining]
  | connecting by' point =>
    cases by' with
    | application => cases ho
    | starting =>
      cases point with
      | fail => exact ⟨.nothing, _, rfl, by simp [remaining]⟩
      | _ => cases ho
    | background failures =>
      cases point with
      | start => cases hnew
      | fail =>
        have hwait : s.config.isWait failures (s.config.longestWait failures) := by
          simpa [ShardConfig.isWait] using Nat.le_mul_of_pos_left _ (Nat.succ_pos 1)
        refine ⟨.wait (s.config.longestWait failures), ⟨s.setState .dead,
          [.asleep (failures + 1) (now + s.config.longestWait failures)], none, []⟩, ?_,
          by simp [remaining]⟩
        simp only [step, attemptStep, hwait, if_true, goto]
      | _ => cases ho
  | asleep failures wake =>
    refine ⟨.nothing, ⟨s, [.retrying failures], none, []⟩, ?_, by simp [remaining]⟩
    simp only [step, show wake ≤ now from hnow, if_true, goto]
  | retrying failures =>
    refine ⟨.nothing, _, rfl, ?_⟩
    split <;> simp [remaining]
  | _ => cases ho

end Task

namespace System

/-- What comes of a task, which stands between others: it is in the end an attempt of a loop
    to connect, or nothing. Meanwhile other things may happen as long as they spare it. -/
inductive ComesTo (bus : Bus Listener) :
    System Listener → List Task → Task → List Task → System Listener → Bool → Prop
  | attempts {y : System Listener} {front back : List Task} {t : Task} :
    y.tasks = front ++ t :: back → t.isNewAttempt → ComesTo bus y front t back y true
  | ends {y : System Listener} {front back : List Task} {t : Task} {input : Input}
      {r : Step Listener} :
    y.tasks = front ++ t :: back → t.isNewAttempt = false →
      t.step y.shard bus y.opened y.stopped y.now input = some r → r.tasks = [] →
      ComesTo bus y front t back (y.went front input r back) false
  | goesOn {y z : System Listener} {front back : List Task} {t t' : Task} {input : Input}
      {r : Step Listener} {attempts : Bool} :
    y.tasks = front ++ t :: back → t.isNewAttempt = false →
      t.step y.shard bus y.opened y.stopped y.now input = some r → r.tasks = [t'] →
      ComesTo bus (y.went front input r back) front t' back z attempts →
      ComesTo bus y front t back z attempts
  | meanwhile {y y' z : System Listener} {front front' back back' : List Task} {t : Task}
      {m : Move} {attempts : Bool} :
    y.step bus m = some y' → y'.tasks = front' ++ t :: back' → t.IsSpared y.shard y'.shard →
      ComesTo bus y' front' t back' z attempts → ComesTo bus y front t back z attempts

variable {bus : Bus Listener} {y y' z : System Listener} {front back : List Task} {t : Task}
  {o : Session × Bool} {attempts : Bool}

theorem identity_of_step {m : Move} (h : y.step bus m = some y') :
    y'.shard.identity = y.shard.identity := by
  cases m with
  | request request => rw [eq_of_request h]
  | advance d => rw [eq_of_advance h]
  | step i input =>
    obtain ⟨front, t, back, r, -, -, -, hgoes, rfl⟩ := goes_of_step h
    exact hgoes.identity

/-- The run lemma: what comes of a task is what was to be expected. -/
theorem ComesTo.outlook (h : ComesTo bus y front t back z attempts)
    (ho : t.outlook? y.shard = some o) : o = (z.shard.session, attempts) := by
  induction h with
  | @attempts y front back t htasks hnew =>
    cases t with
    | connecting by' point =>
      cases by' <;> cases point <;> cases hnew
      exact (Option.some.inj ho).symm
    | _ => cases hnew
  | ends htasks hnew hr hnothing =>
    rcases (Task.goes_of_step hr).outlook ho hnew with ⟨-, ho⟩ | ⟨t', ht', -⟩
    · exact ho
    · rw [hnothing] at ht'
      cases ht'
  | goesOn htasks hnew hr hone _ ih =>
    rcases (Task.goes_of_step hr).outlook ho hnew with ⟨hnothing, -⟩ | ⟨t', ht', ho⟩
    · rw [hone] at hnothing
      cases hnothing
    · rw [hone] at ht'
      cases ht'
      exact ih ho
  | meanwhile hstep _ hspared _ ih => exact ih ((hspared.outlook (identity_of_step hstep)).trans ho)

/-- Something does come of it. -/
theorem exists_comesTo (bus : Bus Listener) (htasks : y.tasks = front ++ t :: back)
    (ho : t.outlook? y.shard = some o) : ∃ z attempts, ComesTo bus y front t back z attempts := by
  -- The induction is on the number of steps that the task still takes.
  induction hn : t.remaining using Nat.strongRecOn generalizing y t with
  | ind n ih =>
    cases hnew : t.isNewAttempt with
    | true => exact ⟨y, true, .attempts htasks hnew⟩
    | false =>
      -- A task that sleeps goes on when enough time has passed.
      let y' : System Listener := { y with now := y.now + t.earliest }
      have hpass : y.step bus (.advance t.earliest) = some y' := rfl
      have hspared : t.IsSpared y.shard y'.shard := ⟨rfl, rfl, fun _ _ _ => rfl⟩
      obtain ⟨input, r, hr, hless⟩ := Task.exists_step_of_outlook bus y'.opened y'.stopped ho hnew
        (Nat.le_add_left t.earliest y.now)
      rcases (Task.goes_of_step hr).outlook ho hnew with ⟨hnothing, -⟩ | ⟨t', hone, ho'⟩
      · exact ⟨_, false, .meanwhile hpass htasks hspared (.ends htasks hnew hr hnothing)⟩
      · obtain ⟨z, attempts, hz⟩ := ih t'.remaining (hn ▸ hless t' (by simp [hone]))
          (tasks_went (y := y') hone) ho' rfl
        exact ⟨z, attempts, .meanwhile hpass htasks hspared (.goesOn htasks hnew hr hone hz)⟩

/-! ## Closes -/

end System

namespace Task

variable {s : Shard} {code : Nat} {t : Task} {input : Input}

/-- A reader that reads a close handles it as the loss of its connection. -/
theorem step_closing_reader (ht : t.closing? s code = some input) (hreader : t.isReader)
    (bus : Bus Listener) (fresh : Connection) (stopped : List Connection) (now : Instant) :
    ∃ t', t.step s bus fresh stopped now input = some ⟨s, [t'], none, []⟩ ∧
      t'.outlook? s = some (s.session.afterClose code, s.retries (some code)) := by
  cases t with
  | reading generation c =>
    simp only [closing?] at ht
    split at ht
    · rename_i hgeneration
      cases ht
      exact ⟨.losing generation (some code), rfl, by rw [outlook?, if_pos hgeneration]; rfl⟩
    · cases ht
  | _ => cases hreader

/-- An attempt in which the gateway closes the connection instead of greeting has failed. -/
theorem step_closing_attempt (ht : t.closing? s code = some input) (hreader : t.isReader = false)
    (hauto : s.config.autoReconnect) (bus : Bus Listener) (fresh : Connection)
    (stopped : List Connection) (now : Instant) :
    ∃ t', t.step s bus fresh stopped now input = some ⟨s, [t'], none, []⟩ ∧
      t'.outlook? s = some (s.session, !s.isShutDown) := by
  cases t with
  | connecting by' point =>
    cases point with
    | greet c =>
      cases by' with
      | application => cases ht
      | starting =>
        cases ht
        refine ⟨.connecting .starting .fail, rfl, ?_⟩
        simp [outlook?, Shard.retries, Shard.wantsReconnect, hauto]
      | background failures =>
        cases ht
        exact ⟨.connecting (.background failures) .fail, rfl, rfl⟩
    | _ => cases by' <;> cases ht
  | reading generation c => cases hreader
  | _ => cases ht

end Task

namespace System

variable {bus : Bus Listener} {y z : System Listener} {front back : List Task} {t : Task}
  {code : Nat} {attempts : Bool}

/-- What comes of a task that reads that the gateway closes the connection. -/
def CloseComesTo (bus : Bus Listener) (y : System Listener) (front : List Task) (t : Task)
    (back : List Task) (code : Nat) (z : System Listener) (attempts : Bool) : Prop :=
  ∃ input r t', y.tasks = front ++ t :: back ∧ t.closing? y.shard code = some input ∧
    t.step y.shard bus y.opened y.stopped y.now input = some r ∧ r.tasks = [t'] ∧
    ComesTo bus (y.went front input r back) front t' back z attempts

/-- A close code is honoured: something comes of the close, and then the session is void if it
    was before or the code says so, and a loop attempts to connect unless the code says that
    this cannot succeed, or the shard was shut down. -/
structure IsHonoured (bus : Bus Listener) (y : System Listener) (front : List Task) (t : Task)
    (back : List Task) (code : Nat) : Prop where
  exists_comesTo : ∃ z attempts, CloseComesTo bus y front t back code z attempts
  session : ∀ z attempts, CloseComesTo bus y front t back code z attempts →
    (z.shard.session.IsVoid ↔ y.shard.session.IsVoid ∨ code ∈ [1000, 1001, 4007])
  attempts : ∀ z attempts, CloseComesTo bus y front t back code z attempts →
    (attempts ↔ ¬ (code ∈ [4004, 4010, 4011, 4012, 4013, 4014] ∨ y.shard.isShutDown))

/-- What comes of a close is what its handling has in store, and that does come of it. -/
theorem closeComesTo_of_step {o : Session × Bool} (htasks : y.tasks = front ++ t :: back)
    {input : Input} (ht : t.closing? y.shard code = some input) {t' : Task}
    (hr : t.step y.shard bus y.opened y.stopped y.now input = some ⟨y.shard, [t'], none, []⟩)
    (ho : t'.outlook? y.shard = some o) :
    (∃ z attempts, CloseComesTo bus y front t back code z attempts) ∧
      ∀ z attempts, CloseComesTo bus y front t back code z attempts →
        (z.shard.session, attempts) = o := by
  constructor
  · have hgone : (y.went front input ⟨y.shard, [t'], none, []⟩ back).tasks = front ++ t' :: back :=
      tasks_went rfl
    obtain ⟨z, attempts, hz⟩ := exists_comesTo bus hgone ho
    exact ⟨z, attempts, input, _, t', htasks, ht, hr, rfl, hz⟩
  · rintro z attempts ⟨input', r, t'', -, ht', hr', hone, hz⟩
    obtain rfl : input = input' := Option.some.inj (ht.symm.trans ht')
    obtain rfl := Option.some.inj (hr.symm.trans hr')
    cases hone
    exact (hz.outlook ho).symm

/-- So the code is honoured exactly if that session and that attempt are as the code says. -/
theorem isHonoured_iff_of_step {o : Session × Bool} (htasks : y.tasks = front ++ t :: back)
    {input : Input} (ht : t.closing? y.shard code = some input) {t' : Task}
    (hr : t.step y.shard bus y.opened y.stopped y.now input = some ⟨y.shard, [t'], none, []⟩)
    (ho : t'.outlook? y.shard = some o) :
    y.IsHonoured bus front t back code ↔
      (o.1.IsVoid ↔ y.shard.session.IsVoid ∨ code ∈ [1000, 1001, 4007]) ∧
      (o.2 ↔ ¬ (code ∈ [4004, 4010, 4011, 4012, 4013, 4014] ∨ y.shard.isShutDown)) := by
  obtain ⟨⟨z, attempts, hz⟩, hall⟩ := closeComesTo_of_step htasks ht hr ho
  constructor
  · intro h
    obtain rfl := hall z attempts hz
    exact ⟨h.session z attempts hz, h.attempts z attempts hz⟩
  · rintro ⟨hsession, hattempts⟩
    refine ⟨⟨z, attempts, hz⟩, fun z' attempts' hz' => ?_, fun z' attempts' hz' => ?_⟩
    · obtain rfl := hall z' attempts' hz'
      exact hsession
    · obtain rfl := hall z' attempts' hz'
      exact hattempts

/-- When close codes are honoured. In any system whose shard replaces lost connections let the
    gateway close a connection with a code, and a task read that: the reader of the shard's
    connection, or an attempt to connect that the shard makes by itself and that waits for the
    greeting. The code is honoured exactly if it is the reader that reads it, or if it makes no
    difference: it does not void a session that there is, and it does not keep the shard from
    connecting again. -/
theorem isHonoured_iff (bus : Bus Listener) (hauto : y.shard.config.autoReconnect)
    (htasks : y.tasks = front ++ t :: back) (ht : (t.closing? y.shard code).isSome) :
    y.IsHonoured bus front t back code ↔ t.isReader ∨
      (y.shard.session.IsVoid ∨ code ∉ [1000, 1001, 4007]) ∧
      (code ∉ [4004, 4010, 4011, 4012, 4013, 4014] ∨ y.shard.isShutDown) := by
  obtain ⟨input, ht⟩ := Option.isSome_iff_exists.1 ht
  cases hreader : t.isReader with
  | true =>
    obtain ⟨t', hr, ho⟩ := Task.step_closing_reader ht hreader bus y.opened y.stopped y.now
    rw [isHonoured_iff_of_step htasks ht hr ho]
    refine iff_of_true ⟨Session.isVoid_afterClose_iff _ _, ?_⟩ (.inl rfl)
    rw [← CloseCode.codeIsFatal_iff]
    simp [Shard.retries, Shard.wantsReconnect, hauto, and_comm]
  | false =>
    -- The attempt keeps the session and is repeated, so the code must ask for no more.
    obtain ⟨t', hr, ho⟩ :=
      Task.step_closing_attempt ht hreader hauto bus y.opened y.stopped y.now
    rw [isHonoured_iff_of_step htasks ht hr ho, iff_self_or, Bool.not_eq_true',
      Bool.eq_false_iff, not_or, iff_and_self]
    have hvoid : (code ∈ [1000, 1001, 4007] → y.shard.session.IsVoid) ↔
        y.shard.session.IsVoid ∨ code ∉ [1000, 1001, 4007] :=
      Decidable.imp_iff_not_or.trans or_comm
    have hfatal : (¬ y.shard.isShutDown → code ∉ [4004, 4010, 4011, 4012, 4013, 4014]) ↔
        code ∉ [4004, 4010, 4011, 4012, 4013, 4014] ∨ y.shard.isShutDown :=
      Decidable.or_iff_not_imp_right.symm
    rw [hvoid, hfatal]
    simp only [Bool.false_eq_true, false_or]

/-- The reader of the first connection honours whatever code the gateway closes it with. -/
theorem isHonoured_iff_first : IsReachable .empty 0 {} (firstConnected []) ∧
    ∀ code, (firstConnected []).IsHonoured .empty [] (.reading 1 0) [.monitoring 1 0 0] code :=
  ⟨isReachable_first, fun _ => (isHonoured_iff .empty rfl rfl rfl).2 (.inl rfl)⟩

/-- A loop whose attempt waits for the greeting. -/
def loopDialed : System Unit where
  shard := (Shard.new 0 {}).setState .connecting
  now := 0
  opened := 1
  stopped := []
  tasks := [.connecting (.background 0) (.greet 0)]
  log := [.dialed (Shard.new 0 {}).target]

/-- The gateway closes the connection of a loop's attempt instead of greeting, because the
    client is not who it says it is. The loop attempts to connect again. -/
theorem exists_attempt_after_fatal : IsReachable .empty 0 {} loopDialed ∧
    loopDialed.shard.isShutDown = false ∧
    (∃ z, CloseComesTo .empty loopDialed [] (.connecting (.background 0) (.greet 0)) [] 4004 z
      true) ∧
    ¬ loopDialed.IsHonoured .empty [] (.connecting (.background 0) (.greet 0)) [] 4004 := by
  have hdial : (System.new 0 {}).run .empty [.request .reconnect, .step 0 .nothing,
      .step 0 .nothing, .step 0 .nothing, .step 0 .nothing, .step 0 .nothing,
      .step 0 (.dialed true)] = some loopDialed := rfl
  have ht : (Task.connecting (.background 0) (.greet 0)).closing? loopDialed.shard 4004 =
    some (.greeting (.closed (some 4004))) := rfl
  have htasks : loopDialed.tasks = [] ++ .connecting (.background 0) (.greet 0) :: [] := rfl
  obtain ⟨t', hr, ho⟩ := Task.step_closing_attempt ht rfl rfl (.empty : Bus Unit)
    loopDialed.opened loopDialed.stopped loopDialed.now
  obtain ⟨⟨z, attempts, hz⟩, hall⟩ := closeComesTo_of_step htasks ht hr ho
  obtain ⟨-, rfl⟩ := Prod.mk.inj (hall z attempts hz)
  exact ⟨IsReachable.new.run hdial, rfl, ⟨z, hz⟩, fun h =>
    (h.attempts z _ hz).1 rfl (.inl (by decide))⟩

end System

end GatewayClient
