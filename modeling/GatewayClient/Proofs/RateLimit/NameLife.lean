import GatewayClient.Proofs.RateLimit.ServerReport
import GatewayClient.Proofs.RateLimit.Route

/-!
# How long a name is known

Accounts on a server keep the name of a bucket for a day from the moment at which it was
entered. A response that gives a name which is in force does not enter it again, so what was
heard last does not count, but what was entered last. A route on which a response comes every
hour is accounted for under its own key once the day is over, until the next response. All this
holds of every server that does what is documented.

* `Traffic.NamesAs`: a limiter whose responses on a route all give one name, with the responses
  whose keys were found out.
* `LimiterTask.entry_step`: only a response that enters the name changes what the server has.
* `Traffic.NamesAs.bucketKey_and_staysNamed_iff`: until when the name is in force, and when
  this is a day after the last response.
-/

namespace GatewayClient

open SharedAccounts

/-! ## Definitions -/

/-- A response that has named the bucket of a route. -/
structure Mention where
  time : Instant
  /-- Whether the name was entered, since it was not in force. -/
  isEntered : Bool

/-- When the name was entered with a response. -/
def Mention.entered? (m : Mention) : Option Instant := if m.isEntered then some m.time else none

/-- When the name was entered last. -/
def lastEntered? (mentions : List Mention) : Option Instant := mentions.findSome? Mention.entered?

/-- The response on a route whose key a task finds out in its next step. A name that is known
    is not entered. -/
def LimiterTask.mention? (route : Route) (known : Option String) (now : Instant) :
    LimiterTask → Option Mention
  | responding r report =>
    if r = route ∧ known.isSome ∧ report.bucket = known then some ⟨now, false⟩ else none
  | learning r _ _ => if r = route then some ⟨now, true⟩ else none
  | _ => none

namespace Traffic

variable {σ : Type}

/-- The response on a route whose key is found out in a move. -/
def mention? (y : Traffic σ) (view : View σ) (epoch : Nat) (route : Route) :
    LimiterMove → Option Mention
  | .step i => y.tasks[i]?.bind (LimiterTask.mention? route
      (view.nameOf? y.accounts route (epoch + Duration.millis y.now)) y.now)
  | _ => none

/-- What a limiter with accounts on a server can come to, when all responses on a route give
    the same name, with those whose keys were found out, the last first. Others use the
    accounts for anything but to name the bucket of this route. -/
inductive NamesAs (view : View σ) (execute : Execution σ) (epoch : Nat) (config : LimiterConfig)
    (route : Route) (name : String) : Traffic σ → List Mention → Prop
  | start (first : σ) (now : Instant) : (∀ key, view.holds first key = none) →
    NamesAs view execute epoch config route name ⟨first, now, [], []⟩ []
  | step {y y' : Traffic σ} {mentions : List Mention} (move : LimiterMove) :
    NamesAs view execute epoch config route name y mentions →
      (∀ report, move = .response route report → report.bucket = some name) →
        (∀ n, move ≠ .perform (.learnBucket route.key n)) →
          y.step (.shared execute epoch config) move = some y' →
            NamesAs view execute epoch config route name y'
              ((y.mention? view epoch route move).toList ++ mentions)

/-- A route goes on to be accounted for under a name for a day after an instant, if nothing
    more happens. -/
def StaysNamed (y : Traffic σ) (execute : Execution σ) (epoch : Nat) (config : LimiterConfig)
    (route : Route) (name : String) (since : Instant) : Prop :=
  ∀ t, since ≤ t → Duration.millis t < Duration.millis since + nameTime →
    (((Limiter.shared execute epoch config).bucketKey route).runAt t y.accounts).1 = .ok name

end Traffic

/-! ## Operations -/

section

variable {σ : Type} {view : View σ} {execute : Execution σ} {epoch : Nat} {now : Instant} {s : σ}
  {route : Route} {name : String}

/-- What a server has under the key of a name that was entered. -/
def nameEntry (epoch : Nat) (name : String) (entered : Instant) : Entry :=
  ⟨.text name, some (epoch + Duration.millis entered + nameTime)⟩

/-- Only an operation that names the bucket of a route changes what its name is. -/
theorem holds_nameKey_perform (hdoc : view.IsDocumented execute) {call : StoreCall}
    (hcall : ∀ n, call ≠ .learnBucket route.key n) :
    view.holds (((store execute epoch).perform call).runAt now s).2 (nameKey route.key) =
      view.holds s (nameKey route.key) := by
  by_cases hsubject : AccountKey.name route.key = subject call
  · cases call with
    | bucketOf key => exact same_perform_bucketOf hdoc epoch key now s (nameKey route.key)
    | learnBucket r n =>
      obtain rfl : route.key = r := AccountKey.name.inj hsubject
      exact absurd rfl (hcall n)
    | _ => cases hsubject
  · have hne : nameKey route.key ≠ (subject call).text := fun h =>
      hsubject (AccountKey.text_injective (k := .name route.key) h)
    exact (isLocal_perform hdoc epoch call).eqExcept now s _ hne

/-- A name that is entered is kept for a day. -/
theorem holds_nameKey_learnBucket (hdoc : view.IsDocumented execute)
    (hfits : Integer.Fits ((epoch + Duration.millis now : Nat) + (nameTime : Nat))) :
    view.holds (((store execute epoch).perform (.learnBucket route.key name)).runAt now s).2
      (nameKey route.key) = some (nameEntry epoch name now) := by
  have hset := hdoc.turns_set (nameKey route.key) name (view.holds s (nameKey route.key))
    ⟨(by decide : 0 < nameTime), hfits⟩
  have hlearn : view.Turns (nameKey route.key) now
      ((store execute epoch).perform (.learnBucket route.key name))
      (view.holds s (nameKey route.key)) (.ok .entered) (some (nameEntry epoch name now)) :=
    (turns_learnBucket hset).bind (.pure _ _)
  obtain ⟨s', hrun, -, hafter⟩ := hlearn s rfl
  rwa [StoreAction.runAt, hrun]

end

/-! ## Steps -/

namespace LimiterTask

variable {σ : Type} {view : View σ} {execute : Execution σ} {epoch : Nat} {config : LimiterConfig}
  {route : Route} {name : String} {now : Instant} {s s' : σ} {t : LimiterTask}
  {next : Option LimiterTask} {notes : List LimiterNote}

/-- Whether a response on a route gives the bucket a name. -/
def Names (route : Route) (name : String) : LimiterTask → Prop
  | responding r report => r = route → report.bucket = some name
  | learning r n _ => r = route → n = name
  | _ => True

/-- Only a response that has found the name of its bucket unknown enters it. -/
theorem eq_learning_of_ask {key n : String} (h : t.ask = some (.learnBucket key n)) :
    ∃ r report, t = .learning r n report ∧ r.key = key := by
  cases t with
  | learning r n' report =>
    cases h
    exact ⟨r, report, rfl, rfl⟩
  | looking c => simp only [ask] at h; split at h <;> cases h
  | recording key report => simp [ask] at h
  | locking report => simp [ask] at h
  | _ => cases h

/-- In a step the server enters the name of the bucket of a route with the response that
    mentions it as entered, and leaves it alone otherwise. -/
theorem entry_step (hdoc : view.IsDocumented execute) (ht : t.Names route name)
    (hfits : Integer.Fits ((epoch + Duration.millis now : Nat) + (nameTime : Nat)))
    (h : t.step (.shared execute epoch config) now s = some ((next, notes), s'))
    (known : Option String) :
    view.holds s' (nameKey route.key) =
      (((t.mention? route known now).bind Mention.entered?).map (nameEntry epoch name)).or
        (view.holds s (nameKey route.key)) := by
  have hperform : (∃ call, t.ask = some call ∧
      s' = (((store execute epoch).perform call).runAt now s).2) ∨
        t.ask = none ∧ s' = s := by
    rcases cases_of_step _ h with ⟨call, reply, hask, hperform, -⟩ |
      ⟨call, reason, hask, hperform, -, -⟩ | ⟨hask, rfl, -⟩
    · exact .inl ⟨call, hask, (congrArg Prod.snd hperform).symm⟩
    · exact .inl ⟨call, hask, (congrArg Prod.snd hperform).symm⟩
    · exact .inr ⟨hask, rfl⟩
  -- Only a task that learns the name of this route writes under its key.
  by_cases hlearns : ∃ n report, t = .learning route n report
  · obtain ⟨n, report, rfl⟩ := hlearns
    obtain rfl : n = name := ht rfl
    obtain ⟨call, hask, rfl⟩ | ⟨hask, -⟩ := hperform
    · cases hask
      rw [holds_nameKey_learnBucket hdoc hfits, mention?, if_pos rfl]
      rfl
    · cases hask
  · have hmention : (t.mention? route known now).bind Mention.entered? = none := by
      cases t with
      | responding r report =>
        rw [mention?]
        split <;> rfl
      | learning r n report =>
        have hr : r ≠ route := by
          rintro rfl
          exact hlearns ⟨n, report, rfl⟩
        rw [mention?, if_neg hr]
        rfl
      | _ => rfl
    rw [hmention, Option.map_none, Option.none_or]
    obtain ⟨call, hask, rfl⟩ | ⟨-, rfl⟩ := hperform
    · refine holds_nameKey_perform hdoc fun n hcall => ?_
      subst hcall
      obtain ⟨r, report, rfl, hr⟩ := eq_learning_of_ask hask
      exact hlearns ⟨n, report, Route.key_injective hr ▸ rfl⟩
    · rfl

/-- A response goes on with the name that it gives. -/
theorem names_of_step {l : Limiter σ} {x x' : σ} (ht : t.Names route name)
    (h : t.step l now x = some ((next, notes), x')) {t' : LimiterTask} (hnext : next = some t') :
    t'.Names route name := by
  rcases cases_of_step _ h with ⟨call, reply, -, -, hresumes⟩ | ⟨_, _, -, -, hnone, -⟩ |
    ⟨-, -, hproceeds⟩
  · cases hresumes with
    | learns r hname hknown =>
      cases hnext
      exact fun hr => Option.some_inj.1 (hname.symm.trans (ht hr))
    | _ => cases hnext <;> trivial
  · rw [hnone] at hnext
    cases hnext
  · cases hproceeds <;> cases hnext <;> trivial

end LimiterTask

/-! ## Runs -/

namespace Traffic

variable {σ : Type} {view : View σ} {execute : Execution σ} {epoch : Nat} {config : LimiterConfig}
  {route : Route} {name : String} {y y' : Traffic σ} {mentions : List Mention} {move : LimiterMove}

/-- What holds all the time: the server has the name from the moment at which it was entered
    last, which was no later than the last response. -/
structure KeepsEntry (y : Traffic σ) (view : View σ) (epoch : Nat) (route : Route) (name : String)
    (mentions : List Mention) : Prop where
  entry : view.holds y.accounts (nameKey route.key) =
    (lastEntered? mentions).map (nameEntry epoch name)
  tasks : ∀ t ∈ y.tasks, t.Names route name
  past : ∀ w ∈ lastEntered? mentions, w ≤ y.now
  latest : ∀ u ∈ mentions.head?, ∀ w ∈ lastEntered? mentions, w ≤ u.time

theorem time_of_mention? {u : Mention} (h : y.mention? view epoch route move = some u) :
    u.time = y.now := by
  cases move with
  | step i =>
    obtain ⟨t, -, ht⟩ := Option.bind_eq_some_iff.1 h
    cases t with
    | responding r report =>
      simp only [LimiterTask.mention?] at ht
      split at ht <;> cases ht
      rfl
    | learning r n report =>
      simp only [LimiterTask.mention?] at ht
      split at ht <;> cases ht
      rfl
    | _ => cases ht
  | _ => cases h

theorem lastEntered?_append (u : Option Mention) (mentions : List Mention) :
    lastEntered? (u.toList ++ mentions) = (u.bind Mention.entered?).or (lastEntered? mentions) :=
  findSome?_append _ u mentions

/-- A name is entered at some time up to now. -/
theorem KeepsEntry.le_now (h : y.KeepsEntry view epoch route name mentions) {w : Instant}
    (hw : w ∈ lastEntered? ((y.mention? view epoch route move).toList ++ mentions)) :
    w ≤ y.now := by
  rw [lastEntered?_append] at hw
  cases hmention : y.mention? view epoch route move with
  | none =>
    rw [hmention] at hw
    exact h.past w hw
  | some u =>
    rw [hmention, Option.bind_some, Mention.entered?] at hw
    split at hw
    · obtain rfl : u.time = w := Option.some_inj.1 hw
      exact Nat.le_of_eq (time_of_mention? hmention)
    · exact h.past w hw

theorem now_le_of_step {l : Limiter σ} (h : y.step l move = some y') : y.now ≤ y'.now := by
  rcases step_cases l h "" with ⟨_, _, -, -, hnow, -⟩ | ⟨-, -, hnow, -⟩
  · exact Nat.le_of_eq hnow.symm
  · exact hnow

theorem KeepsEntry.entry_of_step (hdoc : view.IsDocumented execute)
    (h : y.KeepsEntry view epoch route name mentions)
    (hperform : ∀ n, move ≠ .perform (.learnBucket route.key n))
    (hfits : Integer.Fits ((epoch + Duration.millis y.now : Nat) + (nameTime : Nat)))
    (hstep : y.step (.shared execute epoch config) move = some y') :
    view.holds y'.accounts (nameKey route.key) =
      (lastEntered? ((y.mention? view epoch route move).toList ++ mentions)).map
        (nameEntry epoch name) := by
  rw [lastEntered?_append]
  cases move with
  | step i =>
    obtain ⟨t, next, notes, s', ht, htask, rfl⟩ := exists_of_step _ hstep
    have hentry := LimiterTask.entry_step hdoc (h.tasks t (List.mem_of_getElem? ht)) hfits htask
      (view.nameOf? y.accounts route (epoch + Duration.millis y.now))
    rw [mention?, ht, Option.bind_some, Option.map_or, ← h.entry]
    exact hentry
  | perform call =>
    cases hstep
    exact (holds_nameKey_perform hdoc fun n hcall => hperform n (hcall ▸ rfl)).trans h.entry
  | _ =>
    cases hstep
    exact h.entry

theorem KeepsEntry.tasks_of_step (h : y.KeepsEntry view epoch route name mentions)
    (hresponse : ∀ report, move = .response route report → report.bucket = some name)
    (hstep : y.step (.shared execute epoch config) move = some y') :
    ∀ t ∈ y'.tasks, t.Names route name := by
  intro t ht
  cases move with
  | request r =>
    cases hstep
    rcases List.mem_append.1 ht with ht | ht
    · exact h.tasks t ht
    · obtain rfl := List.mem_singleton.1 ht
      trivial
  | response r report =>
    cases hstep
    rcases List.mem_append.1 ht with ht | ht
    · exact h.tasks t ht
    · obtain rfl := List.mem_singleton.1 ht
      rintro rfl
      exact hresponse report rfl
  | advance d =>
    cases hstep
    exact h.tasks t ht
  | perform call =>
    cases hstep
    exact h.tasks t ht
  | step i =>
    obtain ⟨t₀, next, notes, s', ht₀, htask, rfl⟩ := exists_of_step _ hstep
    rcases List.mem_append.1 ht with ht | ht
    · rcases List.mem_append.1 ht with ht | ht
      · exact h.tasks t (List.mem_of_mem_take ht)
      · exact LimiterTask.names_of_step (h.tasks t₀ (List.mem_of_getElem? ht₀)) htask
          (Option.mem_toList.1 ht)
    · exact h.tasks t (List.mem_of_mem_drop ht)

/-- As long as the wall clock is in range, the server keeps the name that was entered last. -/
theorem NamesAs.keepsEntry (hdoc : view.IsDocumented execute)
    (h : NamesAs view execute epoch config route name y mentions)
    (hfits : Integer.Fits ((epoch + Duration.millis y.now : Nat) + (nameTime : Nat))) :
    y.KeepsEntry view epoch route name mentions := by
  induction h with
  | start first now hfirst =>
    exact ⟨hfirst _, fun t ht => absurd ht List.not_mem_nil, nofun, nofun⟩
  | @step y y' mentions move _ hresponse hperform hstep ih =>
    have hnow := now_le_of_step hstep
    -- The clock only goes forward, so it was in range before this move, too.
    have hbefore : Integer.Fits ((epoch + Duration.millis y.now : Nat) + (nameTime : Nat)) := by
      have hmillis : Duration.millis y.now ≤ Duration.millis y'.now := Nat.div_le_div_right hnow
      obtain ⟨-, hlt⟩ := hfits
      exact ⟨by omega, by omega⟩
    have hkeeps := ih hbefore
    refine ⟨hkeeps.entry_of_step hdoc hperform hbefore hstep, hkeeps.tasks_of_step hresponse hstep,
      fun w hw => Nat.le_trans (hkeeps.le_now hw) hnow, fun u hu w hw => ?_⟩
    cases hmention : y.mention? view epoch route move with
    | none =>
      rw [hmention] at hu hw
      exact hkeeps.latest u hu w hw
    | some u' =>
      have hle := hkeeps.le_now hw
      rw [hmention] at hu
      obtain rfl : u' = u := Option.some_inj.1 hu
      rwa [time_of_mention? hmention]

/-! ## A name that is given again before the day is over -/

/-- Half a day. -/
def halfDay : Duration := Duration.ofSeconds 43200

/-- A response that gives a name and nothing else. -/
def naming : RateLimitReport := ⟨none, none, none, some "h1", false, none⟩

/-- One that gives the name again, of a bucket that is exhausted for 20 hours. -/
def exhausting : RateLimitReport :=
  ⟨some 1, some 0, some (Duration.ofSeconds 72000), some "h1", false, none⟩

/-- What a server has when the first response was entered at the start. -/
def namedOnce : Server :=
  ⟨⟨[("ratelimit:hash:channel:1", ⟨.text "h1", some 1700086400000⟩)]⟩⟩

/-- What it has when the second was entered half a day later. -/
def namedTwice : Server := ⟨⟨[
  ("ratelimit:hash:channel:1", ⟨.text "h1", some 1700086400000⟩),
  ("ratelimit:bucket:h1", ⟨.record ⟨[("limit", "1"), ("remaining", "0"),
    ("reset_at", "1700115200000")]⟩, some 1700115800000⟩)]⟩⟩

theorem namesAs_namedTwice :
    NamesAs Server.view Server.execute 1700000000000 {} (.channel 1) "h1"
      ⟨namedTwice, halfDay, [], [.entered (.ok ()), .entered (.ok ())]⟩
      [⟨halfDay, false⟩, ⟨0, true⟩] := by
  have hstart : NamesAs Server.view Server.execute 1700000000000 {} (.channel 1) "h1"
      ⟨Server.empty, 0, [], []⟩ [] := .start Server.empty 0 fun _ => rfl
  have hlearning : NamesAs Server.view Server.execute 1700000000000 {} (.channel 1) "h1"
      ⟨.empty, 0, [.learning (.channel 1) "h1" naming], []⟩ [] :=
    .step (.step 0) (.step (.response (.channel 1) naming) hstart (by simp [naming]) (by simp) rfl)
      (by simp) (by simp) rfl
  have hrecording : NamesAs Server.view Server.execute 1700000000000 {} (.channel 1) "h1"
      ⟨namedOnce, 0, [.recording "h1" naming], []⟩ [⟨0, true⟩] :=
    .step (.step 0) hlearning (by simp) (by simp) rfl
  have hlocking : NamesAs Server.view Server.execute 1700000000000 {} (.channel 1) "h1"
      ⟨namedOnce, 0, [.locking naming], []⟩ [⟨0, true⟩] :=
    .step (.step 0) hrecording (by simp) (by simp) rfl
  have hentered : NamesAs Server.view Server.execute 1700000000000 {} (.channel 1) "h1"
      ⟨namedOnce, halfDay, [], [.entered (.ok ())]⟩ [⟨0, true⟩] :=
    .step (.advance halfDay) (.step (.step 0) hlocking (by simp) (by simp) rfl) (by simp)
      (by simp) rfl
  have hresponding : NamesAs Server.view Server.execute 1700000000000 {} (.channel 1) "h1"
      ⟨namedOnce, halfDay, [.responding (.channel 1) exhausting], [.entered (.ok ())]⟩
      [⟨0, true⟩] :=
    .step (.response (.channel 1) exhausting) hentered (by simp [exhausting]) (by simp) rfl
  have hknown : NamesAs Server.view Server.execute 1700000000000 {} (.channel 1) "h1"
      ⟨namedOnce, halfDay, [.recording "h1" exhausting], [.entered (.ok ())]⟩
      [⟨halfDay, false⟩, ⟨0, true⟩] :=
    .step (.step 0) hresponding (by simp) (by simp) rfl
  have hrecorded : NamesAs Server.view Server.execute 1700000000000 {} (.channel 1) "h1"
      ⟨namedTwice, halfDay, [.locking exhausting], [.entered (.ok ())]⟩
      [⟨halfDay, false⟩, ⟨0, true⟩] :=
    .step (.step 0) hknown (by simp) (by simp) rfl
  exact .step (.step 0) hrecorded (by simp) (by simp) rfl

/-! ## How long a name is in force -/

/-- A route is accounted for under the name that was entered last as long as that is there. -/
theorem KeepsEntry.bucketKey_eq (hdoc : view.IsDocumented execute)
    (h : y.KeepsEntry view epoch route name mentions) (config : LimiterConfig) (t : Instant) :
    (((Limiter.shared execute epoch config).bucketKey route).runAt t y.accounts).1 =
      .ok (if (lastEntered? mentions).any fun w => view.isThere (nameKey route.key)
        (epoch + Duration.millis t) (nameEntry epoch name w) then name else route.key) := by
  have hsound : ∀ e ∈ view.holds y.accounts (nameKey route.key), IsSound (.name route.key) e := by
    intro e he
    rw [h.entry] at he
    obtain ⟨w, -, rfl⟩ := Option.map_eq_some_iff.1 he
    exact ⟨name, rfl⟩
  obtain ⟨s', hrun, -⟩ := turns_bucketKey epoch hdoc hsound config t y.accounts rfl
  rw [StoreAction.runAt, hrun, h.entry]
  cases lastEntered? mentions with
  | none => rfl
  | some w =>
    rw [Option.map_some, Option.filter_some, Option.any_some]
    split <;> rfl

/-- The name that was entered at some time is there for a day, and gone after it. -/
theorem isThere_nameEntry_iff {t w : Instant} : view.isThere (nameKey route.key)
      (epoch + Duration.millis t) (nameEntry epoch name w) ↔
    Duration.millis t < Duration.millis w + nameTime ∨
      Duration.millis t = Duration.millis w + nameTime ∧
        view.lingers (nameKey route.key) (epoch + Duration.millis w + nameTime) := by
  rw [nameEntry, View.isThere_iff, Nat.add_assoc, Nat.add_lt_add_iff_left, Nat.add_left_cancel_iff]

/-- A response does not keep a name in force, unless it enters it. Until a day after the name
    was entered last the route is accounted for under it, and under its own key after that. So
    the name stays in force for a day after the last response exactly if it was entered in the
    millisecond of that response, or in the one before it where the server keeps it that long
    (or if it is the key of the route itself). -/
theorem NamesAs.bucketKey_and_staysNamed_iff (hdoc : view.IsDocumented execute)
    (h : NamesAs view execute epoch config route name y mentions)
    (hfits : Integer.Fits ((epoch + Duration.millis y.now : Nat) + (nameTime : Nat))) :
    (∀ t, ∀ w ∈ lastEntered? mentions, Duration.millis t < Duration.millis w + nameTime →
      (((Limiter.shared execute epoch config).bucketKey route).runAt t y.accounts).1 = .ok name) ∧
    (∀ t, (∀ w ∈ lastEntered? mentions, Duration.millis w + nameTime < Duration.millis t) →
      (((Limiter.shared execute epoch config).bucketKey route).runAt t y.accounts).1 =
        .ok route.key) ∧
    ∀ u ∈ mentions.head?, y.StaysNamed execute epoch config route name u.time ↔
      name = route.key ∨ ∃ w ∈ lastEntered? mentions,
        Duration.millis u.time = Duration.millis w ∨
          Duration.millis u.time = Duration.millis w + 1 ∧
            view.lingers (nameKey route.key) (epoch + Duration.millis w + nameTime) := by
  have hkeeps := h.keepsEntry hdoc hfits
  have hkey := hkeeps.bucketKey_eq hdoc config
  refine ⟨fun t w hw hday => ?_, fun t hday => ?_, fun u hu => ⟨fun hstays => ?_,
    fun hsame t _ hday => ?_⟩⟩
  · rw [hkey, Option.mem_def.1 hw, Option.any_some,
      if_pos (isThere_nameEntry_iff.2 (.inl hday))]
  · rw [hkey, if_neg]
    rw [Option.any_eq_true]
    rintro ⟨w, hw, hthere⟩
    have hafter := hday w hw
    rcases isThere_nameEntry_iff.1 hthere with hbefore | ⟨heq, -⟩ <;> omega
  · -- The last millisecond of the day tells.
    have hmillis : Duration.millis (u.time + Duration.ofMillis (nameTime - 1)) =
        Duration.millis u.time + (nameTime - 1) :=
      Nat.add_mul_div_right _ _ (by decide)
    have hpos : 0 < nameTime := by decide
    have hlast := hstays (u.time + Duration.ofMillis (nameTime - 1)) (Nat.le_add_right _ _)
      (by rw [hmillis]; omega)
    rw [hkey, Except.ok.injEq] at hlast
    split at hlast
    · next hany =>
      obtain ⟨w, hw, hthere⟩ := (Option.any_eq_true _ _).1 hany
      have hle : Duration.millis w ≤ Duration.millis u.time :=
        Nat.div_le_div_right (hkeeps.latest u hu w hw)
      refine .inr ⟨w, hw, ?_⟩
      rcases isThere_nameEntry_iff.1 hthere with hbefore | ⟨heq, hlingers⟩
      · exact .inl (by omega)
      · exact .inr ⟨by omega, hlingers⟩
    · exact .inl hlast.symm
  · rw [hkey]
    rcases hsame with rfl | ⟨w, hw, hsame⟩
    · rw [ite_self]
    · rw [Option.mem_def.1 hw, Option.any_some, if_pos (isThere_nameEntry_iff.2 ?_)]
      rcases hsame with heq | ⟨heq, hlingers⟩
      · exact .inl (by omega)
      · by_cases hbefore : Duration.millis t < Duration.millis w + nameTime
        · exact .inl hbefore
        · exact .inr ⟨by omega, hlingers⟩

/-- A name that is given twice is forgotten a day after the first time. -/
theorem bucketKey_namedTwice : ∃ (y : Traffic Server) (mentions : List Mention),
    NamesAs Server.view Server.execute 1700000000000 {} (.channel 1) "h1" y mentions ∧
    Integer.Fits ((1700000000000 + Duration.millis y.now : Nat) + (nameTime : Nat)) ∧
    mentions.head? = some ⟨halfDay, false⟩ ∧
    (((Limiter.shared Server.execute 1700000000000 {}).bucketKey (.channel 1)).runAt
      (Duration.ofMillis 86399999) y.accounts).1 = .ok "h1" ∧
    (((Limiter.shared Server.execute 1700000000000 {}).bucketKey (.channel 1)).runAt
      (Duration.ofMillis 86400001) y.accounts).1 = .ok "channel:1" ∧
    ¬ y.StaysNamed Server.execute 1700000000000 {} (.channel 1) "h1" halfDay := by
  have hfits : Integer.Fits
      ((1700000000000 + Duration.millis halfDay : Nat) + (nameTime : Nat)) := by decide
  obtain ⟨hbefore, hafter, hstays⟩ :=
    namesAs_namedTwice.bucketKey_and_staysNamed_iff Server.isDocumented hfits
  refine ⟨_, _, namesAs_namedTwice, hfits, rfl, hbefore _ 0 rfl (by decide), hafter _ ?_,
    mt (hstays _ rfl).1 ?_⟩
  · rintro _ ⟨⟩
    decide
  · rintro (hname | ⟨w, hw, hsame⟩)
    · exact absurd hname (by decide)
    · obtain rfl : 0 = w := Option.some_inj.1 hw
      exact absurd hsame (by decide)

/-- Two responses half a day apart give the same name. Half a day and a millisecond after the
    second the route is accounted for under its own key and a request is admitted at once, though
    the bucket of that name is exhausted for almost 8 more hours. -/
theorem exists_unnamed_in_use : ∃ (y : Traffic Server) (first latest t : Instant),
    NamesAs Server.view Server.execute 1700000000000 {} (.channel 1) "h1" y
      [⟨latest, false⟩, ⟨first, true⟩] ∧
    Duration.millis latest < Duration.millis first + nameTime ∧
    latest ≤ t ∧ Duration.millis t < Duration.millis latest + nameTime ∧
    (((Limiter.shared Server.execute 1700000000000 {}).bucketKey (.channel 1)).runAt t
      y.accounts).1 = .ok "channel:1" ∧
    ((Limiter.shared Server.execute 1700000000000 {}).acquire (.channel 1) t y.accounts).1 =
      .ok "channel:1" ∧
    ((Limiter.shared Server.execute 1700000000000 {}).acquire (.channel 1) t y.accounts).2.1 = t ∧
    (((Limiter.shared Server.execute 1700000000000 {}).attempt "h1").runAt t y.accounts).1 =
      .ok (.wait (Duration.ofMillis 28799999)) :=
  ⟨_, 0, halfDay, Duration.ofMillis 86400001, namesAs_namedTwice, by decide, by decide, by decide,
    rfl, rfl, rfl, rfl⟩

end Traffic

end GatewayClient
