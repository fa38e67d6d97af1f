import GatewayClient.Proofs.RateLimit.Cells
import GatewayClient.Proofs.RateLimit.Route

/-!
# Routes that are told apart

As long as no name was entered for its bucket, requests and responses on a route are accounted
for under the key of the route itself. A key tells its route, whatever the family is called, so
no other route is accounted for there, and none has its name entered there: what is done for
one route is not noticed on another, in memory as on a server and in whatever order many
requests and responses take their steps.

* `Traffic.History`: a limiter with the operations that were performed and the keys that were
  found out so far; `Traffic.KeepsApart`: what it keeps apart.
* `LimiterTask.key_step`, `LimiterTask.finds_own`: where the keys of tasks come from.
* `Traffic.History.keepsApart`: every limiter whose accounts are kept by cells keeps routes
  apart.
* `Route.key_eq_iff_and_keepsApart`: so do those with accounts in memory and on a server that
  does what is documented.
-/

namespace GatewayClient

open SharedAccounts

/-! ## Definitions -/

/-- Whether an operation is about the bucket, or the name, that is kept under the key of a
    route. -/
def StoreCall.IsFor (route : Route) (call : StoreCall) : Prop :=
  subject call = .bucket route.key ∨ subject call = .name route.key

/-- Whether none of some operations has named the bucket of a route. -/
def Route.IsUnnamed (route : Route) (calls : List StoreCall) : Prop :=
  ∀ name, .learnBucket route.key name ∉ calls

/-- The key under which a task accounts, once it knows it. -/
def LimiterTask.key? : LimiterTask → Option String
  | looking c => some c.key
  | taking c => some c.key
  | asleep c _ => some c.key
  | recording key _ => some key
  | _ => none

/-- The key that a task finds out when it goes on as another one, with the route whose key it
    is. -/
def LimiterTask.finds? : LimiterTask → Option LimiterTask → Option (Route × String)
  | coming route, some (looking c) => some (route, c.key)
  | responding route _, some (recording key _) => some (route, key)
  | learning route _ _, some (recording key _) => some (route, key)
  | _, _ => none

namespace Traffic

variable {σ : Type}

/-- The key that is found out in a move, with its route. -/
def finds? (y : Traffic σ) (l : Limiter σ) : LimiterMove → Option (Route × String)
  | .step i => do
    let task ← y.tasks[i]?
    let ((next, _), _) ← task.step l y.now y.accounts
    task.finds? next
  | _ => none

/-- What a limiter can come to whose accounts were `first`, with the operations that were
    performed and the keys that were found out, the last first. -/
inductive History (l : Limiter σ) (first : σ) :
    Traffic σ → List StoreCall → List (Route × String) → Prop
  | start (now : Instant) : History l first ⟨first, now, [], []⟩ [] []
  | step {y y' : Traffic σ} {calls : List StoreCall} {found : List (Route × String)}
    (move : LimiterMove) : History l first y calls found → y.step l move = some y' →
      History l first y' ((y.call? move).toList ++ calls) ((y.finds? l move).toList ++ found)

/-- What a limiter keeps apart whose history is given by the operations and the keys. Accounts
    may be the same without being equal. -/
structure KeepsApart (y : Traffic σ) (l : Limiter σ) (same : σ → σ → Prop)
    (calls : List StoreCall) (found : List (Route × String)) : Prop where
  /-- The key under which a task uses a bucket was found out for a route. -/
  used : ∀ i call key, y.call? (.step i) = some call → subject call = .bucket key →
    ∃ route, (route, key) ∈ found
  /-- The keys found out for two routes without names are the same only if the routes are. -/
  keys : ∀ r r' k k', r.IsUnnamed calls → r'.IsUnnamed calls → (r, k) ∈ found →
    (r', k') ∈ found → (k = k' ↔ r = r')
  /-- Whoever asks next for the key of a route without a name is given its own. -/
  own : ∀ route, route.IsUnnamed calls → ∀ now, ∃ s,
    (l.bucketKey route).runAt now y.accounts = (.ok route.key, s) ∧ same y.accounts s
  /-- Operations under the key of one route are not noticed under that of another. -/
  apart : ∀ r r', r ≠ r' → ∀ (before : List TimedCall) (call : StoreCall),
    (∀ c ∈ before, c.call.IsFor r) → call.IsFor r' → ∀ now,
      ((l.store.perform call).runAt now (l.store.after before y.accounts)).1 =
        ((l.store.perform call).runAt now y.accounts).1

end Traffic

/-- Whether accounts have no name for the bucket of a route. -/
def Limiter.IsNameless {σ : Type} (l : Limiter σ) (s : σ) (route : Route) : Prop :=
  ∀ now, ((l.store.perform (.bucketOf route.key)).runAt now s).1 = .ok (.name none)

/-! ## Operations -/

theorem StoreCall.IsFor.ne {r r' : Route} {call call' : StoreCall} (hr : r ≠ r')
    (h : call.IsFor r) (h' : call'.IsFor r') : subject call' ≠ subject call := by
  intro hsame
  have hkey : r.key = r'.key := by
    rcases h with h | h <;> rcases h' with h' | h' <;> rw [h, h'] at hsame
    · exact (AccountKey.bucket.inj hsame).symm
    · cases hsame
    · cases hsame
    · exact (AccountKey.name.inj hsame).symm
  exact hr (Route.key_injective hkey)

/-! ## Steps -/

namespace LimiterTask

variable {σ : Type} {l : Limiter σ} {now : Instant} {s s' : σ} {t t' : LimiterTask}
  {next : Option LimiterTask} {notes : List LimiterNote} {route : Route} {key : String}

/-- A task that uses a bucket does so under the key that it knows. -/
theorem key?_of_ask {call : StoreCall} (hask : t.ask = some call)
    (hsubject : subject call = .bucket key) : t.key? = some key := by
  cases t with
  | taking c =>
    cases hask
    cases hsubject
    rfl
  | recording k report =>
    obtain ⟨u, -, rfl⟩ := Option.map_eq_some_iff.1 hask
    cases hsubject
    rfl
  | looking c =>
    simp only [ask] at hask
    split at hask <;> cases hask
    cases hsubject
  | locking report =>
    obtain ⟨d, -, rfl⟩ := Option.map_eq_some_iff.1 hask
    cases hsubject
  | asleep c wake => cases hask
  | _ =>
    cases hask
    cases hsubject

/-- A task keeps its key, and has it from the step in which it was found out. -/
theorem key_step (h : t.step l now s = some ((some t', notes), s')) (hkey : t'.key? = some key) :
    t.key? = some key ∨ ∃ route, t.finds? (some t') = some (route, key) := by
  rcases cases_of_step l h with ⟨call, reply, -, -, hresumes⟩ | ⟨_, _, -, -, hnone, -⟩ |
    ⟨-, -, hproceeds⟩
  · cases hresumes with
    | begins route known => exact .inr ⟨route, congrArg (Option.map (route, ·)) hkey⟩
    | resolves route hall => exact .inr ⟨route, congrArg (Option.map (route, ·)) hkey⟩
    | learned route name report => exact .inr ⟨route, congrArg (Option.map (route, ·)) hkey⟩
    | clear c _ => exact .inl hkey
    | lockedOut c d _ => exact .inl hkey
    | waits c d => exact .inl hkey
    | learns route hname hknown => cases hkey
    | recorded key hu => cases hkey
  · cases hnone
  · cases hproceeds with
    | wakes c wake _ => exact .inl hkey
    | records key hu => cases hkey

/-- The key that is found out for a route without a name is its own, unless the name is
    entered in this very step. -/
theorem finds_own (hnameless : l.IsNameless s route)
    (h : t.step l now s = some ((next, notes), s')) (hfinds : t.finds? next = some (route, key))
    (hask : ∀ name, t.ask ≠ some (.learnBucket route.key name)) : key = route.key := by
  rcases cases_of_step l h with ⟨call, reply, -, hperform, hresumes⟩ | ⟨_, _, -, -, rfl, -⟩ |
    ⟨-, -, hproceeds⟩
  · cases hresumes with
    | begins r known =>
      cases hfinds
      cases (hnameless now).symm.trans (congrArg Prod.fst hperform)
      rfl
    | resolves r hall =>
      cases hfinds
      cases (hnameless now).symm.trans (congrArg Prod.fst hperform)
      rfl
    | learned r name report =>
      -- The key is the name that this step enters.
      cases hfinds
      exact absurd rfl (hask key)
    | _ => cases hfinds
  · cases t <;> cases hfinds
  · cases hproceeds <;> cases hfinds

end LimiterTask

/-! ## Runs -/

namespace Traffic

variable {σ γ : Type} {l : Limiter σ} {first : σ} {y y' : Traffic σ} {calls : List StoreCall}
  {found : List (Route × String)} {cell : σ → AccountKey → γ} {same : σ → σ → Prop} {route : Route}

theorem found_step {i : Nat} {t : LimiterTask} {next : Option LimiterTask}
    {notes : List LimiterNote} {s : σ} (ht : y.tasks[i]? = some t)
    (htask : t.step l y.now y.accounts = some ((next, notes), s)) :
    y.finds? l (.step i) = t.finds? next := by
  simp only [finds?, ht, htask, Option.bind_eq_bind, Option.bind_some]

/-- The cell of a name is as it was at first as long as no name is entered there. -/
theorem History.cell_name_eq (hkeyed : l.store.IsKeyed cell same)
    (h : History l first y calls found) (hunnamed : route.IsUnnamed calls) :
    cell y.accounts (.name route.key) = cell first (.name route.key) := by
  induction h with
  | start now => rfl
  | @step y y' calls found move _ hstep ih =>
    have hbefore := ih fun name hmem => hunnamed name (List.mem_append_right _ hmem)
    rcases step_cases l hstep "" with ⟨call, reply, hcall, hperform, -, -⟩ | ⟨-, haccounts, -, -⟩
    · have hsnd : y'.accounts = ((l.store.perform call).runAt y.now y.accounts).2 :=
        congrArg Prod.snd hperform.symm
      rw [hsnd, ← hbefore]
      by_cases hsubject : AccountKey.name route.key = subject call
      · -- What is about the name is a question, as the name is not entered.
        cases call with
        | bucketOf r => exact hkeyed.cell_eq (hkeyed.asks r _ _) _
        | learnBucket r name =>
          obtain rfl : route.key = r := AccountKey.name.inj hsubject
          refine absurd (List.mem_append_left _ ?_) (hunnamed name)
          rw [hcall]
          exact List.mem_singleton_self _
        | _ => cases hsubject
      · exact hkeyed.others call _ _ _ hsubject
    · rw [haccounts, hbefore]

theorem History.isNameless (hkeyed : l.store.IsKeyed cell same)
    (hfirst : ∀ route, l.IsNameless first route) (h : History l first y calls found)
    (hunnamed : route.IsUnnamed calls) : l.IsNameless y.accounts route := by
  intro now
  have hcell : cell y.accounts (.name route.key) = cell first (.name route.key) :=
    h.cell_name_eq hkeyed hunnamed
  have hanswer : ((l.store.perform (.bucketOf route.key)).runAt now y.accounts).1 =
      ((l.store.perform (.bucketOf route.key)).runAt now first).1 :=
    (hkeyed.about (.bucketOf route.key) now _ _ hcell).1
  rw [hanswer, hfirst route now]

/-- The keys that were found out for a route without a name are its own. -/
theorem History.key_eq_of_mem (hkeyed : l.store.IsKeyed cell same)
    (hfirst : ∀ route, l.IsNameless first route) (h : History l first y calls found)
    (hunnamed : route.IsUnnamed calls) {key : String} (hmem : (route, key) ∈ found) :
    key = route.key := by
  induction h with
  | start now => cases hmem
  | @step y y' calls found move hrun hstep ih =>
    have hbefore : route.IsUnnamed calls :=
      fun name hname => hunnamed name (List.mem_append_right _ hname)
    rcases List.mem_append.1 hmem with hmem | hmem
    · rw [Option.mem_toList] at hmem
      cases move with
      | step i =>
        obtain ⟨t, next, notes, s, ht, htask, -⟩ := exists_of_step l hstep
        rw [found_step ht htask] at hmem
        refine LimiterTask.finds_own (hrun.isNameless hkeyed hfirst hbefore) htask hmem
          fun name hask => hunnamed name (List.mem_append_left _ ?_)
        rw [call?, ht, Option.bind_some, hask]
        exact List.mem_singleton_self _
      | _ => cases hmem
    · exact ih hbefore hmem

/-- The key that a task knows was found out. -/
theorem History.exists_mem_of_key (h : History l first y calls found) {t : LimiterTask}
    (ht : t ∈ y.tasks) {key : String} (hkey : t.key? = some key) :
    ∃ route, (route, key) ∈ found := by
  induction h generalizing t with
  | start now => cases ht
  | @step y y' calls found move _ hstep ih =>
    have hold {t₀ : LimiterTask} (ht₀ : t₀ ∈ y.tasks) (hkey₀ : t₀.key? = some key) :
        ∃ route, (route, key) ∈ (y.finds? l move).toList ++ found :=
      (ih ht₀ hkey₀).imp fun _ hmem => List.mem_append_right _ hmem
    cases move with
    | request r =>
      cases hstep
      rcases List.mem_append.1 ht with ht | ht
      · exact hold ht hkey
      · obtain rfl := List.mem_singleton.1 ht
        cases hkey
    | response r report =>
      cases hstep
      rcases List.mem_append.1 ht with ht | ht
      · exact hold ht hkey
      · obtain rfl := List.mem_singleton.1 ht
        cases hkey
    | advance d =>
      cases hstep
      exact hold ht hkey
    | perform call =>
      cases hstep
      exact hold ht hkey
    | step i =>
      obtain ⟨t₀, next, notes, s, ht₀, htask, rfl⟩ := exists_of_step l hstep
      rcases List.mem_append.1 ht with ht | ht
      · rcases List.mem_append.1 ht with ht | ht
        · exact hold (List.mem_of_mem_take ht) hkey
        · obtain rfl := Option.mem_toList.1 ht
          rcases LimiterTask.key_step htask hkey with hkey₀ | ⟨route, hfinds⟩
          · exact hold (List.mem_of_getElem? ht₀) hkey₀
          · refine ⟨route, List.mem_append_left _ ?_⟩
            rw [found_step ht₀ htask]
            exact Option.mem_toList.2 hfinds
      · exact hold (List.mem_of_mem_drop ht) hkey

/-- What holds of every run on accounts that are kept by cells and have no names at first. -/
theorem History.keepsApart (hkeyed : l.store.IsKeyed cell same)
    (hfirst : ∀ route, l.IsNameless first route) (h : History l first y calls found) :
    y.KeepsApart l same calls found := by
  refine ⟨fun i call key hcall hsubject => ?_, fun r r' k k' hr hr' hk hk' => ?_,
    fun route hunnamed now => ?_, fun r r' hne before call hbefore hcall now => ?_⟩
  · obtain ⟨t, ht, hask⟩ := Option.bind_eq_some_iff.1 hcall
    exact h.exists_mem_of_key (List.mem_of_getElem? ht) (LimiterTask.key?_of_ask hask hsubject)
  · rw [h.key_eq_of_mem hkeyed hfirst hr hk, h.key_eq_of_mem hkeyed hfirst hr' hk']
    exact ⟨fun hkey => Route.key_injective hkey, fun hroute => congrArg Route.key hroute⟩
  · have hperform : (l.store.perform (.bucketOf route.key)).runAt now y.accounts =
        (.ok (.name none), ((l.store.perform (.bucketOf route.key)).runAt now y.accounts).2) :=
      Prod.ext (h.isNameless hkeyed hfirst hunnamed now) rfl
    exact ⟨_, l.bucketKey_of_perform hperform, hkeyed.asks route.key now y.accounts⟩
  · exact hkeyed.answer_after (fun c hc => (hbefore c hc).ne hne hcall) now y.accounts

end Traffic

/-! ## Both kinds of accounts -/

/-- A key tells its route, whatever the family is called. So as long as their buckets have not
    been named, two routes are accounted for under one key only if they are the same route, and
    what is done under the key of one route, be it to its bucket or to its name, is not noticed
    on any other. -/
theorem Route.key_eq_iff_and_keepsApart (config : LimiterConfig) (epoch : Nat) :
    (∀ r r' : Route, r.key = r'.key ↔ r = r') ∧
    (∀ y calls found, Traffic.History (.own config) .empty y calls found →
      y.KeepsApart (.own config) Eq calls found) ∧
    ∀ {σ : Type} (view : View σ) (execute : Execution σ), view.IsDocumented execute →
      ∀ first, (∀ key, view.holds first key = none) → ∀ y calls found,
        Traffic.History (.shared execute epoch config) first y calls found →
          y.KeepsApart (.shared execute epoch config) view.Same calls found := by
  refine ⟨fun r r' => ⟨fun h => key_injective h, fun h => congrArg key h⟩,
    fun y calls found h => ?_, fun view execute hdoc first hfirst y calls found h => ?_⟩
  · have hmemory (route : Route) : (Limiter.own config).IsNameless .empty route := fun _ => rfl
    exact Traffic.History.keepsApart MemoryAccounts.isKeyed hmemory h
  · have hserver (route : Route) :
        (Limiter.shared execute epoch config).IsNameless first route := by
      intro now
      have hget := hdoc.turns_get (nameKey route.key) (epoch + Duration.millis now) none
      have hask : view.Turns (nameKey route.key) now
          ((store execute epoch).perform (.bucketOf route.key)) none (.ok (.name none)) none :=
        (turns_bucketOf hget rfl).bind (.pure _ _)
      obtain ⟨s, hrun, -⟩ := hask first (hfirst _)
      exact congrArg Prod.fst hrun
    exact Traffic.History.keepsApart (SharedAccounts.isKeyed hdoc epoch) hserver h

/-! ## Keys that differ in a colon alone -/

/-- A route with the key `other:x:1:0`. -/
def Route.withColon : Route := ⟨.other "x:1", 0⟩

/-- A route with the key `other:x:10`. -/
def Route.withoutColon : Route := ⟨.other "x", 10⟩

/-- A response that gives no name. No request is left for 10 seconds. -/
def exhaustedUnnamed : RateLimitReport :=
  ⟨some 1, some 0, some (Duration.ofSeconds 10), none, false, none⟩

/-- What accounts hold when the response has come on the first route. -/
def exhaustedWithColon : MemoryAccounts :=
  ⟨⟨[(Route.withColon.key, ⟨1, 0, some (Duration.ofSeconds 10)⟩)]⟩, ∅, ∅, none⟩

/-- The operations that were performed when a request has come on the second. -/
def colonCalls : List StoreCall := [.bucketOf Route.withoutColon.key,
  .record Route.withColon.key ⟨1, 0, Duration.ofSeconds 10⟩, .bucketOf Route.withColon.key]

/-- The keys that were found out by then. -/
def colonKeys : List (Route × String) :=
  [(.withoutColon, "other:x:10"), (.withColon, "other:x:1:0")]

theorem Traffic.history_colon : History (.own {}) .empty
    ⟨exhaustedWithColon, 0, [.looking ⟨"other:x:10", 64, 0⟩], [.entered (.ok ())]⟩ colonCalls
    colonKeys := by
  have hresponse : History (.own {}) .empty
      ⟨.empty, 0, [.responding .withColon exhaustedUnnamed], []⟩ [] [] :=
    .step (.response .withColon exhaustedUnnamed) (.start 0) rfl
  have hrecording : History (.own {}) .empty
      ⟨.empty, 0, [.recording "other:x:1:0" exhaustedUnnamed], []⟩
      (colonCalls.drop 2) (colonKeys.drop 1) := .step (.step 0) hresponse rfl
  have hlocking : History (.own {}) .empty ⟨exhaustedWithColon, 0, [.locking exhaustedUnnamed], []⟩
      (colonCalls.drop 1) (colonKeys.drop 1) := .step (.step 0) hrecording rfl
  have hentered : History (.own {}) .empty ⟨exhaustedWithColon, 0, [], [.entered (.ok ())]⟩
      (colonCalls.drop 1) (colonKeys.drop 1) := .step (.step 0) hlocking rfl
  exact .step (.step 0) (.step (.request .withoutColon) hentered rfl) rfl

/-- A request on the second route is admitted although the bucket of the first is exhausted,
    whatever more is reported of that one, and a name that is entered for the first is unknown
    on the second. On a server, too, each has its own key. -/
theorem Route.key_eq_iff_and_keepsApart_colon :
    ∃ (y : Traffic MemoryAccounts) (z : Traffic Server) (calls : List StoreCall),
      Traffic.History (.own {}) .empty y colonCalls colonKeys ∧
      Traffic.History (.shared Server.execute 1700000000000 {}) .empty z calls colonKeys ∧
      Route.withColon.IsUnnamed colonCalls ∧ Route.withoutColon.IsUnnamed colonCalls ∧
      Route.withColon.key ≠ Route.withoutColon.key ∧
      ((MemoryAccounts.store.perform (.take "other:x:1:0")).runAt 0 y.accounts).1 =
        .ok (.admission (.wait (Duration.ofSeconds 10))) ∧
      (∀ u, ((MemoryAccounts.store.perform (.take "other:x:10")).runAt 0
        (MemoryAccounts.store.after [⟨0, .record "other:x:1:0" u⟩] y.accounts)).1 =
          .ok (.admission .granted)) ∧
      (∀ name, ((MemoryAccounts.store.perform (.bucketOf "other:x:10")).runAt 0
        (MemoryAccounts.store.after [⟨0, .learnBucket "other:x:1:0" name⟩] y.accounts)).1 =
          .ok (.name none)) ∧
      ∃ s, ((Limiter.shared Server.execute 1700000000000 {}).bucketKey .withoutColon).runAt 0
        z.accounts = (.ok "other:x:10", s) ∧ Server.view.Same z.accounts s := by
  have hcoming : Traffic.History (.shared Server.execute 1700000000000 {}) .empty
      ⟨.empty, 0, [.coming withColon, .coming withoutColon], []⟩ [] [] :=
    .step (.request withoutColon) (.step (.request withColon) (.start 0) rfl) rfl
  have hfirst : Traffic.History (.shared Server.execute 1700000000000 {}) .empty
      ⟨.empty, 0, [.looking ⟨"other:x:1:0", 64, 0⟩, .coming withoutColon], []⟩
      [.bucketOf withColon.key] (colonKeys.drop 1) := .step (.step 0) hcoming rfl
  have hserver : Traffic.History (.shared Server.execute 1700000000000 {}) .empty
      ⟨.empty, 0, [.looking ⟨"other:x:1:0", 64, 0⟩, .looking ⟨"other:x:10", 64, 0⟩], []⟩
      [.bucketOf withoutColon.key, .bucketOf withColon.key] colonKeys :=
    .step (.step 1) hfirst rfl
  have hunnamed (route : Route) : route.IsUnnamed colonCalls := by
    simp [IsUnnamed, colonCalls]
  obtain ⟨hkey, hown, hshared⟩ := key_eq_iff_and_keepsApart {} 1700000000000
  have hne : withColon ≠ withoutColon := by decide
  have hapart := (hown _ _ _ Traffic.history_colon).apart _ _ hne
  have hfor (call : StoreCall) (h : call.IsFor withColon) :
      ∀ c ∈ [TimedCall.mk 0 call], c.call.IsFor withColon :=
    List.forall_mem_singleton.2 h
  refine ⟨_, _, _, Traffic.history_colon, hserver, hunnamed _, hunnamed _, mt (hkey _ _).1 hne,
    rfl, fun u => ?_, fun name => ?_, ?_⟩
  · exact (hapart _ (.take Route.withoutColon.key) (hfor (.record withColon.key u) (.inl rfl))
      (.inl rfl) 0).trans rfl
  · exact (hapart _ (.bucketOf Route.withoutColon.key)
      (hfor (.learnBucket withColon.key name) (.inr rfl)) (.inr rfl) 0).trans rfl
  · exact (hshared Server.view Server.execute Server.isDocumented .empty (fun _ => rfl) _ _ _
      hserver).own withoutColon (by simp [IsUnnamed]) 0

end GatewayClient
