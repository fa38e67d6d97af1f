import GatewayClient.KeyValue.Documented

/-!
# Steps on one key of a server

A command reads and writes one key only. So what a script makes of a key is known from what
this key held before, and nothing changes under the others, whatever they hold: this is all
that has to be known of a server that does what is documented.

* `View.Turns`: a step that turns what a key holds into something else; `View.Turns.bind`.
* `View.IsDocumented.turns_fields` and so on: what becomes of a key with each command.
* `View.Keeps`: what holds of a key whatever becomes of a step, which may be refused halfway.
* `View.IsDocumented.keeps_command`: a command keeps what is good under its key.
-/

namespace GatewayClient

namespace View

variable {σ : Type} {view : View σ} {key : String} {now : Nat}

/-! ## Keys that are there -/

theorem isThere_iff (d : Datum) {x : Nat} : view.isThere key now ⟨d, some x⟩ ↔
    now < x ∨ now = x ∧ view.lingers key x := by
  simp [isThere]

theorem isThere_of_lt (d : Datum) {x : Nat} (h : now < x) : view.isThere key now ⟨d, some x⟩ :=
  (isThere_iff d).2 (.inl h)

theorem not_isThere_of_lt (d : Datum) {x : Nat} (h : x < now) :
    view.isThere key now ⟨d, some x⟩ = false := by
  rw [Bool.eq_false_iff, Ne, isThere_iff]
  omega

/-- What was found under a key has time left, whatever is put there with this lifetime. -/
theorem isThere_found (d : Datum) (before : Option Entry) :
    view.isThere key now ⟨d, (before.filter (view.isThere key now)).bind (·.expiry)⟩ := by
  cases hfound : before.filter (view.isThere key now) with
  | none => rfl
  | some e => exact (Option.filter_eq_some_iff.1 hfound).2

/-- Whether two states hold the same under all keys but one. -/
def EqExcept (view : View σ) (key : String) (s s' : σ) : Prop :=
  ∀ k, k ≠ key → view.holds s' k = view.holds s k

theorem EqExcept.refl (key : String) (s : σ) : view.EqExcept key s s := fun _ _ => rfl

theorem EqExcept.trans {s s' s'' : σ} (h : view.EqExcept key s s') (h' : view.EqExcept key s' s'') :
    view.EqExcept key s s'' :=
  fun k hk => (h' k hk).trans (h k hk)

/-- Whether two states hold the same under all keys. -/
def Same (view : View σ) (s s' : σ) : Prop := ∀ key, view.holds s' key = view.holds s key

theorem EqExcept.same {s s' : σ} (h : view.EqExcept key s s')
    (hkey : view.holds s' key = view.holds s key) : view.Same s s' := by
  intro k
  by_cases hk : k = key
  · rwa [hk]
  · exact h k hk

/-! ## Replies -/

@[simp] theorem textAt?_fieldsReply (names : List String) (fields : Table String String) (i : Nat) :
    (fieldsReply names fields).textAt? i = names[i]?.bind fields.get? := by
  simp only [fieldsReply, Reply.textAt?, List.getElem?_map]
  cases names[i]? with
  | none => rfl
  | some name =>
    simp only [Option.map_some, Option.bind_some]
    cases fields.get? name <;> rfl

/-! ## What becomes of a key -/

section Turns

variable {ρ ε α β : Type} {r : ρ}

/-- A step turns what a key holds into something else, whatever the others hold, and leaves
    them alone. -/
def Turns (view : View σ) (key : String) (r : ρ) (action : ReaderT ρ (ExceptT ε (StateM σ)) α)
    (before : Option Entry) (result : Except ε α) (after : Option Entry) : Prop :=
  ∀ s, view.holds s key = before → ∃ s', (action.run r).run.run s = (result, s') ∧
    view.EqExcept key s s' ∧ view.holds s' key = after

variable {action : ReaderT ρ (ExceptT ε (StateM σ)) α}
  {next : α → ReaderT ρ (ExceptT ε (StateM σ)) β} {before between after : Option Entry} {a : α}
  {reason : ε} {result : Except ε β}

namespace Turns

theorem pure (a : α) (e : Option Entry) :
    view.Turns key r (Pure.pure a : ReaderT ρ (ExceptT ε (StateM σ)) α) e (.ok a) e :=
  fun s hs => ⟨s, rfl, .refl key s, hs⟩

theorem throw (reason : ε) (e : Option Entry) :
    view.Turns key r (MonadExcept.throw reason : ReaderT ρ (ExceptT ε (StateM σ)) α) e
      (.error reason) e :=
  fun s hs => ⟨s, rfl, .refl key s, hs⟩

theorem run_bind (s : σ) : ((action >>= next).run r).run.run s =
    ExceptT.bindCont (fun a => next a r) ((action.run r).run.run s).1
      ((action.run r).run.run s).2 := rfl

/-- The second of two steps finds what the first one left. -/
theorem bind (h : view.Turns key r action before (.ok a) between)
    (hnext : view.Turns key r (next a) between result after) :
    view.Turns key r (action >>= next) before result after := by
  intro s hs
  obtain ⟨s₁, hrun, hexcept, hbetween⟩ := h s hs
  obtain ⟨s₂, hrun', hexcept', hafter⟩ := hnext s₁ hbetween
  refine ⟨s₂, ?_, hexcept.trans hexcept', hafter⟩
  rw [run_bind, hrun]
  exact hrun'

/-- It is left out if the first one was refused. -/
theorem bind_error (h : view.Turns key r action before (.error reason) after) :
    view.Turns key r (action >>= next) before (.error reason) after := by
  intro s hs
  obtain ⟨s', hrun, hexcept, hafter⟩ := h s hs
  refine ⟨s', ?_, hexcept, hafter⟩
  rw [run_bind, hrun]
  rfl

end Turns

/-! ## What a step keeps -/

/-- A step keeps something true of what a key holds, even if it is refused, and something is
    known of its result if it is not. -/
def Keeps (view : View σ) (key : String) (good : Entry → Prop)
    (action : ReaderT ρ (ExceptT ε (StateM σ)) α) (post : α → Prop) : Prop :=
  ∀ r before, (∀ e ∈ before, good e) → ∃ result after,
    view.Turns key r action before result after ∧ (∀ e ∈ after, good e) ∧
      ∀ a, result = .ok a → post a

/-- A step that has to do with one key only. -/
abbrev IsLocal (view : View σ) (key : String)
    (action : ReaderT ρ (ExceptT ε (StateM σ)) α) : Prop :=
  view.Keeps key (fun _ => True) action fun _ => True

namespace Keeps

variable {good : Entry → Prop} {post : α → Prop} {final : β → Prop}

theorem pure {a : α} (h : post a) :
    view.Keeps key good (Pure.pure a : ReaderT ρ (ExceptT ε (StateM σ)) α) post := by
  refine fun _ before hbefore => ⟨.ok a, before, .pure a before, hbefore, ?_⟩
  rintro _ ⟨⟩
  exact h

/-- Nothing has to be known of the result. -/
theorem done (a : α) : view.Keeps key good
    (Pure.pure a : ReaderT ρ (ExceptT ε (StateM σ)) α) fun _ => True :=
  .pure trivial

theorem throw (reason : ε) :
    view.Keeps key good (MonadExcept.throw reason : ReaderT ρ (ExceptT ε (StateM σ)) α) post :=
  fun _ before hbefore => ⟨.error reason, before, .throw reason before, hbefore, nofun⟩

/-- The second of two steps may count on what is known of the result of the first. -/
theorem bind (h : view.Keeps key good action post)
    (hnext : ∀ a, post a → view.Keeps key good (next a) final) :
    view.Keeps key good (action >>= next) final := by
  intro r before hbefore
  obtain ⟨result, between, hturns, hbetween, hresult⟩ := h r before hbefore
  cases result with
  | error reason => exact ⟨.error reason, between, hturns.bind_error, hbetween, nofun⟩
  | ok a =>
    obtain ⟨result', after, hturns', hafter, hresult'⟩ :=
      hnext a (hresult a rfl) r between hbetween
    exact ⟨result', after, hturns.bind hturns', hafter, hresult'⟩

end Keeps

/-- The others are left alone. -/
theorem IsLocal.eqExcept (h : view.IsLocal key action) (r : ρ) (s : σ) :
    view.EqExcept key s ((action.run r).run.run s).2 := by
  obtain ⟨result, after, hturns, -⟩ := h r (view.holds s key) fun _ _ => trivial
  obtain ⟨s', hrun, hexcept, -⟩ := hturns s rfl
  rwa [hrun]

/-- What is answered, and what is left of the key, depends on nothing else. -/
theorem IsLocal.congr (h : view.IsLocal key action) (r : ρ) {s s' : σ}
    (hs : view.holds s key = view.holds s' key) :
    ((action.run r).run.run s).1 = ((action.run r).run.run s').1 ∧
      view.holds ((action.run r).run.run s).2 key =
        view.holds ((action.run r).run.run s').2 key := by
  obtain ⟨result, after, hturns, -⟩ := h r (view.holds s key) fun _ _ => trivial
  obtain ⟨s₁, hrun, -, hafter⟩ := hturns s rfl
  obtain ⟨s₂, hrun', -, hafter'⟩ := hturns s' hs.symm
  rw [hrun, hrun', hafter, hafter']
  exact ⟨rfl, rfl⟩

end Turns

/-! ## Commands -/

variable {execute : Execution σ}

namespace IsDocumented

variable {before after : Option Entry} {lifetime : Nat} {value : String}
  {fields : Table String String} {e : Entry} (hdoc : view.IsDocumented execute)

include hdoc

theorem turns_command (c : Command) (reply : Reply)
    (h : ∀ s, view.holds s c.key = before → view.Does execute c now s reply after) :
    view.Turns c.key now (ServerAction.command execute c) before reply.result after := by
  intro s hs
  obtain ⟨hreply, hafter⟩ := h s hs
  refine ⟨(execute c now s).2, ?_, fun k hk => hdoc.others c now s k hk, hafter⟩
  rw [← hreply]
  rfl

theorem turns_get (key : String) (now : Nat) (before : Option Entry) :
    view.Turns key now (ServerAction.command execute (.get key)) before
      (textReply (before.filter (view.isThere key now))).result before := by
  refine hdoc.turns_command (.get key) (textReply _) ?_
  rintro s rfl
  exact hdoc.get key now s

theorem turns_set (key value : String) (before : Option Entry) (h : IsLifetime now lifetime) :
    view.Turns key now (ServerAction.command execute (.set key value lifetime)) before
      (.ok (.status "OK")) (some ⟨.text value, some (now + lifetime)⟩) :=
  hdoc.turns_command (.set key value lifetime) (.status "OK") fun s _ =>
    hdoc.set key value lifetime now s h

theorem turns_set_refused (key value : String) (before : Option Entry)
    (h : ¬ IsLifetime now lifetime) :
    view.Turns key now (ServerAction.command execute (.set key value lifetime)) before
      (.error .badLifetime) before := by
  refine hdoc.turns_command (.set key value lifetime) (.refused .badLifetime) ?_
  rintro s rfl
  exact hdoc.set_refused key value lifetime now s h

theorem turns_setNew (value : String) (h : IsLifetime now lifetime)
    (hfound : before.filter (view.isThere key now) = none) :
    view.Turns key now (ServerAction.command execute (.setNew key value lifetime)) before
      (.ok (.status "OK")) (some ⟨.text value, some (now + lifetime)⟩) := by
  refine hdoc.turns_command (.setNew key value lifetime) (.status "OK") ?_
  rintro s rfl
  exact hdoc.setNew key value lifetime now s h hfound

theorem turns_setNew_found (value : String) (h : IsLifetime now lifetime)
    (hfound : before.filter (view.isThere key now) = some e) :
    view.Turns key now (ServerAction.command execute (.setNew key value lifetime)) before
      (.ok .absent) before := by
  refine hdoc.turns_command (.setNew key value lifetime) .absent ?_
  rintro s rfl
  exact hdoc.setNew_found key value lifetime now s e h hfound

theorem turns_setNew_refused (key value : String) (before : Option Entry)
    (h : ¬ IsLifetime now lifetime) :
    view.Turns key now (ServerAction.command execute (.setNew key value lifetime)) before
      (.error .badLifetime) before := by
  refine hdoc.turns_command (.setNew key value lifetime) (.refused .badLifetime) ?_
  rintro s rfl
  exact hdoc.setNew_refused key value lifetime now s h

theorem turns_timeLeft (key : String) (now : Nat) (before : Option Entry) :
    view.Turns key now (ServerAction.command execute (.timeLeft key)) before
      (.ok (.integer (left now (before.filter (view.isThere key now))))) before := by
  refine hdoc.turns_command (.timeLeft key) (.integer _) ?_
  rintro s rfl
  exact hdoc.timeLeft key now s

theorem turns_fields (names : List String)
    (hfound : record? (before.filter (view.isThere key now)) = some fields) :
    view.Turns key now (ServerAction.command execute (.fields key names)) before
      (.ok (fieldsReply names fields)) before := by
  refine hdoc.turns_command (.fields key names) (fieldsReply _ _) ?_
  rintro s rfl
  exact hdoc.fields key names now s fields hfound

theorem turns_fields_refused (names : List String)
    (hfound : record? (before.filter (view.isThere key now)) = none) :
    view.Turns key now (ServerAction.command execute (.fields key names)) before
      (.error .wrongKind) before := by
  refine hdoc.turns_command (.fields key names) (.refused .wrongKind) ?_
  rintro s rfl
  exact hdoc.fields_refused key names now s hfound

theorem turns_setFields (changes : List (String × String))
    (hfound : record? (before.filter (view.isThere key now)) = some fields) :
    view.Turns key now (ServerAction.command execute (.setFields key changes)) before
      (.ok (.integer ((withFields fields changes).size - fields.size)))
      (some ⟨.record (withFields fields changes),
        (before.filter (view.isThere key now)).bind (·.expiry)⟩) := by
  refine hdoc.turns_command (.setFields key changes) (.integer _) ?_
  rintro s rfl
  exact hdoc.setFields key changes now s fields hfound

theorem turns_setFields_refused (changes : List (String × String))
    (hfound : record? (before.filter (view.isThere key now)) = none) :
    view.Turns key now (ServerAction.command execute (.setFields key changes)) before
      (.error .wrongKind) before := by
  refine hdoc.turns_command (.setFields key changes) (.refused .wrongKind) ?_
  rintro s rfl
  exact hdoc.setFields_refused key changes now s hfound

theorem turns_keep (h : IsLifetime now lifetime)
    (hfound : before.filter (view.isThere key now) = some e) :
    view.Turns key now (ServerAction.command execute (.keep key lifetime)) before
      (.ok (.integer 1)) (some { e with expiry := some (now + lifetime) }) := by
  refine hdoc.turns_command (.keep key lifetime) (.integer 1) ?_
  rintro s rfl
  exact hdoc.keep key lifetime now s e h hfound

theorem turns_keep_zero (h : Integer.Fits now)
    (hfound : before.filter (view.isThere key now) = some e) :
    view.Turns key now (ServerAction.command execute (.keep key 0)) before (.ok (.integer 1))
      none := by
  refine hdoc.turns_command (.keep key 0) (.integer 1) ?_
  rintro s rfl
  exact hdoc.keep_zero key now s e h hfound

theorem turns_keep_absent (h : Integer.Fits ((now : Int) + (lifetime : Nat)))
    (hfound : before.filter (view.isThere key now) = none) :
    view.Turns key now (ServerAction.command execute (.keep key lifetime)) before
      (.ok (.integer 0)) before := by
  refine hdoc.turns_command (.keep key lifetime) (.integer 0) ?_
  rintro s rfl
  exact hdoc.keep_absent key lifetime now s h hfound

theorem turns_keep_refused (key : String) (before : Option Entry)
    (h : ¬ Integer.Fits ((now : Int) + (lifetime : Nat))) :
    view.Turns key now (ServerAction.command execute (.keep key lifetime)) before
      (.error .badLifetime) before := by
  refine hdoc.turns_command (.keep key lifetime) (.refused .badLifetime) ?_
  rintro s rfl
  exact hdoc.keep_refused key lifetime now s h

end IsDocumented

/-- What becomes of a key with a command whose answer does not matter. -/
theorem Turns.tell {c : Command} {before after : Option Entry} {reply : Reply}
    (h : view.Turns key now (ServerAction.command execute c) before (.ok reply) after) :
    view.Turns key now (ServerAction.tell execute c) before (.ok ()) after :=
  h.bind (.pure () after)

theorem Turns.tell_error {c : Command} {before after : Option Entry} {reason : Refusal}
    (h : view.Turns key now (ServerAction.command execute c) before (.error reason) after) :
    view.Turns key now (ServerAction.tell execute c) before (.error reason) after :=
  h.bind_error

/-! ## What commands keep -/

/-- A record that is good, or the one without fields that a key has which is not there. -/
def IsGoodRecord (good : Entry → Prop) (fields : Table String String) : Prop :=
  fields = ∅ ∨ ∃ expiry, good ⟨.record fields, expiry⟩

/-- Whether what a command puts under its key is good. -/
def Puts (good : Entry → Prop) : Command → Prop
  | .set _ value _ | .setNew _ value _ => ∀ x : Nat, Integer.Fits x → good ⟨.text value, some x⟩
  | .setFields _ changes => ∀ fields expiry, IsGoodRecord good fields →
    good ⟨.record (withFields fields changes), expiry⟩
  | .keep _ _ => ∀ (e : Entry) (x : Nat), good e → Integer.Fits x → good { e with expiry := some x }
  | .get _ | .timeLeft _ | .fields _ _ => True

/-- What is known of the answer to a command if what its key holds is good. -/
def Reads (good : Entry → Prop) : Command → Reply → Prop
  | .fields _ names, reply => ∃ fields, IsGoodRecord good fields ∧ reply = fieldsReply names fields
  | _, _ => True

variable {good : Entry → Prop}

theorem isGoodRecord_of_record? {before : Option Entry} {fields : Table String String}
    (hbefore : ∀ e ∈ before, good e)
    (hfound : record? (before.filter (view.isThere key now)) = some fields) :
    IsGoodRecord good fields := by
  cases hfilter : before.filter (view.isThere key now) with
  | none =>
    rw [hfilter] at hfound
    exact .inl (Option.some_inj.1 hfound).symm
  | some e =>
    rw [hfilter] at hfound
    obtain ⟨d, expiry⟩ := e
    cases d with
    | text s => cases hfound
    | record fields' =>
      cases hfound
      exact .inr ⟨expiry, hbefore _ (Option.filter_eq_some_iff.1 hfilter).1⟩

/-- A command keeps what is good under its key, whatever becomes of it. -/
theorem IsDocumented.keeps_command (hdoc : view.IsDocumented execute) {c : Command}
    (hputs : Puts good c) :
    view.Keeps c.key good (ServerAction.command execute c) (Reads good c) := by
  intro now before hbefore
  have hfits {lifetime : Nat} (h : IsLifetime now lifetime) :
      Integer.Fits ((now + lifetime : Nat) : Int) := by
    exact_mod_cast h.2
  cases c with
  | get key => exact ⟨_, before, hdoc.turns_get key now before, hbefore, fun _ _ => trivial⟩
  | timeLeft key =>
    exact ⟨_, before, hdoc.turns_timeLeft key now before, hbefore, fun _ _ => trivial⟩
  | set key value lifetime =>
    by_cases hlife : IsLifetime now lifetime
    · refine ⟨_, _, hdoc.turns_set key value before hlife, ?_, fun _ _ => trivial⟩
      rintro _ ⟨⟩
      exact hputs _ (hfits hlife)
    · exact ⟨_, before, hdoc.turns_set_refused key value before hlife, hbefore, nofun⟩
  | setNew key value lifetime =>
    by_cases hlife : IsLifetime now lifetime
    · cases hfound : before.filter (view.isThere key now) with
      | none =>
        refine ⟨_, _, hdoc.turns_setNew value hlife hfound, ?_, fun _ _ => trivial⟩
        rintro _ ⟨⟩
        exact hputs _ (hfits hlife)
      | some e =>
        exact ⟨_, before, hdoc.turns_setNew_found value hlife hfound, hbefore, fun _ _ => trivial⟩
    · exact ⟨_, before, hdoc.turns_setNew_refused key value before hlife, hbefore, nofun⟩
  | fields key names =>
    cases hfound : record? (before.filter (view.isThere key now)) with
    | none => exact ⟨_, before, hdoc.turns_fields_refused names hfound, hbefore, nofun⟩
    | some fields =>
      refine ⟨_, before, hdoc.turns_fields names hfound, hbefore, ?_⟩
      rintro _ ⟨⟩
      exact ⟨fields, isGoodRecord_of_record? hbefore hfound, rfl⟩
  | setFields key changes =>
    cases hfound : record? (before.filter (view.isThere key now)) with
    | none => exact ⟨_, before, hdoc.turns_setFields_refused changes hfound, hbefore, nofun⟩
    | some fields =>
      refine ⟨_, _, hdoc.turns_setFields changes hfound, ?_, fun _ _ => trivial⟩
      rintro _ ⟨⟩
      exact hputs _ _ (isGoodRecord_of_record? hbefore hfound)
  | keep key lifetime =>
    by_cases hreach : Integer.Fits ((now : Int) + lifetime)
    · cases hfound : before.filter (view.isThere key now) with
      | none =>
        exact ⟨_, before, hdoc.turns_keep_absent hreach hfound, hbefore, fun _ _ => trivial⟩
      | some e =>
        have hgood := hbefore e (Option.filter_eq_some_iff.1 hfound).1
        rcases Nat.eq_zero_or_pos lifetime with rfl | hpos
        · exact ⟨_, none, hdoc.turns_keep_zero (by simpa using hreach) hfound, nofun,
            fun _ _ => trivial⟩
        · refine ⟨_, _, hdoc.turns_keep ⟨hpos, hreach⟩ hfound, ?_, fun _ _ => trivial⟩
          rintro _ ⟨⟩
          exact hputs e _ hgood (hfits ⟨hpos, hreach⟩)
    · exact ⟨_, before, hdoc.turns_keep_refused key before hreach, hbefore, nofun⟩

theorem IsDocumented.keeps_tell (hdoc : view.IsDocumented execute) {c : Command}
    (hputs : Puts good c) :
    view.Keeps c.key good (ServerAction.tell execute c) fun _ => True :=
  (hdoc.keeps_command hputs).bind fun _ _ => .done ()

namespace Keeps

theorem number (s : Option String) : view.Keeps key good (ServerAction.number s) fun n =>
    ∃ m, (s.bind fun s => Integer.ofText? s.toList) = some m ∧ n = Binary64.roundInt m := by
  rw [ServerAction.number]
  split
  · next m hm => exact .pure ⟨m, hm, rfl⟩
  · exact .throw _

theorem integer (reply : Reply) :
    view.Keeps key good (ServerAction.integer reply) fun _ => True := by
  rw [ServerAction.integer.eq_def]
  split
  · exact .pure trivial
  · exact .throw _

end Keeps

end View

end GatewayClient
