import GatewayClient.Proofs.Shard.Lifecycle
import Mathlib.Data.List.TakeWhile

/-!
# Where a shard connects

The address of an attempt and what it says once it is connected come of the same session: where
the session is resumed and was announced with an address, the attempt goes there, with the
query of the configured address unless the announced one has its own; otherwise it goes to the
configured address.

* `Address.place`, `Address.query?`: the parts of an address.
* `Session.IsResumeTarget`: the address at which a session is resumed, part by part.
* `SessionHistory.ResumesAt`: the next connection resumes a session that was announced with an
  address.
* `Shard.target_run`: where the next attempt goes after any run.
-/

namespace GatewayClient

/-! ## Cutting text -/

namespace Trim

variable {c : Char} {cs before rest : List Char}

/-- A text is cut at the first of the characters. -/
theorem cut?_append (h : c ∉ before) : cut? c (before ++ c :: rest) = some (before, rest) := by
  have hbefore : ∀ d ∈ before, decide (d ≠ c) = true := fun d hd =>
    decide_eq_true fun heq => h (heq ▸ hd)
  rw [cut?, List.dropWhile_append_of_pos hbefore, List.takeWhile_append_of_pos hbefore]
  simp

theorem cut?_of_not_mem (h : c ∉ cs) : cut? c cs = none := by
  have hcs : cs.dropWhile (· ≠ c) = [] := List.dropWhile_eq_nil_iff.2 fun d hd =>
    decide_eq_true fun heq => h (heq ▸ hd)
  rw [cut?, hcs]

/-- What is trimmed off the end are the same characters, as often as they are there. -/
theorem exists_right_append (c : Char) (cs : List Char) :
    ∃ n, cs = right (· = c) cs ++ List.replicate n c := by
  have hall : ∀ d ∈ cs.reverse.takeWhile (· = c), d = c := fun d hd => by
    simpa using List.mem_takeWhile_imp (p := fun d => decide (d = c)) hd
  refine ⟨(cs.reverse.takeWhile (· = c)).length, ?_⟩
  calc cs = (cs.reverse.takeWhile (· = c) ++ cs.reverse.dropWhile (· = c)).reverse := by
        rw [List.takeWhile_append_dropWhile, List.reverse_reverse]
    _ = right (· = c) cs ++ (cs.reverse.takeWhile (· = c)).reverse := List.reverse_append
    _ = right (· = c) cs ++ List.replicate (cs.reverse.takeWhile (· = c)).length c := by
        rw [List.eq_replicate_of_mem hall, List.reverse_replicate, List.length_replicate]

end Trim

/-! ## Addresses -/

namespace Address

/-- What comes before the query of an address. -/
def place (s : String) : List Char := ((Trim.cut? '?' s.toList).map Prod.fst).getD s.toList

/-- The query of an address, after its first question mark. -/
def query? (s : String) : Option (List Char) := (Trim.cut? '?' s.toList).map Prod.snd

variable {s : String} {before rest : List Char}

/-- An address is one without a query, or has a first question mark. -/
theorem cases (s : String) : ('?' ∉ s.toList ∧ place s = s.toList ∧ query? s = none) ∨
    ∃ before rest, '?' ∉ before ∧ s.toList = before ++ '?' :: rest ∧ place s = before ∧
      query? s = some rest := by
  by_cases hmark : '?' ∈ s.toList
  · obtain ⟨before, rest, hs, hbefore⟩ := List.eq_append_cons_of_mem hmark
    have hcut : Trim.cut? '?' (before ++ '?' :: rest) = some (before, rest) :=
      Trim.cut?_append hbefore
    exact .inr ⟨before, rest, hbefore, hs, by simp [place, hs, hcut], by simp [query?, hs, hcut]⟩
  · have hcut := Trim.cut?_of_not_mem hmark
    exact .inl ⟨hmark, by simp [place, hcut], by simp [query?, hcut]⟩

end Address

namespace Session

open Address

/-- An address at which a session is resumed that was announced with another one: the same up
    to slashes before the query, with the query of the configured address unless the announced
    one has its own. -/
structure IsResumeTarget (announced configured target : String) : Prop where
  place : ∃ core m n, Address.place target = core ++ List.replicate m '/' ∧
    Address.place announced = core ++ List.replicate n '/'
  query : query? target = (query? announced).or (query? configured)
  /-- Where the session is resumed at that address, it goes there again. -/
  stable : resumeTarget target configured = target

theorem isResumeTarget (announced configured : String) :
    IsResumeTarget announced configured (resumeTarget announced configured) := by
  have hsame : ∃ core m n, place announced = core ++ List.replicate m '/' ∧
      place announced = core ++ List.replicate n '/' := ⟨place announced, 0, 0, by simp⟩
  rcases Address.cases configured with ⟨-, -, hquery⟩ | ⟨_, query, -, -, -, hquery⟩
  · -- No query is configured: the address is the announced one.
    have hcut : Trim.cut? '?' configured.toList = .none := by simpa [query?] using hquery
    have htarget (s : String) : resumeTarget s configured = s := by rw [resumeTarget, hcut]
    rw [htarget]
    exact ⟨hsame, by rw [hquery, Option.or_none], htarget announced⟩
  obtain ⟨before, hcut⟩ : ∃ before, Trim.cut? '?' configured.toList = some (before, query) := by
    simpa [query?] using hquery
  have htarget {s : String} (hs : s.toList.contains '?') : resumeTarget s configured = s := by
    simp only [resumeTarget, hcut, hs, if_true]
  rcases Address.cases announced with ⟨hmark, hplace, hown⟩ | ⟨_, own, -, hs, -, hown⟩
  · -- The announced address has no query and gets the configured one, behind one slash.
    obtain ⟨n, hslashes⟩ := Trim.exists_right_append '/' announced.toList
    generalize hcore : Trim.right (· = '/') announced.toList = core at hslashes
    have hcontains : announced.toList.contains '?' = false := by simpa using hmark
    have htext : resumeTarget announced configured =
        String.ofList ((core ++ ['/']) ++ '?' :: query) := by
      simp only [resumeTarget, hcut, hcontains, Bool.false_eq_true, if_false, hcore,
        List.append_assoc, List.singleton_append]
    have hnone : '?' ∉ core ++ ['/'] := by
      rw [hslashes] at hmark
      simpa using fun h => hmark (List.mem_append_left _ h)
    have hparts : Trim.cut? '?' (resumeTarget announced configured).toList =
        some (core ++ ['/'], query) := by
      rw [htext, String.toList_ofList, Trim.cut?_append hnone]
    refine ⟨⟨core, 1, n, ?_, ?_⟩, ?_, htarget ?_⟩
    · rw [Address.place, hparts]
      rfl
    · rw [hplace, ← hslashes]
    · rw [query?, hparts, hown, hquery]
      rfl
    · simp [htext]
  · have hmark : announced.toList.contains '?' := by simp [hs]
    rw [htarget hmark]
    exact ⟨hsame, by rw [hown, Option.some_or], htarget hmark⟩

example : resumeTarget "wss://a//" "ws://b?v=10" = "wss://a/?v=10" := by decide

end Session

/-! ## Sessions that were announced with an address -/

namespace SessionHistory

variable {h later earlier : SessionHistory} {e : SessionEvent}

/-- The address that a shard knows is the one that the session was announced with that was last
    opened. -/
theorem resumeUrl_replay : (replay h .none).resumeUrl = (opening? h).bind (·.1.resumeUrl) := by
  induction h with
  | nil => rfl
  | cons e h ih =>
    cases e with
    | numbered n =>
      rw [opening?_numbered]
      exact ih
    | opened r sequence =>
      rw [opening?_opened]
      rfl
    | voided =>
      rw [opening?_voided]
      rfl

/-- The next connection resumes a session that was announced with an address. -/
def ResumesAt (h : SessionHistory) (announced : String) : Prop :=
  ∃ r sequence n, h.opening? = some (r, sequence) ∧ r.resumeUrl = some announced ∧
    h.handshake = .resume r.sessionId n

theorem ResumesAt.unique {announced announced' : String} (h₁ : h.ResumesAt announced)
    (h₂ : h.ResumesAt announced') : announced = announced' := by
  obtain ⟨r, sequence, n, hopen, hannounced, -⟩ := h₁
  obtain ⟨r', sequence', n', hopen', hannounced', -⟩ := h₂
  cases hopen.symm.trans hopen'
  exact Option.some.inj (hannounced.symm.trans hannounced')

/-- The next connection goes to such an address, and where there is none to the configured
    one. -/
theorem connectUrl_replay (h : SessionHistory) (configured : String) :
    (∃ announced, h.ResumesAt announced ∧
      (replay h .none).connectUrl configured = Session.resumeTarget announced configured) ∨
    (∀ announced, ¬ h.ResumesAt announced) ∧
      (replay h .none).connectUrl configured = configured := by
  by_cases hresumes : ∃ announced, h.ResumesAt announced
  · obtain ⟨announced, r, sequence, n, hopen, hannounced, hhandshake⟩ := hresumes
    refine .inl ⟨announced, ⟨r, sequence, n, hopen, hannounced, hhandshake⟩, ?_⟩
    simp only [Session.connectUrl, resumeUrl_replay, handshake_replay, hopen, Option.bind_some,
      hannounced, hhandshake]
  · refine .inr ⟨not_exists.1 hresumes, ?_⟩
    simp only [Session.connectUrl, resumeUrl_replay, handshake_replay]
    split
    · rename_i announced id n hannounced hhandshake
      obtain ⟨⟨r, sequence⟩, hopen, hannounced⟩ := Option.bind_eq_some_iff.1 hannounced
      have hid : r.sessionId = id := by
        rw [handshake, hopen] at hhandshake
        cases hmax : h.numbers.max? with
        | none => simp [hmax] at hhandshake
        | some m =>
          rw [hmax] at hhandshake
          cases hhandshake
          rfl
      exact absurd ⟨announced, r, sequence, n, hopen, hannounced, hid ▸ hhandshake⟩ hresumes
    · rfl

/-- What was before a session was opened, or void, has no effect any more. -/
theorem replay_append (he : e = .voided ∨ e.opening?.isSome) (later earlier : SessionHistory) :
    replay (later ++ e :: earlier) .none = replay (later ++ [e]) .none := by
  have hforgets (s s' : Session) : e.apply s = e.apply s' := by
    cases e with
    | voided => rfl
    | opened r sequence => rfl
    | numbered n => simp [SessionEvent.opening?] at he
  simp only [replay, List.foldr_append, List.foldr_cons, List.foldr_nil]
  rw [hforgets]

end SessionHistory

/-! ## The next attempt -/

namespace Shard

open SessionHistory

variable {Listener : Type}

/-- After any run the next attempt goes where the trace of the history says. -/
theorem dialed_run (index : Nat) (config : ShardConfig) (bus : Bus Listener)
    (ops : List Operation) (a : Attempt) :
    (((Shard.new index config).run bus ops).2.connect a).dialed =
      (replay ((Shard.new index config).history bus ops) .none).connectUrl config.url := by
  have hconfig : ((Shard.new index config).run bus ops).2.config = config :=
    congrArg Prod.snd ((Shard.new index config).identity_run bus ops)
  rw [dialed_connect, session_run, hconfig]
  rfl

/-- Target and handshake agree. After any run the next attempt says what the history of the
    session says, and goes where it says: where a session is resumed that was announced with an
    address, to a target of it, and else to the configured address. What was before a session
    was opened, or void, has no part in it. -/
theorem target_run (index : Nat) (config : ShardConfig) (bus : Bus Listener)
    (ops : List Operation) (a : Attempt) :
    let attempted := ((Shard.new index config).run bus ops).2.connect a
    let h := (Shard.new index config).history bus ops
    (∀ c e, (c, Sending.message e) ∈ attempted.sent →
      e.members = h.handshake.members index config) ∧
    (∀ announced, h.ResumesAt announced →
      Session.IsResumeTarget announced config.url attempted.dialed) ∧
    ((∀ announced, ¬ h.ResumesAt announced) → attempted.dialed = config.url) ∧
    ∀ later e earlier, h = later ++ e :: earlier → (e = .voided ∨ e.opening?.isSome) →
      attempted.dialed = (replay (later ++ [e]) .none).connectUrl config.url := by
  intro attempted h
  have hdialed : attempted.dialed = (replay h .none).connectUrl config.url :=
    dialed_run index config bus ops a
  refine ⟨fun c e hmem => ((mem_sent_connect_iff index config bus ops a c e).1 hmem).2.2.2.2,
    fun announced hresumes => ?_, fun hnone => ?_, fun later e earlier hsplit he => ?_⟩
  · rcases connectUrl_replay h config.url with ⟨announced', hresumes', hurl⟩ | ⟨hnone, -⟩
    · rw [hdialed, hurl, hresumes.unique hresumes']
      exact Session.isResumeTarget announced' config.url
    · exact absurd hresumes (hnone announced)
  · rcases connectUrl_replay h config.url with ⟨announced, hresumes, -⟩ | ⟨-, hurl⟩
    · exact absurd hresumes (hnone announced)
    · exact hdialed.trans hurl
  · rw [hdialed, hsplit, replay_append he]

/-- A session that was announced with the address `w/` is resumed there, with the configured
    query. -/
theorem target_run_interrupted :
    let attempted := ((new 0 { url := "u?q" }).run (.empty : Bus Unit) interrupted).2.connect
      ⟨some 1, .brief, .ok (), true⟩
    let h := (new 0 { url := "u?q" }).history (.empty : Bus Unit) interrupted
    h.ResumesAt "w/" ∧ Session.IsResumeTarget "w/" "u?q" attempted.dialed ∧
      attempted.dialed = "w/?q" ∧
      h.handshake.members 0 { url := "u?q" } = [("op", .ofNat 6), ("d", .object
        [("seq", .ofNat 5), ("session_id", .string "a"), ("token", .string "")])] := by
  intro attempted h
  have hhistory : h = [.numbered 5, .opened ⟨none, "a", some "w/", none⟩ (some 1), .numbered 1] :=
    history_interrupted _
  have hresumes : h.ResumesAt "w/" := by
    rw [hhistory]
    exact ⟨_, _, 5, rfl, rfl, rfl⟩
  refine ⟨hresumes, (target_run 0 { url := "u?q" } .empty interrupted _).2.1 "w/" hresumes, ?_, ?_⟩
  · have hdialed := dialed_run 0 { url := "u?q" } (.empty : Bus Unit) interrupted
      ⟨some 1, .brief, .ok (), true⟩
    rw [history_interrupted] at hdialed
    exact hdialed.trans (by decide)
  · rw [hhistory]
    rfl

end Shard

end GatewayClient
