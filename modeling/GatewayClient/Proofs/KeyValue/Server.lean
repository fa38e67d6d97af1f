import GatewayClient.KeyValue.Server

/-!
# A server that does what is documented

* `Server.isDocumented`: a server that keeps its keys in a table does what is documented.
-/

namespace GatewayClient

namespace Server

variable {s : Server} {key k : String} {e : Entry}

@[simp] theorem holds_put_self (s : Server) (key : String) (e : Entry) :
    view.holds (s.put key e) key = some e :=
  s.entries.get?_insert_self key e

theorem holds_put_of_ne (e : Entry) (h : k ≠ key) :
    view.holds (s.put key e) k = view.holds s k :=
  s.entries.get?_insert_of_ne e h.symm

@[simp] theorem holds_remove_self (s : Server) (key : String) :
    view.holds (s.remove key) key = none :=
  (s.entries.get?_erase key key).trans (if_pos rfl)

theorem holds_remove_of_ne (h : k ≠ key) : view.holds (s.remove key) k = view.holds s k :=
  (s.entries.get?_erase key k).trans (if_neg h.symm)

theorem holds_execute_of_ne (c : Command) (now : Nat) (h : k ≠ c.key) :
    view.holds (execute c now s).2 k = view.holds s k := by
  cases c with
  | get key => rfl
  | timeLeft key => rfl
  | set key value lifetime =>
    simp only [execute]
    split
    · exact holds_put_of_ne _ h
    · rfl
  | setNew key value lifetime =>
    simp only [execute]
    split
    · split
      · rfl
      · exact holds_put_of_ne _ h
    · rfl
  | fields key names =>
    simp only [execute]
    split <;> rfl
  | setFields key changes =>
    simp only [execute]
    split
    · exact holds_put_of_ne _ h
    · rfl
  | keep key lifetime =>
    simp only [execute]
    split
    · split
      · split
        · exact holds_remove_of_ne h
        · exact holds_put_of_ne _ h
      · rfl
    · rfl

/-- A server that keeps its keys in a table does what is documented. -/
theorem isDocumented : view.IsDocumented execute where
  others c now s _ h := holds_execute_of_ne c now h
  get key now s := ⟨rfl, rfl⟩
  set key value lifetime now s h := by
    simp [View.Does, execute, Command.key, h]
  set_refused key value lifetime now s h := by
    simp [View.Does, execute, Command.key, h]
  setNew key value lifetime now s h hfound := by
    simp [View.Does, execute, Command.key, h, hfound]
  setNew_found key value lifetime now s e h hfound := by
    simp [View.Does, execute, Command.key, h, hfound]
  setNew_refused key value lifetime now s h := by
    simp [View.Does, execute, Command.key, h]
  timeLeft key now s := ⟨rfl, rfl⟩
  fields key names now s fields hfound := by
    simp [View.Does, execute, Command.key, hfound]
  fields_refused key names now s hfound := by
    simp [View.Does, execute, Command.key, hfound]
  setFields key changes now s fields hfound := by
    simp [View.Does, execute, Command.key, hfound]
  setFields_refused key changes now s hfound := by
    simp [View.Does, execute, Command.key, hfound]
  keep key lifetime now s e h hfound := by
    simp [View.Does, execute, Command.key, h.2, hfound, Nat.ne_of_gt h.1]
  keep_zero key now s e h hfound := by
    simp [View.Does, execute, Command.key, h, hfound]
  keep_absent key lifetime now s h hfound := by
    simp [View.Does, execute, Command.key, h, hfound]
  keep_refused key lifetime now s h := by
    simp [View.Does, execute, Command.key, h]

end Server

end GatewayClient
