/-!
# Tables

A finite map as a list of entries with distinct keys. A table is only ever
looked at through `get?`: two tables that answer alike are the same to the
client, in whatever order their entries came.

* `Table.get?_insert`, `Table.get?_erase`: what one change does to the answers.
-/

namespace GatewayClient

/-- A finite map from `κ` to `α`. -/
structure Table (κ α : Type) where
  /-- The entries; the first one with a key counts. -/
  entries : List (κ × α)
  deriving Repr

namespace Table

variable {κ α : Type}

/-- The table without entries. -/
def empty : Table κ α := ⟨[]⟩

instance : EmptyCollection (Table κ α) := ⟨empty⟩

instance : Inhabited (Table κ α) := ⟨empty⟩

variable [DecidableEq κ]

/-- The value under a key. -/
def get? (t : Table κ α) (k : κ) : Option α := (t.entries.find? fun e => e.1 = k).map Prod.snd

/-- The entries with `v` under `k`, which replaces what is there or comes last. -/
def put (k : κ) (v : α) : List (κ × α) → List (κ × α)
  | [] => [(k, v)]
  | e :: rest => if e.1 = k then (k, v) :: rest else e :: put k v rest

/-- The table with a value under a key. -/
def insert (t : Table κ α) (k : κ) (v : α) : Table κ α := ⟨put k v t.entries⟩

/-- The table without a key. -/
def erase (t : Table κ α) (k : κ) : Table κ α := ⟨t.entries.filter fun e => e.1 ≠ k⟩

/-- The number of entries. -/
def size (t : Table κ α) : Nat := t.entries.length

@[simp] theorem get?_empty (k : κ) : (∅ : Table κ α).get? k = none := rfl

theorem find?_put (k k' : κ) (v : α) (es : List (κ × α)) :
    ((put k v es).find? fun e => e.1 = k').map Prod.snd =
      if k = k' then some v else (es.find? fun e => e.1 = k').map Prod.snd := by
  induction es with
  | nil => by_cases h : k = k' <;> simp [put, h]
  | cons e rest ih =>
    unfold put
    by_cases he : e.1 = k
    · by_cases h : k = k' <;> simp [he, h]
    · rw [if_neg he]
      by_cases h' : e.1 = k'
      · have hk : k ≠ k' := fun h => he (h'.trans h.symm)
        simp [h', hk]
      · simp [h', ih]

/-- A change is seen under its own key and nowhere else. -/
theorem get?_insert (t : Table κ α) (k k' : κ) (v : α) :
    (t.insert k v).get? k' = if k = k' then some v else t.get? k' :=
  find?_put k k' v t.entries

@[simp] theorem get?_insert_self (t : Table κ α) (k : κ) (v : α) :
    (t.insert k v).get? k = some v := by
  simp [get?_insert]

theorem get?_insert_of_ne (t : Table κ α) {k k' : κ} (v : α) (h : k ≠ k') :
    (t.insert k v).get? k' = t.get? k' := by
  simp [get?_insert, h]

/-- An erased key has no value, and the others keep theirs. -/
theorem get?_erase (t : Table κ α) (k k' : κ) :
    (t.erase k).get? k' = if k = k' then none else t.get? k' := by
  unfold get? erase
  induction t.entries with
  | nil => simp
  | cons e rest ih =>
    by_cases he : e.1 = k
    · by_cases h : k = k'
      · simp_all
      · simp_all
    · by_cases h : k = k'
      · subst h
        simp_all
      · by_cases h' : e.1 = k' <;> simp_all

end Table

end GatewayClient
