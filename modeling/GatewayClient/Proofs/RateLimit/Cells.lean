import GatewayClient.Proofs.RateLimit.Entries
import GatewayClient.Proofs.RateLimit.Window

/-!
# Cells of accounts

Each operation of a store is about one thing that the accounts keep: a bucket, the name of the
bucket of a route, a handshake slot, or the lockout of the account. It is answered by what this
cell holds and leaves the others alone, in memory as on a server, whatever they hold and even
if the server refuses it halfway. So an operation is answered as if none had come before it
that is about another cell.

* `IsAbout`: a step that is known from one part of the state.
* `Store.IsKeyed`: a store each of whose operations is about one cell.
* `MemoryAccounts.isKeyed`, `SharedAccounts.isKeyed`: so are accounts in memory and on a server
  that does what is documented.
* `Store.IsKeyed.answer_after`: operations on other cells are not noticed.
-/

namespace GatewayClient

open SharedAccounts

/-- Whether what a step answers, and what it leaves of a part of the state, is known from what
    this part was. -/
def IsAbout {ρ ε σ γ α : Type} (part : σ → γ)
    (action : ReaderT ρ (ExceptT ε (StateM σ)) α) : Prop :=
  ∀ r s s', part s = part s' →
    ((action.run r).run.run s).1 = ((action.run r).run.run s').1 ∧
      part ((action.run r).run.run s).2 = part ((action.run r).run.run s').2

/-! ## Accounts in memory -/

namespace MemoryAccounts

/-- What accounts in memory hold in one cell. -/
inductive Cell where
  | bucket (known : Option Bucket)
  | name (known : Option String)
  | slot (held : Option Instant)
  | lockout (lockedUntil : Option Instant)

/-- What is held in a cell. -/
def cell (m : MemoryAccounts) : AccountKey → Cell
  | .bucket key => .bucket (m.buckets.get? key)
  | .name route => .name (m.names.get? route)
  | .slot n => .slot (m.slots.get? n)
  | .lockout => .lockout m.lockedUntil

variable {m m' : MemoryAccounts} {now : Instant} {call : StoreCall} {k : AccountKey}

/-- What an operation leaves of a cell depends on nothing else. -/
theorem cell_perform_congr (h : m.cell k = m'.cell k) :
    ((store.perform call).runAt now m).2.cell k = ((store.perform call).runAt now m').2.cell k := by
  cases k with
  | bucket key => rw [cell, cell, bucket_perform, bucket_perform, Cell.bucket.inj h]
  | name route => rw [cell, cell, names_perform, names_perform, Cell.name.inj h]
  | slot n => rw [cell, cell, slots_perform, slots_perform, Cell.slot.inj h]
  | lockout => rw [cell, cell, lockedUntil_perform, lockedUntil_perform, Cell.lockout.inj h]

/-- An operation leaves the cells alone that it is not about. -/
theorem cell_perform_of_ne (h : k ≠ subject call) :
    ((store.perform call).runAt now m).2.cell k = m.cell k := by
  cases k with
  | bucket key =>
    rw [cell, bucket_perform]
    cases call with
    | take k' =>
      have hne : k' ≠ key := fun hk => h (hk ▸ rfl)
      exact congrArg Cell.bucket (if_neg hne)
    | record k' u =>
      have hne : k' ≠ key := fun hk => h (hk ▸ rfl)
      exact congrArg Cell.bucket (if_neg hne)
    | _ => rfl
  | name route =>
    rw [cell, names_perform]
    cases call with
    | learnBucket r name =>
      have hne : r ≠ route := fun hr => h (hr ▸ rfl)
      exact congrArg Cell.name (if_neg hne)
    | _ => rfl
  | slot n =>
    rw [cell, slots_perform]
    cases call with
    | trySlot n' d =>
      have hne : n' ≠ n := fun hn => h (hn ▸ rfl)
      exact congrArg Cell.slot (if_neg fun hn => hne hn.1)
    | _ => rfl
  | lockout =>
    rw [cell, lockedUntil_perform]
    cases call with
    | lockout => exact absurd rfl h
    | lockOut d => exact absurd rfl h
    | _ => rfl

/-- An operation is answered by the cell that it is about. -/
theorem perform_fst_congr (h : m.cell (subject call) = m'.cell (subject call)) :
    ((store.perform call).runAt now m).1 = ((store.perform call).runAt now m').1 := by
  cases call with
  | take key => rw [perform_take, perform_take, take_fst, take_fst, Cell.bucket.inj h]
  | lockout => rw [perform_lockout, perform_lockout, lockout_fst, lockout_fst, Cell.lockout.inj h]
  | bucketOf route => rw [perform_bucketOf, perform_bucketOf, Cell.name.inj h]
  | trySlot n d =>
    simp only [Store.perform, store, bind_pure_comp, StoreAction.runAt_map, StoreAction.runAt_of,
      trySlot?, Cell.slot.inj h]
    cases (m'.slots.get? n).filter (now < ·) with
    | some held => rfl
    | none => cases Instant.after? now d <;> rfl
  | lockOut d =>
    simp only [Store.perform, store, bind_pure_comp, StoreAction.runAt_map, StoreAction.runAt_of,
      lockOut?]
    cases Instant.after? now d <;> rfl
  | record key u =>
    simp only [Store.perform, store, bind_pure_comp, StoreAction.runAt_map, StoreAction.runAt_of]
  | learnBucket route name => rfl

end MemoryAccounts

/-! ## Cells -/

/-- Whether each operation on accounts is about one cell. Accounts may be the same for all that
    can be seen of them without being equal. -/
structure Store.IsKeyed {σ γ : Type} (store : Store σ) (cell : σ → AccountKey → γ)
    (same : σ → σ → Prop) : Prop where
  /-- What it answers and leaves there is known from what this cell held. -/
  about : ∀ call, IsAbout (cell · (subject call)) (store.perform call)
  others : ∀ call now s k, k ≠ subject call →
    cell ((store.perform call).runAt now s).2 k = cell s k
  /-- To ask for a name changes nothing at all. -/
  asks : ∀ route now s, same s ((store.perform (.bucketOf route)).runAt now s).2
  cell_eq : ∀ {s s'}, same s s' → ∀ k, cell s' k = cell s k

theorem MemoryAccounts.isKeyed : store.IsKeyed cell Eq :=
  ⟨fun _ _ _ _ h => ⟨perform_fst_congr h, cell_perform_congr h⟩,
    fun _ _ _ _ h => cell_perform_of_ne h, fun _ _ _ => rfl, fun h _ => h ▸ rfl⟩

theorem SharedAccounts.isKeyed {σ : Type} {view : View σ} {execute : Execution σ}
    (hdoc : view.IsDocumented execute) (epoch : Nat) :
    (store execute epoch).IsKeyed (fun s k => view.holds s k.text) view.Same :=
  ⟨fun call now _ _ h => (isLocal_perform hdoc epoch call).congr now h,
    fun call now s _ h => (isLocal_perform hdoc epoch call).eqExcept now s _
      (mt AccountKey.text_injective h),
    fun route now s => same_perform_bucketOf hdoc epoch route now s, fun h k => h k.text⟩

namespace Store.IsKeyed

variable {σ γ : Type} {store : Store σ} {cell : σ → AccountKey → γ} {same : σ → σ → Prop}

/-- Operations on other cells leave a cell alone. -/
theorem cell_after (h : store.IsKeyed cell same) {k : AccountKey} :
    ∀ (calls : List TimedCall) (s : σ), (∀ c ∈ calls, k ≠ subject c.call) →
      cell (store.after calls s) k = cell s k
  | [], _, _ => rfl
  | c :: rest, s, hcalls =>
    (h.cell_after rest _ fun c' hc' => hcalls c' (List.mem_cons_of_mem _ hc')).trans
      (h.others c.call c.time s k (hcalls c (List.mem_cons_self ..)))

/-- An operation is answered as if none had come before that is about another cell. -/
theorem answer_after (h : store.IsKeyed cell same) {calls : List TimedCall} {call : StoreCall}
    (hcalls : ∀ c ∈ calls, subject call ≠ subject c.call) (now : Instant) (s : σ) :
    ((store.perform call).runAt now (store.after calls s)).1 =
      ((store.perform call).runAt now s).1 :=
  (h.about call now _ _ (h.cell_after calls s hcalls)).1

end Store.IsKeyed

end GatewayClient
