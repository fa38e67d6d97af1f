import GatewayClient.Json.Record
import GatewayClient.Proofs.Json.Value

/-!
# Records of written objects

What the fields of a record are where an object is written for it: the members that the
object was put together from, in whatever order they came.

* `Value.natural?_ofNat`: a number as it is read.
* `Value.fields_ofMembers`: the fields of an object.
-/

namespace GatewayClient.Json.Value

/-! ## Parts -/

/-- A number is read as a natural one where it is no greater than the reader allows. -/
theorem natural?_ofNat {n max : Nat} (h : n ≤ max) : (ofNat n).toTree.natural? max = some n := by
  have hn : 0 ≤ (n : Int) ∧ (n : Int) ≤ max := ⟨Int.natCast_nonneg n, Int.ofNat_le.2 h⟩
  rw [ofNat, toTree, Tree.natural?, if_pos hn, Int.toNat_natCast]

theorem word32?_ofNat {n : Nat} (h : n < UInt32.size) : (ofNat n).toTree.word32? = some n :=
  natural?_ofNat (Nat.le_pred_of_lt h)

theorem word64?_ofNat {n : Nat} (h : n ≤ Number.maxWord) : (ofNat n).toTree.word64? = some n :=
  natural?_ofNat h

@[simp]
theorem text?_string (s : String) : (string s).toTree.text? = some s := rfl

@[simp]
theorem flag?_bool (b : Bool) : (bool b).toTree.flag? = some b := rfl

/-- A number in a field that may be `null`. -/
theorem optional_ofNat {α : Type} (read : Tree → Option α) (n : Nat) :
    (Field.given (ofNat n).toTree).optional read = (read (ofNat n).toTree).map some := rfl

/-- A number, or none, in a field that may be `null`. -/
theorem optional_ofOption {x : Option Nat} (h : ∀ n ∈ x, n ≤ Number.maxWord) :
    (Field.given (ofOption ofNat x).toTree).optional Tree.word64? = some x := by
  cases x with
  | none => rfl
  | some n =>
    rw [ofOption, optional_ofNat, word64?_ofNat (h n rfl)]
    rfl

/-- A record in a field that may be `null`. -/
theorem optional_ofMembers {α : Type} (read : Tree → Option α)
    (members : List (String × Value)) :
    (Field.given (ofMembers members).toTree).optional read =
      (read (ofMembers members).toTree).map some := rfl

/-- A list is read as it was where each of its items is. -/
theorem list?_toTree {read : Tree → Option Value} {items : List Value}
    (h : ∀ v ∈ items, read v.toTree = some v) : (array items).toTree.list? read = some items := by
  rw [toTree, Tree.list?]
  induction items with
  | nil => rfl
  | cons v rest ih =>
    rw [List.forall_mem_cons] at h
    rw [toTrees, List.mapM_cons, h.1, ih h.2]
    rfl

/-! ## Fields -/

/-- What members give for a field. -/
def fieldOf (members : List (String × Value)) (name : String) : Field :=
  match members.find? fun m => m.1 = name with
  | some m => .given m.2.toTree
  | none => .leftOut

theorem toMembers_eq (members : List (String × Value)) :
    toMembers members = members.map fun m => (some m.1, m.2.toTree) := by
  induction members with
  | nil => rfl
  | cons m rest ih => rw [toMembers, ih, List.map_cons]

/-- Of members with different names no more than one has a certain name. -/
theorem filter_eq_find? {members : List (String × Value)} (h : (members.map Prod.fst).Nodup)
    (name : String) : members.filter (fun m => m.1 = name) =
      (members.find? fun m => m.1 = name).toList := by
  induction members with
  | nil => rfl
  | cons m rest ih =>
    rw [List.map_cons, List.nodup_cons] at h
    by_cases hm : m.1 = name
    · have hrest : rest.filter (fun n => n.1 = name) = [] := by
        rw [List.filter_eq_nil_iff]
        intro n hn hname
        exact h.1 (hm ▸ List.mem_map.2 ⟨n, hn, by simpa using hname⟩)
      simp [hm, hrest]
    · simp [hm, ih h.2]

theorem find?_eq_some_iff {members : List (String × Value)} (h : (members.map Prod.fst).Nodup)
    {name : String} {m : String × Value} :
    (members.find? fun m => m.1 = name) = some m ↔ m ∈ members ∧ m.1 = name := by
  rw [← Option.mem_toList, ← filter_eq_find? h, List.mem_filter, decide_eq_true_eq]

/-! ## Objects put together from members -/

variable {members : List (String × Value)}

theorem isPlain_ofMembers (h : ∀ m ∈ members, m.2.IsPlain) : (ofMembers members).IsPlain :=
  ⟨all_object.2 ⟨rfl, fun m hm => (h m (mem_insertMembers hm)).integer⟩,
    isSorted_object.2 ⟨isAscending_insertMembers members List.Pairwise.nil,
      fun m hm => (h m (mem_insertMembers hm)).sorted⟩⟩

theorem perm_insertMembers_nil (h : (members.map Prod.fst).Nodup) :
    (insertMembers members []).Perm members :=
  perm_insertMembers h

theorem depth_lt_ofMembers (h : (members.map Prod.fst).Nodup) {m : String × Value}
    (hm : m ∈ members) : m.2.depth < (ofMembers members).depth :=
  Nat.lt_succ_of_le (membersDepth_le_iff.1 (Nat.le_refl _) m ((perm_insertMembers_nil h).mem_iff.2 hm))

theorem depth_ofMembers_le {n : Nat} (h : ∀ m ∈ members, m.2.depth ≤ n) :
    (ofMembers members).depth ≤ n + 1 :=
  Nat.succ_le_succ (membersDepth_le_iff.2 fun m hm => h m (mem_insertMembers hm))

/-- Sorting members does not change what is found under a name. -/
theorem find?_insertMembers (h : (members.map Prod.fst).Nodup) (name : String) :
    ((insertMembers members []).find? fun m => m.1 = name) =
      members.find? fun m => m.1 = name := by
  have hsorted := ((perm_insertMembers_nil h).map Prod.fst).nodup_iff.2 h
  ext m
  rw [find?_eq_some_iff hsorted, find?_eq_some_iff h, (perm_insertMembers_nil h).mem_iff]

/-- The member with a name. -/
theorem get?_ofMembers (h : (members.map Prod.fst).Nodup) (name : String) :
    (ofMembers members).get? name = (members.find? fun m => m.1 = name).map Prod.snd := by
  rw [ofMembers_eq, get?, find?_insertMembers h]

/-- The field with a name. -/
theorem memberField_insertMembers (h : (members.map Prod.fst).Nodup) (name : String) :
    Tree.memberField name (toMembers (insertMembers members [])) =
      some (fieldOf members name) := by
  have hsorted := ((perm_insertMembers_nil h).map Prod.fst).nodup_iff.2 h
  have hfilter : (toMembers (insertMembers members [])).filter (fun m => m.1 = some name) =
      (members.find? fun m => m.1 = name).toList.map fun m => (some m.1, m.2.toTree) := by
    rw [← find?_insertMembers h, ← filter_eq_find? hsorted, toMembers_eq, List.filter_map]
    simp [Function.comp_def]
  rw [Tree.memberField, fieldOf, hfilter]
  cases members.find? fun m => m.1 = name <;> rfl

/-- The fields of a record. -/
theorem fields_ofMembers (h : (members.map Prod.fst).Nodup) (names : List String) :
    (ofMembers members).toTree.fields names = some (names.map (fieldOf members)) := by
  have hnames : (toMembers (insertMembers members [])).all fun m => m.1.isSome := by
    rw [toMembers_eq]
    simp
  rw [ofMembers_eq, toTree, Tree.fields, if_pos hnames]
  induction names with
  | nil => rfl
  | cons name rest ih =>
    rw [List.mapM_cons, memberField_insertMembers h, ih]
    rfl

end GatewayClient.Json.Value
