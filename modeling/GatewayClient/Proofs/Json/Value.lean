import GatewayClient.Proofs.Json.Tree

/-!
# Values of written trees

A value that lists the members of its objects by ascending name is the value of the tree
that is written for it, as long as there is room for all its containers. All values that are
read are of this kind, and so is every object that is put together from members.

* `Value.isSorted`: the order of the members, in all objects of a value.
* `Value.IsPlain`: the values that have this order and no fractions.
* `Value.ofTree?_toTree`: reading what is written.
* `Value.isSorted_of_ofTree?`: what is read meets the conditions.
* `Value.perm_insertMembers`: an object has the members that it is put together from.
-/

namespace GatewayClient.Json.Value

/-! ## Properties of all values inside a value -/

theorem allItems_iff {p : Value → Bool} {items : List Value} :
    allItems p items ↔ ∀ v ∈ items, v.all p := by
  induction items with
  | nil => simp [allItems]
  | cons v rest ih => simp [allItems, ih]

theorem allMembers_iff {p : Value → Bool} {members : List (String × Value)} :
    allMembers p members ↔ ∀ m ∈ members, m.2.all p := by
  induction members with
  | nil => simp [allMembers]
  | cons m rest ih => simp [allMembers, ih]

theorem all_array {p : Value → Bool} {items : List Value} :
    (array items).all p ↔ p (.array items) ∧ ∀ v ∈ items, v.all p := by
  rw [all, Bool.and_eq_true, allItems_iff]

theorem all_object {p : Value → Bool} {members : List (String × Value)} :
    (object members).all p ↔ p (.object members) ∧ ∀ m ∈ members, m.2.all p := by
  rw [all, Bool.and_eq_true, allMembers_iff]

/-- Members by ascending name. -/
def IsAscending (members : List (String × Value)) : Prop := members.Pairwise fun a b => a.1 < b.1

instance (members : List (String × Value)) : Decidable (IsAscending members) :=
  inferInstanceAs (Decidable (List.Pairwise _ _))

/-- Whether a value is no object, or one that lists its members by ascending name. -/
def hasOrder : Value → Bool
  | .object members => decide (IsAscending members)
  | _ => true

/-- Whether all objects in a value list their members by ascending name. -/
def isSorted (v : Value) : Bool := v.all hasOrder

theorem isSorted_array {items : List Value} :
    (array items).isSorted ↔ ∀ v ∈ items, v.isSorted := by
  rw [isSorted, all_array]
  exact and_iff_right rfl

theorem isSorted_object {members : List (String × Value)} :
    (object members).isSorted ↔ IsAscending members ∧ ∀ m ∈ members, m.2.isSorted := by
  rw [isSorted, all_object, hasOrder, decide_eq_true_eq]
  rfl

/-- A value that can be held and read and has no fractions in it. -/
structure IsPlain (v : Value) : Prop where
  /-- All numbers in it are integers within a word. -/
  integer : v.isInteger
  /-- The members of each object in it have different names, in their order. -/
  sorted : v.isSorted

theorem isPlain_null : IsPlain .null := ⟨rfl, rfl⟩

theorem isPlain_bool (b : Bool) : IsPlain (.bool b) := ⟨rfl, rfl⟩

theorem isPlain_string (s : String) : IsPlain (.string s) := ⟨rfl, rfl⟩

theorem isPlain_array {items : List Value} (h : ∀ v ∈ items, v.IsPlain) : IsPlain (.array items) :=
  ⟨all_array.2 ⟨rfl, fun v hv => (h v hv).integer⟩, isSorted_array.2 fun v hv => (h v hv).sorted⟩

theorem itemsDepth_le_iff {items : List Value} {n : Nat} :
    itemsDepth items ≤ n ↔ ∀ v ∈ items, v.depth ≤ n := by
  induction items with
  | nil => simp [itemsDepth]
  | cons v rest ih => rw [itemsDepth, Nat.max_le, ih, List.forall_mem_cons]

theorem membersDepth_le_iff {members : List (String × Value)} {n : Nat} :
    membersDepth members ≤ n ↔ ∀ m ∈ members, m.2.depth ≤ n := by
  induction members with
  | nil => simp [membersDepth]
  | cons m rest ih => rw [membersDepth, Nat.max_le, ih, List.forall_mem_cons]

theorem isInteger_ofNat {n : Nat} (h : n ≤ Number.maxWord) : (ofNat n).isInteger := by
  have hhigh : (n : Int) ≤ Number.maxWord := Int.ofNat_le.2 h
  simp [ofNat, isInteger, all, hasWord, Number.isWord, hhigh]

theorem isPlain_ofNat {n : Nat} (h : n ≤ Number.maxWord) : IsPlain (ofNat n) :=
  ⟨isInteger_ofNat h, rfl⟩

theorem isPlain_ofOption {α : Type} {write : α → Value} {x : Option α}
    (h : ∀ a ∈ x, (write a).IsPlain) : IsPlain (ofOption write x) := by
  cases x with
  | none => exact isPlain_null
  | some a => exact h a rfl

/-! ## Members in their order -/

variable {name : String} {v : Value} {members sorted : List (String × Value)}

theorem mem_insertMember {m : String × Value} (h : m ∈ insertMember name v sorted) :
    m = (name, v) ∨ m ∈ sorted := by
  induction sorted with
  | nil => simpa [insertMember] using h
  | cons n rest ih =>
    unfold insertMember at h
    split at h
    · simpa using h
    split at h
    · rcases List.mem_cons.1 h with rfl | hm
      · exact .inr List.mem_cons_self
      · exact (ih hm).imp_right (List.mem_cons_of_mem _)
    · rcases List.mem_cons.1 h with rfl | hm
      · exact .inl rfl
      · exact .inr (List.mem_cons_of_mem _ hm)

theorem isAscending_insertMember (h : IsAscending sorted) :
    IsAscending (insertMember name v sorted) := by
  induction sorted with
  | nil => exact List.pairwise_singleton _ _
  | cons n rest ih =>
    obtain ⟨hhead, hrest⟩ := List.pairwise_cons.1 h
    unfold insertMember
    split
    · next hlt =>
      refine List.pairwise_cons.2 ⟨fun m hm => ?_, h⟩
      rcases List.mem_cons.1 hm with rfl | hm
      · exact hlt
      · exact String.lt_trans hlt (hhead m hm)
    split
    · next hlt =>
      refine List.pairwise_cons.2 ⟨fun m hm => ?_, ih hrest⟩
      rcases mem_insertMember hm with rfl | hm
      · exact hlt
      · exact hhead m hm
    · next hle hge =>
      -- The member that is replaced has the same name, so it had the same place.
      have hname : name = n.1 := String.le_antisymm (String.not_lt.1 hge) (String.not_lt.1 hle)
      exact List.pairwise_cons.2 ⟨fun m hm => hname ▸ hhead m hm, hrest⟩

/-- A member that comes last by its name is put last. -/
theorem insertMember_of_forall_lt (h : ∀ m ∈ sorted, m.1 < name) :
    insertMember name v sorted = sorted ++ [(name, v)] := by
  induction sorted with
  | nil => rfl
  | cons n rest ih =>
    have hlt : n.1 < name := h n List.mem_cons_self
    rw [insertMember, if_neg (String.lt_asymm hlt), if_pos hlt,
      ih fun m hm => h m (List.mem_cons_of_mem _ hm), List.cons_append]

/-- A member with a new name takes nothing away. -/
theorem perm_insertMember (h : name ∉ sorted.map Prod.fst) :
    (insertMember name v sorted).Perm ((name, v) :: sorted) := by
  induction sorted with
  | nil => exact .refl _
  | cons n rest ih =>
    rw [List.map_cons, List.mem_cons, not_or] at h
    unfold insertMember
    split
    · exact .refl _
    split
    · exact ((ih h.2).cons n).trans (.swap _ _ _)
    · next hle hge =>
      exact absurd (String.le_antisymm (String.not_lt.1 hge) (String.not_lt.1 hle)) h.1

/-- Members put in their places among others, one after the other. -/
def insertMembers (members sorted : List (String × Value)) : List (String × Value) :=
  members.foldl (fun sorted (name, value) => insertMember name value sorted) sorted

theorem ofMembers_eq (members : List (String × Value)) :
    ofMembers members = .object (insertMembers members []) := rfl

theorem insertMembers_cons (m : String × Value) (members sorted : List (String × Value)) :
    insertMembers (m :: members) sorted = insertMembers members (insertMember m.1 m.2 sorted) :=
  rfl

/-- Members by ascending name stay as they are. -/
theorem insertMembers_of_isAscending (h : IsAscending (sorted ++ members)) :
    insertMembers members sorted = sorted ++ members := by
  induction members generalizing sorted with
  | nil => exact (List.append_nil _).symm
  | cons m rest ih =>
    have hlast : ∀ n ∈ sorted, n.1 < m.1 := fun n hn =>
      (List.pairwise_append.1 h).2.2 n hn m List.mem_cons_self
    rw [List.append_cons] at h ⊢
    rw [insertMembers_cons, insertMember_of_forall_lt hlast, ih h]

theorem isAscending_insertMembers (members : List (String × Value)) (h : IsAscending sorted) :
    IsAscending (insertMembers members sorted) := by
  induction members generalizing sorted with
  | nil => exact h
  | cons m rest ih => exact ih (isAscending_insertMember h)

theorem mem_insertMembers {m : String × Value} (h : m ∈ insertMembers members sorted) :
    m ∈ sorted ++ members := by
  induction members generalizing sorted with
  | nil => exact List.mem_append_left _ h
  | cons n rest ih =>
    rcases List.mem_append.1 (ih h) with hm | hm
    · rcases mem_insertMember hm with rfl | hm <;> simp [*]
    · simp [hm]

/-- Members with different names all stay. -/
theorem perm_insertMembers (h : ((sorted ++ members).map Prod.fst).Nodup) :
    (insertMembers members sorted).Perm (sorted ++ members) := by
  induction members generalizing sorted with
  | nil => rw [List.append_nil]; exact .refl _
  | cons m rest ih =>
    have hmove : (sorted ++ m :: rest).Perm (m :: sorted ++ rest) := List.perm_middle
    have hnodup := (hmove.map Prod.fst).nodup_iff.1 h
    have hinsert : (insertMember m.1 m.2 sorted).Perm (m :: sorted) := perm_insertMember fun hm =>
      (List.nodup_cons.1 hnodup).1 (by simp [hm])
    have hrest := (hinsert.append_right rest).map Prod.fst
    exact ((ih (hrest.nodup_iff.2 hnodup)).trans (hinsert.append_right rest)).trans hmove.symm

/-- Members by ascending name are put together as they are. -/
theorem ofMembers_of_isAscending (h : IsAscending members) :
    ofMembers members = .object members := by
  have hstay : insertMembers members [] = [] ++ members := insertMembers_of_isAscending h
  rw [ofMembers_eq, hstay, List.nil_append]

/-! ## Reading what is written -/

mutual

/-- The value of what is written for a value is that value. -/
theorem ofTree?_toTree {n : Nat} (v : Value) (hv : v.isSorted) (hn : v.depth ≤ n) :
    ofTree? n v.toTree = some v := by
  match v with
  | .null | .bool _ | .number _ | .string _ => rfl
  | .array items =>
    rw [depth] at hn
    rw [toTree, ofTree?, if_neg (by omega),
      ofTrees?_toTrees items (isSorted_array.1 hv) (itemsDepth_le_iff.1 (by omega)),
      Option.map_some]
  | .object members =>
    obtain ⟨hascending, hmembers⟩ := isSorted_object.1 hv
    rw [depth] at hn
    rw [toTree, ofTree?, if_neg (by omega),
      ofMembers?_toMembers members hmembers (membersDepth_le_iff.1 (by omega)), Option.map_some,
      ofMembers_of_isAscending hascending]

theorem ofTrees?_toTrees {n : Nat} (items : List Value) (hitems : ∀ v ∈ items, v.isSorted)
    (hn : ∀ v ∈ items, v.depth ≤ n) : ofTrees? n (toTrees items) = some items := by
  match items with
  | [] => rfl
  | v :: rest =>
    rw [List.forall_mem_cons] at hitems hn
    simp [toTrees, ofTrees?, ofTree?_toTree v hitems.1 hn.1, ofTrees?_toTrees rest hitems.2 hn.2]

theorem ofMembers?_toMembers {n : Nat} (members : List (String × Value))
    (hmembers : ∀ m ∈ members, m.2.isSorted) (hn : ∀ m ∈ members, m.2.depth ≤ n) :
    ofMembers? n (toMembers members) = some members := by
  match members with
  | [] => rfl
  | (name, v) :: rest =>
    rw [List.forall_mem_cons] at hmembers hn
    simp [toMembers, ofMembers?, ofTree?_toTree v hmembers.1 hn.1,
      ofMembers?_toMembers rest hmembers.2 hn.2]

end

/-! ## What is read -/

mutual

/-- A value that is read lists its members in order, and has no more containers inside each
    other than there is room for. -/
theorem isSorted_of_ofTree? {n : Nat} {v : Value} (t : Tree) (h : ofTree? n t = some v) :
    v.isSorted ∧ v.depth ≤ n := by
  match t with
  | .null | .bool _ =>
    cases h
    exact ⟨rfl, Nat.zero_le _⟩
  | .number _ | .string _ =>
    obtain ⟨_, _, rfl⟩ := Option.map_eq_some_iff.1 h
    exact ⟨rfl, Nat.zero_le _⟩
  | .array items =>
    rw [ofTree?] at h
    split at h
    · cases h
    · obtain ⟨items', hitems, rfl⟩ := Option.map_eq_some_iff.1 h
      have hall := isSorted_of_ofTrees? items hitems
      refine ⟨isSorted_array.2 fun v hv => (hall v hv).1, ?_⟩
      have := itemsDepth_le_iff.2 fun v hv => (hall v hv).2
      rw [depth]
      omega
  | .object members =>
    rw [ofTree?] at h
    split at h
    · cases h
    · obtain ⟨members', hmembers, rfl⟩ := Option.map_eq_some_iff.1 h
      have hall : ∀ m ∈ insertMembers members' [], m.2.isSorted ∧ m.2.depth ≤ n - 1 :=
        fun m hm => isSorted_of_ofMembers? members hmembers m (mem_insertMembers hm)
      rw [ofMembers_eq]
      refine ⟨isSorted_object.2 ⟨isAscending_insertMembers members' List.Pairwise.nil,
        fun m hm => (hall m hm).1⟩, ?_⟩
      have := membersDepth_le_iff.2 fun m hm => (hall m hm).2
      rw [depth]
      omega

theorem isSorted_of_ofTrees? {n : Nat} {items : List Value} (ts : List Tree)
    (h : ofTrees? n ts = some items) : ∀ v ∈ items, v.isSorted ∧ v.depth ≤ n := by
  match ts with
  | [] =>
    cases h
    exact fun v hv => absurd hv List.not_mem_nil
  | t :: rest =>
    simp only [ofTrees?, Option.bind_eq_bind, Option.bind_eq_some_iff] at h
    obtain ⟨v, hv, items', hitems, heq⟩ := h
    cases heq
    exact List.forall_mem_cons.2 ⟨isSorted_of_ofTree? t hv, isSorted_of_ofTrees? rest hitems⟩

theorem isSorted_of_ofMembers? {n : Nat} {members : List (String × Value)} (ts : Members)
    (h : ofMembers? n ts = some members) : ∀ m ∈ members, m.2.isSorted ∧ m.2.depth ≤ n := by
  match ts with
  | [] =>
    cases h
    exact fun v hv => absurd hv List.not_mem_nil
  | (name, t) :: rest =>
    simp only [ofMembers?, Option.bind_eq_bind, Option.bind_eq_some_iff] at h
    obtain ⟨name, -, v, hv, members', hmembers, heq⟩ := h
    cases heq
    exact List.forall_mem_cons.2 ⟨isSorted_of_ofTree? t hv, isSorted_of_ofMembers? rest hmembers⟩

end

end GatewayClient.Json.Value
