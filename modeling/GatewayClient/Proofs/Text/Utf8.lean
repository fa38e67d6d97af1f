import GatewayClient.Text.Utf8

/-!
# UTF-8 that was written is read back

* `Utf8.pieces_encodeChar`: the bytes of one character are one piece.
* `Utf8.decode?_encode`: the bytes of a text are that text.
-/

namespace GatewayClient.Utf8

variable {b c : UInt8}

theorem toNat_ofNat_of_lt {n : Nat} (h : n < 256) : (UInt8.ofNat n).toNat = n :=
  UInt8.toNat_ofNat_of_lt' h

/-- A byte that continues a character has six bits of it. -/
theorem continuation (n : Nat) : isContinuation (UInt8.ofNat (n % 64 + 128)) ∧
    low (UInt8.ofNat (n % 64 + 128)) = n % 64 := by
  have hn : (UInt8.ofNat (n % 64 + 128)).toNat = n % 64 + 128 := toNat_ofNat_of_lt (by omega)
  constructor
  · simp only [isContinuation, Bool.and_eq_true, decide_eq_true_eq, UInt8.le_iff_toNat_le, hn]
    constructor
    · show 128 ≤ _
      omega
    · show _ ≤ 191
      omega
  · rw [low, hn]
    omega

theorem continue?_zero (value : Nat) (rest : List UInt8) :
    continue? value 0 rest = (some value, rest) := rfl

/-- Reading goes on with the continuations of a character. -/
theorem continue?_cons (value count n : Nat) (rest : List UInt8) :
    continue? value (count + 1) (UInt8.ofNat (n % 64 + 128) :: rest) =
      continue? (value * 64 + n % 64) count rest := by
  rw [continue?, if_pos (continuation n).1, (continuation n).2]

/-- The bytes that may come second, in numbers. -/
theorem second?_eq (b : UInt8) : second? b =
    if 0xC2 ≤ b.toNat ∧ b.toNat ≤ 0xDF then some (0x80, 0xBF, 0)
    else if b.toNat = 0xE0 then some (0xA0, 0xBF, 1)
    else if b.toNat = 0xED then some (0x80, 0x9F, 1)
    else if 0xE1 ≤ b.toNat ∧ b.toNat ≤ 0xEF then some (0x80, 0xBF, 1)
    else if b.toNat = 0xF0 then some (0x90, 0xBF, 2)
    else if b.toNat = 0xF4 then some (0x80, 0x8F, 2)
    else if 0xF1 ≤ b.toNat ∧ b.toNat ≤ 0xF3 then some (0x80, 0xBF, 2)
    else none := by
  simp only [second?, Bool.and_eq_true, decide_eq_true_eq, UInt8.le_iff_toNat_le,
    ← UInt8.toNat_inj]
  rfl

/-- Reading goes on after a byte that may come second. -/
theorem next_cons {least greatest : UInt8} {more : Nat} (rest : List UInt8)
    (h : second? b = some (least, greatest, more)) (hc : least ≤ c ∧ c ≤ greatest) :
    next b (c :: rest) =
      let lead := b.toNat % (if more = 0 then 32 else if more = 1 then 16 else 8)
      let piece := continue? (lead * 64 + low c) more rest
      (piece.1.map Char.ofNat, piece.2) := by
  have hb : ¬ b < 0x80 := by
    intro hb
    rw [UInt8.lt_iff_toNat_lt] at hb
    have hb : b.toNat < 128 := hb
    rw [second?_eq] at h
    repeat rw [if_neg (by omega)] at h
    cases h
  simp only [next, if_neg hb, h, hc.1, hc.2, decide_true, Bool.and_self, if_true]

/-- The second byte of three: together with the first one it leads to no shorter character and
    to no half of a pair. -/
theorem exists_second?_three (lead n : Nat) (hlead : lead < 16) (hshort : lead = 0 → 32 ≤ n % 64)
    (hhalf : lead = 13 → n % 64 < 32) : ∃ least greatest,
      second? (UInt8.ofNat (lead + 224)) = some (least, greatest, 1) ∧
        least ≤ UInt8.ofNat (n % 64 + 128) ∧ UInt8.ofNat (n % 64 + 128) ≤ greatest := by
  have hb : (UInt8.ofNat (lead + 224)).toNat = lead + 224 := toNat_ofNat_of_lt (by omega)
  have hc : (UInt8.ofNat (n % 64 + 128)).toNat = n % 64 + 128 := toNat_ofNat_of_lt (by omega)
  simp only [second?_eq, hb, UInt8.le_iff_toNat_le, hc]
  rw [if_neg (by omega)]
  by_cases hzero : lead = 0
  · have := hshort hzero
    rw [if_pos (by omega)]
    exact ⟨_, _, rfl, show 160 ≤ _ by omega, show _ ≤ 191 by omega⟩
  rw [if_neg (by omega)]
  by_cases hpair : lead = 13
  · have := hhalf hpair
    rw [if_pos (by omega)]
    exact ⟨_, _, rfl, show 128 ≤ _ by omega, show _ ≤ 159 by omega⟩
  rw [if_neg (by omega), if_pos (by omega)]
  exact ⟨_, _, rfl, show 128 ≤ _ by omega, show _ ≤ 191 by omega⟩

/-- The second byte of four: together with the first one it leads to no shorter character and
    to none beyond the last. -/
theorem exists_second?_four (lead n : Nat) (hlead : lead < 5) (hshort : lead = 0 → 16 ≤ n % 64)
    (hlast : lead = 4 → n % 64 < 16) : ∃ least greatest,
      second? (UInt8.ofNat (lead + 240)) = some (least, greatest, 2) ∧
        least ≤ UInt8.ofNat (n % 64 + 128) ∧ UInt8.ofNat (n % 64 + 128) ≤ greatest := by
  have hb : (UInt8.ofNat (lead + 240)).toNat = lead + 240 := toNat_ofNat_of_lt (by omega)
  have hc : (UInt8.ofNat (n % 64 + 128)).toNat = n % 64 + 128 := toNat_ofNat_of_lt (by omega)
  simp only [second?_eq, hb, UInt8.le_iff_toNat_le, hc]
  rw [if_neg (by omega), if_neg (by omega), if_neg (by omega), if_neg (by omega)]
  by_cases hzero : lead = 0
  · have := hshort hzero
    rw [if_pos (by omega)]
    exact ⟨_, _, rfl, show 144 ≤ _ by omega, show _ ≤ 191 by omega⟩
  rw [if_neg (by omega)]
  by_cases hfour : lead = 4
  · have := hlast hfour
    rw [if_pos (by omega)]
    exact ⟨_, _, rfl, show 128 ≤ _ by omega, show _ ≤ 143 by omega⟩
  rw [if_neg (by omega), if_pos (by omega)]
  exact ⟨_, _, rfl, show 128 ≤ _ by omega, show _ ≤ 191 by omega⟩

/-- The bytes of a character are that character. -/
theorem pieces_encodeChar (c : Char) (rest : List UInt8) :
    pieces (String.utf8EncodeChar c ++ rest) = some c :: pieces rest := by
  have hvalid : c.toNat < 0xD800 ∨ 0xDFFF < c.toNat ∧ c.toNat < 0x110000 := c.valid
  have hchar : Char.ofNat c.toNat = c := Char.ofNat_toNat c
  simp only [String.utf8EncodeChar, Char.toNat_val]
  generalize c.toNat = n at *
  -- A character takes one byte, two, three or four.
  split
  · have hb : (UInt8.ofNat n).toNat = n := toNat_ofNat_of_lt (by omega)
    have hlt : UInt8.ofNat n < 0x80 := by
      rw [UInt8.lt_iff_toNat_lt, hb]
      show n < 128
      omega
    simp only [List.singleton_append, pieces, next, hlt, if_true, hb, hchar]
  split
  · have hb : (UInt8.ofNat (n / 64 % 32 + 192)).toNat = n / 64 % 32 + 192 :=
      toNat_ofNat_of_lt (by omega)
    have hsecond : second? (UInt8.ofNat (n / 64 % 32 + 192)) = some (0x80, 0xBF, 0) := by
      rw [second?_eq, hb, if_pos (by omega)]
    have hcont := (continuation n).1
    rw [isContinuation, Bool.and_eq_true, decide_eq_true_eq, decide_eq_true_eq] at hcont
    have hvalue : (n / 64 % 32 + 192) % 32 * 64 + n % 64 = n := by omega
    rw [List.cons_append, List.singleton_append, pieces, next_cons _ hsecond hcont]
    simp only [if_true, continue?, hb, (continuation n).2, hvalue, Option.map_some, hchar]
  split
  · have hb : (UInt8.ofNat (n / 4096 % 16 + 224)).toNat = n / 4096 % 16 + 224 :=
      toNat_ofNat_of_lt (by omega)
    obtain ⟨least, greatest, hsecond, hc⟩ := exists_second?_three (n / 4096 % 16) (n / 64)
      (by omega) (by omega) (by omega)
    have hvalue : ((n / 4096 % 16 + 224) % 16 * 64 + n / 64 % 64) * 64 + n % 64 = n := by omega
    rw [List.cons_append, List.cons_append, List.singleton_append, pieces,
      next_cons _ hsecond hc]
    simp only [Nat.one_ne_zero, if_false, if_true, continue?_cons, continue?_zero, hb,
      (continuation (n / 64)).2, hvalue, Option.map_some, hchar]
  · have hb : (UInt8.ofNat (n / 262144 % 8 + 240)).toNat = n / 262144 % 8 + 240 :=
      toNat_ofNat_of_lt (by omega)
    obtain ⟨least, greatest, hsecond, hc⟩ := exists_second?_four (n / 262144 % 8)
      (n / 4096) (by omega) (by omega) (by omega)
    have hvalue : (((n / 262144 % 8 + 240) % 8 * 64 + n / 4096 % 64) * 64 + n / 64 % 64) * 64 +
        n % 64 = n := by omega
    rw [List.cons_append, List.cons_append, List.cons_append, List.singleton_append, pieces,
      next_cons _ hsecond hc]
    simp only [Nat.succ_ne_zero, Nat.reduceEqDiff, if_false, continue?_cons, continue?_zero, hb,
      (continuation (n / 4096)).2, hvalue, Option.map_some, hchar]

theorem toList_loop (bs : ByteArray) (i : Nat) (r : List UInt8) :
    ByteArray.toList.loop bs i r = r.reverse ++ bs.data.toList.drop i := by
  fun_induction ByteArray.toList.loop bs i r with
  | case1 i r h ih =>
    have hi : i < bs.data.toList.length := h
    have hget : bs.get! i = bs.data.toList[i] := by simp [ByteArray.get!, h]
    rw [ih, List.reverse_cons, List.append_assoc, List.drop_eq_getElem_cons hi, hget,
      List.singleton_append]
  | case2 i r h =>
    have hi : bs.data.toList.length ≤ i := Nat.le_of_not_lt h
    rw [List.drop_eq_nil_of_le hi, List.append_nil]

theorem encode_eq (s : String) : encode s = s.toList.flatMap String.utf8EncodeChar := by
  have hs : s.toUTF8 = (s.toList.flatMap String.utf8EncodeChar).toByteArray :=
    (congrArg String.toByteArray String.ofList_toList).symm.trans String.toByteArray_ofList
  rw [encode, hs, ByteArray.toList, toList_loop, List.toList_data_toByteArray]
  rfl

/-- The bytes of a text are that text. -/
theorem decode?_encode (s : String) : decode? (encode s) = some s := by
  have hpieces (cs : List Char) : pieces (cs.flatMap String.utf8EncodeChar) = cs.map some := by
    induction cs with
    | nil => rw [List.flatMap_nil, pieces, List.map_nil]
    | cons c cs ih => rw [List.flatMap_cons, pieces_encodeChar, ih, List.map_cons]
  have hall (cs : List Char) : (cs.map some).mapM id = some cs := by
    induction cs with
    | nil => rfl
    | cons c cs ih => simp [ih]
  rw [decode?, encode_eq, hpieces, hall, Option.map_some, String.ofList_toList]

end GatewayClient.Utf8
