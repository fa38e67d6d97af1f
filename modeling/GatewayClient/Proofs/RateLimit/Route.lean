import GatewayClient.Decimal.Integer
import GatewayClient.RateLimit.Route

/-!
# Keys of routes

The key of a route is read from its end: what comes after the last colon are the digits of
the resource, as digits have no colon among them, and what comes before it tells the
family, even one that is named by a text with colons and digits in it.

* `Route.toList_key`: the parts of a key.
* `Route.resource_eq_of_key_eq`, `Route.family_eq_of_key_eq`: what a key tells of its route.
-/

namespace GatewayClient

namespace RouteFamily

/-- What the keys of a family of endpoints begin with. -/
def word : RouteFamily → String
  | guild => "guild"
  | channel => "channel"
  | webhook => "webhook"
  | application => "application"
  | other name => "other:" ++ name

/-- The letter by which the kind of a family is known. -/
def letter : RouteFamily → Char
  | guild => 'g'
  | channel => 'c'
  | webhook => 'w'
  | application => 'a'
  | other _ => 'o'

theorem head?_word (f : RouteFamily) : f.word.toList.head? = some f.letter := by
  cases f with
  | other name => rw [word, String.toList_append]; rfl
  | _ => rfl

theorem word_injective {f f' : RouteFamily} (h : f.word = f'.word) : f = f' := by
  have hletter : f.letter = f'.letter := by
    rw [← Option.some_inj, ← head?_word, ← head?_word, h]
  cases f <;> cases f' <;> simp_all only [letter, word, String.append_right_inj, Char.reduceEq]

end RouteFamily

namespace Route

variable {r r' : Route}

/-- A key has a word for the family, and the digits of the resource after a colon. -/
theorem toList_key (r : Route) :
    r.key.toList = r.family.word.toList ++ ':' :: Nat.toDigits 10 r.resource := by
  have hkey : r.key = r.family.word ++ ":" ++ toString r.resource := by
    obtain ⟨family, resource⟩ := r
    cases family <;> rfl
  rw [hkey, String.toList_append, String.toList_append, List.append_assoc, Nat.toString_eq_repr,
    Nat.toList_repr]
  rfl

theorem colon_notMem_toDigits (n : Nat) : ':' ∉ Nat.toDigits 10 n := fun h =>
  absurd (Nat.isDigit_of_mem_toDigits (by omega) (by omega) h) (by decide)

/-- What stands before and after the last of some marks is known from the whole. -/
theorem append_cons_inj {a a' ds ds' : List Char} {mark : Char} (h : mark ∉ ds) (h' : mark ∉ ds')
    (heq : a ++ mark :: ds = a' ++ mark :: ds') : a = a' ∧ ds = ds' := by
  rcases List.append_eq_append_iff.1 heq with ⟨as, rfl, has⟩ | ⟨as, rfl, has⟩
  · cases as with
    | nil => exact ⟨(List.append_nil a).symm, List.tail_eq_of_cons_eq has⟩
    | cons c as =>
      -- There would be a mark after the last one.
      exact absurd (List.tail_eq_of_cons_eq has ▸ by simp : mark ∈ ds) h
  · cases as with
    | nil => exact ⟨List.append_nil a', (List.tail_eq_of_cons_eq has).symm⟩
    | cons c as => exact absurd (List.tail_eq_of_cons_eq has ▸ by simp : mark ∈ ds') h'

theorem parts_eq_of_key_eq (h : r.key = r'.key) :
    r.family.word = r'.family.word ∧ Nat.toDigits 10 r.resource = Nat.toDigits 10 r'.resource := by
  rw [← String.toList_inj]
  refine append_cons_inj (colon_notMem_toDigits _) (colon_notMem_toDigits _) ?_
  rw [← toList_key, ← toList_key, h]

theorem family_eq_of_key_eq (h : r.key = r'.key) : r.family = r'.family :=
  RouteFamily.word_injective (parts_eq_of_key_eq h).1

theorem resource_eq_of_key_eq (h : r.key = r'.key) : r.resource = r'.resource :=
  Natural.toDigits_injective (parts_eq_of_key_eq h).2

theorem key_injective (h : r.key = r'.key) : r = r' := by
  obtain ⟨family, resource⟩ := r
  obtain ⟨family', resource'⟩ := r'
  rw [Route.mk.injEq]
  exact ⟨family_eq_of_key_eq h, resource_eq_of_key_eq h⟩

end Route

end GatewayClient
