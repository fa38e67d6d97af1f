/-!
# Trimming and cutting text

What is taken off either end of a text, and where it is cut in two.
-/

namespace GatewayClient.Trim

/-- Without the characters at the start that satisfy `p`. -/
def left (p : Char → Bool) (cs : List Char) : List Char := cs.dropWhile p

/-- Without the characters at the end that satisfy `p`. -/
def right (p : Char → Bool) (cs : List Char) : List Char := (cs.reverse.dropWhile p).reverse

/-- Without the characters at either end that satisfy `p`. -/
def both (p : Char → Bool) (cs : List Char) : List Char := right p (left p cs)

/-- The text before and after the first `c`, if there is one. -/
def cut? (c : Char) (cs : List Char) : Option (List Char × List Char) :=
  match cs.dropWhile (· ≠ c) with
  | [] => none
  | _ :: rest => some (cs.takeWhile (· ≠ c), rest)

end GatewayClient.Trim
