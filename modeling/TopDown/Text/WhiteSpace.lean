/-!
White space as Unicode defines it (the property White_Space), and trimming by it.
-/

set_option autoImplicit false

namespace TopDown.Text

-- The ranges of the property White_Space, both ends included.
def whiteSpaceRanges : List (Nat × Nat) :=
  [(0x9, 0xD), (0x20, 0x20), (0x85, 0x85), (0xA0, 0xA0), (0x1680, 0x1680), (0x2000, 0x200A),
    (0x2028, 0x2029), (0x202F, 0x202F), (0x205F, 0x205F), (0x3000, 0x3000)]

def isWhiteSpace (char : Char) : Bool :=
  whiteSpaceRanges.any fun (low, high) => low ≤ char.toNat && char.toNat ≤ high

def dropFront (chars : List Char) : List Char := chars.dropWhile isWhiteSpace

def dropBack (chars : List Char) : List Char := (dropFront chars.reverse).reverse

def trim (chars : List Char) : List Char := dropBack (dropFront chars)

theorem is_white_space_of_ascii (char : Char) (blank : char.isWhitespace = true) :
    isWhiteSpace char = true := by
  simp only [Char.isWhitespace, Bool.or_eq_true, decide_eq_true_eq] at blank
  rcases blank with ((same | same) | same) | same <;> (rw [same]; decide)

end TopDown.Text
