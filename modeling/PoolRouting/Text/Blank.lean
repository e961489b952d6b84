/-!
White space in the sense of the Unicode property `White_Space`, and its removal from both ends of
a text. Identifiers, amounts and prices that callers hand over are read with blanks trimmed.
-/

namespace PoolRouting.Text

/-- Closed ranges of code points with the property `White_Space`. -/
def blankRanges : List (Nat × Nat) :=
  [(0x9, 0xD), (0x20, 0x20), (0x85, 0x85), (0xA0, 0xA0), (0x1680, 0x1680), (0x2000, 0x200A),
    (0x2028, 0x2029), (0x202F, 0x202F), (0x205F, 0x205F), (0x3000, 0x3000)]

def isBlank (c : Char) : Bool :=
  blankRanges.any fun range => decide (range.1 ≤ c.toNat ∧ c.toNat ≤ range.2)

def dropBlanks (text : List Char) : List Char := text.dropWhile isBlank

/-- Blanks go from both ends and stay inside. -/
def trimBlanks (text : List Char) : List Char :=
  (dropBlanks (dropBlanks text).reverse).reverse

def trimmed (text : String) : String := String.ofList (trimBlanks text.toList)

-- The ASCII class of core lies inside the Unicode one.
theorem is_blank_of_is_whitespace (c : Char) (white : c.isWhitespace = true) :
    isBlank c = true := by
  simp only [Char.isWhitespace, Bool.or_eq_true, decide_eq_true_eq] at white
  rcases white with ((white | white) | white) | white <;> subst white <;> decide

example : blankRanges.length = 10 := by decide

end PoolRouting.Text
