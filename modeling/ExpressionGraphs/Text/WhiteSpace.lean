import ExpressionGraphs.Text.Ranges

set_option autoImplicit false

/-!
# White space

Characters with the Unicode property White_Space, and the trimming of text on both sides.
-/

namespace ExpressionGraphs.Text

def whiteSpaceRanges : List (Nat × Nat) := [
  (0x9, 0xD), (0x20, 0x20), (0x85, 0x85), (0xA0, 0xA0), (0x1680, 0x1680), (0x2000, 0x200A),
  (0x2028, 0x2029), (0x202F, 0x202F), (0x205F, 0x205F), (0x3000, 0x3000)]

def isWhiteSpace (c : Char) : Bool := inRanges whiteSpaceRanges c.toNat

def trimStart (text : List Char) : List Char := text.dropWhile isWhiteSpace

def trimEnd (text : List Char) : List Char := (text.reverse.dropWhile isWhiteSpace).reverse

def trim (text : List Char) : List Char := trimEnd (trimStart text)

theorem length_trim_le (text : List Char) : (trim text).length ≤ text.length := by
  rw [trim, trimEnd, List.length_reverse]
  calc
    _ ≤ (trimStart text).reverse.length := (List.dropWhile_sublist _).length_le
    _ = (trimStart text).length := List.length_reverse
    _ ≤ text.length := (List.dropWhile_sublist _).length_le

end ExpressionGraphs.Text
