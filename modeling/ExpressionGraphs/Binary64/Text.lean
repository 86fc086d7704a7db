import ExpressionGraphs.Binary64.Shortest

set_option autoImplicit false

/-!
# The text of a number

Shortest digits, written positionally with at least one decimal between `1e-4` and `1e16`,
otherwise with one digit before the point and a power of ten.
-/

namespace ExpressionGraphs

/-- The digits of a decimal without trailing zeros, and the exponent of the first one. -/
structure DigitText where
  first : Char
  rest : List Char
  exponent : Int
  deriving DecidableEq, Repr

def dropTrailingZeros (digits : List Char) : List Char :=
  (digits.reverse.dropWhile (· = '0')).reverse

def Decimal.digitText (d : Decimal) : DigitText :=
  let written := Nat.toDigits 10 d.digits
  let exponent := d.exponent + (written.length : Int) - 1
  match dropTrailingZeros written with
  | [] => ⟨'0', [], exponent⟩
  | first :: rest => ⟨first, rest, exponent⟩

namespace DigitText

def zeros (n : Nat) : List Char := List.replicate n '0'

def decimals (digits : List Char) : List Char := if digits.isEmpty then ['0'] else digits

def positional (t : DigitText) : List Char :=
  if t.exponent < 0 then
    ['0', '.'] ++ zeros (-t.exponent - 1).toNat ++ t.first :: t.rest
  else
    let whole := t.exponent.toNat
    t.first :: t.rest.take whole ++ zeros (whole - t.rest.length) ++
      '.' :: decimals (t.rest.drop whole)

def scientific (t : DigitText) : List Char :=
  t.first :: (if t.rest.isEmpty then [] else '.' :: t.rest) ++ 'e' :: (toString t.exponent).toList

def isPositional (t : DigitText) : Bool := -4 ≤ t.exponent && t.exponent < 16

def text (t : DigitText) : List Char := if t.isPositional then t.positional else t.scientific

end DigitText

namespace Binary64

def magnitudeText (x : Binary64) : String :=
  if x.isInfinite then "inf"
  else if x.isZero then "0.0"
  else String.ofList x.shortest.digitText.text

def text (x : Binary64) : String :=
  if x.isNaN then "NaN" else (if x.isNegative then "-" else "") ++ x.magnitudeText

end Binary64
end ExpressionGraphs
