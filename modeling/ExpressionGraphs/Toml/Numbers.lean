import ExpressionGraphs.Toml.Item
import ExpressionGraphs.Toml.Reader

set_option autoImplicit false

/-!
# TOML numbers

Underscores may stand between digits. Integers have 64 bits; a float too large for double
precision is refused when it is positive.
-/

namespace ExpressionGraphs.Toml

open Reader

def digitRun (p : Char → Bool) : Reader (List Char) := do
  let first ← satisfy p
  let others ← many (satisfy p <|> (do char '_'; satisfy p))
  return first :: others

def sign : Reader (Option Char) := attempt (satisfy fun c => c = '+' || c = '-')

def wholeDigits : Reader (List Char) := fun text =>
  if text.head? = some '0' then some (['0'], text.drop 1) else digitRun isDigit text

def integerWithin (n : Int) : Option Item :=
  if Int64.minValue.toInt ≤ n && n ≤ Int64.maxValue.toInt then some (.integer n) else none

def decimalInteger : Reader Item := do
  let negative := (← sign) = some '-'
  let n : Int := ofDigits 10 (← wholeDigits)
  integerWithin (if negative then -n else n)

def radixInteger (mark : Char) (base : Nat) (p : Char → Bool) : Reader Item := do
  literal ['0', mark]
  let digits ← digitRun p
  integerWithin (ofDigits base digits)

def integer : Reader Item :=
  radixInteger 'x' 16 isHexDigit
    <|> radixInteger 'o' 8 (fun c => '0' ≤ c && c ≤ '7')
    <|> radixInteger 'b' 2 (fun c => c = '0' || c = '1')
    <|> decimalInteger

/-- Halfway between the largest finite number and the power of two beyond it. -/
def firstInfinite : Nat := Nat.pow 2 1024 - Nat.pow 2 970

def roundsToInfinity (digits : Nat) (exponent : Int) : Bool :=
  let leading := (Nat.toDigits 10 digits).length + exponent
  if digits = 0 || leading < 300 then false
  else if 400 < leading then true
  else firstInfinite * Nat.pow 10 (-exponent).toNat ≤ digits * Nat.pow 10 exponent.toNat

def fractionPart : Reader (List Char) := do
  char '.'
  digitRun isDigit

def exponentPart : Reader Int := do
  let _ ← satisfy fun c => c = 'e' || c = 'E'
  let negative := (← sign) = some '-'
  let n : Int := ofDigits 10 (← digitRun isDigit)
  return if negative then -n else n

def decimalFloat : Reader Item := do
  let negative := (← sign) = some '-'
  let whole ← wholeDigits
  let decimals ← attempt fractionPart
  let exponent ← attempt exponentPart
  if decimals.isNone && exponent.isNone then failure
  let decimals := decimals.getD []
  let digits := ofDigits 10 (whole ++ decimals)
  let power := exponent.getD 0 - decimals.length
  if !negative && roundsToInfinity digits power then failure
  return .float ((if negative then "-" else "") ++ toString digits ++ "e" ++ toString power)

def specialFloat : Reader Item := do
  let negative := (← sign) = some '-'
  let name ←
    (do literal ['i', 'n', 'f']; return "inf") <|> (do literal ['n', 'a', 'n']; return "nan")
  return .float ((if negative then "-" else "") ++ name)

end ExpressionGraphs.Toml
