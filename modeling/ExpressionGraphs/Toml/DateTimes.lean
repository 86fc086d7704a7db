import ExpressionGraphs.Toml.Reader

set_option autoImplicit false

/-!
# TOML date-times

A date-time is kept as its normal text: a `T` between date and time, at most nine digits of a
second without trailing zeros, and `Z` for a lower-case `z`.
-/

namespace ExpressionGraphs.Toml

open Reader

def number (width : Nat) : Reader Nat := do return ofDigits 10 (← exactly width isDigit)

def numberWithin (low high : Nat) : Reader Nat := do
  let n ← number 2
  if low ≤ n && n ≤ high then return n else failure

def padded (width n : Nat) : String :=
  let digits := Nat.toDigits 10 n
  String.ofList (List.replicate (width - digits.length) '0' ++ digits)

def isLeapYear (year : Nat) : Bool := year % 4 = 0 && (year % 100 ≠ 0 || year % 400 = 0)

def daysInMonth (year month : Nat) : Nat :=
  if month = 2 then if isLeapYear year then 29 else 28
  else if month = 4 || month = 6 || month = 9 || month = 11 then 30
  else 31

def date : Reader String := do
  let year ← number 4
  char '-'
  let month ← numberWithin 1 12
  char '-'
  let day ← numberWithin 1 (daysInMonth year month)
  return padded 4 year ++ "-" ++ padded 2 month ++ "-" ++ padded 2 day

def secondFraction : Reader String := do
  char '.'
  let first ← satisfy isDigit
  let others ← takeWhile isDigit
  let kept := (((first :: others).take 9).reverse.dropWhile (· = '0')).reverse
  return if kept.isEmpty then "" else "." ++ String.ofList kept

def time : Reader String := do
  let hour ← numberWithin 0 23
  char ':'
  let minute ← numberWithin 0 59
  char ':'
  let second ← numberWithin 0 60
  let fraction ← attempt secondFraction
  return padded 2 hour ++ ":" ++ padded 2 minute ++ ":" ++ padded 2 second ++ fraction.getD ""

def offset : Reader String :=
  (do let _ ← satisfy fun c => c = 'Z' || c = 'z'; return "Z")
    <|> (do
      let mark ← satisfy fun c => c = '+' || c = '-'
      let hour ← numberWithin 0 23
      char ':'
      let minute ← numberWithin 0 59
      let shown := if mark = '-' && 0 < hour + minute then "-" else "+"
      return shown ++ padded 2 hour ++ ":" ++ padded 2 minute)

def timeOfDay : Reader String := do
  let _ ← satisfy fun c => c = 'T' || c = 't' || c = ' '
  let clock ← time
  return "T" ++ clock ++ (← attempt offset).getD ""

def dateTime : Reader String :=
  (do return (← date) ++ (← attempt timeOfDay).getD "") <|> time

end ExpressionGraphs.Toml
