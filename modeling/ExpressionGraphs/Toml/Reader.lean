set_option autoImplicit false

/-!
# Readers

A reader takes characters from the front of the text or refuses it. Alternatives start again
from the same text.
-/

namespace ExpressionGraphs.Toml

abbrev Reader := StateT (List Char) Option

namespace Reader

def satisfy (p : Char → Bool) : Reader Char
  | c :: rest => if p c then some (c, rest) else none
  | [] => none

def char (c : Char) : Reader Unit
  | d :: rest => if c = d then some ((), rest) else none
  | [] => none

def literal : List Char → Reader Unit
  | [] => pure ()
  | c :: cs => do char c; literal cs

def takeWhile (p : Char → Bool) : Reader (List Char) :=
  fun text => some (text.takeWhile p, text.dropWhile p)

def endOfText : Reader Unit
  | [] => some ((), [])
  | _ :: _ => none

def attempt {α : Type} (r : Reader α) : Reader (Option α) := fun text =>
  match r text with
  | some (a, rest) => some (some a, rest)
  | none => some (none, text)

/-- Repeats a reader that always takes something. The first list bounds the repetitions: it
starts as the whole text and loses one character each time. -/
def manyWithin {α : Type} (r : Reader α) : List Char → List Char → List α × List Char
  | [], text => ([], text)
  | _ :: bound, text =>
    match r text with
    | none => ([], text)
    | some (a, rest) =>
      let (as, rest) := manyWithin r bound rest
      (a :: as, rest)

def many {α : Type} (r : Reader α) : Reader (List α) := fun text => some (manyWithin r text text)

def separated {α : Type} (separator : Char) (r : Reader α) : Reader (List α) := do
  let first ← r
  let others ← many (do char separator; r)
  return first :: others

def exactly (n : Nat) (p : Char → Bool) : Reader (List Char) := fun text =>
  let front := text.take n
  if front.length = n && front.all p then some (front, text.drop n) else none

end Reader

open Reader

def isDigit (c : Char) : Bool := '0' ≤ c && c ≤ '9'

def isHexDigit (c : Char) : Bool := isDigit c || ('a' ≤ c && c ≤ 'f') || ('A' ≤ c && c ≤ 'F')

def digitValue (c : Char) : Nat :=
  if isDigit c then c.toNat - '0'.toNat
  else if 'a' ≤ c && c ≤ 'f' then c.toNat - 'a'.toNat + 10
  else c.toNat - 'A'.toNat + 10

def ofDigits (base : Nat) (digits : List Char) : Nat :=
  digits.foldl (fun n c => n * base + digitValue c) 0

def isBlank (c : Char) : Bool := c = ' ' || c = '\t'

/-- Control characters other than tab stand nowhere in a document outside line ends. -/
def isControl (c : Char) : Bool := (c < ' ' && c ≠ '\t') || c = '\x7f'

def skipBlanks : Reader Unit := do let _ ← takeWhile isBlank

def newline : Reader Unit := char '\n' <|> literal ['\r', '\n']

def comment : Reader Unit := do
  char '#'
  let _ ← takeWhile (!isControl ·)

def skipLines : Reader Unit := do
  let _ ← many (char ' ' <|> char '\t' <|> newline <|> comment)

def endOfLine : Reader Unit := do
  skipBlanks
  let _ ← attempt comment
  newline <|> endOfText

end ExpressionGraphs.Toml
