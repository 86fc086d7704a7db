import ExpressionGraphs.Toml.Reader

set_option autoImplicit false

/-! # TOML strings -/

namespace ExpressionGraphs.Toml

open Reader

def codePoint (digits : List Char) : Option Char :=
  let n := ofDigits 16 digits
  if n.isValidChar then some (Char.ofNat n) else none

def escapeCode : Reader Char := do
  let c ← satisfy fun _ => true
  if c = 'b' then return '\x08'
  else if c = 't' then return '\t'
  else if c = 'n' then return '\n'
  else if c = 'f' then return '\x0c'
  else if c = 'r' then return '\r'
  else if c = '"' || c = '\\' then return c
  else if c = 'u' then codePoint (← exactly 4 isHexDigit)
  else if c = 'U' then codePoint (← exactly 8 isHexDigit)
  else failure

def basicChar : Reader Char :=
  satisfy (fun c => !isControl c && c ≠ '"' && c ≠ '\\') <|> (do char '\\'; escapeCode)

def basicString : Reader String := do
  char '"'
  let body ← many basicChar
  char '"'
  return String.ofList body

def literalString : Reader String := do
  char '\''
  let body ← takeWhile fun c => !isControl c && c ≠ '\''
  char '\''
  return String.ofList body

/-- One or two quotes that do not close the string. -/
def innerQuotes (quote : Char) : Reader (List Char) := fun text =>
  let run := text.takeWhile (· = quote)
  if 1 ≤ run.length && run.length ≤ 2 then some (run, text.drop run.length) else none

/-- The three closing quotes, and up to two quotes before them that belong to the string. -/
def closingQuotes (quote : Char) : Reader (List Char) := fun text =>
  let run := text.takeWhile (· = quote)
  if 3 ≤ run.length && run.length ≤ 5 then some (run.drop 3, text.drop run.length) else none

/-- A backslash at the end of a line, which removes all white space up to the next text. -/
def continuedLine : Reader (List Char) := do
  char '\\'
  skipBlanks
  newline
  let _ ← many (char ' ' <|> char '\t' <|> newline)
  return []

def lineBreak : Reader (List Char) := do
  newline
  return ['\n']

def single (r : Reader Char) : Reader (List Char) := do return [← r]

def multilineString (quote : Char) (piece : Reader (List Char)) : Reader String := do
  literal [quote, quote, quote]
  let _ ← attempt newline
  let body ← many (piece <|> lineBreak <|> innerQuotes quote)
  let last ← closingQuotes quote
  return String.ofList (body.flatten ++ last)

def multilineBasicString : Reader String :=
  multilineString '"' (single basicChar <|> continuedLine)

def multilineLiteralString : Reader String :=
  multilineString '\'' (single (satisfy fun c => !isControl c && c ≠ '\''))

def stringText : Reader String :=
  multilineBasicString <|> multilineLiteralString <|> basicString <|> literalString

end ExpressionGraphs.Toml
