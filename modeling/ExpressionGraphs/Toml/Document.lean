import ExpressionGraphs.Toml.DateTimes
import ExpressionGraphs.Toml.Numbers
import ExpressionGraphs.Toml.Strings
import ExpressionGraphs.Toml.Tables

set_option autoImplicit false

/-! # TOML documents -/

namespace ExpressionGraphs.Toml

open Reader

/-- Keys with this many parts, and values nested this deep, are refused. -/
def nestingLimit : Nat := 80

def isBareKeyChar (c : Char) : Bool :=
  isDigit c || ('a' ≤ c && c ≤ 'z') || ('A' ≤ c && c ≤ 'Z') || c = '-' || c = '_'

def bareKey : Reader String := do
  let first ← satisfy isBareKeyChar
  return String.ofList (first :: (← takeWhile isBareKeyChar))

def keyPart : Reader String := do
  skipBlanks
  let key ← basicString <|> literalString <|> bareKey
  skipBlanks
  return key

def key : Reader (List String) := do
  let parts ← separated '.' keyPart
  if parts.length < nestingLimit then return parts else failure

def boolean : Reader Item :=
  (do literal ['t', 'r', 'u', 'e']; return .boolean true)
    <|> (do literal ['f', 'a', 'l', 's', 'e']; return .boolean false)

def scalar : Reader Item :=
  (do return .string (← stringText))
    <|> (do return .dateTime (← dateTime))
    <|> decimalFloat <|> specialFloat <|> integer <|> boolean

def array (value : Reader Item) : Reader Item := do
  char '['
  let element : Reader Item := do
    skipLines
    let item ← value
    skipLines
    return item
  let items ← attempt (separated ',' element)
  if items.isSome then
    let _ ← attempt (char ',')
  skipLines
  char ']'
  return .array (items.getD [])

def keyValue (value : Reader Item) : Reader (List String × Item) := do
  let path ← key
  char '='
  skipBlanks
  return (path, ← value)

def bracedTable (value : Reader Item) : Reader Item := do
  char '\x7b'
  let entry : Reader (List String × Item) := do
    let e ← keyValue value
    skipBlanks
    return e
  let entries ← attempt (separated ',' entry)
  skipBlanks
  char '\x7d'
  inlineTable (entries.getD [])

/-- A value with at most so many arrays and inline tables around one another. -/
def value : Nat → Reader Item
  | 0, text => scalar text
  | depth + 1, text => (scalar <|> array (value depth) <|> bracedTable (value depth)) text

def header : Reader Line := do
  char '['
  let path ← key
  char ']'
  return .header path

def rowHeader : Reader Line := do
  literal ['[', '[']
  let path ← key
  literal [']', ']']
  return .rowHeader path

def entry : Reader Line := do
  let (path, item) ← keyValue (value (nestingLimit - 1))
  return .entry path item

def line : Reader (Option Line) := fun text =>
  if text.isEmpty then none
  else (do
    skipBlanks
    let content ← attempt (rowHeader <|> header <|> entry)
    endOfLine
    return content : Reader (Option Line)) text

def byteOrderMark : Char := '\ufeff'

def document : Reader (List Line) := do
  let _ ← attempt (char byteOrderMark)
  let lines ← many line
  endOfText
  return lines.filterMap id

def parse? (source : String) : Option Entries := do
  let (lines, _) ← document source.toList
  ofLines lines

end ExpressionGraphs.Toml
