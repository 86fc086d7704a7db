import ExpressionGraphs.Text.DefaultIgnorable
import ExpressionGraphs.Text.GraphemeExtend
import ExpressionGraphs.Text.Printable

set_option autoImplicit false

/-!
# Quoted text

The form in which string values are shown: between double quotes, with NUL, tab, line feed,
carriage return, backslash and double quote behind a backslash, and characters that combine with
the one before, may be ignored in display or have no visible form by their code point in
hexadecimal.
-/

namespace ExpressionGraphs.Text

def codePointEscape (c : Char) : List Char :=
  ['\\', 'u', '\x7b'] ++ Nat.toDigits 16 c.toNat ++ ['\x7d']

/-- The halfwidth katakana sound marks extend a grapheme but are written in a cell of their own. -/
def isHalfwidthSoundMark (c : Char) : Bool := c = '\uff9e' || c = '\uff9f'

def isCombining (c : Char) : Bool := isGraphemeExtend c && !isHalfwidthSoundMark c

def isHidden (c : Char) : Bool := isCombining c || isDefaultIgnorable c || !isPrintable c

def escape (c : Char) : List Char :=
  if c = '\x00' then ['\\', '0']
  else if c = '\t' then ['\\', 't']
  else if c = '\n' then ['\\', 'n']
  else if c = '\r' then ['\\', 'r']
  else if c = '\\' then ['\\', '\\']
  else if c = '"' then ['\\', '"']
  else if isHidden c then codePointEscape c
  else [c]

def quote (text : String) : String :=
  String.ofList ('"' :: text.toList.flatMap escape ++ ['"'])

end ExpressionGraphs.Text
