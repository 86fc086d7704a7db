import ExpressionGraphs.Text.Alphabetic
import ExpressionGraphs.Text.Numeric
import ExpressionGraphs.Text.WhiteSpace
import ExpressionGraphs.Ty.Basic

set_option autoImplicit false

/-!
# Reading types

White space around a type is ignored at every level. A trailing `?` makes a nullable type of
what stands before it, brackets make an array type, and what remains is the name of a primitive
type or of a class.
-/

namespace ExpressionGraphs

open Text

inductive TyError where
  | empty
  | unterminatedArray (text : String)
  | invalidName (text : String)
  deriving DecidableEq, Repr

def TyError.message : TyError → String
  | empty => "empty type name"
  | unterminatedArray text => "unterminated array type `" ++ text ++ "`"
  | invalidName text => "invalid type name `" ++ text ++ "`"

def isNameStart (c : Char) : Bool := isAlphabetic c || c = '_'

def isNamePart (c : Char) : Bool := isAlphabetic c || isNumeric c || c = '_'

def isName : List Char → Bool
  | [] => false
  | c :: cs => isNameStart c && (c :: cs).all isNamePart

namespace Ty

def primitive? (name : String) : Option Ty :=
  if name = "void" then some void
  else if name = "bool" then some bool
  else if name = "int" then some int
  else if name = "float" then some float
  else if name = "string" then some string
  else if name = "object" then some object
  else none

def ofName (cs : List Char) : Except TyError Ty :=
  match primitive? (String.ofList cs) with
  | some t => .ok t
  | none =>
    if isName cs then .ok (named (String.ofList cs)) else .error (.invalidName (String.ofList cs))

def ofChars (cs : List Char) : Except TyError Ty :=
  match _shape : trim cs with
  | [] => .error .empty
  | c :: rest =>
    if (c :: rest).getLast? = some '?' then nullable <$> ofChars (c :: rest).dropLast
    else if c = '[' then
      if rest.getLast? = some ']' then array <$> ofChars rest.dropLast
      else .error (.unterminatedArray (String.ofList (c :: rest)))
    else ofName (c :: rest)
termination_by cs.length
decreasing_by
  all_goals
    have := length_trim_le cs
    simp only [_shape, List.length_dropLast, List.length_cons] at *
    omega

def parse (source : String) : Except TyError Ty := ofChars source.toList

theorem ofChars_of_trim_eq_nil {cs : List Char} (h : trim cs = []) :
    ofChars cs = .error .empty := by
  rw [ofChars]
  split
  · rfl
  · simp_all

theorem ofChars_of_trim_eq_cons {cs rest : List Char} {c : Char} (h : trim cs = c :: rest) :
    ofChars cs =
      if (c :: rest).getLast? = some '?' then nullable <$> ofChars (c :: rest).dropLast
      else if c = '[' then
        if rest.getLast? = some ']' then array <$> ofChars rest.dropLast
        else .error (.unterminatedArray (String.ofList (c :: rest)))
      else ofName (c :: rest) := by
  rw [ofChars]
  split
  · simp_all
  · simp_all

end Ty
end ExpressionGraphs
