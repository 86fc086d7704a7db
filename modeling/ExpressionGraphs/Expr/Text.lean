import ExpressionGraphs.Expr.Basic
import ExpressionGraphs.Value.Text

set_option autoImplicit false

/-!
# The text of an expression

`Kind.text` writes a node around the texts of its children.
-/

namespace ExpressionGraphs

def parameterListText : List String → String
  | [param] => param
  | params => "(" ++ ", ".intercalate params ++ ")"

def Kind.text : Kind String → String
  | member object m => object ++ "." ++ m.name
  | constant value => value.text
  | parameter name => name
  | lambda params body => parameterListText params ++ " => " ++ body
  | unary op operand => op.symbol ++ operand
  | binary op lhs rhs => "(" ++ lhs ++ " " ++ op.symbol ++ " " ++ rhs ++ ")"
  | call function args => function ++ "(" ++ ", ".intercalate args ++ ")"
  | conditional test thenBranch elseBranch =>
    "(" ++ test ++ " ? " ++ thenBranch ++ " : " ++ elseBranch ++ ")"
  | host label => "<" ++ label ++ ">"

namespace Expr

def text (e : Expr) : String := (e.kind.attach.map fun child => child.1.text).text
termination_by sizeOf e
decreasing_by exact sizeOf_lt_of_mem_slots child.2

theorem text_eq (e : Expr) : e.text = (e.kind.map text).text := by
  rw [text, Kind.attach_map]

end Expr
end ExpressionGraphs
