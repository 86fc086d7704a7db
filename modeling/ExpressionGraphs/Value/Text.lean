import ExpressionGraphs.Binary64.Text
import ExpressionGraphs.Text.Quoted
import ExpressionGraphs.Value.Basic

set_option autoImplicit false

/-! # The text of a value -/

namespace ExpressionGraphs.Value

mutual

def text : Value → String
  | null => "null"
  | bool b => if b then "true" else "false"
  | int n => toString n.toInt
  | float x => x.text
  | string s => Text.quote s
  | array items => "[" ++ ", ".intercalate (textItems items) ++ "]"
  | record className _ => className ++ " \x7b .. \x7d"
  | boxed ty value => "Holder<" ++ ty.text ++ ">(" ++ text value ++ ")"

def textItems : List Value → List String
  | [] => []
  | v :: vs => text v :: textItems vs

end

end ExpressionGraphs.Value
