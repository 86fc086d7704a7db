set_option autoImplicit false

/-! # JSON documents

The data in which types and members are serialized. Numbers are kept as they are written:
no serialized form contains one. -/

namespace ExpressionGraphs

inductive Json where
  | null
  | bool (b : Bool)
  | number (literal : String)
  | string (text : String)
  | list (items : List Json)
  | object (entries : List (String × Json))
  deriving Inhabited

namespace Json

def asString? : Json → Option String
  | string text => some text
  | _ => none

end Json
end ExpressionGraphs
