import ExpressionGraphs.Json
import ExpressionGraphs.Ty.Basic

set_option autoImplicit false

/-!
# Serialized types

A type without contents is the name of its variant; any other is an object whose one entry
carries the contents under that name. On reading, a variant without contents may also be
written as an object with the entry `null`.
-/

namespace ExpressionGraphs.Ty

mutual

def toJson : Ty → Json
  | void => .string "Void"
  | bool => .string "Bool"
  | int => .string "Int"
  | float => .string "Float"
  | string => .string "String"
  | object => .string "Object"
  | named name => .object [("Class", .string name)]
  | array element => .object [("Array", toJson element)]
  | nullable inner => .object [("Nullable", toJson inner)]
  | func params result => .object [("Fn", .list [.list (listToJson params), toJson result])]
  | holder inner => .object [("Holder", toJson inner)]

def listToJson : List Ty → List Json
  | [] => []
  | t :: ts => toJson t :: listToJson ts

end

def ofTag? (tag : String) : Option Ty :=
  if tag = "Void" then some void
  else if tag = "Bool" then some bool
  else if tag = "Int" then some int
  else if tag = "Float" then some float
  else if tag = "String" then some string
  else if tag = "Object" then some object
  else none

def wrap? (tag : String) (content : Option Ty) : Option Ty :=
  if tag = "Array" then array <$> content
  else if tag = "Nullable" then nullable <$> content
  else if tag = "Holder" then holder <$> content
  else none

mutual

def ofJson? : Json → Option Ty
  | .string tag => ofTag? tag
  | .object [(tag, .null)] => ofTag? tag
  | .object [(tag, .string text)] =>
    if tag = "Class" then some (named text) else wrap? tag (ofTag? text)
  | .object [(tag, .list [.list params, result])] =>
    if tag = "Fn" then do return func (← listOfJson? params) (← ofJson? result) else none
  | .object [(tag, content)] => wrap? tag (ofJson? content)
  | _ => none

def listOfJson? : List Json → Option (List Ty)
  | [] => some []
  | j :: js => do return (← ofJson? j) :: (← listOfJson? js)

end
end ExpressionGraphs.Ty
