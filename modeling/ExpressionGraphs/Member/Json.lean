import ExpressionGraphs.Member.Basic
import ExpressionGraphs.Ty.Json

set_option autoImplicit false

/-!
# Serialized members

A member is an object with an entry for each of its parts. On reading, other entries are
ignored, and a list of the four parts in order is accepted too.
-/

namespace ExpressionGraphs

namespace MemberKind

def toJson : MemberKind → Json
  | field => .string "field"
  | property => .string "property"

def ofTag? (tag : String) : Option MemberKind :=
  if tag = "field" then some field else if tag = "property" then some property else none

def ofJson? : Json → Option MemberKind
  | .string tag => ofTag? tag
  | .object [(tag, .null)] => ofTag? tag
  | _ => none

theorem ofJson?_toJson (k : MemberKind) : ofJson? k.toJson = some k := by
  cases k <;> rfl

end MemberKind

namespace Member

def toJson (m : Member) : Json :=
  .object [("declaring_type", m.declaringType.toJson), ("name", .string m.name),
    ("ty", m.ty.toJson), ("kind", m.kind.toJson)]

def ofParts? (declaringType name ty kind : Json) : Option Member := do
  return ⟨← Ty.ofJson? declaringType, ← name.asString?, ← Ty.ofJson? ty, ← MemberKind.ofJson? kind⟩

def ofJson? : Json → Option Member
  | .list [declaringType, name, ty, kind] => ofParts? declaringType name ty kind
  | .object entries => do
    ofParts? (← entries.lookup "declaring_type") (← entries.lookup "name") (← entries.lookup "ty")
      (← entries.lookup "kind")
  | _ => none

end Member
end ExpressionGraphs
