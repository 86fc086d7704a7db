import ExpressionGraphs.Ty.Basic

set_option autoImplicit false

/-! # Members: the fields and properties of a type -/

namespace ExpressionGraphs

inductive MemberKind where
  | field
  | property
  deriving DecidableEq, Repr, Inhabited

structure Member where
  declaringType : Ty
  name : String
  ty : Ty
  kind : MemberKind
  deriving DecidableEq, Repr

namespace Member

def field (declaringType : Ty) (name : String) (ty : Ty) : Member :=
  ⟨declaringType, name, ty, .field⟩

def property (declaringType : Ty) (name : String) (ty : Ty) : Member :=
  ⟨declaringType, name, ty, .property⟩

def holderValueName : String := "Value"

def holderValue (inner : Ty) : Member := property (.holder inner) holderValueName inner

def text (m : Member) : String := m.declaringType.text ++ "." ++ m.name

/-- A nullable reference exposes the members of the type it wraps. -/
def isDeclaredOn (m : Member) (t : Ty) : Bool := m.declaringType = t.withoutNullable

end Member
end ExpressionGraphs
