import ExpressionGraphs.Expr.Basic

set_option autoImplicit false

/-!
# Effectively constant expressions

A value reaches an expression either as a constant node or through a member of one, such as a
captured environment or a box. Only one member access is looked through.
-/

namespace ExpressionGraphs

inductive ConstantShape where
  | literal
  | memberOfConstant
  deriving DecidableEq, Repr

structure EffectiveConstant where
  constant : Expr
  value : Value
  shape : ConstantShape

namespace EffectiveConstant

def isMemberReference (c : EffectiveConstant) : Bool := c.shape = .memberOfConstant

/-- The type of the constant node, which is not that of the access through which it is seen. -/
def declaredType (c : EffectiveConstant) : Ty := c.constant.ty

end EffectiveConstant

namespace Expr

def asEffectiveConstant? (e : Expr) : Option EffectiveConstant :=
  match e.kind with
  | .constant value => some ⟨e, value, .literal⟩
  | .member object _ => object.asConstant?.map fun value => ⟨object, value, .memberOfConstant⟩
  | _ => none

def isEffectivelyConstant (e : Expr) : Bool := e.asEffectiveConstant?.isSome

end Expr
end ExpressionGraphs
