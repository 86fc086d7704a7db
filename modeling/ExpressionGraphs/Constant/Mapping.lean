import ExpressionGraphs.Constant.Classification

set_option autoImplicit false

/-!
# Constants under another type

A constant is rebuilt in the shape in which it was found: a literal as a literal, a member of a
constant as the `Value` of a fresh box.
-/

namespace ExpressionGraphs

/-- Converts a value from a source type to a target type, or fails. -/
abbrev ValueMapper (ε : Type) (m : Type → Type) := Value → Ty → Ty → ExceptT ε m Value

structure Conversion where
  value : Value
  source : Ty
  target : Ty

variable {ε : Type} {m : Type → Type} [Monad m]

def ValueMapper.recording (mapper : ValueMapper ε m) :
    ValueMapper ε (StateT (List Conversion) m) := fun value source target =>
  ExceptT.mk do
    modify (· ++ [⟨value, source, target⟩])
    (mapper value source target).run

namespace Expr

def builtConstant (value : Value) (ty : Ty) : ConstantShape → BuildT m Expr
  | .literal => constant value ty
  | .memberOfConstant => do
    (← constant (.boxed ty value) (.holder ty)).member (.holderValue ty)

/-- An expression that is not effectively constant has no answer. A constant declared with the
target type already is its own answer, and the mapper is not asked. -/
def mapConstant (mapper : ValueMapper ε m) (target : Ty) (e : Expr) :
    BuildT (ExceptT ε m) (Option Expr) :=
  match e.asEffectiveConstant? with
  | none => return none
  | some c =>
    if c.declaredType = target then return some e
    else do
      let value ← mapper c.value.unbox e.ty target
      return some (← builtConstant value target c.shape)

end Expr
end ExpressionGraphs
