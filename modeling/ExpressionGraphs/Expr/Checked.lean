import ExpressionGraphs.Expr.Substitution

set_option autoImplicit false

/-!
# Passes with assertions

With assertions on, every lambda comes from the constructor that refuses parameters which are not
parameter nodes, also where a pass rebuilds one. A pass then fails where the constructor does.
-/

namespace ExpressionGraphs

variable {m : Type → Type} [Monad m]

namespace Expr

def checkedRebuild (e : Expr) : Kind Expr → BuildT (ExceptT LambdaError m) Expr
  | .member object member => object.member member
  | .lambda params body => lambda params body
  | kind => fresh e.ty kind

def checkedWithOperands (e : Expr) (operands : List Expr) : BuildT (ExceptT LambdaError m) Expr :=
  if sameNodes e.kind.operands operands then pure e
  else e.checkedRebuild (e.kind.withOperands operands)

def checkedWalk (pass : Expr → BuildT (ExceptT LambdaError m) Expr) (e : Expr) :
    BuildT (ExceptT LambdaError m) Expr := do
  e.checkedWithOperands (← e.kind.operands.mapM pass)

def checkedTransform (replace : Expr → BuildT (ExceptT LambdaError m) (Option Expr)) (e : Expr) :
    BuildT (ExceptT LambdaError m) Expr := do
  match ← replace e with
  | some replacement => pure replacement
  | none =>
    e.checkedWithOperands
      (← e.kind.operands.attach.mapM fun child => child.1.checkedTransform replace)
termination_by sizeOf e
decreasing_by exact sizeOf_lt_of_mem_slots (Kind.mem_slots_of_mem_operands child.2)

def checkedSubstitute (e old new : Expr) : BuildT (ExceptT LambdaError m) Expr :=
  e.checkedTransform fun node => pure (if node.sameNode old then some new else none)

end Expr

def Lambda.checkedSpecialize (l : Lambda) (replacements : List Expr) :
    BuildT (ExceptT LambdaError m) Expr :=
  (l.params.zip replacements).foldlM (fun body pair => body.checkedSubstitute pair.1 pair.2) l.body

end ExpressionGraphs
