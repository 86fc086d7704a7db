import ExpressionGraphs.Constant.Mapping
import ExpressionGraphs.Expr.Transform

set_option autoImplicit false

/-! # Passes over whole expressions -/

namespace ExpressionGraphs.Expr

variable {m : Type → Type} [Monad m]

def keepAll (e : Expr) : BuildT m Expr := e.transform fun _ => return none

/-- Doubles integer constants, with wrap-around. -/
def doubleConstants (e : Expr) : BuildT m Expr :=
  e.transform fun node =>
    match node.asConstant? with
    | some (.int n) => some <$> constant (.int (2 * n)) .int
    | _ => return none

def freshParameters (e : Expr) : BuildT m Expr :=
  e.transform fun node =>
    match node.kind with
    | .parameter name => some <$> parameter name node.ty
    | _ => return none

/-- Converts every effectively constant node, the outermost first. -/
def retype {ε : Type} (mapper : ValueMapper ε m) (target : Ty) (e : Expr) :
    BuildT (ExceptT ε m) Expr :=
  e.transform (mapConstant mapper target)

end ExpressionGraphs.Expr
