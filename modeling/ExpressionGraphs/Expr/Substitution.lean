import ExpressionGraphs.Expr.Transform

set_option autoImplicit false

/-!
# Substitution

Occurrences are those of a node, found by identity; what merely looks the same is left alone.
A lambda is specialized one parameter after the other, so each pass runs over the result of the
pass before.
-/

namespace ExpressionGraphs

variable {m : Type → Type} [Monad m]

namespace Expr

def substitute (e old new : Expr) : BuildT m Expr :=
  e.transform fun node => pure (if node.sameNode old then some new else none)

/-- Substitutes all pairs in a single pass. The first pair that names a node wins. -/
def substituteAll (e : Expr) (pairs : List (Expr × Expr)) : BuildT m Expr :=
  e.transform fun node => pure ((pairs.find? fun pair => node.sameNode pair.1).map Prod.snd)

end Expr

/-- Parameters beyond the replacements stay free; replacements beyond the parameters are
ignored. -/
def Lambda.specialize (l : Lambda) (replacements : List Expr) : BuildT m Expr :=
  (l.params.zip replacements).foldlM (fun body pair => body.substitute pair.1 pair.2) l.body

end ExpressionGraphs
