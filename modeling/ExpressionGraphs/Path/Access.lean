import ExpressionGraphs.Expr.Basic
import ExpressionGraphs.Path.Resolution

set_option autoImplicit false

/-!
# Accesses along a path

The leftmost segment becomes the innermost access. Each segment is resolved on the type of the
expression built so far, and its member is checked against that type before the next segment
is asked for.
-/

namespace ExpressionGraphs.Expr

variable {m : Type → Type} [Monad m] {ε : Type}

def accessAll (root : Expr) (members : List Member) : BuildT (ExceptT AccessError m) Expr :=
  members.foldlM access root

def accessSegment (resolve : Resolver m ε) (object : Expr) (segment : String) :
    BuildT (ExceptT (AccessError ε) m) Expr := do
  object.access (← resolve object.ty segment) ε

def accessPath (resolve : Resolver m ε) (root : Expr) (path : String) :
    BuildT (ExceptT (AccessError ε) m) Expr :=
  (segments path).foldlM (accessSegment resolve) root

end ExpressionGraphs.Expr
