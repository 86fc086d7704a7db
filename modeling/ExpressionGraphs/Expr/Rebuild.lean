import ExpressionGraphs.Expr.Transform

set_option autoImplicit false

/-!
# Transformation without sharing

The plain pass that builds every node anew unless it is replaced. `Expr.transform` differs from
it in what is shared and in nothing else.
-/

namespace ExpressionGraphs.Expr

variable {m : Type → Type} [Monad m]

def rebuildAll (replace : Expr → BuildT m (Option Expr)) (e : Expr) : BuildT m Expr := do
  match ← replace e with
  | some replacement => pure replacement
  | none =>
    let operands ← e.kind.operands.attach.mapM fun child => child.1.rebuildAll replace
    e.rebuild (e.kind.withOperands operands)
termination_by sizeOf e
decreasing_by exact sizeOf_lt_of_mem_slots (Kind.mem_slots_of_mem_operands child.2)

theorem rebuildAll_eq [LawfulMonad m] (replace : Expr → BuildT m (Option Expr)) (e : Expr) :
    e.rebuildAll replace =
      replace e >>= fun
        | some replacement => pure replacement
        | none => e.kind.operands.mapM (rebuildAll replace) >>= fun operands =>
          e.rebuild (e.kind.withOperands operands) := by
  rw [rebuildAll]
  congr 1
  funext answer
  cases answer with
  | some replacement => rfl
  | none =>
    dsimp only
    rw [mapM_attach (rebuildAll replace)]

end ExpressionGraphs.Expr
