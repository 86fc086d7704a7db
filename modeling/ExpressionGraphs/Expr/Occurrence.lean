import ExpressionGraphs.Expr.Basic

set_option autoImplicit false

/-!
# Occurrences

The positions of an expression at which a node can be replaced are those outside the parameter
lists of lambdas. `reached` lists the nodes at these positions in preorder, entering only some.
-/

namespace ExpressionGraphs.Expr

def reached (enters : Expr → Bool) (e : Expr) : List Expr :=
  e :: if enters e then e.kind.operands.attach.flatMap fun child => child.1.reached enters else []
termination_by sizeOf e
decreasing_by exact sizeOf_lt_of_mem_slots (Kind.mem_slots_of_mem_operands child.2)

theorem reached_eq (enters : Expr → Bool) (e : Expr) :
    e.reached enters = e :: if enters e then e.kind.operands.flatMap (reached enters) else [] := by
  rw [reached]
  simp

def hasOccurrence (e target : Expr) : Bool :=
  (e.reached fun _ => true).any fun node => node.sameNode target

theorem hasOccurrence_eq (e target : Expr) :
    e.hasOccurrence target =
      (e.sameNode target || e.kind.operands.any fun child => child.hasOccurrence target) := by
  rw [hasOccurrence, reached_eq]
  simp only [if_true, List.any_cons, List.any_flatMap]
  rfl

end ExpressionGraphs.Expr
