import ExpressionGraphs.Expr.Visit

set_option autoImplicit false

/-!
# Identities

Within one graph an identity belongs to one node.
-/

namespace ExpressionGraphs

/-- Nodes of the same identity are the same in every respect. -/
def Coherent (roots : List Expr) : Prop :=
  ∀ a ∈ roots.flatMap Expr.nodes, ∀ b ∈ roots.flatMap Expr.nodes, a.id = b.id → a = b

namespace Expr

theorem mem_nodes_self (e : Expr) : e ∈ e.nodes := by
  rw [nodes_eq]
  exact List.mem_cons_self

theorem mem_nodes_of_mem_slots {e child node : Expr} (h : child ∈ e.kind.slots)
    (inner : node ∈ child.nodes) : node ∈ e.nodes := by
  rw [nodes_eq]
  exact List.mem_cons_of_mem _ (List.mem_flatMap.2 ⟨child, h, inner⟩)

end Expr

end ExpressionGraphs
