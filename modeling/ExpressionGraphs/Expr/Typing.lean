import ExpressionGraphs.Expr.Visit

set_option autoImplicit false

/-!
# Well-typed expressions

The types of some nodes are determined by their contents. A node that is built unchecked, or
whose children are exchanged, may have another.
-/

namespace ExpressionGraphs.Expr

def NodeTyped (e : Expr) : Prop :=
  match e.kind with
  | .member object member => member.isDeclaredOn object.ty ∧ e.ty = member.ty
  | .lambda params body => e.ty = lambdaType params body
  | .conditional _ thenBranch _ => e.ty = thenBranch.ty
  | _ => True

instance : (e : Expr) → Decidable e.NodeTyped
  | node _ ty (.member object m) =>
    inferInstanceAs (Decidable (m.isDeclaredOn object.ty ∧ ty = m.ty))
  | node _ ty (.lambda params body) => inferInstanceAs (Decidable (ty = lambdaType params body))
  | node _ ty (.conditional _ thenBranch _) => inferInstanceAs (Decidable (ty = thenBranch.ty))
  | node _ _ (.constant _) | node _ _ (.parameter _) | node _ _ (.unary _ _)
  | node _ _ (.binary _ _ _) | node _ _ (.call _ _) | node _ _ (.host _) =>
    inferInstanceAs (Decidable True)

def WellTyped (e : Expr) : Prop := ∀ node ∈ e.nodes, node.NodeTyped

instance (e : Expr) : Decidable e.WellTyped :=
  inferInstanceAs (Decidable (∀ node ∈ e.nodes, node.NodeTyped))

theorem wellTyped_iff (e : Expr) :
    e.WellTyped ↔ e.NodeTyped ∧ ∀ child ∈ e.kind.slots, child.WellTyped := by
  unfold WellTyped
  rw [nodes_eq]
  simp only [List.forall_mem_cons, List.mem_flatMap]
  exact and_congr_right fun _ =>
    ⟨fun h child mem node inner => h node ⟨child, mem, inner⟩,
      fun h node ⟨child, mem, inner⟩ => h child mem node inner⟩

end ExpressionGraphs.Expr
