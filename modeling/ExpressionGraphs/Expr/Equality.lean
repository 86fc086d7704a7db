import ExpressionGraphs.Expr.Basic

set_option autoImplicit false

/-!
# Equality of expressions

A node equals itself whatever it holds. Different nodes are equal when their types and shapes
are and their children are equal in turn, so that equality looks through sharing.
-/

namespace ExpressionGraphs.Expr

def same (a b : Expr) : Bool :=
  a.sameNode b ||
    (a.ty = b.ty && a.kind.shape == b.kind.shape &&
      (a.kind.slots.attach.zip b.kind.slots).all fun children => same children.1.1 children.2)
termination_by sizeOf a
decreasing_by exact sizeOf_lt_of_mem_slots children.1.2

instance : BEq Expr := ⟨same⟩

theorem zip_attach_all {α β : Type} (as : List α) (bs : List β) (p : α → β → Bool) :
    ((as.attach.zip bs).all fun ab => p ab.1.1 ab.2) = (as.zip bs).all fun ab => p ab.1 ab.2 := by
  conv => rhs; rw [← List.attach_map_subtype_val as, List.zip_map_left, List.all_map]
  rfl

theorem beq_def (a b : Expr) :
    (a == b) = (a.sameNode b ||
      (a.ty = b.ty && a.kind.shape == b.kind.shape &&
        (a.kind.slots.zip b.kind.slots).all fun children => children.1 == children.2)) := by
  change same a b = _
  rw [same, zip_attach_all _ _ same]
  rfl

end ExpressionGraphs.Expr
