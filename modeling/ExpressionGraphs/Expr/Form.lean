import ExpressionGraphs.Expr.Basic

set_option autoImplicit false

/-!
# Forms

The form of an expression is what is left of it when identities are forgotten: types, kinds
and contents at every position. Two expressions of one form may share their nodes differently.
Floats are compared by their bits here, so that a form equals itself also where it holds NaN.
-/

namespace ExpressionGraphs

inductive Form where
  | node (ty : Ty) (kind : Kind Form)

namespace Expr

def form (e : Expr) : Form := .node e.ty (e.kind.attach.map fun child => child.1.form)
termination_by sizeOf e
decreasing_by exact sizeOf_lt_of_mem_slots child.2

theorem form_eq (e : Expr) : e.form = .node e.ty (e.kind.map form) := by
  rw [form, Kind.attach_map]

theorem form_node (id : NodeId) (ty : Ty) (kind : Kind Expr) :
    (node id ty kind).form = .node ty (kind.map form) := form_eq _

theorem form_node_eq_form_node (i j : NodeId) (ty : Ty) (kind : Kind Expr) :
    (node i ty kind).form = (node j ty kind).form := by
  rw [form_node, form_node]

end Expr
end ExpressionGraphs
