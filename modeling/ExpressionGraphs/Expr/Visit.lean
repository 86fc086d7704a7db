import ExpressionGraphs.Expr.Basic

set_option autoImplicit false

/-!
# Visiting the nodes of an expression

Nodes are met in preorder, children in slot order, a shared node once for each position.
-/

namespace ExpressionGraphs

structure NodeFinder where
  target : Expr
  found : Bool

/-- Whether a search enters a node. Once the flag is set it turns away from every node. -/
def NodeFinder.enter (node : Expr) : StateM NodeFinder Bool := do
  let finder ← get
  if finder.found then return false
  if node.sameNode finder.target then
    set { finder with found := true }
    return false
  return true

namespace Expr

def visit (enters : Expr → Bool) (e : Expr) : List Expr :=
  e :: if enters e then e.kind.slots.attach.flatMap fun child => child.1.visit enters else []
termination_by sizeOf e
decreasing_by exact sizeOf_lt_of_mem_slots child.2

def nodes (e : Expr) : List Expr := e.visit fun _ => true

/-- A visit by a host, which takes a step of its own at each node and decides whether to enter it. -/
def visitWith {m : Type → Type} [Monad m] (enter : Expr → m Bool) (e : Expr) : m Unit := do
  if ← enter e then e.kind.slots.attach.forM fun child => child.1.visitWith enter
termination_by sizeOf e
decreasing_by exact sizeOf_lt_of_mem_slots child.2

def visited (e : Expr) : List Expr :=
  ((e.visitWith fun node => do modify (· ++ [node]); return true : StateM (List Expr) Unit).run []).2

def contains (e target : Expr) : Bool := ((e.visitWith NodeFinder.enter).run ⟨target, false⟩).2.found

/-- The node at a position, which is given by the slots that lead to it from the root. -/
def at? (e : Expr) : List Nat → Option Expr
  | [] => some e
  | i :: path => e.kind.slots[i]?.bind fun child => child.at? path

def positions (e : Expr) : List (List Nat × Expr) :=
  ([], e) :: e.kind.slots.attach.zipIdx.flatMap fun slot =>
    slot.1.1.positions.map fun position => (slot.2 :: position.1, position.2)
termination_by sizeOf e
decreasing_by exact sizeOf_lt_of_mem_slots slot.1.2

def inParameterList (e : Expr) : List Nat → Bool
  | [] => false
  | i :: path => i < e.kind.parameters.length ||
    e.kind.slots[i]?.any fun child => child.inParameterList path

theorem at?_nil (e : Expr) : e.at? [] = some e := rfl

theorem at?_cons (e : Expr) (i : Nat) (path : List Nat) :
    e.at? (i :: path) = e.kind.slots[i]?.bind fun child => child.at? path := rfl

theorem at?_append (e : Expr) (path inner : List Nat) :
    e.at? (path ++ inner) = (e.at? path).bind fun node => node.at? inner := by
  induction path generalizing e with
  | nil => rfl
  | cons i path ih =>
    rw [List.cons_append, at?_cons, at?_cons]
    cases e.kind.slots[i]? with
    | none => rfl
    | some child => exact ih child

theorem visit_eq (enters : Expr → Bool) (e : Expr) :
    e.visit enters = e :: if enters e then e.kind.slots.flatMap (visit enters) else [] := by
  rw [visit]
  simp

theorem nodes_eq (e : Expr) : e.nodes = e :: e.kind.slots.flatMap nodes := by
  rw [nodes, visit_eq]
  rfl

theorem mem_nodes_of_at? {e node : Expr} {path : List Nat} (h : e.at? path = some node) :
    node ∈ e.nodes := by
  induction path generalizing e with
  | nil =>
    rw [nodes_eq, ← Option.some.inj h]
    exact List.mem_cons_self
  | cons i path ih =>
    obtain ⟨child, slot, inner⟩ := Option.bind_eq_some_iff.1 h
    rw [nodes_eq]
    exact List.mem_cons_of_mem _
      (List.mem_flatMap.2 ⟨child, List.mem_of_getElem? slot, ih inner⟩)

theorem visitWith_eq {m : Type → Type} [Monad m] [LawfulMonad m] (enter : Expr → m Bool)
    (e : Expr) :
    e.visitWith enter = enter e >>= fun entered =>
      if entered then forM e.kind.slots (visitWith enter) else pure () := by
  rw [visitWith]
  have children : (e.kind.slots.attach.forM fun child => child.1.visitWith enter) =
      forM e.kind.slots (visitWith enter) := by
    conv => rhs; rw [← List.attach_map_subtype_val e.kind.slots]
    exact List.forM_map.symm
  rw [children]

theorem positions_eq (e : Expr) :
    e.positions = ([], e) :: e.kind.slots.zipIdx.flatMap fun slot =>
      slot.1.positions.map fun position => (slot.2 :: position.1, position.2) := by
  rw [positions]
  conv => rhs; rw [← List.attach_map_subtype_val e.kind.slots, List.zipIdx_map, List.flatMap_map]
  rfl

end Expr

end ExpressionGraphs
