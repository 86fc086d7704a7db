import ExpressionGraphs.Expr.Basic

set_option autoImplicit false

/-!
# Transformation with sharing

A pass maps the operands of a node from left to right. A node whose operands all came
back as the same nodes is itself the result; any other is rebuilt with a fresh identity, at each
position where it is met. The parameter list of a lambda is a binding site and stays as it is.
-/

namespace ExpressionGraphs.Expr

variable {m : Type → Type} [Monad m]

def sameNodes (as bs : List Expr) : Bool := as.map id = bs.map id

def withOperands (e : Expr) (operands : List Expr) : BuildT m Expr :=
  if sameNodes e.kind.operands operands then pure e else e.rebuild (e.kind.withOperands operands)

theorem withOperands_self (e : Expr) : (e.withOperands e.kind.operands : BuildT m Expr) = pure e :=
  if_pos (decide_eq_true rfl)

/-- One step of a pass: the pass itself is given for the operands. -/
def walk (pass : Expr → BuildT m Expr) (e : Expr) : BuildT m Expr := do
  e.withOperands (← e.kind.operands.mapM pass)

def recording (pass : Expr → BuildT m Expr) : Expr → BuildT (StateT (List Expr) m) Expr :=
  fun e supply => do
    modify (· ++ [e])
    (pass e).run supply

/-- Replaces each node for which `replace` has an answer and walks through the others. -/
def transform (replace : Expr → BuildT m (Option Expr)) (e : Expr) : BuildT m Expr := do
  match ← replace e with
  | some replacement => pure replacement
  | none => e.withOperands (← e.kind.operands.attach.mapM fun child => child.1.transform replace)
termination_by sizeOf e
decreasing_by exact sizeOf_lt_of_mem_slots (Kind.mem_slots_of_mem_operands child.2)

theorem mapM_attach {α β : Type} {n : Type → Type} [Monad n] [LawfulMonad n] (f : α → n β)
    (l : List α) : (l.attach.mapM fun a => f a.1) = l.mapM f := by
  rw [List.mapM_subtype fun _ _ => rfl, List.unattach_attach]

theorem transform_eq [LawfulMonad m] (replace : Expr → BuildT m (Option Expr)) (e : Expr) :
    e.transform replace =
      replace e >>= fun
        | some replacement => pure replacement
        | none => e.walk (transform replace) := by
  rw [transform]
  congr 1
  funext answer
  cases answer with
  | some replacement => rfl
  | none =>
    simp only [walk]
    rw [mapM_attach (transform replace)]

end ExpressionGraphs.Expr
