import ExpressionGraphs.Expr.Occurrence
import ExpressionGraphs.Proofs.Building
import ExpressionGraphs.Expr.Visit
import Mathlib.Data.List.Basic

set_option autoImplicit false

/-!
# Visitors and passes meet the same nodes

A visitor that enters every node meets the positions of an expression in preorder. A pass that
replaces nothing meets the same positions except those in the parameter lists of lambdas. Whatever a
pass answers, one step of it asks for each operand once, in slot order.
-/

namespace ExpressionGraphs

section Lists

variable {α β : Type} {m : Type → Type} [Monad m]

theorem forM_flatMap [LawfulMonad m] (parts : α → List β) (act : β → m Unit) (l : List α) :
    forM (l.flatMap parts) act = forM l fun a => forM (parts a) act := by
  induction l with
  | nil => rfl
  | cons a l ih =>
    rw [List.flatMap_cons, List.forM_append, List.forM_cons, ih]

theorem forM_congr {l : List α} {f g : α → m Unit} (h : ∀ a ∈ l, f a = g a) :
    forM l f = forM l g := by
  induction l with
  | nil => rfl
  | cons a l ih =>
    rw [List.forM_cons, List.forM_cons, h a List.mem_cons_self,
      ih fun b mem => h b (List.mem_cons_of_mem a mem)]

theorem mapM_of_noting [LawfulMonad m] {l : List α} {f : α → m α} {note : α → m Unit}
    (h : ∀ a ∈ l, f a = do note a; return a) : l.mapM f = do forM l note; return l := by
  induction l with
  | nil =>
    rw [List.mapM_nil, List.forM_nil, pure_bind]
  | cons a l ih =>
    rw [List.mapM_cons, h a List.mem_cons_self, ih fun b mem => h b (List.mem_cons_of_mem a mem),
      List.forM_cons]
    simp only [bind_assoc, pure_bind]

theorem flatMap_zipIdx_append (front back : List α) (f : α → List β) :
    ((front ++ back).zipIdx.flatMap fun slot =>
      if slot.2 < front.length then [] else f slot.1) = back.flatMap f := by
  have left : (front.zipIdx.flatMap fun slot =>
      if slot.2 < front.length then [] else f slot.1) = [] := by
    refine List.flatMap_eq_nil_iff.2 fun slot mem => if_pos ?_
    exact List.snd_lt_of_mem_zipIdx mem
  have right : ((back.zipIdx front.length).flatMap fun slot =>
      if slot.2 < front.length then [] else f slot.1) =
      (back.zipIdx front.length).flatMap fun slot => f slot.1 :=
    List.flatMap_congr fun slot mem => if_neg (Nat.not_lt.2 (List.le_snd_of_mem_zipIdx mem))
  rw [List.zipIdx_append, List.flatMap_append, left, List.nil_append, Nat.zero_add, right]
  rw [← List.flatMap_map Prod.fst f, List.zipIdx_map_fst]

end Lists

namespace Expr

section Positions

theorem map_snd_positions (e : Expr) : e.positions.map Prod.snd = e.nodes := by
  induction e using induction with
  | step e ih =>
    have children : (e.kind.slots.zipIdx.flatMap fun slot =>
        (slot.1.positions.map fun position => (slot.2 :: position.1, position.2)).map Prod.snd) =
        e.kind.slots.zipIdx.flatMap fun slot => slot.1.nodes := by
      refine List.flatMap_congr fun slot mem => ?_
      rw [List.map_map, ← ih slot.1 (List.fst_mem_of_mem_zipIdx mem)]
      rfl
    rw [positions_eq, nodes_eq, List.map_cons, List.map_flatMap, children,
      ← List.flatMap_map Prod.fst nodes, List.zipIdx_map_fst]

theorem mem_positions_iff {e node : Expr} {path : List Nat} :
    (path, node) ∈ e.positions ↔ e.at? path = some node := by
  induction path generalizing e with
  | nil =>
    rw [positions_eq, at?_nil, Option.some_inj]
    simp [eq_comm]
  | cons i path ih =>
    rw [positions_eq, at?_cons, Option.bind_eq_some_iff]
    constructor
    · intro mem
      obtain ⟨⟨child, j⟩, slot, inner⟩ :=
        List.mem_flatMap.1 (List.mem_of_ne_of_mem (by simp) mem)
      obtain ⟨position, below, equal⟩ := List.mem_map.1 inner
      cases equal
      exact ⟨child, List.mem_zipIdx_iff_getElem?.1 slot, ih.1 below⟩
    · rintro ⟨child, slot, below⟩
      exact List.mem_cons_of_mem _ (List.mem_flatMap.2 ⟨(child, i),
        List.mem_zipIdx_iff_getElem?.2 slot, List.mem_map.2 ⟨(path, node), ih.2 below, rfl⟩⟩)

/-- Preorder is the lexicographic order of the positions, in which each stands once. -/
theorem pairwise_positions (e : Expr) : (e.positions.map Prod.fst).Pairwise (· < ·) := by
  induction e using induction with
  | step e ih =>
    rw [positions_eq, List.map_cons, List.map_flatMap, List.pairwise_cons, List.pairwise_flatMap]
    refine ⟨?root, ?within, ?across⟩
    case root =>
      intro path mem
      obtain ⟨slot, -, inner⟩ := List.mem_flatMap.1 mem
      rw [List.map_map] at inner
      obtain ⟨position, -, rfl⟩ := List.mem_map.1 inner
      exact List.nil_lt_cons _ _
    case within =>
      intro slot mem
      have below := ih slot.1 (List.fst_mem_of_mem_zipIdx mem)
      rw [List.pairwise_map] at below
      rw [List.map_map, List.pairwise_map]
      exact below.imp fun less => List.cons_lt_cons_iff.2 (.inr ⟨rfl, less⟩)
    case across =>
      have indices : (e.kind.slots.zipIdx.map Prod.snd).Pairwise (· < ·) := by
        rw [List.zipIdx_map_snd]
        exact List.pairwise_lt_range'
      rw [List.pairwise_map] at indices
      refine indices.imp fun {left right} less path mem path' mem' => ?_
      rw [List.map_map] at mem mem'
      obtain ⟨position, -, rfl⟩ := List.mem_map.1 mem
      obtain ⟨position', -, rfl⟩ := List.mem_map.1 mem'
      exact List.cons_lt_cons_iff.2 (.inl less)

theorem inParameterList_cons (e : Expr) (i : Nat) (path : List Nat) :
    e.inParameterList (i :: path) = (decide (i < e.kind.parameters.length) ||
      e.kind.slots[i]?.any fun child => child.inParameterList path) := rfl

theorem map_snd_positions_filter (e : Expr) :
    (e.positions.filter fun position => !e.inParameterList position.1).map Prod.snd =
      e.reached fun _ => true := by
  induction e using induction with
  | step e ih =>
    have children : (e.kind.slots.zipIdx.flatMap fun slot =>
        ((slot.1.positions.map fun position => (slot.2 :: position.1, position.2)).filter
          fun position => !e.inParameterList position.1).map Prod.snd) =
        e.kind.slots.zipIdx.flatMap fun slot =>
          if slot.2 < e.kind.parameters.length then [] else slot.1.reached fun _ => true := by
      refine List.flatMap_congr fun slot mem => ?_
      have child : e.kind.slots[slot.2]? = some slot.1 := List.mem_zipIdx_iff_getElem?.1 mem
      have below (path : List Nat) : e.inParameterList (slot.2 :: path) =
          (decide (slot.2 < e.kind.parameters.length) || slot.1.inParameterList path) := by
        rw [inParameterList_cons, child, Option.any_some]
      rw [List.filter_map, List.map_map]
      split
      case isTrue declared => simp [Function.comp_def, below, declared]
      case isFalse other =>
        rw [← ih slot.1 (List.fst_mem_of_mem_zipIdx mem)]
        simp [Function.comp_def, below, other]
    rw [positions_eq, List.filter_cons_of_pos rfl, List.map_cons, List.filter_flatMap,
      List.map_flatMap, children, reached_eq, if_pos rfl, Kind.slots_eq]
    rw [flatMap_zipIdx_append]

end Positions

section Runs

variable {m : Type → Type} [Monad m]

theorem run_withOperands (e : Expr) (operands : List Expr) (s : Supply) :
    (e.withOperands operands : BuildT m Expr).run s =
      pure (s.build (e.withOperands operands), s.after (e.withOperands operands)) := by
  unfold withOperands
  split <;> rfl

variable [LawfulMonad m]

theorem visitWith_noting (meet : Expr → m Unit) (enters : Expr → Bool) (e : Expr) :
    (e.visitWith fun node => do meet node; return enters node) = forM (e.visit enters) meet := by
  induction e using induction with
  | step e ih =>
    have children := forM_congr ih
    rw [visitWith_eq, visit_eq, List.forM_cons]
    simp only [bind_assoc, pure_bind]
    congr 1
    funext _
    split
    · rw [children, forM_flatMap]
    · rfl

/-- A pass that replaces nothing meets the nodes outside the parameter lists and gives the
expression itself back. -/
theorem transform_noting (meet : Expr → BuildT m Unit) (e : Expr) :
    (e.transform fun node => do meet node; return none) = do
      forM (e.reached fun _ => true) meet
      return e := by
  induction e using induction with
  | step e ih =>
    have operands := mapM_of_noting fun child mem => ih child (Kind.mem_slots_of_mem_operands mem)
    rw [transform_eq, reached_eq, if_pos rfl, List.forM_cons, forM_flatMap]
    simp only [bind_assoc, pure_bind]
    rw [walk, operands]
    simp only [bind_assoc, pure_bind, withOperands_self]

theorem run_recording (pass : Expr → BuildT m Expr) (e : Expr) (s : Supply) (calls : List Expr) :
    StateT.run ((recording pass e).run s) calls =
      (fun out => (out, calls ++ [e])) <$> (pass e).run s := by
  have noted : (recording pass e).run s =
      (do modify (· ++ [e]); liftM ((pass e).run s) : StateT (List Expr) m (Expr × Supply)) := rfl
  rw [noted]
  simp

theorem run_mapM_recording (pass : Expr → BuildT m Expr) (l : List Expr) (s : Supply)
    (calls : List Expr) :
    StateT.run ((l.mapM (recording pass)).run s) calls =
      (fun out => (out, calls ++ l)) <$> (l.mapM pass).run s := by
  induction l generalizing s calls with
  | nil => simp
  | cons e l ih =>
    simp [run_recording, ih]

theorem run_walk_recording (pass : Expr → BuildT m Expr) (e : Expr) (s : Supply)
    (calls : List Expr) :
    StateT.run ((e.walk (recording pass)).run s) calls =
      (fun out => (out, calls ++ e.kind.operands)) <$> (e.walk pass).run s := by
  simp [walk, run_mapM_recording, run_withOperands]

end Runs

/-- A visitor meets every position once, in preorder, a pass that replaces nothing meets the same
positions but for the parameter lists, and one step of any pass asks for the remaining children of
the node once each, in slot order. -/
theorem traversals_agree (e : Expr) :
    ((e.positions.map Prod.fst).Pairwise (· < ·) ∧
      ∀ path node, (path, node) ∈ e.positions ↔ e.at? path = some node) ∧
    (∀ (σ : Type) (meet : Expr → StateM σ Unit),
      (e.visitWith fun node => do meet node; return true) =
        forM (e.positions.map Prod.snd) meet) ∧
    (∀ (σ : Type) (meet : Expr → BuildT (StateM σ) Unit),
      (e.transform fun node => do meet node; return none) = do
        forM ((e.positions.filter fun position => !e.inParameterList position.1).map Prod.snd) meet
        return e) ∧
    ∀ (σ : Type) (pass : Expr → BuildT (StateM σ) Expr) (s : Supply) (calls : List Expr),
      StateT.run ((e.walk (recording pass)).run s) calls =
        (fun out => (out, calls ++ e.kind.slots.drop e.kind.parameters.length)) <$>
          (e.walk pass).run s := by
  refine ⟨⟨pairwise_positions e, fun _ _ => mem_positions_iff⟩, ?visitor, ?pass, ?step⟩
  case visitor =>
    intro σ meet
    rw [map_snd_positions]
    exact visitWith_noting meet (fun _ => true) e
  case pass =>
    intro σ meet
    rw [map_snd_positions_filter]
    exact transform_noting meet e
  case step =>
    intro σ pass s calls
    rw [Kind.slots_eq, List.drop_left]
    exact run_walk_recording pass e s calls

end Expr

end ExpressionGraphs
