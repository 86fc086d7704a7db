import ExpressionGraphs.Proofs.ExprEquality
import ExpressionGraphs.Proofs.Outcome

set_option autoImplicit false

/-!
# Equal replacements

Passes that answer the same nodes with equal expressions make equal expressions. One may return a
node where the other rebuilds it, so that a node is compared with one built over other operands: the
type that the first has is the one that the second is given, because their operands are of the same
types. Leaves are never rebuilt, and a constant is on both sides the same node, whatever it holds.
-/

namespace ExpressionGraphs

theorem forall₂_of_common {α β γ : Type} {R : α → β → Prop} {S : α → γ → Prop} {T : β → γ → Prop}
    {l : List α} {bs : List β} {cs : List γ} (left : List.Forall₂ R l bs)
    (right : List.Forall₂ S l cs) (step : ∀ a ∈ l, ∀ b c, R a b → S a c → T b c) :
    List.Forall₂ T bs cs := by
  induction left generalizing cs with
  | nil => cases right; exact .nil
  | @cons a b l bs head _ ih =>
    cases right with
    | @cons _ c _ cs head' rest =>
      exact .cons (step a List.mem_cons_self b c head head')
        (ih rest fun d mem => step d (List.mem_cons_of_mem a mem))

namespace Kind

/-- Only constants can differ from themselves. -/
theorem beq_self_of_operands {k : Kind Unit} (h : k.operands ≠ []) : (k == k) = true := by
  change instBEqKind.beq k k = true
  cases k with
  | constant => exact absurd rfl h
  | _ => simp [instBEqKind.beq]

theorem shape_withOperands {α : Type} {kind : Kind α} {operands others : List α}
    (length : operands.length = others.length) :
    (kind.withOperands operands).shape = (kind.withOperands others).shape := by
  rw [shape, shape, map_withOperands, map_withOperands, List.map_const', List.map_const', length]

end Kind

namespace Expr

variable {g g' : Expr → Option Expr} {e a b : Expr}

/-- Equal expressions of one type. Two runs may give different nodes one identity, and equality then
asks for nothing else. -/
structure Alike (a b : Expr) : Prop where
  equal : (a == b) = true
  types : a.ty = b.ty

/-- What a pass that walks through a node makes of it: the node itself, or one built anew. Either
has the contents of the node over other operands and the type that these determine. -/
structure RemadeOver (e : Expr) (operands : List Expr) (out : Expr) : Prop where
  kind : out.kind = e.kind.withOperands operands
  ty : out.ty = (impliedType? (e.kind.withOperands operands)).getD e.ty
  leaf : e.kind.operands = [] → out = e

inductive Made (g : Expr → Option Expr) : Expr → Expr → Prop
  | answered {e answer : Expr} (h : g e = some answer) : Made g e answer
  | walked {e out : Expr} {operands : List Expr} (h : g e = none)
    (made : List.Forall₂ (Made g) e.kind.operands operands) (remade : e.RemadeOver operands out) :
    Made g e out

theorem Formed.remadeOver (formed : e.Formed) : e.RemadeOver e.kind.operands e where
  kind := (Kind.withOperands_operands e.kind).symm
  ty := by rw [Kind.withOperands_operands, formed.getD_impliedType?]
  leaf := fun _ => rfl

theorem made_build_replace {s u : Supply} {held : List Expr} (sound : s.Sound held)
    (mem : e ∈ nodesOf held)
    (answers : ∀ node ∈ e.met g, ∀ answer, g node = some answer → answer ∈ nodesOf held)
    (le : s.next ≤ u.next) : Made g e (u.build (e.replace g)) := by
  refine pass_induction (motive := Made g) sound mem answers (fun _ _ _ h => .answered h) ?_ ?_ le
  · intro node inner h _ operands
    have formed := sound.formed node (mem_nodesOf_of_mem_nodes mem (mem_nodes_of_mem_met inner))
    exact .walked h (List.forall₂_same.2 operands) formed.remadeOver
  · intro node _ h changed v outs _ made
    refine .walked h made ⟨rfl, rfl, fun leaf => ?_⟩
    rw [changes_of_none h, leaf] at changed
    cases changed

theorem Alike.of_remadeOver {operands others : List Expr}
    (same : List.Forall₂ Alike operands others) (length : operands.length = e.kind.operands.length)
    (left : e.RemadeOver operands a) (right : e.RemadeOver others b) : Alike a b := by
  have length' : others.length = e.kind.operands.length := same.length_eq.symm.trans length
  have types : others.map ty = operands.map ty :=
    map_eq_of_forall₂ (same.imp fun _ _ alike => alike.types.symm)
  have ty_eq : a.ty = b.ty := by
    rw [left.ty, right.ty, impliedType?_eq, impliedType?_eq, Kind.map_withOperands,
      Kind.map_withOperands, types]
  refine ⟨?_, ty_eq⟩
  -- a leaf may be a constant that differs from itself, but then both sides are the same node
  by_cases leaf : e.kind.operands = []
  · rw [left.leaf leaf, right.leaf leaf]
    exact beq_of_sameNode (sameNode_self e)
  have nonempty : (e.kind.withOperands others).shape.operands ≠ [] := by
    rw [Kind.shape, Kind.operands_map, Kind.operands_withOperands length']
    intro empty
    rw [List.map_eq_nil_iff.1 empty] at length'
    exact leaf (List.eq_nil_of_length_eq_zero length'.symm)
  refine beq_iff.2 (.inr ⟨ty_eq, ?_, ?_⟩)
  · rw [left.kind, right.kind, Kind.shape_withOperands same.length_eq]
    exact Kind.beq_self_of_operands nonempty
  · rw [left.kind, right.kind, Kind.slots_withOperands length, Kind.slots_withOperands length']
    refine List.rel_append (List.forall₂_same.2 fun p _ => ?_) (same.imp fun _ _ alike => alike.equal)
    exact beq_of_sameNode (sameNode_self p)

/-- Passes that answer the same nodes, alike, make expressions that are alike. -/
theorem Alike.of_made (related : ∀ node ∈ e.nodes, Option.Rel Alike (g node) (g' node))
    (left : Made g e a) (right : Made g' e b) : Alike a b := by
  induction e using induction generalizing a b with
  | step e ih =>
    have answers := related e e.mem_nodes_self
    -- either both passes answer the node or both walk through it
    cases left with
    | answered h =>
      cases right with
      | answered h' =>
        rw [h, h'] at answers
        cases answers with
        | some alike => exact alike
      | walked h' =>
        rw [h, h'] at answers
        cases answers
    | walked h made remade =>
      cases right with
      | answered h' =>
        rw [h, h'] at answers
        cases answers
      | walked _ made' remade' =>
        refine Alike.of_remadeOver (forall₂_of_common made made' fun operand mem c d => ?_)
          made.length_eq.symm remade remade'
        have slot := Kind.mem_slots_of_mem_operands mem
        exact ih operand slot fun node inner => related node (mem_nodes_of_mem_slots slot inner)

section Reachable

variable {s u v : Supply} {held : List Expr} {tree old new new' : Expr}

theorem Alike.of_beq (sound : s.Sound held) (a_mem : a ∈ nodesOf held) (b_mem : b ∈ nodesOf held)
    (equal : (a == b) = true) : Alike a b := by
  refine ⟨equal, ?_⟩
  rcases beq_iff.1 equal with same | ⟨types, _⟩
  · rw [sound.eq_of_sameNode a_mem b_mem same]
  · exact types

theorem answerOf_alike (alike : Alike new new') (old node : Expr) :
    Option.Rel Alike (answerOf [(old, new)] node) (answerOf [(old, new')] node) := by
  rw [answerOf_single, answerOf_single]
  cases node.sameNode old with
  | true => exact .some alike
  | false => exact .none

theorem beq_build_substitute (sound : s.Sound held) (mem : tree ∈ nodesOf held)
    (new_mem : new ∈ nodesOf held) (new'_mem : new' ∈ nodesOf held) (equal : (new == new') = true)
    (old : Expr) (le : s.next ≤ u.next) (le' : s.next ≤ v.next) :
    (u.build (tree.substitute old new) == v.build (tree.substitute old new')) = true := by
  have answers : ∀ new ∈ nodesOf held, ∀ node ∈ tree.met (answerOf [(old, new)]), ∀ answer,
      answerOf [(old, new)] node = some answer → answer ∈ nodesOf held :=
    fun new new_mem node _ answer h => (answerOf_single_eq_some_iff.1 h).2 ▸ new_mem
  rw [substitute_eq_replace, substitute_eq_replace]
  have alike := Alike.of_made
    (fun node _ => answerOf_alike (Alike.of_beq sound new_mem new'_mem equal) old node)
    (made_build_replace sound mem (answers new new_mem) le)
    (made_build_replace sound mem (answers new' new'_mem) le')
  exact alike.equal

theorem build_substitute_self (sound : s.Sound held) (mem : tree ∈ nodesOf held)
    (old_mem : old ∈ nodesOf held) : u.build (tree.substitute old old) = tree := by
  rw [substitute_eq_replace]
  refine build_replace_of_unchanged (fun node inner answer h same => ?_) ?_
  · have answer_mem := (answerOf_single_eq_some_iff.1 h).2 ▸ old_mem
    exact sound.eq_of_sameNode answer_mem
      (mem_nodesOf_of_mem_nodes mem (mem_nodes_of_mem_met inner)) same
  · refine changes_eq_false_iff.2 fun node _ answer h => ?_
    obtain ⟨same, rfl⟩ := answerOf_single_eq_some_iff.1 h
    rwa [sameNode_comm]

/-- Equal replacements for a node give equal expressions, and a replacement that is equal to the node
gives one equal to the expression it started from, whether or not anything is rebuilt for it. -/
theorem substitute_respects_beq (reach : Reachable s held) (mem : tree ∈ held) (old : Expr) :
    (∀ new ∈ held, ∀ new' ∈ held, (new == new') = true →
      ∀ u v : Supply, s.next ≤ u.next → s.next ≤ v.next →
        (u.build (tree.substitute old new) == v.build (tree.substitute old new')) = true) ∧
    (old ∈ held → ∀ new ∈ held, (new == old) = true →
      ∀ u : Supply, s.next ≤ u.next → (u.build (tree.substitute old new) == tree) = true) := by
  have sound := reach.sound
  have root := mem_nodesOf_of_mem mem
  have respects : ∀ new ∈ held, ∀ new' ∈ held, (new == new') = true →
      ∀ u v : Supply, s.next ≤ u.next → s.next ≤ v.next →
        (u.build (tree.substitute old new) == v.build (tree.substitute old new')) = true :=
    fun new new_mem new' new'_mem equal u v le le' => beq_build_substitute sound root
      (mem_nodesOf_of_mem new_mem) (mem_nodesOf_of_mem new'_mem) equal old le le'
  refine ⟨respects, fun old_mem new new_mem equal u le => ?_⟩
  have self := respects new new_mem old old_mem equal u u le le
  rwa [build_substitute_self sound root (mem_nodesOf_of_mem old_mem)] at self

end Reachable

end Expr

/-! ## A parameter and another of its name, compared with a constant that holds NaN -/

namespace Sample

def probe : Expr := .node ⟨1⟩ .object (.parameter "x")

def namesake : Expr := .node ⟨2⟩ .object (.parameter "x")

def matching : Expr := .node ⟨3⟩ .bool (.binary .eq sensor probe)

def probes : List Expr := [matching, namesake, probe, sensor]

theorem reachable_probes : Reachable ⟨4⟩ probes := by
  have leaves : Reachable ⟨3⟩ [namesake, probe, sensor] :=
    (((Reachable.start ⟨0⟩).next (.build (.constant reading (.holder .object)))).next
      (.build (.parameter "x" .object))).next (.build (.parameter "x" .object))
  exact leaves.next (.build (.binary .eq (show sensor ∈ [namesake, probe, sensor] by simp)
    (show probe ∈ [namesake, probe, sensor] by simp) .bool))

end Sample

namespace Expr

/-- What is rebuilt around the namesake is another node, over a constant that no copy equals. -/
theorem substitute_respects_beq_probe :
    Reachable ⟨4⟩ Sample.probes ∧ Sample.matching ∈ Sample.probes ∧ Sample.probe ∈ Sample.probes ∧
    Sample.namesake ∈ Sample.probes ∧ (Sample.namesake == Sample.probe) = true ∧
    (Sample.reading == Sample.reading) = false ∧
    (Supply.build ⟨4⟩ (Sample.matching.substitute Sample.probe Sample.namesake)).sameNode
      Sample.matching = false ∧
    (Supply.build ⟨4⟩ (Sample.matching.substitute Sample.probe Sample.namesake) ==
      Sample.matching) = true := by
  have tree : Sample.matching ∈ Sample.probes := by simp [Sample.probes]
  have old : Sample.probe ∈ Sample.probes := by simp [Sample.probes]
  have new : Sample.namesake ∈ Sample.probes := by simp [Sample.probes]
  have equal : (Sample.namesake == Sample.probe) = true := by decide +kernel
  obtain ⟨_, self⟩ := substitute_respects_beq Sample.reachable_probes tree Sample.probe
  exact ⟨Sample.reachable_probes, tree, old, new, equal, by decide +kernel, by decide +kernel,
    self old Sample.namesake new equal ⟨4⟩ (Nat.le_refl 4)⟩

end Expr

end ExpressionGraphs
