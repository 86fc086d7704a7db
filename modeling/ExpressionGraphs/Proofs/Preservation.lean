import ExpressionGraphs.Expr.Typing
import ExpressionGraphs.Proofs.Closure
import ExpressionGraphs.Proofs.Draft
import ExpressionGraphs.Proofs.Outcome

set_option autoImplicit false

/-!
# Typing under substitution

The rule for the type of a node speaks of the types of its children alone. A pass whose answers
are well-typed and have the types of the nodes they answer therefore leaves an expression
well-typed and of its type, although the nodes it rebuilds are not checked.
-/

namespace ExpressionGraphs

namespace Kind

def Types : Kind Ty → Ty → Prop
  | member owner m, ty => m.isDeclaredOn owner ∧ ty = m.ty
  | lambda params body, ty => ty = .func params body
  | conditional _ thenBranch _, ty => ty = thenBranch
  | _, _ => True

theorem Types.getD_impliedType? {kind : Kind Ty} {ty : Ty} (typed : kind.Types ty) :
    kind.impliedType?.getD ty = ty := by
  cases kind with
  | member => exact typed.2.symm
  | lambda => exact typed.symm
  | _ => rfl

end Kind

namespace Expr

theorem nodeTyped_iff (e : Expr) : e.NodeTyped ↔ (e.kind.map ty).Types e.ty := by
  obtain ⟨i, t, kind⟩ := e
  cases kind <;> exact Iff.rfl

theorem WellTyped.child {e child : Expr} (typed : e.WellTyped) (slot : child ∈ e.kind.slots) :
    child.WellTyped :=
  ((wellTyped_iff e).1 typed).2 child slot

theorem WellTyped.rebuild {e : Expr} (typed : e.WellTyped) {outs : List Expr}
    (operands : List.Forall₂ (fun operand out => out.WellTyped ∧ out.ty = operand.ty)
      e.kind.operands outs) (u : Supply) :
    (u.build (e.rebuild (e.kind.withOperands outs))).WellTyped ∧
      (u.build (e.rebuild (e.kind.withOperands outs))).ty = e.ty := by
  have types : (e.kind.withOperands outs).map ty = e.kind.map ty := by
    rw [Kind.map_withOperands, map_eq_of_forall₂ (operands.imp fun _ _ both => both.2),
      ← Kind.operands_map, Kind.withOperands_operands]
  have rule : (e.kind.map ty).Types e.ty := (nodeTyped_iff e).1 ((wellTyped_iff e).1 typed).1
  have kept : (impliedType? (e.kind.withOperands outs)).getD e.ty = e.ty := by
    rw [impliedType?_eq, types, rule.getD_impliedType?]
  rw [Supply.build_rebuild, kept]
  refine ⟨(wellTyped_iff _).2 ⟨?_, fun child slot => ?_⟩, rfl⟩
  · rw [nodeTyped_iff, kind_node, types]
    exact rule
  · rw [kind_node, Kind.slots_withOperands operands.length_eq.symm] at slot
    rcases List.mem_append.1 slot with declared | out
    · exact typed.child (Kind.mem_slots_of_mem_parameters declared)
    · obtain ⟨_, _, both⟩ := exists_of_forall₂ (List.Forall₂.flip operands) out
      exact both.1

variable {s : Supply} {held : List Expr} {g : Expr → Option Expr} {e : Expr}

theorem replace_wellTyped (sound : s.Sound held) (mem : e ∈ nodesOf held)
    (answers : ∀ node ∈ e.met g, ∀ answer, g node = some answer →
      answer ∈ nodesOf held ∧ answer.WellTyped ∧ answer.ty = node.ty)
    (typed : e.WellTyped) :
    (s.build (e.replace g)).WellTyped ∧ (s.build (e.replace g)).ty = e.ty := by
  refine pass_induction
    (motive := fun node out => node.WellTyped → out.WellTyped ∧ out.ty = node.ty) sound mem
    (fun node inner answer h => (answers node inner answer h).1) ?_ ?_ ?_ (Nat.le_refl _) typed
  · intro node inner answer h _
    exact (answers node inner answer h).2
  · intro node _ _ _ _ typed
    exact ⟨typed, rfl⟩
  · intro node _ _ _ u outs _ related typed
    have operands : ∀ operand ∈ node.kind.operands, operand.WellTyped := fun operand inner =>
      typed.child (Kind.mem_slots_of_mem_operands inner)
    have outcomes := (List.forall₂_and_left _ _).2 ⟨operands, related⟩
    exact typed.rebuild (outcomes.imp fun _ _ both => both.2 both.1) u

theorem substitute_wellTyped (sound : s.Sound held) {tree old new : Expr}
    (mem : tree ∈ nodesOf held) (old_mem : old ∈ nodesOf held) (new_mem : new ∈ nodesOf held)
    (typed : tree.WellTyped) (new_typed : new.WellTyped) (same : new.ty = old.ty) :
    (s.build (tree.substitute old new)).WellTyped ∧
      (s.build (tree.substitute old new)).ty = tree.ty := by
  rw [substitute_eq_replace]
  refine replace_wellTyped sound mem (fun node inner answer h => ?_) typed
  obtain ⟨pair, pair_mem, hit, rfl⟩ := exists_pair_of_answerOf h
  rw [List.mem_singleton.1 pair_mem] at hit ⊢
  have node_mem := mem_nodesOf_of_mem_nodes mem (mem_nodes_of_mem_met inner)
  rw [sound.eq_of_sameNode node_mem old_mem hit]
  exact ⟨new_mem, new_typed, same⟩

theorem specialize_wellTyped (reach : Reachable s held) {l : Lambda}
    (params : ∀ p ∈ l.params, p ∈ nodesOf held) (body : l.body ∈ nodesOf held)
    {replacements : List Expr} (given : ∀ r ∈ replacements, r ∈ nodesOf held)
    (typed : l.body.WellTyped)
    (fits : ∀ pair ∈ l.params.zip replacements, pair.2.WellTyped ∧ pair.2.ty = pair.1.ty) :
    (s.build (l.specialize replacements)).WellTyped ∧
      (s.build (l.specialize replacements)).ty = l.body.ty := by
  have within : ∀ node ∈ l.body :: replacements, node ∈ nodesOf held :=
    List.forall_mem_cons.2 ⟨body, given⟩
  obtain ⟨more, kept, reach', needed⟩ := reach.hold_nodes within
  obtain ⟨body_mem, given_mem⟩ := List.cons_subset.1 needed
  refine (Lambda.specialize_induction reach' body_mem (fun r mem => given_mem mem)
    (motive := fun _ e => e.WellTyped ∧ e.ty = l.body.ty) ⟨typed, rfl⟩ ?_).elim
    fun _ run => run.2.2.2
  intro passed pair rest split t last reach'' kept' _ e mem holds
  have pair_mem : pair ∈ l.params.zip replacements := by
    rw [split]
    exact List.mem_append_right _ List.mem_cons_self
  obtain ⟨new_typed, same⟩ := fits pair pair_mem
  obtain ⟨old_mem, new_mem⟩ := List.of_mem_zip pair_mem
  have out := substitute_wellTyped reach''.sound (mem_nodesOf_of_mem mem)
    (nodesOf_mono kept' (nodesOf_mono kept (params pair.1 old_mem)))
    (nodesOf_mono kept' (nodesOf_mono kept (given pair.2 new_mem))) holds.1 new_typed same
  exact ⟨out.1, out.2.trans holds.2⟩

/-- Substitution and specialization keep well-typed expressions well-typed, and of their types, if
each replacement is well-typed and of the type of the node it replaces. -/
theorem rewriting_preserves_typing (reach : Reachable s held) :
    (∀ tree ∈ nodesOf held, ∀ old ∈ nodesOf held, ∀ new ∈ nodesOf held,
      tree.WellTyped → new.WellTyped → new.ty = old.ty →
      (s.build (tree.substitute old new)).WellTyped ∧
        (s.build (tree.substitute old new)).ty = tree.ty) ∧
    ∀ l : Lambda, (∀ p ∈ l.params, p ∈ nodesOf held) → l.body ∈ nodesOf held →
      l.body.WellTyped → ∀ replacements : List Expr, (∀ r ∈ replacements, r ∈ nodesOf held) →
      (∀ pair ∈ l.params.zip replacements, pair.2.WellTyped ∧ pair.2.ty = pair.1.ty) →
      (s.build (l.specialize replacements)).WellTyped ∧
        (s.build (l.specialize replacements)).ty = l.body.ty := by
  refine ⟨?_, ?_⟩
  · intro tree mem old old_mem new new_mem typed new_typed same
    exact substitute_wellTyped reach.sound mem old_mem new_mem typed new_typed same
  · intro l params body typed replacements given fits
    exact specialize_wellTyped reach params body given typed fits

theorem rewriting_preserves_typing_sum :
    Reachable ⟨7⟩ Sample.held ∧
    ((Supply.build ⟨7⟩ (Sample.sumOf.substitute Sample.p Sample.a)).WellTyped ∧
      (Supply.build ⟨7⟩ (Sample.sumOf.substitute Sample.p Sample.a)).ty = Sample.sumOf.ty) ∧
    (Supply.build ⟨7⟩ ((Lambda.mk [Sample.p, Sample.q] Sample.sum).specialize
      [Sample.a, Sample.p])).WellTyped ∧
    (Supply.build ⟨7⟩ ((Lambda.mk [Sample.p, Sample.q] Sample.sum).specialize
      [Sample.a, Sample.p])).ty = Sample.sum.ty := by
  have p : Sample.p ∈ nodesOf Sample.held := mem_nodesOf_of_mem (by simp [Sample.held])
  have q : Sample.q ∈ nodesOf Sample.held := mem_nodesOf_of_mem (by simp [Sample.held])
  have a : Sample.a ∈ nodesOf Sample.held := mem_nodesOf_of_mem (by simp [Sample.held])
  have body : Sample.sum ∈ nodesOf Sample.held := mem_nodesOf_of_mem (by simp [Sample.held])
  have lambda : Sample.sumOf ∈ nodesOf Sample.held := mem_nodesOf_of_mem (by simp [Sample.held])
  obtain ⟨substituted, specialized⟩ := rewriting_preserves_typing Sample.reachable
  refine ⟨Sample.reachable, ?_, ?_⟩
  · exact substituted Sample.sumOf lambda Sample.p p Sample.a a (by decide +kernel)
      (by decide +kernel) rfl
  · exact specialized ⟨[Sample.p, Sample.q], Sample.sum⟩ (by simp [p, q]) body (by decide +kernel)
      [Sample.a, Sample.p] (by simp [a, p]) (by decide +kernel)

end Expr

end ExpressionGraphs
