import ExpressionGraphs.Proofs.Reachability
import ExpressionGraphs.Proofs.Replacement

set_option autoImplicit false

/-!
# Computations by the interface

A computation that uses the interface alone ends in a state that is reachable whenever it starts in
one. Passes with answers held are such computations, so that what they make can be passed over
again, as the specialization of lambdas does.
-/

namespace ExpressionGraphs

variable {α β : Type} {needs : List Expr}

/-- From every reachable state that holds what is needed, the computation reaches one that holds
all this still, and what it gives. -/
def StaysReachable (needs : List Expr) (c : Build α) (gives : α → List Expr) : Prop :=
  ∀ (s : Supply) (held : List Expr), Reachable s held → needs ⊆ held →
    ∃ more, held ⊆ more ∧ Reachable (s.after c) more ∧ gives (s.build c) ⊆ more

namespace StaysReachable

theorem ret {a : α} {gives : α → List Expr} (sub : gives a ⊆ needs) :
    StaysReachable needs (pure a) gives :=
  fun _ held reach needed => ⟨held, List.Subset.refl held, reach, fun _ mem => needed (sub mem)⟩

theorem bind {c : Build α} {f : α → Build β} {gives : α → List Expr} {yields : β → List Expr}
    (first : StaysReachable needs c gives)
    (rest : ∀ s : Supply,
      StaysReachable (gives (s.build c) ++ needs) (f (s.build c)) yields) :
    StaysReachable needs (c >>= f) yields := by
  intro s held reach needed
  obtain ⟨more, kept, next, given⟩ := first s held reach needed
  obtain ⟨last, kept', final, yielded⟩ := rest s (s.after c) more next
    (List.append_subset.2 ⟨given, fun e mem => kept (needed mem)⟩)
  exact ⟨last, fun e mem => kept' (kept mem), final, yielded⟩

theorem weaken {c : Build α} {gives : α → List Expr} {fewer : List Expr}
    (stays : StaysReachable fewer c gives) (sub : fewer ⊆ needs) : StaysReachable needs c gives :=
  fun s held reach needed => stays s held reach fun _ mem => needed (sub mem)

theorem offer {c : Build Expr} (offers : ∀ held, needs ⊆ held → Offers held c) :
    StaysReachable needs c fun out => [out] := by
  intro s held reach needed
  refine ⟨s.build c :: held, List.subset_cons_self _ _, reach.next (.build (offers held needed)), ?_⟩
  exact List.cons_subset_cons _ (List.nil_subset _)

theorem mapM {f : α → Build Expr} {l : List α}
    (each : ∀ a ∈ l, StaysReachable needs (f a) fun out => [out]) :
    StaysReachable needs (l.mapM f) id := by
  induction l with
  | nil => exact ret (List.nil_subset _)
  | cons a l ih =>
    rw [List.mapM_cons]
    refine (each a List.mem_cons_self).bind fun out => ?_
    refine ((ih fun b mem => each b (List.mem_cons_of_mem a mem)).weaken
      (List.subset_append_right _ _)).bind fun outs => ret ?_
    exact List.cons_subset.2 ⟨List.mem_append_right _ List.mem_cons_self,
      List.subset_append_left _ _⟩

end StaysReachable

theorem Reachable.later {s u : Supply} {held : List Expr} (reach : Reachable s held)
    (le : s.next ≤ u.next) : ∃ more, held ⊆ more ∧ Reachable u more := by
  have built : ∀ n, ∃ more, held ⊆ more ∧ Reachable ⟨s.next + n⟩ more := by
    intro n
    induction n with
    | zero => exact ⟨held, List.Subset.refl held, reach⟩
    | succ n ih =>
      obtain ⟨more, kept, reach'⟩ := ih
      exact ⟨_, fun e mem => List.mem_cons_of_mem _ (kept mem),
        reach'.next (.build (.constant .null .void))⟩
  have supply : (⟨s.next + (u.next - s.next)⟩ : Supply) = u := by
    rw [Nat.add_sub_cancel' le]
  exact supply ▸ built (u.next - s.next)

theorem Reachable.hold_node {s : Supply} {held : List Expr} (reach : Reachable s held)
    {e node : Expr} (mem : e ∈ held) (inner : node ∈ e.nodes) :
    ∃ more, held ⊆ more ∧ Reachable s more ∧ node ∈ more := by
  induction e using Expr.induction generalizing held with
  | step e ih =>
    rw [Expr.nodes_eq] at inner
    rcases List.mem_cons.1 inner with rfl | inner
    · exact ⟨held, List.Subset.refl held, reach, mem⟩
    · obtain ⟨child, slot, below⟩ := List.mem_flatMap.1 inner
      obtain ⟨more, kept, reach', node_mem⟩ :=
        ih child slot (reach.next (.child mem slot)) List.mem_cons_self below
      exact ⟨more, fun _ old => kept (List.mem_cons_of_mem child old), reach', node_mem⟩

theorem Reachable.hold_nodes {s : Supply} {held : List Expr} (reach : Reachable s held)
    {nodes : List Expr} (within : ∀ node ∈ nodes, node ∈ nodesOf held) :
    ∃ more, held ⊆ more ∧ Reachable s more ∧ nodes ⊆ more := by
  induction nodes with
  | nil => exact ⟨held, List.Subset.refl held, reach, List.nil_subset _⟩
  | cons node nodes ih =>
    obtain ⟨more, kept, reach', rest⟩ := ih fun n mem => within n (List.mem_cons_of_mem node mem)
    obtain ⟨root, root_mem, inner⟩ := mem_nodesOf.1 (within node List.mem_cons_self)
    obtain ⟨last, kept', final, node_mem⟩ := reach'.hold_node (kept root_mem) inner
    exact ⟨last, fun _ old => kept' (kept old), final,
      List.cons_subset.2 ⟨node_mem, fun _ mem => kept' (rest mem)⟩⟩

theorem StaysReachable.of_children {c : Build α} {gives : α → List Expr} {e : Expr}
    {children : List Expr} (sub : children ⊆ e.kind.slots) (mem : e ∈ needs)
    (stays : StaysReachable (children ++ needs) c gives) : StaysReachable needs c gives := by
  intro s held reach needed
  have within : ∀ child ∈ children, child ∈ nodesOf held := fun child slot =>
    mem_nodesOf_of_mem_slots (mem_nodesOf_of_mem (needed mem)) (sub slot)
  obtain ⟨more, kept, reach', children_held⟩ := reach.hold_nodes within
  obtain ⟨last, kept', final, given⟩ := stays s more reach'
    (List.append_subset.2 ⟨children_held, fun node inner => kept (needed inner)⟩)
  exact ⟨last, fun node inner => kept' (kept inner), final, given⟩

namespace Expr

variable {g : Expr → Option Expr} {e : Expr}

theorem replace_staysReachable (mem : e ∈ needs)
    (answers : ∀ node ∈ e.met g, ∀ answer, g node = some answer → answer ∈ needs) :
    StaysReachable needs (e.replace g) fun out => [out] := by
  induction e using induction generalizing needs with
  | step e ih =>
    cases h : g e with
    | some answer =>
      rw [replace_of_some h]
      exact .ret (List.cons_subset.2 ⟨answers e (mem_met_self g e) answer h, List.nil_subset _⟩)
    | none =>
      rw [replace_of_none h]
      refine .of_children (fun _ => Kind.mem_slots_of_mem_operands) mem ?_
      refine (StaysReachable.mapM fun operand operand_mem => ?_).bind fun s => ?_
      · refine ih operand (Kind.mem_slots_of_mem_operands operand_mem)
          (List.mem_append_left _ operand_mem) fun node inner answer given => ?_
        exact List.mem_append_right _
          (answers node (mem_met_of_mem_operands h operand_mem inner) answer given)
      · refine .offer fun held needed => .walk ?_ (fun out out_mem => ?_) ?_
        · exact needed (List.mem_append_right _ (List.mem_append_right _ mem))
        · exact needed (List.mem_append_left _ out_mem)
        · exact s.length_build_mapM _ _

theorem substitute_staysReachable {old new : Expr} (mem : e ∈ needs) (new_mem : new ∈ needs) :
    StaysReachable needs (e.substitute old new) fun out => [out] := by
  rw [substitute_eq_replace]
  have replacements : ∀ pair ∈ [(old, new)], pair.2 ∈ needs := by simpa using new_mem
  exact replace_staysReachable mem fun _ _ _ h => answerOf_mem replacements h

end Expr

theorem Reachable.substitute {s : Supply} {held : List Expr} (reach : Reachable s held)
    {tree new : Expr} (mem : tree ∈ held) (old : Expr) (new_mem : new ∈ held) :
    ∃ more, held ⊆ more ∧ Reachable (s.after (tree.substitute old new)) more ∧
      s.build (tree.substitute old new) ∈ more := by
  obtain ⟨more, kept, reach', given⟩ := Expr.substitute_staysReachable mem new_mem s held reach
    (List.Subset.refl held)
  exact ⟨more, kept, reach', given List.mem_cons_self⟩

/-- Follows a specialization. What holds of the body, and after each pass if it holds before, holds
of the result; it may speak of the pairs passed so far. -/
theorem Lambda.specialize_induction {l : Lambda} {replacements : List Expr} {s : Supply}
    {held : List Expr} (reach : Reachable s held) (body : l.body ∈ held)
    (given : ∀ r ∈ replacements, r ∈ held) {motive : List (Expr × Expr) → Expr → Prop}
    (start : motive [] l.body)
    (step : ∀ passed pair rest, l.params.zip replacements = passed ++ pair :: rest →
      ∀ (t : Supply) (more : List Expr), Reachable t more → held ⊆ more → s.next ≤ t.next →
      ∀ e ∈ more, motive passed e →
      motive (passed ++ [pair]) (t.build (e.substitute pair.1 pair.2))) :
    ∃ more, held ⊆ more ∧ Reachable (s.after (l.specialize replacements)) more ∧
      s.build (l.specialize replacements) ∈ more ∧
      motive (l.params.zip replacements) (s.build (l.specialize replacements)) := by
  -- the induction is on the pairs left, while those passed grow at their end
  have run : ∀ rest passed, l.params.zip replacements = passed ++ rest →
      ∀ (t : Supply) (more : List Expr), Reachable t more → held ⊆ more → s.next ≤ t.next →
      ∀ e ∈ more, motive passed e →
      ∃ last, held ⊆ last ∧
        Reachable (t.after (rest.foldlM (fun body pair => body.substitute pair.1 pair.2) e)) last ∧
        t.build (rest.foldlM (fun body pair => body.substitute pair.1 pair.2) e) ∈ last ∧
        motive (passed ++ rest)
          (t.build (rest.foldlM (fun body pair => body.substitute pair.1 pair.2) e)) := by
    intro rest
    induction rest with
    | nil =>
      intro passed _ t more reach' kept _ e mem holds
      rw [List.append_nil]
      exact ⟨more, kept, reach', mem, holds⟩
    | cons pair rest ih =>
      intro passed split t more reach' kept le e mem holds
      have pair_mem : pair ∈ l.params.zip replacements := by
        rw [split]
        exact List.mem_append_right _ List.mem_cons_self
      have new_mem : pair.2 ∈ more := kept (given pair.2 (List.of_mem_zip pair_mem).2)
      obtain ⟨last, kept', reach'', out_mem⟩ := reach'.substitute mem pair.1 new_mem
      have later := Expr.next_le_after_substitute e pair.1 pair.2 t
      rw [List.foldlM_cons, Supply.build_bind, Supply.after_bind, List.append_cons]
      refine ih (passed ++ [pair]) (by rw [split, List.append_cons]) _ last reach''
        (fun _ old => kept' (kept old)) (by omega) _ out_mem ?_
      exact step passed pair rest split t more reach' kept le e mem holds
  exact run _ [] rfl s held reach (List.Subset.refl held) (Nat.le_refl _) l.body body start

end ExpressionGraphs
