import ExpressionGraphs.Proofs.Elimination
import ExpressionGraphs.Proofs.Specialization

set_option autoImplicit false

/-!
# Occurrences after substitution

A substitution takes away the occurrences of one node and brings in those of its replacement, which
counts only if there was one to be replaced. Any other node keeps its occurrences if it lies neither
above nor below the node substituted, as two parameters always do. What a specialization leaves of a
parameter is obtained from this pass by pass.
-/

namespace ExpressionGraphs

theorem zip_take_length {α β : Type} (as : List α) (bs : List β) :
    as.zip (bs.take as.length) = as.zip bs := by
  rw [List.zip_eq_zip_take_min, List.length_take]
  conv => rhs; rw [List.zip_eq_zip_take_min]
  simp [List.take_take]

namespace Expr

variable {e old new target p q : Expr}

theorem hasOccurrence_self (e : Expr) : e.hasOccurrence e = true := by
  rw [hasOccurrence_eq, sameNode_self, Bool.true_or]

theorem hasOccurrence_of_isParameter (h : p.isParameter = true) (target : Expr) :
    p.hasOccurrence target = p.sameNode target := by
  have slots := slots_eq_nil_of_isParameter h
  rw [Kind.slots_eq, List.append_eq_nil_iff] at slots
  rw [hasOccurrence_eq, slots.2, List.any_nil, Bool.or_false]

theorem substitute_of_absent {m : Type → Type} [Monad m] [LawfulMonad m]
    (absent : e.hasOccurrence old = false) (new : Expr) :
    (e.substitute old new : BuildT m Expr) = pure e := by
  induction e using induction with
  | step e ih =>
    rw [hasOccurrence_eq, Bool.or_eq_false_iff, List.any_eq_false] at absent
    obtain ⟨other, below⟩ := absent
    have kept : (fun operand : { child // child ∈ e.kind.operands } =>
        (operand.1.substitute old new : BuildT m Expr)) = fun operand => pure operand.1 := by
      funext operand
      exact ih operand (Kind.mem_slots_of_mem_operands operand.2)
        (Bool.eq_false_iff.2 (below operand operand.2))
    have operands : e.kind.operands.mapM (fun operand =>
        (operand.substitute old new : BuildT m Expr)) = pure e.kind.operands := by
      rw [← mapM_attach, kept, List.mapM_pure, List.attach_map_subtype_val]
    rw [substitute, transform_eq, other, if_neg Bool.false_ne_true, pure_bind]
    change (e.kind.operands.mapM fun operand => (operand.substitute old new : BuildT m Expr)) >>=
      e.withOperands = _
    rw [operands, pure_bind, withOperands_self]

/-- Whether a node occurs once another has been replaced: it did before and is not the one replaced,
or it occurs in the replacement and there was something to replace. -/
def occursAfter (old new target e : Expr) : Bool :=
  (!target.sameNode old && e.hasOccurrence target) ||
    (e.hasOccurrence old && new.hasOccurrence target)

theorem occursAfter_of_other (other : e.sameNode old = false) :
    occursAfter old new target e = ((!target.sameNode old && e.sameNode target) ||
      e.kind.operands.any (occursAfter old new target)) := by
  have operands := any_or_and
    (fun operand : Expr => !target.sameNode old && operand.hasOccurrence target)
    (fun operand => operand.hasOccurrence old) (new.hasOccurrence target) e.kind.operands
  have split : e.kind.operands.any (occursAfter old new target) = _ := operands
  rw [split, occursAfter, hasOccurrence_eq e target, hasOccurrence_eq e old, other]
  cases target.sameNode old <;> simp [Bool.or_assoc]

section Reachable

variable {s : Supply} {held : List Expr}

theorem sameNode_build_rebuild (sound : s.Sound held) (target_mem : target ∈ nodesOf held)
    {u : Supply} (later : s.next ≤ u.next) (kind : Kind Expr) :
    (u.build (e.rebuild kind)).sameNode target = false := by
  refine decide_eq_false fun equal => ?_
  have older := sound.below target target_mem
  rw [← equal] at older
  exact Nat.not_lt.2 later older

theorem hasOccurrence_build_substitute (sound : s.Sound held) (mem : e ∈ nodesOf held)
    (old_mem : old ∈ nodesOf held) (new_mem : new ∈ nodesOf held)
    (target_mem : target ∈ nodesOf held)
    (apart : target.sameNode old = false →
      target.hasOccurrence old = false ∧ old.hasOccurrence target = false) :
    (s.build (e.substitute old new)).hasOccurrence target = occursAfter old new target e := by
  have node_held : ∀ node ∈ e.met (answerOf [(old, new)]), node ∈ nodesOf held := fun node inner =>
    mem_nodesOf_of_mem_nodes mem (mem_nodes_of_mem_met inner)
  rw [substitute_eq_replace]
  refine pass_induction (motive := fun node out =>
    out.hasOccurrence target = occursAfter old new target node) sound mem ?_ ?_ ?_ ?_
    (Nat.le_refl _)
  · intro node _ answer h
    exact (answerOf_single_eq_some_iff.1 h).2 ▸ new_mem
  · intro node inner answer h
    obtain ⟨same, rfl⟩ := answerOf_single_eq_some_iff.1 h
    have equal := sound.eq_of_sameNode (node_held node inner) old_mem same
    rw [equal, occursAfter, hasOccurrence_self]
    cases distinct : target.sameNode old with
    | true => simp
    | false => simp [(apart distinct).2]
  · intro node _ h _ operands
    have other : node.sameNode old = false := answerOf_single_eq_none_iff.1 h
    rw [occursAfter_of_other other, hasOccurrence_eq, any_congr_of_mem operands]
    cases hit : node.sameNode target with
    | false => simp
    | true =>
      have same : node.id = target.id := of_decide_eq_true hit
      rw [sameNode, same] at other
      simp [sameNode, other]
  · intro node inner h changed u outs later related
    have other : node.sameNode old = false := answerOf_single_eq_none_iff.1 h
    -- a node is rebuilt above an occurrence of the one replaced, where the target never stands
    have elsewhere : (!target.sameNode old && node.sameNode target) = false := by
      cases distinct : target.sameNode old with
      | true => rfl
      | false =>
        refine Bool.eq_false_iff.2 fun hit => ?_
        have equal := sound.eq_of_sameNode (node_held node inner) target_mem hit
        rw [equal, changes_of_absent (apart distinct).1] at changed
        cases changed
    have operands : outs.any (fun out => out.hasOccurrence target) =
        node.kind.operands.any (occursAfter old new target) := by
      have flags := congrArg (fun l : List Bool => l.any fun flag => flag)
        (map_eq_of_forall₂ related)
      rwa [List.any_map, List.any_map] at flags
    rw [occursAfter_of_other other, elsewhere, hasOccurrence_eq,
      sameNode_build_rebuild sound target_mem later, Supply.build_rebuild, kind_node,
      Kind.operands_withOperands related.length_eq.symm, operands]

/-- If a node does not occur in its replacement, it does not occur in the outcome, declared there or
not. To replace it once more gives the outcome itself. -/
theorem substitute_substitute_self (reach : Reachable s held) {tree : Expr} (mem : tree ∈ held)
    (old_mem : old ∈ held) (new_mem : new ∈ held) (absent : new.hasOccurrence old = false) :
    (s.build (tree.substitute old new)).hasOccurrence old = false ∧
    ∀ again : Expr, ((s.build (tree.substitute old new)).substitute old again : Build Expr) =
      pure (s.build (tree.substitute old new)) := by
  have gone : (s.build (tree.substitute old new)).hasOccurrence old = false := by
    rw [hasOccurrence_build_substitute reach.sound (mem_nodesOf_of_mem mem)
      (mem_nodesOf_of_mem old_mem) (mem_nodesOf_of_mem new_mem) (mem_nodesOf_of_mem old_mem)
      fun distinct => absurd (sameNode_self old) (Bool.eq_false_iff.1 distinct), occursAfter,
      sameNode_self, absent]
    simp
  exact ⟨gone, substitute_of_absent gone⟩

end Reachable

theorem substitute_substitute_self_sum :
    Reachable ⟨7⟩ Sample.held ∧ Sample.sumOf ∈ Sample.held ∧ Sample.p ∈ Sample.held ∧
    Sample.a ∈ Sample.held ∧ Sample.a.hasOccurrence Sample.p = false ∧
    (Supply.build ⟨7⟩ (Sample.sumOf.substitute Sample.p Sample.a)).contains Sample.p = true ∧
    ((Supply.build ⟨7⟩ (Sample.sumOf.substitute Sample.p Sample.a)).substitute Sample.p Sample.q :
        Build Expr) =
      pure (Supply.build ⟨7⟩ (Sample.sumOf.substitute Sample.p Sample.a)) := by
  have mem : Sample.sumOf ∈ Sample.held := by simp [Sample.held]
  have old_mem : Sample.p ∈ Sample.held := by simp [Sample.held]
  have new_mem : Sample.a ∈ Sample.held := by simp [Sample.held]
  have absent : Sample.a.hasOccurrence Sample.p = false := by decide +kernel
  have declared : (Supply.build ⟨7⟩ (Sample.sumOf.substitute Sample.p Sample.a)).contains
      Sample.p = true := by
    rw [contains_substitute Sample.reachable mem old_mem new_mem]
    decide +kernel
  obtain ⟨_, settled⟩ :=
    substitute_substitute_self Sample.reachable mem old_mem new_mem absent
  exact ⟨Sample.reachable, mem, old_mem, new_mem, absent, declared, settled Sample.q⟩

section Specialization

variable {s : Supply} {held : List Expr}

theorem hasOccurrence_build_substitute_of_isParameter (sound : s.Sound held)
    (mem : e ∈ nodesOf held) (p_mem : p ∈ nodesOf held) (new_mem : new ∈ nodesOf held)
    (q_mem : q ∈ nodesOf held) (p_param : p.isParameter = true) (q_param : q.isParameter = true) :
    (s.build (e.substitute p new)).hasOccurrence q = occursAfter p new q e := by
  refine hasOccurrence_build_substitute sound mem p_mem new_mem q_mem fun distinct => ⟨?_, ?_⟩
  · rw [hasOccurrence_of_isParameter q_param, distinct]
  · rw [hasOccurrence_of_isParameter p_param, sameNode_comm, distinct]

variable {l : Lambda} {replacements : List Expr} (reach : Reachable s held) (body : l.body ∈ held)
  (params : ∀ p ∈ l.params, p ∈ nodesOf held) (parameters : ∀ p ∈ l.params, p.isParameter = true)
  (given : ∀ r ∈ replacements, r ∈ held)

include reach body params parameters given

theorem specialize_occurrence_induction (q_mem : q ∈ nodesOf held) (q_param : q.isParameter = true)
    {motive : List (Expr × Expr) → Bool → Prop} (start : motive [] (l.body.hasOccurrence q))
    (step : ∀ passed pair rest, l.params.zip replacements = passed ++ pair :: rest →
      ∀ e : Expr, motive passed (e.hasOccurrence q) →
        motive (passed ++ [pair]) (occursAfter pair.1 pair.2 q e)) :
    motive (l.params.zip replacements)
      ((s.build (l.specialize replacements)).hasOccurrence q) := by
  have pass : ∀ passed pair rest, l.params.zip replacements = passed ++ pair :: rest →
      ∀ (t : Supply) (more : List Expr), Reachable t more → held ⊆ more → s.next ≤ t.next →
      ∀ e ∈ more, motive passed (e.hasOccurrence q) →
      motive (passed ++ [pair]) ((t.build (e.substitute pair.1 pair.2)).hasOccurrence q) := by
    intro passed pair rest split t more reach' kept _ e mem holds
    have pair_mem : pair ∈ l.params.zip replacements := by
      rw [split]
      exact List.mem_append_right _ List.mem_cons_self
    obtain ⟨declared, replaced⟩ := List.of_mem_zip pair_mem
    have later := nodesOf_mono kept
    rw [hasOccurrence_build_substitute_of_isParameter reach'.sound (mem_nodesOf_of_mem mem)
      (later (params pair.1 declared)) (mem_nodesOf_of_mem (kept (given pair.2 replaced)))
      (later q_mem) (parameters pair.1 declared) q_param]
    exact step passed pair rest split e holds
  obtain ⟨_, _, _, _, holds⟩ := Lambda.specialize_induction reach body given
    (motive := fun passed out => motive passed (out.hasOccurrence q)) start pass
  exact holds

/-- The parameter of a pair is gone once its pass is over, and no later replacement brings it
back. -/
theorem hasOccurrence_specialize_of_pair {i : Nat} {pair : Expr × Expr}
    (at_i : (l.params.zip replacements)[i]? = some pair)
    (absent : ∀ later ∈ (l.params.zip replacements).drop i, later.2.hasOccurrence pair.1 = false) :
    (s.build (l.specialize replacements)).hasOccurrence pair.1 = false := by
  have declared : pair.1 ∈ l.params := (List.of_mem_zip (List.mem_of_getElem? at_i)).1
  have gone := specialize_occurrence_induction reach body params parameters given
    (params pair.1 declared) (parameters pair.1 declared)
    (motive := fun passed occurs => i < passed.length → occurs = false)
    (fun none => absurd none (Nat.not_lt_zero i)) ?_
  · exact gone (List.getElem?_eq_some_iff.1 at_i).1
  intro passed next rest split e holds passed_i
  rw [List.length_append, List.length_singleton] at passed_i
  have next_absent : next.2.hasOccurrence pair.1 = false := by
    refine absent next ?_
    rw [split, List.drop_append_of_le_length (by omega)]
    exact List.mem_append_right _ List.mem_cons_self
  rw [occursAfter, next_absent, Bool.and_false, Bool.or_false]
  rcases Nat.lt_or_ge i passed.length with before | now
  · rw [holds before, Bool.and_false]
  · have here : i = passed.length := by omega
    rw [split, here, List.getElem?_append_right (Nat.le_refl _), Nat.sub_self] at at_i
    have equal : next = pair := Option.some.inj at_i
    rw [equal, sameNode_self]
    rfl

theorem hasOccurrence_specialize_of_apart (q_mem : q ∈ nodesOf held)
    (q_param : q.isParameter = true) (apart : ∀ pair ∈ l.params.zip replacements,
      q.sameNode pair.1 = false ∧ pair.2.hasOccurrence q = false) :
    (s.build (l.specialize replacements)).hasOccurrence q = l.body.hasOccurrence q := by
  refine specialize_occurrence_induction reach body params parameters given q_mem q_param
    (motive := fun _ occurs => occurs = l.body.hasOccurrence q) rfl ?_
  intro passed pair rest split e holds
  have pair_mem : pair ∈ l.params.zip replacements := by
    rw [split]
    exact List.mem_append_right _ List.mem_cons_self
  obtain ⟨distinct, absent⟩ := apart pair pair_mem
  rw [occursAfter, distinct, absent, holds]
  simp

end Specialization

/-- A parameter that has a replacement is free in the outcome of a specialization only if its own
replacement or a later one brings it back. A parameter that has none, and occurs in none, is free in
the outcome exactly if it is in the body. Replacements beyond the parameters do not matter. -/
theorem specialize_occurrences {s : Supply} {held : List Expr} {l : Lambda}
    {replacements : List Expr} (reach : Reachable s held) (mem : e ∈ held)
    (lambda : e.asLambda? = some l) (given : ∀ r ∈ replacements, r ∈ held) :
    (∀ i pair, (l.params.zip replacements)[i]? = some pair →
      (∀ later ∈ (l.params.zip replacements).drop i, later.2.hasOccurrence pair.1 = false) →
      (s.build (l.specialize replacements)).hasOccurrence pair.1 = false) ∧
    (∀ q ∈ nodesOf held, q.isParameter = true →
      (∀ pair ∈ l.params.zip replacements,
        q.sameNode pair.1 = false ∧ pair.2.hasOccurrence q = false) →
      (s.build (l.specialize replacements)).hasOccurrence q = l.body.hasOccurrence q) ∧
    (l.specialize replacements : Build Expr) =
      l.specialize (replacements.take l.params.length) := by
  obtain ⟨within, parameters⟩ := children_of_asLambda? reach.sound (mem_nodesOf_of_mem mem) lambda
  obtain ⟨more, kept, reach', needed⟩ := reach.hold_nodes within
  obtain ⟨body, declared⟩ := List.cons_subset.1 needed
  have params : ∀ p ∈ l.params, p ∈ nodesOf more := fun p p_mem =>
    mem_nodesOf_of_mem (declared p_mem)
  have given' : ∀ r ∈ replacements, r ∈ more := fun r r_mem => kept (given r r_mem)
  refine ⟨fun i pair at_i absent => ?_, fun q q_mem q_param apart => ?_, ?_⟩
  · exact hasOccurrence_specialize_of_pair reach' body params parameters given' at_i absent
  · exact hasOccurrence_specialize_of_apart reach' body params parameters given'
      (nodesOf_mono kept q_mem) q_param apart
  · rw [Lambda.specialize, Lambda.specialize, zip_take_length]

/-- The first replacement mentions `q`, which is replaced afterwards; without a replacement of its
own `q` stays free. -/
theorem specialize_occurrences_sum :
    Reachable ⟨7⟩ Sample.held ∧ Sample.sumOf ∈ Sample.held ∧
    Sample.sumOf.asLambda? = some ⟨[Sample.p, Sample.q], Sample.sum⟩ ∧
    (∀ r ∈ [Sample.q, Sample.a], r ∈ Sample.held) ∧
    (Supply.build ⟨7⟩ ((Lambda.mk [Sample.p, Sample.q] Sample.sum).specialize
      [Sample.q, Sample.a])).hasOccurrence Sample.q = false ∧
    (Supply.build ⟨7⟩ ((Lambda.mk [Sample.p, Sample.q] Sample.sum).specialize
      [Sample.a])).hasOccurrence Sample.q = true := by
  have mem : Sample.sumOf ∈ Sample.held := by simp [Sample.held]
  have lambda : Sample.sumOf.asLambda? = some ⟨[Sample.p, Sample.q], Sample.sum⟩ := rfl
  have given : ∀ r ∈ [Sample.q, Sample.a], r ∈ Sample.held := by simp [Sample.held]
  have q_mem : Sample.q ∈ nodesOf Sample.held := mem_nodesOf_of_mem (by simp [Sample.held])
  obtain ⟨eliminated, _, _⟩ := specialize_occurrences Sample.reachable mem lambda given
  have given' : ∀ r ∈ [Sample.a], r ∈ Sample.held := by simp [Sample.held]
  obtain ⟨_, untouched, _⟩ := specialize_occurrences Sample.reachable mem lambda given'
  refine ⟨Sample.reachable, mem, lambda, given, ?_, ?_⟩
  · exact eliminated 1 (Sample.q, Sample.a) rfl (by decide +kernel)
  · rw [untouched Sample.q q_mem rfl (by decide +kernel)]
    decide +kernel

end Expr

end ExpressionGraphs
