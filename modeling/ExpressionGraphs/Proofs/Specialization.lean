import ExpressionGraphs.Proofs.Closure
import ExpressionGraphs.Proofs.Sharing

set_option autoImplicit false

/-!
# Specialization as one pass

Two passes, one after the other, make what a single pass makes in which the answers of the first
come first, provided that the second answers leaves alone and meets none of them in an answer of
the first. So the passes of a specialization, one for each parameter, can be taken at once unless a
later parameter occurs in an earlier replacement.
-/

namespace ExpressionGraphs

theorem Draft.rewrite_remade (h : Expr → Option Expr) (ty : Ty) (kind : Kind Draft) :
    (remade ty kind).rewrite h =
      .remade ty (kind.withOperands (kind.operands.map (rewrite h))) := by
  have implied : ((kind.withOperands (kind.operands.map (rewrite h))).map
      Draft.ty).impliedType?.isSome = (kind.map Draft.ty).impliedType?.isSome := by
    rw [Kind.map_withOperands, Kind.isSome_impliedType?_withOperands]
  rw [remade, rewrite_made, remade, remade, getD_getD_of_isSome_eq implied]

namespace Expr

variable {g h : Expr → Option Expr} {e : Expr}

def orElse (g h : Expr → Option Expr) (node : Expr) : Option Expr := (g node).or (h node)

theorem orElse_of_some {answer : Expr} (given : g e = some answer) :
    orElse g h e = some answer := by
  rw [orElse, given, Option.some_or]

theorem orElse_of_none (none : g e = none) : orElse g h e = h e := by
  rw [orElse, none, Option.none_or]

theorem changes_of_leaf (leaf : e.kind.operands = []) (none : g e = none) :
    e.changes g = false := by
  rw [changes_of_none none, leaf, List.any_nil]

theorem changes_orElse (leaves : ∀ node ∈ e.met g, h node ≠ none → node.kind.operands = [])
    (changed : e.changes g = true) : e.changes (orElse g h) = true := by
  induction e using induction with
  | step e ih =>
    cases first : g e with
    | some answer =>
      rw [changes_of_some first] at changed
      rw [changes_of_some (orElse_of_some first), changed]
    | none =>
      cases second : h e with
      | some answer =>
        -- the second pass stops here, but at a leaf, so that it hides no change of the first
        have leaf := leaves e (mem_met_self g e) (by simp [second])
        rw [changes_of_leaf leaf first] at changed
        cases changed
      | none =>
        rw [changes_of_none first, List.any_eq_true] at changed
        obtain ⟨operand, mem, below⟩ := changed
        rw [changes_of_none (by rw [orElse_of_none first, second]), List.any_eq_true]
        refine ⟨operand, mem, ih operand (Kind.mem_slots_of_mem_operands mem) ?_ below⟩
        exact fun node inner => leaves node (mem_met_of_mem_operands first mem inner)

theorem changes_eq_true_iff (faithful : Faithful g e) :
    e.changes g = true ↔ e.draft g ≠ .kept e := by
  constructor
  · intro changed equal
    cases given : g e with
    | some answer =>
      rw [draft_of_some given] at equal
      rw [changes_of_some given, Draft.kept.inj equal] at changed
      simp [sameNode] at changed
    | none =>
      rw [draft_of_rebuilt given changed] at equal
      cases equal
  · intro different
    by_contra unchanged
    exact different (draft_of_unchanged faithful (Bool.eq_false_iff.2 unchanged))

theorem draft_congr {k : Expr → Option Expr} (first : g e = none) (second : k e = none)
    (faithful : Faithful g e) (faithful' : Faithful k e)
    (operands : ∀ operand ∈ e.kind.operands, operand.draft g = operand.draft k) :
    e.draft g = e.draft k := by
  have changed : e.changes g = e.changes k := by
    rw [changes_of_none first, changes_of_none second]
    refine any_congr_of_mem fun operand mem => Bool.eq_iff_iff.2 ?_
    rw [changes_eq_true_iff (faithful.of_mem_operands first mem),
      changes_eq_true_iff (faithful'.of_mem_operands second mem), operands operand mem]
  by_cases rebuilt : e.changes g = true
  · rw [draft_of_rebuilt first rebuilt, draft_of_rebuilt second (changed ▸ rebuilt),
      List.map_congr_left operands]
  · have returned : e.changes g = false := Bool.eq_false_iff.2 rebuilt
    rw [draft_of_returned first returned, draft_of_returned second (changed ▸ returned)]

theorem rewrite_draft_of_none (given : g e = none) (found : h e = none)
    (leaves : ∀ node ∈ e.met g, h node ≠ none → node.kind.operands = [])
    (first : Faithful g e) (second : Faithful h e) (both : Faithful (orElse g h) e)
    (operands : ∀ operand ∈ e.kind.operands,
      (operand.draft g).rewrite h = operand.draft (orElse g h)) :
    (e.draft g).rewrite h = e.draft (orElse g h) := by
  have neither : orElse g h e = none := by rw [orElse_of_none given, found]
  by_cases changed : e.changes g = true
  · have images : ((e.kind.map Draft.kept).withOperands
        (e.kind.operands.map (draft g))).operands.map (Draft.rewrite h) =
          e.kind.operands.map (draft (orElse g h)) := by
      rw [Kind.operands_withOperands (Kind.length_operands_map _ _ _), List.map_map]
      exact List.map_congr_left operands
    rw [draft_of_rebuilt given changed, Draft.rewrite_remade, images,
      Kind.withOperands_withOperands (Kind.length_operands_map _ _ _),
      ← draft_of_rebuilt neither (changes_orElse leaves changed)]
  · have unchanged : e.changes g = false := Bool.eq_false_iff.2 changed
    rw [draft_of_returned given unchanged, Draft.rewrite_kept]
    refine draft_congr found neither second both fun operand mem => ?_
    have met := mem_met_of_mem_operands given mem (mem_met_self g operand)
    rw [← operands operand mem, draft_of_unchanged (first.of_mem_operands given mem)
      (changes_eq_false_of_mem_met unchanged met), Draft.rewrite_kept]

/-- Two passes are one if the second has answers for leaves alone and leaves the answers of the
first as they are. -/
theorem rewrite_draft (leaves : ∀ node ∈ e.met g, h node ≠ none → node.kind.operands = [])
    (apart : ∀ node ∈ e.met g, ∀ answer, g node = some answer → answer.draft h = .kept answer)
    (first : Faithful g e) (second : Faithful h e) (both : Faithful (orElse g h) e) :
    (e.draft g).rewrite h = e.draft (orElse g h) := by
  induction e using induction with
  | step e ih =>
    cases given : g e with
    | some answer =>
      rw [draft_of_some given, Draft.rewrite_kept, apart e (mem_met_self g e) answer given,
        draft_of_some (orElse_of_some given)]
    | none =>
      cases found : h e with
      | some answer =>
        have leaf := leaves e (mem_met_self g e) (by simp [found])
        rw [draft_of_returned given (changes_of_leaf leaf given), Draft.rewrite_kept,
          draft_of_some found, draft_of_some (by rw [orElse_of_none given, found])]
      | none =>
        refine rewrite_draft_of_none given found leaves first second both fun operand mem => ?_
        apply ih operand (Kind.mem_slots_of_mem_operands mem)
        · exact fun node inner => leaves node (mem_met_of_mem_operands given mem inner)
        · exact fun node inner => apart node (mem_met_of_mem_operands given mem inner)
        · exact first.of_mem_operands given mem
        · exact second.of_mem_operands found mem
        · exact both.of_mem_operands (by rw [orElse_of_none given, found]) mem

theorem answerOf_append_eq (passed rest : List (Expr × Expr)) :
    answerOf (passed ++ rest) = orElse (answerOf passed) (answerOf rest) := by
  funext node
  exact answerOf_append passed rest node

theorem draft_of_absent {old new : Expr} (absent : e.hasOccurrence old = false) :
    e.draft (answerOf [(old, new)]) = .kept e := by
  have other : e.sameNode old = false := by
    rw [hasOccurrence_eq, Bool.or_eq_false_iff] at absent
    exact absent.1
  exact draft_of_returned (by simp [answerOf_single, other]) (changes_of_absent absent)

theorem draft_answerOf_nil (e : Expr) : e.draft (answerOf []) = .kept e := by
  refine draft_of_returned rfl (changes_eq_false_iff.2 fun _ _ _ h => ?_)
  cases h

section Reachable

variable {s : Supply} {held : List Expr} {l : Lambda} {replacements : List Expr}

theorem children_of_asLambda? (sound : s.Sound held) (mem : e ∈ nodesOf held)
    (lambda : e.asLambda? = some l) :
    (∀ node ∈ l.body :: l.params, node ∈ nodesOf held) ∧
      ∀ p ∈ l.params, p.isParameter = true := by
  have kind := kind_of_asLambda? lambda
  have declares := (sound.formed e mem).declares
  rw [kind] at declares
  refine ⟨fun node child => mem_nodesOf_of_mem_slots mem ?_, declares⟩
  rw [kind, Kind.slots, List.mem_append, List.mem_singleton]
  exact (List.mem_cons.1 child).symm

theorem rewrite_draft_answerOf (sound : s.Sound held) (mem : e ∈ nodesOf held)
    {passed : List (Expr × Expr)} {pair : Expr × Expr} (old_mem : pair.1 ∈ nodesOf held)
    (parameter : pair.1.isParameter = true)
    (replaced : ∀ earlier ∈ passed ++ [pair], earlier.2 ∈ held)
    (apart : ∀ earlier ∈ passed, earlier.2.hasOccurrence pair.1 = false) :
    (e.draft (answerOf passed)).rewrite (answerOf [pair]) =
      e.draft (answerOf (passed ++ [pair])) := by
  have faithful : ∀ pairs, pairs ⊆ passed ++ [pair] → Faithful (answerOf pairs) e :=
    fun pairs sub => faithful_answerOf sound mem fun found inner => replaced found (sub inner)
  rw [answerOf_append_eq]
  apply rewrite_draft
  · intro node inner found
    obtain ⟨answer, h⟩ := Option.ne_none_iff_exists'.1 found
    obtain ⟨_, single, hit, _⟩ := exists_pair_of_answerOf h
    rw [List.mem_singleton.1 single] at hit
    have node_mem := mem_nodesOf_of_mem_nodes mem (mem_nodes_of_mem_met inner)
    have leaf := slots_eq_nil_of_isParameter parameter
    rw [Kind.slots_eq, List.append_eq_nil_iff] at leaf
    rw [sound.eq_of_sameNode node_mem old_mem hit]
    exact leaf.2
  · intro node _ answer h
    obtain ⟨earlier, earlier_mem, _, rfl⟩ := exists_pair_of_answerOf h
    exact draft_of_absent (apart earlier earlier_mem)
  · exact faithful _ (List.subset_append_left _ _)
  · exact faithful _ (List.subset_append_right _ _)
  · rw [← answerOf_append_eq]
    exact faithful _ (List.Subset.refl _)

/-- Specialization makes what the single pass makes, if no later parameter occurs in an earlier
replacement. -/
theorem since_specialize (reach : Reachable s held) (body : l.body ∈ held)
    (params : ∀ p ∈ l.params, p ∈ held) (parameters : ∀ p ∈ l.params, p.isParameter = true)
    (given : ∀ r ∈ replacements, r ∈ held)
    (apart : (l.params.zip replacements).Pairwise fun earlier later =>
      earlier.2.hasOccurrence later.1 = false) :
    ∃ more, held ⊆ more ∧ Reachable (s.after (l.specialize replacements)) more ∧
      s.build (l.specialize replacements) ∈ more ∧
      (s.build (l.specialize replacements)).since s =
        l.body.draft (answerOf (l.params.zip replacements)) := by
  have sound := reach.sound
  have root := mem_nodesOf_of_mem body
  refine Lambda.specialize_induction reach body given
    (motive := fun passed e => e.since s = l.body.draft (answerOf passed)) ?_ ?_
  · rw [draft_answerOf_nil, since_of_lt (sound.below l.body root)]
  intro passed pair rest split t more reach' kept le e mem holds
  have members : ∀ earlier ∈ passed ++ [pair], earlier ∈ l.params.zip replacements := by
    intro earlier inner
    rw [split, List.append_cons]
    exact List.mem_append_left rest inner
  have replaced : ∀ earlier ∈ passed ++ [pair], earlier.2 ∈ held := fun earlier inner =>
    given earlier.2 (List.of_mem_zip (members earlier inner)).2
  have pair_mem : pair ∈ passed ++ [pair] := List.mem_append_right _ List.mem_cons_self
  have declared : pair.1 ∈ l.params := (List.of_mem_zip (members pair pair_mem)).1
  have old_mem := mem_nodesOf_of_mem (params pair.1 declared)
  have new_mem := replaced pair pair_mem
  rw [split, List.pairwise_append] at apart
  rw [substitute_eq_replace,
    since_build_replace reach'.sound (mem_nodesOf_of_mem mem) ?_ le (Nat.le_refl _), holds]
  · exact rewrite_draft_answerOf sound root old_mem (parameters pair.1 declared) replaced
      fun earlier inner => apart.2.2 earlier inner pair List.mem_cons_self
  · intro node _ answer h
    obtain ⟨_, single, hit, rfl⟩ := exists_pair_of_answerOf h
    rw [List.mem_singleton.1 single] at hit ⊢
    have same : node.id = pair.1.id := of_decide_eq_true hit
    rw [same]
    exact ⟨mem_nodesOf_of_mem (kept new_mem), sound.below pair.1 old_mem,
      sound.below pair.2 (mem_nodesOf_of_mem new_mem)⟩

/-- If no later parameter occurs in an earlier replacement, specialization has the form of the single
pass and holds the same older nodes at the same positions; and each replacement stands where it was
put with all that it contains, earlier parameters included. -/
theorem specialize_simultaneous (reach : Reachable s held) (mem : e ∈ held)
    (lambda : e.asLambda? = some l) (given : ∀ r ∈ replacements, r ∈ held)
    (apart : (l.params.zip replacements).Pairwise fun earlier later =>
      earlier.2.hasOccurrence later.1 = false) :
    (s.build (l.specialize replacements)).form =
      (s.build (l.body.substituteAll (l.params.zip replacements))).form ∧
    (∀ path, ∀ node ∈ nodesOf held,
      (s.build (l.specialize replacements)).at? path = some node ↔
        (s.build (l.body.substituteAll (l.params.zip replacements))).at? path = some node) ∧
    ∀ path node r, Reaches (answerOf (l.params.zip replacements)) l.body path node →
      answerOf (l.params.zip replacements) node = some r →
      ∀ inner, (s.build (l.specialize replacements)).at? (path ++ inner) = r.at? inner := by
  obtain ⟨within, parameters⟩ := children_of_asLambda? reach.sound (mem_nodesOf_of_mem mem) lambda
  obtain ⟨more, kept, reach', needed⟩ := reach.hold_nodes within
  obtain ⟨body, params⟩ := List.cons_subset.1 needed
  have given' : ∀ r ∈ replacements, r ∈ more := fun r r_mem => kept (given r r_mem)
  have replaced : ∀ pair ∈ l.params.zip replacements, pair.2 ∈ more := fun pair pair_mem =>
    given' pair.2 (List.of_mem_zip pair_mem).2
  obtain ⟨last, _, final, out_mem, out⟩ :=
    since_specialize reach' body (fun p declared => params declared) parameters given' apart
  obtain ⟨last', _, final', out_mem'⟩ := replace_staysReachable body
    (fun _ _ _ h => answerOf_mem replaced h) s more reach' (List.Subset.refl more)
  have once := since_replace_answerOf reach' body replaced
  rw [← substituteAll_eq_replace] at once out_mem' final'
  have stands : ∀ path node, node.id.index < s.next →
      ((s.build (l.specialize replacements)).at? path = some node ↔
        (l.body.draft (answerOf (l.params.zip replacements))).sub? path = some (.kept node)) := by
    intro path node old
    rw [← out]
    exact at?_eq_some_iff final.sound (mem_nodesOf_of_mem out_mem) old path
  refine ⟨?_, ?_, ?_⟩
  · rw [← form_since s, out, ← once, form_since]
  · intro path node node_mem
    have old := reach.sound.below node node_mem
    rw [stands path node old, ← once]
    exact (at?_eq_some_iff final'.sound (mem_nodesOf_of_mem (out_mem' List.mem_cons_self)) old
      path).symm
  · intro path node r reaches answer inner
    have old := reach'.sound.below r (mem_nodesOf_of_mem (answerOf_mem replaced answer))
    have faithful := faithful_answerOf reach'.sound (mem_nodesOf_of_mem body) replaced
    have place := sub?_draft faithful reaches
    rw [draft_of_some answer] at place
    rw [at?_append, (stands path r old).2 place, Option.bind_some]

end Reachable

/-- The second replacement is the first parameter, which the first pass has replaced before. -/
theorem specialize_simultaneous_sum :
    Reachable ⟨7⟩ Sample.held ∧ Sample.sumOf ∈ Sample.held ∧
    Sample.sumOf.asLambda? = some ⟨[Sample.p, Sample.q], Sample.sum⟩ ∧
    (∀ r ∈ [Sample.a, Sample.p], r ∈ Sample.held) ∧
    ([Sample.p, Sample.q].zip [Sample.a, Sample.p]).Pairwise
      (fun earlier later => earlier.2.hasOccurrence later.1 = false) ∧
    (Supply.build ⟨7⟩ ((Lambda.mk [Sample.p, Sample.q] Sample.sum).specialize
      [Sample.a, Sample.p])).at? [1, 0] = some Sample.p := by
  have mem : Sample.sumOf ∈ Sample.held := by simp [Sample.held]
  have lambda : Sample.sumOf.asLambda? = some ⟨[Sample.p, Sample.q], Sample.sum⟩ := rfl
  have given : ∀ r ∈ [Sample.a, Sample.p], r ∈ Sample.held := by simp [Sample.held]
  have apart : ([Sample.p, Sample.q].zip [Sample.a, Sample.p]).Pairwise
      (fun earlier later => earlier.2.hasOccurrence later.1 = false) := by decide +kernel
  have reaches : Reaches (answerOf ([Sample.p, Sample.q].zip [Sample.a, Sample.p])) Sample.sum
      [1, 0] Sample.q :=
    .operand rfl rfl (Nat.zero_le _) (.operand rfl rfl (Nat.zero_le _) (.here _))
  obtain ⟨_, _, untouched⟩ := specialize_simultaneous Sample.reachable mem lambda given apart
  exact ⟨Sample.reachable, mem, lambda, given, apart,
    untouched [1, 0] Sample.q Sample.p reaches rfl []⟩

end Expr

end ExpressionGraphs
