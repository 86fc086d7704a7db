import ExpressionGraphs.Proofs.Draft
import ExpressionGraphs.Proofs.Replacement

set_option autoImplicit false

/-!
# What a pass makes

The draft of a pass is computed without a supply. `since_build_replace` says that running the pass
on sound expressions makes what the draft says, also when the expression is itself the outcome of
earlier passes: what those have built is rewritten in the same way.
-/

namespace ExpressionGraphs

namespace Expr

variable {g : Expr → Option Expr} {e : Expr}

/-- Follows a pass over sound expressions: a node gives way to its answer, is returned when
nothing below it changes, or else is rebuilt. -/
theorem pass_induction {t : Supply} {held : List Expr} (sound : t.Sound held)
    {motive : Expr → Expr → Prop} (mem : e ∈ nodesOf held)
    (answers : ∀ node ∈ e.met g, ∀ answer, g node = some answer → answer ∈ nodesOf held)
    (answered : ∀ node ∈ e.met g, ∀ answer, g node = some answer → motive node answer)
    (returned : ∀ node ∈ e.met g, g node = none → node.changes g = false →
      (∀ operand ∈ node.kind.operands, motive operand operand) → motive node node)
    (rebuilt : ∀ node ∈ e.met g, g node = none → node.changes g = true →
      ∀ (u : Supply) (outs : List Expr), t.next ≤ u.next →
      List.Forall₂ motive node.kind.operands outs →
      motive node (u.build (node.rebuild (node.kind.withOperands outs))))
    {u : Supply} (le : t.next ≤ u.next) : motive e (u.build (e.replace g)) := by
  have met_held : ∀ node ∈ e.met g, node ∈ nodesOf held := fun node inner =>
    mem_nodesOf_of_mem_nodes mem (mem_nodes_of_mem_met inner)
  refine replace_induction answered ?_ le
  intro node node_mem h v outs le related
  have operand_met : ∀ operand ∈ node.kind.operands, ∀ inner ∈ operand.met g, inner ∈ e.met g :=
    fun operand operand_mem inner inner_mem =>
      mem_met_trans node_mem (mem_met_of_mem_operands h operand_mem inner_mem)
  have same : sameNodes node.kind.operands outs = !node.kind.operands.any (changes g) := by
    refine sameNodes_eq_not_any (related.imp fun operand out ⟨operand_mem, _, v, le, run⟩ => ?_)
    rw [← run]
    refine sameNode_build_replace (fun inner inner_mem => ?_) le
    exact sound.below inner (met_held inner (operand_met operand operand_mem inner inner_mem))
  rw [Supply.build_withOperands, same, ← changes_of_none h]
  cases changed : node.changes g with
  | false =>
    refine returned node node_mem h changed fun operand operand_mem => ?_
    rw [changes_of_none h, List.any_eq_false] at changed
    obtain ⟨out, _, _, holds, v, _, run⟩ := exists_of_forall₂ related operand_mem
    rw [build_replace_of_unchanged (fun inner inner_mem answer given equal => ?_)
      (Bool.eq_false_iff.2 (changed operand operand_mem))] at run
    · exact run ▸ holds
    · have inner_met := operand_met operand operand_mem inner inner_mem
      exact sound.eq_of_sameNode (answers inner inner_met answer given) (met_held inner inner_met)
        equal
  | true =>
    exact rebuilt node node_mem h changed v outs le (related.imp fun _ _ holds => holds.2.1)

def draft (g : Expr → Option Expr) (e : Expr) : Draft :=
  match g e with
  | some answer => .kept answer
  | none =>
    if e.changes g then
      .remade e.ty ((e.kind.map .kept).withOperands
        (e.kind.operands.attach.map fun operand => operand.1.draft g))
    else .kept e
termination_by sizeOf e
decreasing_by exact sizeOf_lt_of_mem_slots (Kind.mem_slots_of_mem_operands operand.2)

theorem draft_of_some {answer : Expr} (h : g e = some answer) : e.draft g = .kept answer := by
  rw [draft, h]

theorem draft_of_returned (h : g e = none) (unchanged : e.changes g = false) :
    e.draft g = .kept e := by
  rw [draft, h]
  simp [unchanged]

theorem draft_of_rebuilt (h : g e = none) (changed : e.changes g = true) :
    e.draft g =
      .remade e.ty ((e.kind.map .kept).withOperands (e.kind.operands.map (draft g))) := by
  rw [draft, h]
  simp [changed]

end Expr

def Draft.rewrite (g : Expr → Option Expr) : Draft → Draft
  | kept e => e.draft g
  | made ty kind =>
    .remade ty (kind.withOperands (kind.operands.attach.map fun operand => operand.1.rewrite g))
termination_by d => sizeOf d
decreasing_by exact sizeOf_lt_of_mem_slots (Kind.mem_slots_of_mem_operands operand.2)

theorem Draft.rewrite_kept (g : Expr → Option Expr) (e : Expr) :
    (kept e).rewrite g = e.draft g := by
  rw [rewrite]

theorem Draft.rewrite_made (g : Expr → Option Expr) (ty : Ty) (kind : Kind Draft) :
    (made ty kind).rewrite g =
      .remade ty (kind.withOperands (kind.operands.map (rewrite g))) := by
  rw [rewrite]
  simp

namespace Expr

variable {g : Expr → Option Expr} {e : Expr}

theorem remade_since {s : Supply} (formed : e.Formed) :
    Draft.remade e.ty (e.kind.map (since s)) = .made e.ty (e.kind.map (since s)) := by
  have types : (e.kind.map (since s)).map Draft.ty = e.kind.map Expr.ty := by
    rw [Kind.map_map]
    exact Kind.map_congr fun child _ => ty_since s child
  rw [Draft.remade, types, ← impliedType?_eq, formed.getD_impliedType?]

/-- A pass makes what its draft says. The nodes it answers and its answers stood before `s`, but
the expression may hold nodes built since. -/
theorem since_build_replace {s t u : Supply} {held : List Expr} (sound : t.Sound held)
    (mem : e ∈ nodesOf held)
    (answers : ∀ node ∈ e.met g, ∀ answer, g node = some answer →
      answer ∈ nodesOf held ∧ node.id.index < s.next ∧ answer.id.index < s.next)
    (earlier : s.next ≤ t.next) (le : t.next ≤ u.next) :
    (u.build (e.replace g)).since s = (e.since s).rewrite g := by
  refine pass_induction (motive := fun node out => out.since s = (node.since s).rewrite g)
    sound mem (fun node inner answer h => (answers node inner answer h).1) ?_ ?_ ?_ le
  · intro node inner answer h
    obtain ⟨_, node_old, answer_old⟩ := answers node inner answer h
    rw [since_of_lt node_old, since_of_lt answer_old, Draft.rewrite_kept, draft_of_some h]
  · intro node inner h unchanged operands
    rcases Nat.lt_or_ge node.id.index s.next with old | new
    · rw [since_of_lt old, Draft.rewrite_kept, draft_of_returned h unchanged]
    · have same : (node.kind.operands.map (since s)).map (Draft.rewrite g) =
          node.kind.operands.map (since s) := by
        rw [List.map_map]
        exact List.map_congr_left fun operand operand_mem => (operands operand operand_mem).symm
      have node_mem := mem_nodesOf_of_mem_nodes mem (mem_nodes_of_mem_met inner)
      rw [since_of_le new, Draft.rewrite_made, Kind.operands_map, same, ← Kind.operands_map,
        Kind.withOperands_operands, remade_since (sound.formed node node_mem)]
  · intro node inner h changed v outs later related
    rw [since_rebuild (Nat.le_trans earlier later), Kind.map_withOperands,
      map_eq_of_forall₂ related]
    -- a node that stood before has its children kept; of one built since they were rewritten
    rcases Nat.lt_or_ge node.id.index s.next with old | new
    · have node_mem := mem_nodesOf_of_mem_nodes mem (mem_nodes_of_mem_met inner)
      have slots : ∀ child ∈ node.kind.slots, child.since s = .kept child := by
        intro child slot
        have younger := sound.older node node_mem child slot
        exact since_of_lt (Nat.lt_trans younger old)
      have operands : node.kind.operands.map (fun operand => (operand.since s).rewrite g) =
          node.kind.operands.map (draft g) := by
        refine List.map_congr_left fun operand operand_mem => ?_
        rw [slots operand (Kind.mem_slots_of_mem_operands operand_mem), Draft.rewrite_kept]
      rw [since_of_lt old, Draft.rewrite_kept, draft_of_rebuilt h changed, operands,
        Kind.map_congr slots]
    · rw [since_of_le new, Draft.rewrite_made, Kind.operands_map, List.map_map]
      rfl

def Faithful (g : Expr → Option Expr) (e : Expr) : Prop :=
  ∀ node ∈ e.met g, ∀ answer, g node = some answer → answer.sameNode node = true → answer = node

theorem Faithful.of_mem_met {node : Expr} (faithful : Faithful g e) (mem : node ∈ e.met g) :
    Faithful g node :=
  fun inner inner_mem => faithful inner (mem_met_trans mem inner_mem)

theorem Faithful.of_mem_operands {operand : Expr} (faithful : Faithful g e) (h : g e = none)
    (mem : operand ∈ e.kind.operands) : Faithful g operand :=
  faithful.of_mem_met (mem_met_of_mem_operands h mem (mem_met_self g operand))

theorem faithful_of_sound {s : Supply} {held : List Expr} (sound : s.Sound held)
    (mem : e ∈ nodesOf held)
    (answers : ∀ node ∈ e.met g, ∀ answer, g node = some answer → answer ∈ nodesOf held) :
    Faithful g e :=
  fun node inner answer h =>
    sound.eq_of_sameNode (answers node inner answer h)
      (mem_nodesOf_of_mem_nodes mem (mem_nodes_of_mem_met inner))

theorem faithful_answerOf {s : Supply} {held : List Expr} (sound : s.Sound held)
    (mem : e ∈ nodesOf held) {pairs : List (Expr × Expr)}
    (replacements : ∀ pair ∈ pairs, pair.2 ∈ held) : Faithful (answerOf pairs) e :=
  faithful_of_sound sound mem fun _ _ _ h => mem_nodesOf_of_mem (answerOf_mem replacements h)

theorem changes_eq_false_of_mem_met {node : Expr} (unchanged : e.changes g = false)
    (mem : node ∈ e.met g) : node.changes g = false :=
  changes_eq_false_iff.2 fun inner inner_mem =>
    changes_eq_false_iff.1 unchanged inner (mem_met_trans mem inner_mem)

theorem draft_of_unchanged (faithful : Faithful g e) (unchanged : e.changes g = false) :
    e.draft g = .kept e := by
  cases h : g e with
  | some answer =>
    rw [changes_of_some h, Bool.not_eq_false'] at unchanged
    rw [draft_of_some h, faithful e (mem_met_self g e) answer h unchanged]
  | none => exact draft_of_returned h unchanged

/-- The node that a pass meets at a position, which leads through no parameter list. -/
inductive Reaches (g : Expr → Option Expr) : Expr → List Nat → Expr → Prop
  | here (e : Expr) : Reaches g e [] e
  | operand {e child node : Expr} {i : Nat} {path : List Nat} (h : g e = none)
    (slot : e.kind.slots[i]? = some child) (le : e.kind.parameters.length ≤ i)
    (rest : Reaches g child path node) : Reaches g e (i :: path) node

theorem mem_operands_of_slot {child : Expr} {i : Nat} (slot : e.kind.slots[i]? = some child)
    (le : e.kind.parameters.length ≤ i) :
    e.kind.operands[i - e.kind.parameters.length]? = some child := by
  rw [Kind.slots_eq, List.getElem?_append_right le] at slot
  exact slot

theorem Reaches.at? {node : Expr} {path : List Nat} (reaches : Reaches g e path node) :
    e.at? path = some node := by
  induction reaches with
  | here => rfl
  | operand _ slot _ _ ih => rw [at?_cons, slot, Option.bind_some, ih]

theorem mem_met_iff_reaches {node : Expr} : node ∈ e.met g ↔ ∃ path, Reaches g e path node := by
  constructor
  · intro mem
    induction e using induction with
    | step e ih =>
      cases h : g e with
      | some answer =>
        rw [met_of_some h, List.mem_singleton] at mem
        subst mem
        exact ⟨[], .here node⟩
      | none =>
        rw [met_of_none h] at mem
        rcases List.mem_cons.1 mem with rfl | below
        · exact ⟨[], .here node⟩
        · obtain ⟨operand, operand_mem, inner⟩ := List.mem_flatMap.1 below
          obtain ⟨path, rest⟩ := ih operand (Kind.mem_slots_of_mem_operands operand_mem) inner
          obtain ⟨i, at_i⟩ := List.mem_iff_getElem?.1 operand_mem
          refine ⟨(e.kind.parameters.length + i) :: path, .operand h ?_ (Nat.le_add_right _ i) rest⟩
          rw [Kind.slots_eq, List.getElem?_append_right (Nat.le_add_right _ i),
            Nat.add_sub_cancel_left, at_i]
  · rintro ⟨path, reaches⟩
    induction reaches with
    | here e => exact mem_met_self g e
    | operand h slot le _ ih =>
      exact mem_met_of_mem_operands h (List.mem_of_getElem? (mem_operands_of_slot slot le)) ih

theorem sub?_draft (faithful : Faithful g e) {node : Expr} {path : List Nat}
    (reaches : Reaches g e path node) : (e.draft g).sub? path = some (node.draft g) := by
  induction reaches with
  | here => exact Draft.sub?_nil _
  | @operand e child node i path h slot le rest ih =>
    have operand := mem_operands_of_slot slot le
    have inner := ih (faithful.of_mem_operands h (List.mem_of_getElem? operand))
    cases changed : e.changes g with
    | true =>
      rw [draft_of_rebuilt h changed, Draft.remade, Draft.sub?_made_cons,
        Kind.slots_withOperands (Kind.length_operands_map _ _ _), Kind.parameters_map,
        List.getElem?_append_right (by rwa [List.length_map]), List.length_map,
        List.getElem?_map, operand]
      exact inner
    | false =>
      have met := mem_met_iff_reaches.2 ⟨_, Reaches.operand h slot le rest⟩
      rw [draft_of_returned h changed, Draft.sub?_kept, (Reaches.operand h slot le rest).at?,
        draft_of_unchanged (faithful.of_mem_met met) (changes_eq_false_of_mem_met changed met)]
      rfl

end Expr

end ExpressionGraphs
