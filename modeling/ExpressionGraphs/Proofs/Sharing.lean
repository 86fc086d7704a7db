import ExpressionGraphs.Expr.Rebuild
import ExpressionGraphs.Proofs.Closure
import ExpressionGraphs.Proofs.Outcome

set_option autoImplicit false

/-!
# Sharing in passes

A pass with sharing and the plain pass that builds every node anew make expressions of one form.
The former returns the very node it was given unless some answer is another node, leaves every
part without such an answer as it is, and builds a fresh node everywhere above one.
-/

namespace ExpressionGraphs

namespace Form

def ty : Form → Ty
  | node ty _ => ty

def remade (ty : Ty) (kind : Kind Form) : Form :=
  node ((kind.map Form.ty).impliedType?.getD ty) kind

end Form

theorem Draft.ty_form (d : Draft) : d.form.ty = d.ty := by
  cases d with
  | kept e =>
    rw [form_kept, Expr.form_eq]
    rfl
  | made ty kind =>
    rw [form_made]
    rfl

theorem Draft.form_remade (ty : Ty) (kind : Kind Draft) :
    (Draft.remade ty kind).form = .remade ty (kind.map form) := by
  have types : (kind.map form).map Form.ty = kind.map Draft.ty := by
    rw [Kind.map_map]
    exact Kind.map_congr fun child _ => ty_form child
  rw [Draft.remade, form_made, Form.remade, types]

namespace Expr

variable {g : Expr → Option Expr} {e : Expr}

theorem ty_form (e : Expr) : e.form.ty = e.ty := by
  rw [form_eq]
  rfl

theorem types_form (kind : Kind Expr) : (kind.map form).map Form.ty = kind.map Expr.ty := by
  rw [Kind.map_map]
  exact Kind.map_congr fun child _ => ty_form child

theorem form_rebuild (u : Supply) (e : Expr) (kind : Kind Expr) :
    (u.build (e.rebuild kind)).form = .remade e.ty (kind.map form) := by
  rw [Supply.build_rebuild, form_node, Form.remade, types_form, impliedType?_eq]

theorem remade_form (formed : e.Formed) : Form.remade e.ty (e.kind.map form) = e.form := by
  rw [Form.remade, types_form, ← impliedType?_eq, form_eq, formed.getD_impliedType?]

/-- What a pass makes has the form of a node remade over what it makes of the operands, also
where it returns the node instead. -/
theorem form_draft_of_none (faithful : Faithful g e) (formed : e.Formed) (h : g e = none) :
    (e.draft g).form = .remade e.ty ((e.kind.map form).withOperands
      (e.kind.operands.map fun operand => (operand.draft g).form)) := by
  cases changed : e.changes g with
  | true =>
    rw [draft_of_rebuilt h changed, Draft.form_remade, Kind.map_withOperands, Kind.map_map,
      List.map_map]
    congr 2
    exact Kind.map_congr fun child _ => Draft.form_kept child
  | false =>
    have operands : e.kind.operands.map (fun operand => (operand.draft g).form) =
        (e.kind.map form).operands := by
      rw [Kind.operands_map]
      refine List.map_congr_left fun operand mem => ?_
      have met := mem_met_of_mem_operands h mem (mem_met_self g operand)
      rw [draft_of_unchanged (faithful.of_mem_met met) (changes_eq_false_of_mem_met changed met),
        Draft.form_kept]
    rw [draft_of_returned h changed, Draft.form_kept, operands, Kind.withOperands_operands,
      remade_form formed]

theorem form_build_rebuildAll (faithful : Faithful g e)
    (formed : ∀ node ∈ e.met g, node.Formed) (t : Supply) :
    (t.build (e.rebuildAll fun node => pure (g node))).form = (e.draft g).form := by
  induction e using induction generalizing t with
  | step e ih =>
    cases h : g e with
    | some answer =>
      rw [draft_of_some h, Draft.form_kept, rebuildAll_eq, h]
      rfl
    | none =>
      have step : ∀ operand ∈ e.kind.operands, ∀ u : Supply, True → True ∧
          (u.build (operand.rebuildAll fun node => pure (g node))).form =
            (operand.draft g).form := by
        intro operand mem u _
        refine ⟨trivial, ih operand (Kind.mem_slots_of_mem_operands mem)
          (faithful.of_mem_operands h mem) (fun node inner => ?_) u⟩
        exact formed node (mem_met_of_mem_operands h mem inner)
      have related := (Supply.forall₂_mapM (fun _ => True)
        (fun operand out : Expr => out.form = (operand.draft g).form) step (s := t) trivial).2
      rw [form_draft_of_none faithful (formed e (mem_met_self g e)) h, ← map_eq_of_forall₂ related,
        ← Kind.map_withOperands, rebuildAll_eq, h]
      exact form_rebuild _ e _

section Reachable

variable {s : Supply} {held : List Expr}

theorem since_replace (reach : Reachable s held) (mem : e ∈ held)
    (answers : ∀ node ∈ e.met g, ∀ answer, g node = some answer → answer ∈ held) :
    (s.build (e.replace g)).since s = e.draft g := by
  have sound := reach.sound
  have root := mem_nodesOf_of_mem mem
  rw [since_build_replace sound root (fun node inner answer h => ?_) (Nat.le_refl _) (Nat.le_refl _),
    since_of_lt (sound.below e root), Draft.rewrite_kept]
  have answer_mem := mem_nodesOf_of_mem (answers node inner answer h)
  exact ⟨answer_mem,
    sound.below node (mem_nodesOf_of_mem_nodes root (mem_nodes_of_mem_met inner)),
    sound.below answer answer_mem⟩

theorem since_replace_answerOf (reach : Reachable s held) (mem : e ∈ held)
    {pairs : List (Expr × Expr)} (replacements : ∀ pair ∈ pairs, pair.2 ∈ held) :
    (s.build (e.replace (answerOf pairs))).since s = e.draft (answerOf pairs) :=
  since_replace reach mem fun _ _ _ h => answerOf_mem replacements h

theorem at?_replace (reach : Reachable s held) (mem : e ∈ held)
    (answers : ∀ node ∈ e.met g, ∀ answer, g node = some answer → answer ∈ held)
    {path : List Nat} {node : Expr} (reaches : Reaches g e path node) :
    ∃ out, (s.build (e.replace g)).at? path = some out ∧ out.since s = node.draft g := by
  obtain ⟨more, _, reach', given⟩ :=
    replace_staysReachable mem answers s held reach (List.Subset.refl held)
  have out_mem := mem_nodesOf_of_mem (given List.mem_cons_self)
  have faithful := faithful_of_sound reach.sound (mem_nodesOf_of_mem mem)
    fun node inner answer h => mem_nodesOf_of_mem (answers node inner answer h)
  have position := sub?_since (s := s) reach'.sound out_mem path
  rw [since_replace reach mem answers, sub?_draft faithful reaches] at position
  exact Option.map_eq_some_iff.1 position.symm

/-- A pass returns the very node it was given just when no node met has another node as its answer.
It makes the form that the plain pass makes. At each position met, a node without such an answer
below it stands as it was, and a node above one is built anew. -/
theorem replace_exact_sharing (reach : Reachable s held) (mem : e ∈ held)
    (answers : ∀ node ∈ e.met g, ∀ answer, g node = some answer → answer ∈ held) :
    ((s.build (e.replace g)).sameNode e = true ↔
      ∀ node ∈ e.met g, ∀ answer, g node = some answer → answer.sameNode node = true) ∧
    (∀ t : Supply, (s.build (e.replace g)).form =
      (t.build (e.rebuildAll fun node => pure (g node))).form) ∧
    ∀ path node, Reaches g e path node →
      (node.changes g = false → (s.build (e.replace g)).at? path = some node) ∧
      (g node = none → node.changes g = true →
        ∃ fresh, (s.build (e.replace g)).at? path = some fresh ∧
          ∀ old ∈ nodesOf held, fresh.id ≠ old.id) := by
  have sound := reach.sound
  have root := mem_nodesOf_of_mem mem
  have met_held : ∀ node ∈ e.met g, node ∈ nodesOf held := fun node inner =>
    mem_nodesOf_of_mem_nodes root (mem_nodes_of_mem_met inner)
  have faithful := faithful_of_sound sound root
    fun node inner answer h => mem_nodesOf_of_mem (answers node inner answer h)
  refine ⟨?_, ?_, ?_⟩
  · have below : ∀ node ∈ e.met g, node.id.index < s.next := fun node inner =>
      sound.below node (met_held node inner)
    rw [sameNode_build_replace below (Nat.le_refl _), Bool.not_eq_true', changes_eq_false_iff]
  · intro t
    have formed : ∀ node ∈ e.met g, node.Formed := fun node inner =>
      sound.formed node (met_held node inner)
    rw [form_build_rebuildAll faithful formed t, ← since_replace reach mem answers, form_since]
  · intro path node reaches
    obtain ⟨out, out_at, made⟩ := at?_replace reach mem answers reaches
    have met := mem_met_iff_reaches.2 ⟨path, reaches⟩
    refine ⟨fun unchanged => ?_, fun h changed => ⟨out, out_at, fun old old_mem equal => ?_⟩⟩
    · rw [draft_of_unchanged (faithful.of_mem_met met) unchanged] at made
      rw [out_at, (since_eq_kept_iff.1 made).1]
    · have older : out.id.index < s.next := equal ▸ sound.below old old_mem
      rw [since_of_lt older, draft_of_rebuilt h changed] at made
      cases made

end Reachable

theorem replace_exact_sharing_sum :
    Reachable ⟨7⟩ Sample.held ∧ Sample.sum ∈ Sample.held ∧
    (∀ node ∈ Sample.sum.met (answerOf [(Sample.p, Sample.a)]), ∀ answer,
      answerOf [(Sample.p, Sample.a)] node = some answer → answer ∈ Sample.held) ∧
    ((Supply.build ⟨7⟩ (Sample.sum.replace (answerOf [(Sample.p, Sample.a)]))).at? [1] =
      some Sample.qx) ∧
    ∃ fresh, (Supply.build ⟨7⟩ (Sample.sum.replace (answerOf [(Sample.p, Sample.a)]))).at? [0] =
      some fresh ∧ ∀ old ∈ nodesOf Sample.held, fresh.id ≠ old.id := by
  have mem : Sample.sum ∈ Sample.held := by simp [Sample.held]
  have answers : ∀ node ∈ Sample.sum.met (answerOf [(Sample.p, Sample.a)]), ∀ answer,
      answerOf [(Sample.p, Sample.a)] node = some answer → answer ∈ Sample.held := by
    intro node _ answer h
    obtain ⟨pair, pair_mem, _, rfl⟩ := exists_pair_of_answerOf h
    rw [List.mem_singleton.1 pair_mem]
    simp [Sample.held]
  obtain ⟨_, _, positions⟩ := replace_exact_sharing Sample.reachable mem answers
  have left : Reaches (answerOf [(Sample.p, Sample.a)]) Sample.sum [0] Sample.px :=
    .operand rfl rfl (Nat.zero_le _) (.here _)
  have right : Reaches (answerOf [(Sample.p, Sample.a)]) Sample.sum [1] Sample.qx :=
    .operand rfl rfl (Nat.zero_le _) (.here _)
  have unchanged : Sample.qx.changes (answerOf [(Sample.p, Sample.a)]) = false := by
    rw [changes_of_none rfl]
    decide +kernel
  have changed : Sample.px.changes (answerOf [(Sample.p, Sample.a)]) = true := by
    rw [changes_of_none rfl]
    decide +kernel
  exact ⟨Sample.reachable, mem, answers, (positions [1] Sample.qx right).1 unchanged,
    (positions [0] Sample.px left).2 rfl changed⟩

end Expr

end ExpressionGraphs
