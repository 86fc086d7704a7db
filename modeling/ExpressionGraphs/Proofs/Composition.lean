import ExpressionGraphs.Proofs.Closure
import ExpressionGraphs.Proofs.Sharing

set_option autoImplicit false

/-!
# Substitutions in either order

A pass puts other nodes in the place of some and leaves to every node above them its type and
contents. What a pass makes of the outcome of another therefore has the form of a single exchange of
nodes for forms, provided that the earlier pass rebuilds no node that the later one looks for: a
node rebuilt has a new identity and is not found any more. So two substitutions can change places if
neither node occurs in the other, and the replacement that was put in first is passed over as well.
-/

namespace ExpressionGraphs

namespace Expr

variable {e : Expr} {exchange : Expr → Option Form}

/-- The form of an expression when some of its nodes give way to forms. -/
def formWith (exchange : Expr → Option Form) (e : Expr) : Form :=
  match exchange e with
  | some form => form
  | none => .remade e.ty ((e.kind.map form).withOperands
      (e.kind.operands.attach.map fun operand => operand.1.formWith exchange))
termination_by sizeOf e
decreasing_by exact sizeOf_lt_of_mem_slots (Kind.mem_slots_of_mem_operands operand.2)

theorem formWith_of_some {form : Form} (h : exchange e = some form) :
    e.formWith exchange = form := by
  rw [formWith, h]

theorem formWith_of_none (h : exchange e = none) :
    e.formWith exchange = .remade e.ty ((e.kind.map form).withOperands
      (e.kind.operands.map (formWith exchange))) := by
  rw [formWith, h]
  simp

theorem formWith_of_absent (absent : ∀ node ∈ e.reached fun _ => true, exchange node = none)
    (formed : ∀ node ∈ e.nodes, node.Formed) : e.formWith exchange = e.form := by
  induction e using induction with
  | step e ih =>
    rw [reached_eq, if_pos rfl] at absent
    have operands : e.kind.operands.map (formWith exchange) = (e.kind.map form).operands := by
      rw [Kind.operands_map]
      refine List.map_congr_left fun operand mem => ?_
      have slot := Kind.mem_slots_of_mem_operands mem
      refine ih operand slot (fun node inner => ?_) fun node inner => ?_
      · exact absent node (List.mem_cons_of_mem _ (List.mem_flatMap.2 ⟨operand, mem, inner⟩))
      · exact formed node (mem_nodes_of_mem_slots slot inner)
    rw [formWith_of_none (absent e List.mem_cons_self), operands, Kind.withOperands_operands,
      remade_form (formed e e.mem_nodes_self)]

theorem formWith_rebuild {u : Supply} {outs : List Expr}
    (length : outs.length = e.kind.operands.length)
    (fresh : exchange (u.build (e.rebuild (e.kind.withOperands outs))) = none) :
    (u.build (e.rebuild (e.kind.withOperands outs))).formWith exchange =
      .remade e.ty ((e.kind.map form).withOperands (outs.map (formWith exchange))) := by
  have shape : ((e.kind.withOperands outs).map form).withOperands (outs.map (formWith exchange)) =
      (e.kind.map form).withOperands (outs.map (formWith exchange)) := by
    rw [Kind.map_withOperands, Kind.withOperands_withOperands]
    rw [List.length_map, length, ← Kind.length_operands_map form, List.length_map]
  have implied : (((e.kind.map form).withOperands (outs.map (formWith exchange))).map
      Form.ty).impliedType?.isSome = (impliedType? (e.kind.withOperands outs)).isSome := by
    rw [impliedType?_eq, Kind.map_withOperands, Kind.map_withOperands,
      Kind.isSome_impliedType?_withOperands, Kind.isSome_impliedType?_withOperands, types_form]
  rw [formWith_of_none fresh, Supply.build_rebuild, kind_node, ty_node,
    Kind.operands_withOperands length, shape, Form.remade, Form.remade,
    getD_getD_of_isSome_eq implied]

variable {g : Expr → Option Expr}

/-- The exchange that a pass and an exchange of its outcome amount to. -/
def thenExchange (g : Expr → Option Expr) (exchange : Expr → Option Form) (node : Expr) :
    Option Form :=
  ((g node).map (formWith exchange)).or (exchange node)

/-- Exchanging nodes in what a pass has made is exchanging them in its answers and in the rest, if
the nodes exchanged stood before the pass and the pass changes nothing below them. -/
theorem formWith_build_replace {t u : Supply} {held : List Expr} (sound : t.Sound held)
    (mem : e ∈ nodesOf held)
    (answers : ∀ node ∈ e.met g, ∀ answer, g node = some answer → answer ∈ nodesOf held)
    (older : ∀ node, exchange node ≠ none → node.id.index < t.next)
    (whole : ∀ node ∈ e.met g, exchange node ≠ none → g node = none → node.changes g = false)
    (le : t.next ≤ u.next) :
    (u.build (e.replace g)).formWith exchange = e.formWith (thenExchange g exchange) := by
  refine pass_induction (motive := fun node out =>
    out.formWith exchange = node.formWith (thenExchange g exchange)) sound mem answers ?_ ?_ ?_ le
  · intro node _ answer h
    have given : thenExchange g exchange node = some (answer.formWith exchange) := by
      rw [thenExchange, h]
      rfl
    rw [formWith_of_some given]
  · intro node _ h _ operands
    have same : thenExchange g exchange node = exchange node := by
      rw [thenExchange, h]
      rfl
    cases found : exchange node with
    | some form => rw [formWith_of_some found, formWith_of_some (same.trans found)]
    | none =>
      rw [formWith_of_none found, formWith_of_none (same.trans found),
        List.map_congr_left operands]
  · intro node inner h changed v outs later related
    have kept : exchange node = none := by
      by_contra found
      rw [whole node inner found h] at changed
      cases changed
    have fresh : exchange (v.build (node.rebuild (node.kind.withOperands outs))) = none := by
      by_contra found
      have old : v.next < t.next := older _ found
      omega
    have none : thenExchange g exchange node = none := by
      rw [thenExchange, h, kept]
      rfl
    rw [formWith_rebuild related.length_eq.symm fresh, map_eq_of_forall₂ related,
      formWith_of_none none]

theorem thenExchange_answerOf (old new node : Expr) :
    thenExchange (answerOf [(old, new)]) exchange node =
      if node.sameNode old then some (new.formWith exchange) else exchange node := by
  rw [thenExchange, answerOf_single]
  split <;> rfl

def onlyAt (target : Expr) (form : Form) (node : Expr) : Option Form :=
  if node.sameNode target then some form else none

theorem sameNode_of_onlyAt {target node : Expr} {form : Form} (h : onlyAt target form node ≠ none) :
    node.sameNode target = true := by
  by_contra other
  exact h (if_neg other)

section Reachable

variable {s u v : Supply} {held : List Expr} {tree a b x y : Expr}

theorem formWith_onlyAt_of_absent (sound : s.Sound held) (mem : e ∈ held) {target : Expr}
    (form : Form) (absent : e.hasOccurrence target = false) :
    e.formWith (onlyAt target form) = e.form := by
  refine formWith_of_absent (fun node inner => ?_) fun node inner => ?_
  · rw [hasOccurrence, List.any_eq_false] at absent
    exact if_neg (absent node inner)
  · exact sound.formed node (mem_nodesOf.2 ⟨e, mem, inner⟩)

theorem formWith_build_substitute (sound : s.Sound held) (mem : tree ∈ held) (new_mem : x ∈ held)
    (older : ∀ node, exchange node ≠ none → node.id.index < s.next)
    (apart : ∀ node ∈ nodesOf held, exchange node ≠ none → node.hasOccurrence a = false) :
    (s.build (tree.substitute a x)).formWith exchange = tree.formWith fun node =>
      if node.sameNode a then some (x.formWith exchange) else exchange node := by
  have replaced : ∀ pair ∈ [(a, x)], pair.2 ∈ held := by simpa using new_mem
  rw [substitute_eq_replace, formWith_build_replace sound (mem_nodesOf_of_mem mem)
    (fun _ _ _ h => mem_nodesOf_of_mem (answerOf_mem replaced h)) older ?_ (Nat.le_refl _),
    funext (thenExchange_answerOf a x)]
  intro node inner found _
  exact changes_of_absent (apart node (mem_nodesOf.2 ⟨tree, mem, mem_nodes_of_mem_met inner⟩) found)

theorem form_build_substitute (reach : Reachable s held) (mem : tree ∈ held) (new_mem : x ∈ held) :
    (s.build (tree.substitute a x)).form = tree.formWith (onlyAt a x.form) := by
  obtain ⟨more, kept, reach', out_mem⟩ := reach.substitute mem a new_mem
  have whole : ∀ out ∈ more, out.formWith (fun _ => none) = out.form := fun out out_mem =>
    formWith_of_absent (fun _ _ => rfl) fun node inner =>
      reach'.sound.formed node (mem_nodesOf.2 ⟨out, out_mem, inner⟩)
  rw [← whole _ out_mem, formWith_build_substitute reach.sound mem new_mem
    (fun _ found => absurd rfl found) (fun _ _ found => absurd rfl found), whole x (kept new_mem)]
  rfl

theorem form_build_substitute_outcome (reach : Reachable s held) (mem : tree ∈ held)
    (b_mem : b ∈ held) (x_mem : x ∈ held) (apart : b.hasOccurrence a = false) {t : Supply}
    {more : List Expr} (later : Reachable t more) (first : s.build (tree.substitute a x) ∈ more)
    (y_mem : y ∈ more) :
    (t.build ((s.build (tree.substitute a x)).substitute b y)).form = tree.formWith fun node =>
      if node.sameNode a then some (x.formWith (onlyAt b y.form)) else onlyAt b y.form node := by
  have sound := reach.sound
  have root := mem_nodesOf_of_mem b_mem
  rw [form_build_substitute later first y_mem]
  refine formWith_build_substitute sound mem x_mem (fun node found => ?_) fun node inner found => ?_
  · have same : node.id = b.id := of_decide_eq_true (sameNode_of_onlyAt found)
    rw [same]
    exact sound.below b root
  · rw [sound.eq_of_sameNode inner root (sameNode_of_onlyAt found)]
    exact apart

/-- Two substitutions change places if neither node occurs in the other nor the first in the second
replacement, which is then put into the first replacement beforehand. -/
theorem form_substitute_substitute (reach : Reachable s held) (mem : tree ∈ held) (a_mem : a ∈ held)
    (b_mem : b ∈ held) (x_mem : x ∈ held) (y_mem : y ∈ held) (apart : a.hasOccurrence b = false)
    (apart' : b.hasOccurrence a = false) (absent : y.hasOccurrence a = false)
    (le : s.next ≤ u.next) (le' : s.next ≤ v.next) :
    (u.build do (← tree.substitute a x).substitute b y).form =
      (v.build do (← tree.substitute b y).substitute a (← x.substitute b y)).form := by
  obtain ⟨here, kept, reach_u⟩ := reach.later le
  obtain ⟨_, kept₁, reach₁, first⟩ := reach_u.substitute (kept mem) a (kept x_mem)
  obtain ⟨there, kept', reach_v⟩ := reach.later le'
  obtain ⟨_, kept₂, reach₂, first'⟩ := reach_v.substitute (kept' mem) b (kept' y_mem)
  obtain ⟨_, kept₃, reach₃, second⟩ :=
    reach₂.substitute (kept₂ (kept' x_mem)) b (kept₂ (kept' y_mem))
  simp only [Supply.build_bind]
  rw [form_build_substitute_outcome reach_u (kept mem) (kept b_mem) (kept x_mem) apart' reach₁ first
      (kept₁ (kept y_mem)),
    form_build_substitute_outcome reach_v (kept' mem) (kept' a_mem) (kept' y_mem) apart reach₃
      (kept₃ first') second,
    form_build_substitute reach₂ (kept₂ (kept' x_mem)) (kept₂ (kept' y_mem)),
    formWith_onlyAt_of_absent reach.sound y_mem _ absent]
  congr 1
  funext node
  have distinct : a.sameNode b = false := by
    rw [hasOccurrence_eq, Bool.or_eq_false_iff] at apart
    exact apart.1
  -- the exchanges differ in the order of their tests alone, of which at most one succeeds
  by_cases first : node.sameNode a = true
  · have other : node.sameNode b = false := by
      have same : node.id = a.id := of_decide_eq_true first
      rw [sameNode, same]
      exact distinct
    simp [onlyAt, first, other]
  · simp [onlyAt, first]

end Reachable

theorem form_substitute_substitute_sum :
    Reachable ⟨7⟩ Sample.held ∧ Sample.px.hasOccurrence Sample.q = false ∧
    Sample.q.hasOccurrence Sample.px = false ∧ Sample.qx.hasOccurrence Sample.px = false ∧
    (Supply.build ⟨7⟩ do
      (← Sample.sumOf.substitute Sample.px Sample.sum).substitute Sample.q Sample.qx).form =
    (Supply.build ⟨20⟩ do
      (← Sample.sumOf.substitute Sample.q Sample.qx).substitute Sample.px
        (← Sample.sum.substitute Sample.q Sample.qx)).form := by
  have apart : Sample.px.hasOccurrence Sample.q = false := by decide +kernel
  have apart' : Sample.q.hasOccurrence Sample.px = false := by decide +kernel
  have absent : Sample.qx.hasOccurrence Sample.px = false := by decide +kernel
  refine ⟨Sample.reachable, apart, apart', absent, ?_⟩
  exact form_substitute_substitute Sample.reachable (by simp [Sample.held]) (by simp [Sample.held])
    (by simp [Sample.held]) (by simp [Sample.held]) (by simp [Sample.held]) apart apart' absent
    (by decide) (by decide)

end Expr

end ExpressionGraphs
