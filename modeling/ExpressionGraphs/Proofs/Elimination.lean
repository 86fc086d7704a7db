import ExpressionGraphs.Proofs.NodeSearch
import ExpressionGraphs.Proofs.Sharing

set_option autoImplicit false

/-!
# Elimination by substitution

Substitution exchanges a node at every position outside parameter lists. A search, which looks
into parameter lists too, still finds the node afterwards if a lambda that is passed through
declares it, or if the replacement for one of its occurrences contains it, and not otherwise.
-/

namespace ExpressionGraphs

namespace Draft

/-- Whether a node occurs in a draft, by identity. Nodes that are made have none yet. -/
def contains (target : Expr) : Draft → Bool
  | kept e => e.contains target
  | made _ kind => kind.slots.attach.any fun child => child.1.contains target
termination_by d => sizeOf d
decreasing_by exact sizeOf_lt_of_mem_slots child.2

theorem contains_kept (target e : Expr) : (kept e).contains target = e.contains target := by
  rw [contains]

theorem contains_made (target : Expr) (ty : Ty) (kind : Kind Draft) :
    (made ty kind).contains target = kind.slots.any (contains target) := by
  rw [contains]
  simp

end Draft

theorem any_or_and {α : Type} (p q : α → Bool) (c : Bool) (l : List α) :
    (l.any fun a => p a || (q a && c)) = (l.any p || (l.any q && c)) := by
  induction l with
  | nil => rfl
  | cons a l ih =>
    rw [List.any_cons, List.any_cons, List.any_cons, ih]
    cases p a <;> cases q a <;> cases c <;> simp

namespace Expr

variable {g : Expr → Option Expr} {e : Expr}

theorem contains_since {s : Supply} {target : Expr} (old : target.id.index < s.next) (e : Expr) :
    (e.since s).contains target = e.contains target := by
  induction e using induction with
  | step e ih =>
    rcases Nat.lt_or_ge e.id.index s.next with older | newer
    · rw [since_of_lt older, Draft.contains_kept]
    · have other : e.sameNode target = false := by
        refine decide_eq_false fun equal => ?_
        rw [equal] at newer
        omega
      rw [since_of_le newer, Draft.contains_made, Kind.slots_map, List.any_map, contains_eq, other,
        Bool.false_or]
      exact any_congr_of_mem ih

/-- Whether a lambda passed through on the way to occurrences of a node declares the node. -/
def binds (e target : Expr) : Bool :=
  (e.reached fun node => !node.sameNode target).any fun node =>
    node.kind.parameters.any fun p => p.sameNode target

theorem binds_of_same {target : Expr} (same : e.sameNode target = true) :
    e.binds target = e.kind.parameters.any fun p => p.sameNode target := by
  rw [binds, reached_eq, same]
  simp

theorem binds_of_other {target : Expr} (other : e.sameNode target = false) :
    e.binds target = ((e.kind.parameters.any fun p => p.sameNode target) ||
      e.kind.operands.any fun operand => operand.binds target) := by
  rw [binds, reached_eq, other, List.any_cons, Bool.not_false, if_pos rfl, List.any_flatMap]
  rfl

theorem contains_of_isParameter {p target : Expr} (h : p.isParameter = true) :
    p.contains target = p.sameNode target := by
  rw [contains_eq, slots_eq_nil_of_isParameter h, List.any_nil, Bool.or_false]

theorem contains_draft_of_none (faithful : Faithful g e) (h : g e = none) {target : Expr}
    (other : e.sameNode target = false) :
    (e.draft g).contains target = ((e.kind.parameters.any fun p => p.contains target) ||
      e.kind.operands.any fun operand => (operand.draft g).contains target) := by
  cases changed : e.changes g with
  | true =>
    rw [draft_of_rebuilt h changed, Draft.remade, Draft.contains_made,
      Kind.slots_withOperands (Kind.length_operands_map _ _ _), Kind.parameters_map,
      List.any_append, List.any_map, List.any_map]
    congr 2
    funext p
    exact Draft.contains_kept target p
  | false =>
    have operands : ∀ operand ∈ e.kind.operands,
        (operand.draft g).contains target = operand.contains target := by
      intro operand mem
      have met := mem_met_of_mem_operands h mem (mem_met_self g operand)
      rw [draft_of_unchanged (faithful.of_mem_met met) (changes_eq_false_of_mem_met changed met),
        Draft.contains_kept]
    rw [draft_of_returned h changed, Draft.contains_kept, contains_eq, other, Bool.false_or,
      Kind.slots_eq, List.any_append, any_congr_of_mem operands]

section Reachable

variable {s : Supply} {held : List Expr}

theorem contains_draft (sound : s.Sound held) {old new : Expr} (old_mem : old ∈ held)
    (new_mem : new ∈ held) (mem : e ∈ nodesOf held) :
    (e.draft (answerOf [(old, new)])).contains old =
      (e.binds old || (e.hasOccurrence old && new.contains old)) := by
  induction e using induction with
  | step e ih =>
    cases same : e.sameNode old with
    | true =>
      have equal := sound.eq_of_sameNode mem (mem_nodesOf_of_mem old_mem) same
      -- children are older than their parents, so the node does not declare itself
      have undeclared : (e.kind.parameters.any fun p => p.sameNode old) = false := by
        refine List.any_eq_false.2 fun p declared same_p => ?_
        have older := sound.older e mem p (Kind.mem_slots_of_mem_parameters declared)
        have : p.id = e.id := equal ▸ of_decide_eq_true same_p
        rw [this] at older
        exact Nat.lt_irrefl _ older
      have answer : answerOf [(old, new)] e = some new := by rw [answerOf_single, same, if_pos rfl]
      rw [draft_of_some answer, Draft.contains_kept, binds_of_same same, undeclared,
        hasOccurrence_eq, same, Bool.true_or, Bool.true_and, Bool.false_or]
    | false =>
      have none : answerOf [(old, new)] e = none := by
        rw [answerOf_single, same, if_neg Bool.false_ne_true]
      have faithful : Faithful (answerOf [(old, new)]) e :=
        faithful_answerOf sound mem (by simpa using new_mem)
      have declared : (e.kind.parameters.any fun p => p.contains old) =
          e.kind.parameters.any fun p => p.sameNode old :=
        any_congr_of_mem fun p declared =>
          contains_of_isParameter ((sound.formed e mem).declares p declared)
      have operands : ∀ operand ∈ e.kind.operands,
          (operand.draft (answerOf [(old, new)])).contains old =
            (operand.binds old || (operand.hasOccurrence old && new.contains old)) := by
        intro operand operand_mem
        have slot := Kind.mem_slots_of_mem_operands operand_mem
        exact ih operand slot (mem_nodesOf_of_mem_slots mem slot)
      rw [contains_draft_of_none faithful none same, declared, any_congr_of_mem operands,
        any_or_and, binds_of_other same, hasOccurrence_eq, same, Bool.false_or, Bool.or_assoc]

theorem contains_substitute (reach : Reachable s held) {tree old new : Expr} (mem : tree ∈ held)
    (old_mem : old ∈ held) (new_mem : new ∈ held) :
    (s.build (tree.substitute old new)).contains old =
      (tree.binds old || (tree.hasOccurrence old && new.contains old)) := by
  have sound := reach.sound
  rw [substitute_eq_replace,
    ← contains_since (sound.below old (mem_nodesOf_of_mem old_mem)) (s.build _),
    since_replace_answerOf reach mem (by simpa using new_mem),
    contains_draft sound old_mem new_mem (mem_nodesOf_of_mem mem)]

/-- A node that the replacement does not contain is eliminated exactly when no lambda passed
through declares it. -/
theorem substitute_eliminates_iff (reach : Reachable s held) {tree old new : Expr}
    (mem : tree ∈ held) (old_mem : old ∈ held) (new_mem : new ∈ held)
    (absent : new.contains old = false) :
    (s.build (tree.substitute old new)).contains old = false ↔ tree.binds old = false := by
  rw [contains_substitute reach mem old_mem new_mem, absent, Bool.and_false, Bool.or_false]

end Reachable

theorem substitute_eliminates_iff_sum :
    Reachable ⟨7⟩ Sample.held ∧ Sample.sum ∈ Sample.held ∧ Sample.p ∈ Sample.held ∧
    Sample.a ∈ Sample.held ∧ Sample.a.contains Sample.p = false ∧
    (Supply.build ⟨7⟩ (Sample.sum.substitute Sample.p Sample.a)).contains Sample.p = false := by
  have mem : Sample.sum ∈ Sample.held := by simp [Sample.held]
  have old_mem : Sample.p ∈ Sample.held := by simp [Sample.held]
  have new_mem : Sample.a ∈ Sample.held := by simp [Sample.held]
  have absent : Sample.a.contains Sample.p = false := by decide +kernel
  have unbound : Sample.sum.binds Sample.p = false := by decide +kernel
  exact ⟨Sample.reachable, mem, old_mem, new_mem, absent,
    (substitute_eliminates_iff Sample.reachable mem old_mem new_mem absent).2 unbound⟩

/-- A search still finds a parameter after its substitution in the lambda that declares it. -/
theorem substitute_keeps_declared :
    ¬ ∀ (s : Supply) (held : List Expr), Reachable s held → ∀ tree ∈ held, ∀ old ∈ held,
      ∀ new ∈ held, new.contains old = false →
        (s.build (tree.substitute old new)).contains old = false := by
  intro eliminates
  have mem : Sample.sumOf ∈ Sample.held := by simp [Sample.held]
  have old_mem : Sample.p ∈ Sample.held := by simp [Sample.held]
  have new_mem : Sample.a ∈ Sample.held := by simp [Sample.held]
  have gone := eliminates ⟨7⟩ Sample.held Sample.reachable Sample.sumOf mem Sample.p old_mem
    Sample.a new_mem (by decide +kernel)
  have bound : Sample.sumOf.binds Sample.p = true := by decide +kernel
  rw [contains_substitute Sample.reachable mem old_mem new_mem, bound, Bool.true_or] at gone
  exact Bool.noConfusion gone

end Expr

end ExpressionGraphs
