import ExpressionGraphs.Expr.Occurrence
import ExpressionGraphs.Expr.Substitution
import ExpressionGraphs.Expr.Visit
import ExpressionGraphs.Proofs.Building

set_option autoImplicit false

/-!
# Passes with fixed answers

A pass whose answers depend on the node alone and build nothing is given by a function from nodes
to replacements. `replace_induction` follows such a pass: what holds of the answers, and of each
node rebuilt over operands for which it holds, holds of the whole run. The first use is that the
pass returns the node it was given exactly when it meets no node with another node as its answer.
-/

namespace ExpressionGraphs.Expr

variable {g : Expr → Option Expr} {e : Expr}

def replace (g : Expr → Option Expr) (e : Expr) : Build Expr := e.transform fun node => pure (g node)

/-- The nodes at which the pass arrives, once for each position. -/
def met (g : Expr → Option Expr) (e : Expr) : List Expr := e.reached fun node => (g node).isNone

def changes (g : Expr → Option Expr) (e : Expr) : Bool :=
  (e.met g).any fun node => (g node).any fun answer => !answer.sameNode node

theorem met_of_some {answer : Expr} (h : g e = some answer) : e.met g = [e] := by
  rw [met, reached_eq, h]
  rfl

theorem met_of_none (h : g e = none) : e.met g = e :: e.kind.operands.flatMap (met g) := by
  rw [met, reached_eq, h]
  rfl

theorem mem_met_self (g : Expr → Option Expr) (e : Expr) : e ∈ e.met g := by
  rw [met, reached_eq]
  exact List.mem_cons_self

theorem mem_met_of_mem_operands {operand node : Expr} (h : g e = none)
    (mem : operand ∈ e.kind.operands) (inner : node ∈ operand.met g) : node ∈ e.met g := by
  rw [met_of_none h]
  exact List.mem_cons_of_mem _ (List.mem_flatMap.2 ⟨operand, mem, inner⟩)

theorem mem_met_trans {node inner : Expr} (mem : node ∈ e.met g) (inner_mem : inner ∈ node.met g) :
    inner ∈ e.met g := by
  induction e using induction with
  | step e ih =>
    cases h : g e with
    | some answer =>
      rw [met_of_some h, List.mem_singleton] at mem
      exact mem ▸ inner_mem
    | none =>
      rw [met_of_none h] at mem
      rcases List.mem_cons.1 mem with rfl | below
      · exact inner_mem
      · obtain ⟨operand, operand_mem, outer⟩ := List.mem_flatMap.1 below
        exact mem_met_of_mem_operands h operand_mem
          (ih operand (Kind.mem_slots_of_mem_operands operand_mem) outer)

theorem mem_nodes_of_mem_met {node : Expr} (mem : node ∈ e.met g) : node ∈ e.nodes := by
  induction e using induction with
  | step e ih =>
    rw [nodes_eq]
    cases h : g e with
    | some answer =>
      rw [met_of_some h, List.mem_singleton] at mem
      exact mem ▸ List.mem_cons_self
    | none =>
      rw [met_of_none h] at mem
      rcases List.mem_cons.1 mem with rfl | below
      · exact List.mem_cons_self
      · obtain ⟨operand, operand_mem, inner⟩ := List.mem_flatMap.1 below
        have slot := Kind.mem_slots_of_mem_operands operand_mem
        exact List.mem_cons_of_mem _ (List.mem_flatMap.2 ⟨operand, slot, ih operand slot inner⟩)

theorem changes_of_some {answer : Expr} (h : g e = some answer) :
    e.changes g = !answer.sameNode e := by
  rw [changes, met_of_some h, List.any_cons, h]
  simp

theorem changes_of_none (h : g e = none) : e.changes g = e.kind.operands.any (changes g) := by
  rw [changes, met_of_none h, List.any_cons, h, List.any_flatMap]
  rfl

theorem changes_eq_false_iff :
    e.changes g = false ↔
      ∀ node ∈ e.met g, ∀ answer, g node = some answer → answer.sameNode node = true := by
  rw [changes, List.any_eq_false]
  refine forall₂_congr fun node _ => ?_
  cases g node <;> simp

theorem replace_of_some {answer : Expr} (h : g e = some answer) : e.replace g = pure answer := by
  rw [replace, transform_eq, h]
  rfl

theorem replace_of_none (h : g e = none) :
    e.replace g = e.kind.operands.mapM (replace g) >>= e.withOperands := by
  rw [replace, transform_eq, h]
  rfl

theorem next_le_after_replace (g : Expr → Option Expr) (e : Expr) (s : Supply) :
    s.next ≤ (s.after (e.replace g)).next := by
  induction e using induction generalizing s with
  | step e ih =>
    cases h : g e with
    | some answer =>
      rw [replace_of_some h]
      exact Nat.le_refl s.next
    | none =>
      rw [replace_of_none h, Supply.after_bind]
      have operands : ∀ operand ∈ e.kind.operands, ∀ u : Supply, s.next ≤ u.next →
          s.next ≤ (u.after (operand.replace g)).next ∧ True := by
        intro operand mem u le
        exact ⟨Nat.le_trans le (ih operand (Kind.mem_slots_of_mem_operands mem) u), trivial⟩
      have le := (Supply.forall₂_mapM (fun u => s.next ≤ u.next) (fun _ _ => True) operands
        (Nat.le_refl s.next)).1
      exact Nat.le_trans le (Supply.next_le_after_withOperands _ _ _)

/-- What holds of every answer given, and of every node walked through if it holds of what became
of the operands, holds of what the pass makes of an expression. -/
theorem replace_induction {s : Supply} {motive : Expr → Expr → Prop}
    (answered : ∀ node ∈ e.met g, ∀ answer, g node = some answer → motive node answer)
    (walked : ∀ node ∈ e.met g, g node = none → ∀ (u : Supply) (answers : List Expr),
      s.next ≤ u.next →
      List.Forall₂ (fun operand answer => operand ∈ node.kind.operands ∧
        motive operand answer ∧
        ∃ t : Supply, s.next ≤ t.next ∧ t.build (operand.replace g) = answer)
        node.kind.operands answers →
      motive node (u.build (node.withOperands answers)))
    {t : Supply} (start : s.next ≤ t.next) : motive e (t.build (e.replace g)) := by
  induction e using induction generalizing t with
  | step e ih =>
    cases h : g e with
    | some answer =>
      rw [replace_of_some h, Supply.build_pure]
      exact answered e (mem_met_self g e) answer h
    | none =>
      rw [replace_of_none h, Supply.build_bind]
      have operands : ∀ operand ∈ e.kind.operands, ∀ u : Supply, s.next ≤ u.next →
          s.next ≤ (u.after (operand.replace g)).next ∧ operand ∈ e.kind.operands ∧
            motive operand (u.build (operand.replace g)) ∧
            ∃ t : Supply, s.next ≤ t.next ∧
              t.build (operand.replace g) = u.build (operand.replace g) := by
        intro operand mem u le
        refine ⟨Nat.le_trans le (next_le_after_replace g operand u), mem, ?_, u, le, rfl⟩
        exact ih operand (Kind.mem_slots_of_mem_operands mem)
          (fun node inner => answered node (mem_met_of_mem_operands h mem inner))
          (fun node inner => walked node (mem_met_of_mem_operands h mem inner)) le
      obtain ⟨le, related⟩ := Supply.forall₂_mapM (fun u => s.next ≤ u.next)
        (fun operand answer => operand ∈ e.kind.operands ∧ motive operand answer ∧
          ∃ t : Supply, s.next ≤ t.next ∧ t.build (operand.replace g) = answer) operands start
      exact walked e (mem_met_self g e) h _ _ le related

theorem sameNodes_eq_not_any {changed : Expr → Bool} {operands answers : List Expr}
    (h : List.Forall₂ (fun operand answer => answer.sameNode operand = !changed operand)
      operands answers) : sameNodes operands answers = !operands.any changed := by
  induction h with
  | nil => rfl
  | @cons operand answer operands answers head _ ih =>
    rw [List.any_cons, Bool.not_or, ← head, ← ih]
    simp only [sameNodes, sameNode, List.map_cons, List.cons.injEq, Bool.decide_and, eq_comm]

theorem sameNode_build_replace {s t : Supply}
    (below : ∀ node ∈ e.met g, node.id.index < s.next) (start : s.next ≤ t.next) :
    (t.build (e.replace g)).sameNode e = !e.changes g := by
  refine replace_induction (motive := fun node out => out.sameNode node = !node.changes g)
    ?_ ?_ start
  · intro node _ answer h
    rw [changes_of_some h, Bool.not_not]
  · intro node mem h u answers le related
    have same := sameNodes_eq_not_any (related.imp fun _ _ both => both.2.1)
    rw [Supply.build_withOperands, same, ← changes_of_none h]
    cases node.changes g with
    | false => exact decide_eq_true rfl
    | true =>
      have := below node mem
      refine decide_eq_false fun equal => ?_
      rw [Supply.build_rebuild] at equal
      have : u.next = node.id.index := congrArg NodeId.index equal
      omega

/-- Where answers that are the same node are equal to it, nothing is touched unless it changes. -/
theorem build_replace_of_unchanged {t : Supply}
    (same : ∀ node ∈ e.met g, ∀ answer, g node = some answer →
      answer.sameNode node = true → answer = node)
    (unchanged : e.changes g = false) : t.build (e.replace g) = e := by
  refine replace_induction (motive := fun node out => node.changes g = false → out = node)
    ?_ ?_ (Nat.le_refl t.next) unchanged
  · intro node mem answer h unchanged
    rw [changes_of_some h, Bool.not_eq_false'] at unchanged
    exact same node mem answer h unchanged
  · intro node _ h u answers _ related unchanged
    rw [changes_of_none h, List.any_eq_false] at unchanged
    have kept : List.Forall₂ Eq node.kind.operands answers := by
      refine related.imp fun operand answer ⟨mem, returned, _⟩ => ?_
      exact (returned (Bool.eq_false_iff.2 (unchanged operand mem))).symm
    rw [List.forall₂_eq_eq_eq] at kept
    rw [Supply.build_withOperands, ← kept, sameNodes, decide_eq_true rfl, if_pos rfl]

/-- The replacement in the first pair that names a node. -/
def answerOf (pairs : List (Expr × Expr)) (node : Expr) : Option Expr :=
  (pairs.find? fun pair => node.sameNode pair.1).map Prod.snd

theorem substituteAll_eq_replace (e : Expr) (pairs : List (Expr × Expr)) :
    e.substituteAll pairs = e.replace (answerOf pairs) := rfl

theorem answerOf_single (old new node : Expr) :
    answerOf [(old, new)] node = if node.sameNode old then some new else none := by
  cases h : node.sameNode old <;> simp [answerOf, h]

theorem answerOf_single_eq_some_iff {old new node answer : Expr} :
    answerOf [(old, new)] node = some answer ↔ node.sameNode old = true ∧ new = answer := by
  rw [answerOf_single, Option.ite_none_right_eq_some, Option.some.injEq]

theorem answerOf_single_eq_none_iff {old new node : Expr} :
    answerOf [(old, new)] node = none ↔ node.sameNode old = false := by
  rw [answerOf_single]
  cases node.sameNode old <;> simp

theorem substitute_eq_replace (e old new : Expr) :
    e.substitute old new = e.replace (answerOf [(old, new)]) := by
  rw [substitute, replace]
  congr 1
  funext node
  rw [answerOf_single]

theorem changes_of_absent {old new : Expr} (absent : e.hasOccurrence old = false) :
    e.changes (answerOf [(old, new)]) = false := by
  induction e using induction with
  | step e ih =>
    rw [hasOccurrence_eq, Bool.or_eq_false_iff, List.any_eq_false] at absent
    obtain ⟨other, below⟩ := absent
    rw [changes_of_none (by simp [answerOf_single, other]), List.any_eq_false]
    intro operand mem
    rw [ih operand (Kind.mem_slots_of_mem_operands mem) (Bool.eq_false_iff.2 (below operand mem))]
    exact Bool.false_ne_true

theorem next_le_after_substitute (e old new : Expr) (s : Supply) :
    s.next ≤ (s.after (e.substitute old new)).next := by
  rw [substitute_eq_replace]
  exact next_le_after_replace _ e s

theorem answerOf_append (done rest : List (Expr × Expr)) (node : Expr) :
    answerOf (done ++ rest) node = (answerOf done node).or (answerOf rest node) := by
  rw [answerOf, List.find?_append, Option.map_or]
  rfl

theorem exists_pair_of_answerOf {pairs : List (Expr × Expr)} {node answer : Expr}
    (h : answerOf pairs node = some answer) :
    ∃ pair ∈ pairs, node.sameNode pair.1 = true ∧ pair.2 = answer := by
  obtain ⟨pair, found, rfl⟩ := Option.map_eq_some_iff.1 h
  have names := List.find?_some found
  exact ⟨pair, List.mem_of_find?_eq_some found, names, rfl⟩

theorem answerOf_mem {pairs : List (Expr × Expr)} {held : List Expr}
    (replacements : ∀ pair ∈ pairs, pair.2 ∈ held) {node answer : Expr}
    (h : answerOf pairs node = some answer) : answer ∈ held := by
  obtain ⟨pair, pair_mem, _, rfl⟩ := exists_pair_of_answerOf h
  exact replacements pair pair_mem

end ExpressionGraphs.Expr
