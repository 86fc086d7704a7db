import Mathlib.Data.List.Forall2
import ExpressionGraphs.Expr.Equality
import ExpressionGraphs.Proofs.Reachability
import ExpressionGraphs.Proofs.ValueEquality

set_option autoImplicit false

/-!
# Equality of expressions

Equality takes a node for equal to itself at once and compares others by contents. On the nodes of
one graph it is an equivalence, although equality of values is not: where two comparisons are put
together and one of them stopped at a node, that node is on both its sides and the other comparison
takes its place.
-/

namespace ExpressionGraphs

section Forall₂

variable {α : Type} {R : α → α → Prop} {as bs cs : List α}

theorem forall₂_symm_of_mem (symm : ∀ a ∈ as, ∀ b, R a b → R b a)
    (h : List.Forall₂ R as bs) : List.Forall₂ R bs as := by
  induction h with
  | nil => exact .nil
  | @cons a b as bs head _ ih =>
    exact .cons (symm a List.mem_cons_self b head)
      (ih fun c mem => symm c (List.mem_cons_of_mem a mem))

theorem forall₂_trans_of_mem (trans : ∀ a ∈ as, ∀ b ∈ bs, ∀ c ∈ cs, R a b → R b c → R a c)
    (first : List.Forall₂ R as bs) (second : List.Forall₂ R bs cs) : List.Forall₂ R as cs := by
  induction first generalizing cs with
  | nil => cases second; exact .nil
  | @cons a b as bs head _ ih =>
    cases second with
    | @cons _ c _ cs head' rest =>
      refine .cons (trans a List.mem_cons_self b List.mem_cons_self c List.mem_cons_self head head')
        (ih (fun d d_mem e e_mem f f_mem => ?_) rest)
      exact trans d (List.mem_cons_of_mem a d_mem) e (List.mem_cons_of_mem b e_mem) f
        (List.mem_cons_of_mem c f_mem)

end Forall₂

namespace Kind

/-- Apart from the values that they hold, only the same kinds are equal once the children are
forgotten. -/
theorem eq_or_constant_of_beq {k l : Kind Unit} (h : (k == l) = true) :
    k = l ∨ ∃ v w, k = .constant v ∧ l = .constant w ∧ (v == w) = true := by
  cases k with
  | constant v =>
    cases l with
    | constant w => exact .inr ⟨v, w, rfl, rfl, h⟩
    | _ => cases h
  | _ =>
    change instBEqKind.beq _ l = true at h
    cases l <;> simp_all [instBEqKind.beq]

theorem beq_symm {k l : Kind Unit} (h : (k == l) = true) : (l == k) = true := by
  rcases eq_or_constant_of_beq h with rfl | ⟨v, w, rfl, rfl, values⟩
  · exact h
  · exact Value.beq_symm values

theorem beq_trans {k l m : Kind Unit} (first : (k == l) = true) (second : (l == m) = true) :
    (k == m) = true := by
  rcases eq_or_constant_of_beq first with rfl | ⟨v, w, rfl, rfl, values⟩
  · exact second
  · rcases eq_or_constant_of_beq second with rfl | ⟨_, x, equal, rfl, values'⟩
    · exact first
    · cases equal
      exact Value.beq_trans values values'

theorem length_slots_of_beq {α β : Type} {k : Kind α} {l : Kind β}
    (h : (k.shape == l.shape) = true) : k.slots.length = l.slots.length := by
  have shapes : k.shape.slots = l.shape.slots := by
    rcases eq_or_constant_of_beq h with equal | ⟨v, w, left, right, _⟩
    · rw [equal]
    · rw [left, right]
      rfl
  simpa [shape, slots_map] using congrArg List.length shapes

end Kind

namespace Expr

theorem beq_iff {a b : Expr} : (a == b) = true ↔ a.sameNode b = true ∨
    (a.ty = b.ty ∧ (a.kind.shape == b.kind.shape) = true ∧
      List.Forall₂ (fun c d : Expr => (c == d) = true) a.kind.slots b.kind.slots) := by
  rw [beq_def, Bool.or_eq_true, Bool.and_eq_true, Bool.and_eq_true, decide_eq_true_eq,
    List.all_eq_true, and_assoc]
  refine or_congr Iff.rfl (and_congr_right fun _ => and_congr_right fun shapes => ?_)
  rw [List.forall₂_iff_zip]
  exact ⟨fun all => ⟨Kind.length_slots_of_beq shapes, fun {c d} mem => all (c, d) mem⟩,
    fun all pair mem => all.2 mem⟩

theorem beq_of_sameNode {a b : Expr} (same : a.sameNode b = true) : (a == b) = true :=
  beq_iff.2 (.inl same)

theorem beq_symm {a b : Expr} (h : (a == b) = true) : (b == a) = true := by
  induction a using induction generalizing b with
  | step a ih =>
    rcases beq_iff.1 h with same | ⟨types, shapes, children⟩
    · exact beq_of_sameNode (sameNode_comm a b ▸ same)
    · exact beq_iff.2 (.inr ⟨types.symm, Kind.beq_symm shapes,
        forall₂_symm_of_mem (fun child slot _ => ih child slot) children⟩)

/-- Where one comparison stops at a node, the other is the comparison asked for. -/
theorem beq_trans {held : List Expr} (coherent : Coherent held) {a b c : Expr}
    (a_mem : a ∈ nodesOf held) (b_mem : b ∈ nodesOf held) (c_mem : c ∈ nodesOf held)
    (first : (a == b) = true) (second : (b == c) = true) : (a == c) = true := by
  induction a using induction generalizing b c with
  | step a ih =>
    rcases beq_iff.1 first with same | ⟨types, shapes, children⟩
    · rw [coherent a a_mem b b_mem (of_decide_eq_true same)]
      exact second
    · rcases beq_iff.1 second with same | ⟨types', shapes', children'⟩
      · rw [← coherent b b_mem c c_mem (of_decide_eq_true same)]
        exact first
      · refine beq_iff.2 (.inr ⟨types.trans types', Kind.beq_trans shapes shapes',
          forall₂_trans_of_mem (fun x x_slot y y_slot z z_slot => ?_) children children'⟩)
        exact ih x x_slot (mem_nodesOf_of_mem_slots a_mem x_slot)
          (mem_nodesOf_of_mem_slots b_mem y_slot) (mem_nodesOf_of_mem_slots c_mem z_slot)

end Expr

/-! ## A constant that differs from itself, below three expressions that are equal -/

namespace Sample

/-- A box of a record of an array that holds NaN. -/
def reading : Value :=
  .boxed .object (.record "Sensor" [("levels", .array [.float ⟨0x7ff8000000000000⟩])])

def sensor : Expr := .node ⟨0⟩ (.holder .object) (.constant reading)

def inverted : Expr := .node ⟨1⟩ .bool (.unary .not sensor)

def invertedAgain : Expr := .node ⟨2⟩ .bool (.unary .not sensor)

def outer (i : Nat) (operand : Expr) : Expr := .node ⟨i⟩ .bool (.unary .not operand)

def readings : List Expr :=
  [outer 5 invertedAgain, outer 4 inverted, outer 3 inverted, invertedAgain, inverted, sensor]

theorem reachable_readings : Reachable ⟨6⟩ readings := by
  have built : Reachable ⟨3⟩ [invertedAgain, inverted, sensor] :=
    (((Reachable.start ⟨0⟩).next (.build (.constant reading (.holder .object)))).next
      (.build (.unary .not (show sensor ∈ [sensor] by simp) .bool))).next
      (.build (.unary .not (show sensor ∈ [inverted, sensor] by simp) .bool))
  exact ((built.next (.build (.unary .not (show inverted ∈ _ by simp) .bool))).next
    (.build (.unary .not (show inverted ∈ _ by simp) .bool))).next
    (.build (.unary .not (show invertedAgain ∈ _ by simp) .bool))

end Sample

namespace Expr

/-- Equality is an equivalence on the nodes of a graph, and handles of one node are equal, whatever
values its constants hold. -/
theorem beq_equivalence {s : Supply} {held : List Expr} (reach : Reachable s held) :
    (Equivalence fun a b : { e // e ∈ nodesOf held } => (a.1 == b.1) = true) ∧
    ∀ a b : Expr, a.sameNode b = true → (a == b) = true := by
  refine ⟨⟨fun a => ?_, fun equal => beq_symm equal, fun {a b c} first second => ?_⟩,
    fun _ _ => beq_of_sameNode⟩
  · exact beq_of_sameNode (sameNode_self a.1)
  · exact beq_trans reach.sound.coherent a.2 b.2 c.2 first second

/-- One comparison stops above NaN, the other two nodes further down. The constant itself is not
equal to one that is built again from its value. -/
theorem beq_equivalence_readings :
    Reachable ⟨6⟩ Sample.readings ∧ (Sample.reading == Sample.reading) = false ∧
    (Sample.sensor == node ⟨6⟩ Sample.sensor.ty Sample.sensor.kind) = false ∧
    (Sample.outer 3 Sample.inverted == Sample.outer 5 Sample.invertedAgain) = true := by
  have first : (Sample.outer 3 Sample.inverted == Sample.outer 4 Sample.inverted) = true := by
    decide +kernel
  have second : (Sample.outer 4 Sample.inverted == Sample.outer 5 Sample.invertedAgain) = true := by
    decide +kernel
  have held : ∀ e ∈ Sample.readings, e ∈ nodesOf Sample.readings := fun e => mem_nodesOf_of_mem
  have a_held := held (Sample.outer 3 Sample.inverted) (by simp [Sample.readings])
  have b_held := held (Sample.outer 4 Sample.inverted) (by simp [Sample.readings])
  have c_held := held (Sample.outer 5 Sample.invertedAgain) (by simp [Sample.readings])
  obtain ⟨equivalence, _⟩ := beq_equivalence Sample.reachable_readings
  exact ⟨Sample.reachable_readings, by decide +kernel, by decide +kernel,
    equivalence.trans (x := ⟨_, a_held⟩) (y := ⟨_, b_held⟩) (z := ⟨_, c_held⟩) first second⟩

end Expr

end ExpressionGraphs
