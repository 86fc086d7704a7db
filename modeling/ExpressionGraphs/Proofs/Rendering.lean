import Mathlib.Algebra.GroupWithZero.Nat
import ExpressionGraphs.Expr.Text
import ExpressionGraphs.Proofs.NodeTyping
import ExpressionGraphs.Proofs.Outcome

set_option autoImplicit false

/-!
# Texts with gaps

Every text of an expression is written around the texts of its children. An expression in which a
node is left open has therefore a text with gaps, one for each occurrence of the node, and to
substitute for the node is to fill the gaps with the text of the replacement. Parameter lists are
no occurrences: what a lambda declares is written out between the gaps.
-/

namespace ExpressionGraphs

inductive Template where
  | plain (text : String)
  | gap (before : String) (after : Template)
  deriving DecidableEq, Repr

namespace Template

def fill (x : String) : Template → String
  | plain text => text
  | gap before after => before ++ x ++ after.fill x

def gaps : Template → Nat
  | plain _ => 0
  | gap _ after => after.gaps + 1

def pieces : Template → List String
  | plain text => [text]
  | gap before after => before :: after.pieces

def append : Template → Template → Template
  | plain text, plain next => plain (text ++ next)
  | plain text, gap before after => gap (text ++ before) after
  | gap before after, next => gap before (after.append next)

instance : Append Template := ⟨append⟩

def separated (separator : String) : List Template → Template
  | [] => plain ""
  | [t] => t
  | t :: rest => t ++ plain separator ++ separated separator rest

theorem length_pieces (t : Template) : t.pieces.length = t.gaps + 1 := by
  induction t with
  | plain text => rfl
  | gap before after ih => rw [pieces, List.length_cons, ih, gaps]

theorem pieces_ne_nil (t : Template) : t.pieces ≠ [] := by
  cases t <;> exact List.cons_ne_nil _ _

theorem intercalate_pieces (x : String) (t : Template) : x.intercalate t.pieces = t.fill x := by
  induction t with
  | plain text => exact String.intercalate_singleton
  | gap before after ih =>
    rw [pieces, String.intercalate_cons_of_ne_nil after.pieces_ne_nil, ih, fill]

@[simp] theorem fill_plain (x text : String) : (plain text).fill x = text := rfl

@[simp] theorem fill_append (x : String) (a b : Template) :
    (a ++ b).fill x = a.fill x ++ b.fill x := by
  change (a.append b).fill x = _
  induction a with
  | plain text => cases b <;> simp [append, fill, String.append_assoc]
  | gap before after ih => simp [append, fill, ih, String.append_assoc]

@[simp] theorem gaps_plain (text : String) : (plain text).gaps = 0 := rfl

@[simp] theorem gaps_append (a b : Template) : (a ++ b).gaps = a.gaps + b.gaps := by
  change (a.append b).gaps = _
  induction a with
  | plain text => cases b <;> simp [append, gaps]
  | gap before after ih =>
    simp only [append, gaps, ih]
    omega

@[simp] theorem fill_separated (x separator : String) (ts : List Template) :
    (separated separator ts).fill x = separator.intercalate (ts.map (fill x)) := by
  fun_induction separated separator ts with
  | case1 => rfl
  | case2 t => simp
  | case3 t rest nonempty ih =>
    have more : rest.map (fill x) ≠ [] := by simpa using nonempty
    rw [List.map_cons, String.intercalate_cons_of_ne_nil more, fill_append, fill_append, fill_plain,
      ih]

@[simp] theorem gaps_separated (separator : String) (ts : List Template) :
    (separated separator ts).gaps = (ts.map gaps).sum := by
  fun_induction separated separator ts with
  | case1 => rfl
  | case2 t => simp
  | case3 t rest _ ih => simp [ih]

end Template

def parameterListTemplate : List Template → Template
  | [param] => param
  | params => .plain "(" ++ .separated ", " params ++ .plain ")"

def Kind.template : Kind Template → Template
  | member object m => object ++ .plain "." ++ .plain m.name
  | constant value => .plain value.text
  | parameter name => .plain name
  | lambda params body => parameterListTemplate params ++ .plain " => " ++ body
  | unary op operand => .plain op.symbol ++ operand
  | binary op lhs rhs =>
    .plain "(" ++ lhs ++ .plain " " ++ .plain op.symbol ++ .plain " " ++ rhs ++ .plain ")"
  | call function args =>
    .plain function ++ .plain "(" ++ .separated ", " args ++ .plain ")"
  | conditional test thenBranch elseBranch =>
    .plain "(" ++ test ++ .plain " ? " ++ thenBranch ++ .plain " : " ++ elseBranch ++ .plain ")"
  | host label => .plain "<" ++ .plain label ++ .plain ">"

theorem fill_parameterListTemplate (x : String) (params : List Template) :
    (parameterListTemplate params).fill x = parameterListText (params.map (Template.fill x)) := by
  rcases params with _ | ⟨param, _ | ⟨next, rest⟩⟩
  · simp [parameterListTemplate, parameterListText]
  · rfl
  · simp [parameterListTemplate, parameterListText]

theorem gaps_parameterListTemplate (params : List Template) :
    (parameterListTemplate params).gaps = (params.map Template.gaps).sum := by
  rcases params with _ | ⟨param, _ | ⟨next, rest⟩⟩ <;> simp [parameterListTemplate]

namespace Kind

theorem fill_template (x : String) (kind : Kind Template) :
    kind.template.fill x = (kind.map (Template.fill x)).text := by
  cases kind <;> simp [template, map, text, fill_parameterListTemplate]

theorem gaps_template (kind : Kind Template) :
    kind.template.gaps = (kind.slots.map Template.gaps).sum := by
  cases kind <;> simp [template, slots, gaps_parameterListTemplate]
  case conditional => omega

end Kind

namespace Expr

variable {e : Expr} {old : Expr}

/-- The text of an expression in which a node is left open. -/
def template (e old : Expr) : Template :=
  if e.sameNode old then .gap "" (.plain "")
  else ((e.kind.map fun child => Template.plain child.text).withOperands
    (e.kind.operands.attach.map fun operand => operand.1.template old)).template
termination_by sizeOf e
decreasing_by exact sizeOf_lt_of_mem_slots (Kind.mem_slots_of_mem_operands operand.2)

def occurrences (e target : Expr) : Nat :=
  (e.reached fun _ => true).countP fun node => node.sameNode target

theorem template_of_same (same : e.sameNode old = true) :
    e.template old = .gap "" (.plain "") := by
  rw [template, if_pos same]

theorem template_of_other (other : e.sameNode old = false) :
    e.template old = ((e.kind.map fun child => Template.plain child.text).withOperands
      (e.kind.operands.map fun operand => operand.template old)).template := by
  rw [template, other, if_neg Bool.false_ne_true]
  simp

/-- The text around the gaps is that of the node, also where a lambda declares the node itself. -/
theorem fill_template_of_other (other : e.sameNode old = false) (x : String) :
    (e.template old).fill x = ((e.kind.map text).withOperands
      (e.kind.operands.map fun operand => (operand.template old).fill x)).text := by
  rw [template_of_other other, Kind.fill_template, Kind.map_withOperands, Kind.map_map,
    List.map_map]
  rfl

theorem occurrences_eq (e target : Expr) :
    e.occurrences target = (if e.sameNode target then 1 else 0) +
      (e.kind.operands.map fun operand => operand.occurrences target).sum := by
  rw [occurrences, reached_eq, if_pos rfl, List.countP_cons, List.countP_flatMap, Nat.add_comm]
  rfl

theorem gaps_template_of_other (other : e.sameNode old = false) :
    (e.template old).gaps =
      (e.kind.operands.map fun operand => (operand.template old).gaps).sum := by
  have declared : ((e.kind.parameters.map fun p => Template.plain p.text).map Template.gaps).sum =
      0 := by
    simp [Function.comp_def]
  rw [template_of_other other, Kind.gaps_template,
    Kind.slots_withOperands (Kind.length_operands_map _ _ _), Kind.parameters_map, List.map_append,
    List.sum_append, declared, Nat.zero_add, List.map_map]
  rfl

section Reachable

variable {s : Supply} {held : List Expr} {tree new : Expr}

/-- A node does not stand below itself, for children are older than their parents. -/
theorem occurrences_of_mem_operands (sound : s.Sound held) (mem : e ∈ nodesOf held)
    (same : e.sameNode old = true) {operand : Expr} (inner : operand ∈ e.kind.operands) :
    operand.occurrences old = 0 := by
  have slot := Kind.mem_slots_of_mem_operands inner
  have operand_mem := mem_nodesOf_of_mem_slots mem slot
  have younger := sound.older e mem operand slot
  have equal : e.id = old.id := of_decide_eq_true same
  refine List.countP_eq_zero.2 fun node below found => ?_
  have older := sound.index_lt_of_mem_nodes operand_mem younger node
    (mem_nodes_of_mem_met (g := fun _ => none) below)
  have hit : node.id = old.id := of_decide_eq_true found
  rw [hit, ← equal] at older
  exact Nat.lt_irrefl _ older

theorem gaps_template (sound : s.Sound held) (mem : e ∈ nodesOf held) (old : Expr) :
    (e.template old).gaps = e.occurrences old := by
  induction e using induction with
  | step e ih =>
    rw [occurrences_eq]
    cases same : e.sameNode old with
    | true =>
      have none : e.kind.operands.map (fun operand => operand.occurrences old) =
          e.kind.operands.map fun _ => 0 :=
        List.map_congr_left fun operand inner => occurrences_of_mem_operands sound mem same inner
      rw [template_of_same same, none]
      simp [Template.gaps]
    | false =>
      have operands : ∀ operand ∈ e.kind.operands,
          (operand.template old).gaps = operand.occurrences old := by
        intro operand inner
        have slot := Kind.mem_slots_of_mem_operands inner
        exact ih operand slot (mem_nodesOf_of_mem_slots mem slot)
      rw [gaps_template_of_other same, List.map_congr_left operands, if_neg Bool.false_ne_true,
        Nat.zero_add]

/-- A pass writes the text of the replacement into every gap, whatever it shares or rebuilds. -/
theorem text_build_substitute (sound : s.Sound held) (mem : tree ∈ nodesOf held)
    (new_mem : new ∈ nodesOf held) (old : Expr) {u : Supply} (le : s.next ≤ u.next) :
    (u.build (tree.substitute old new)).text = (tree.template old).fill new.text := by
  have other : ∀ node, answerOf [(old, new)] node = none → node.sameNode old = false :=
    fun node h => answerOf_single_eq_none_iff.1 h
  rw [substitute_eq_replace]
  refine pass_induction (motive := fun node out =>
    out.text = (node.template old).fill new.text) sound mem ?_ ?_ ?_ ?_ le
  · intro node _ answer h
    exact (answerOf_single_eq_some_iff.1 h).2 ▸ new_mem
  · intro node _ answer h
    obtain ⟨same, rfl⟩ := answerOf_single_eq_some_iff.1 h
    rw [template_of_same same]
    simp [Template.fill]
  · intro node _ h _ operands
    have texts : (node.kind.operands.map fun operand => (operand.template old).fill new.text) =
        (node.kind.map text).operands := by
      rw [Kind.operands_map]
      exact (List.map_congr_left operands).symm
    rw [fill_template_of_other (other node h), texts, Kind.withOperands_operands, text_eq]
  · intro node _ h _ v outs _ related
    rw [fill_template_of_other (other node h), text_eq, Supply.build_rebuild, kind_node,
      Kind.map_withOperands, map_eq_of_forall₂ related]

theorem text_builtConstant (u : Supply) (value : Value) (ty : Ty) :
    (u.build (builtConstant value ty .memberOfConstant)).text =
      "Holder<" ++ ty.text ++ ">(" ++ value.text ++ ").Value" := by
  have box : (u.build (constant (.boxed ty value) (.holder ty))).text =
      (Value.boxed ty value).text := by
    rw [text_eq]
    rfl
  have reference : (u.build (builtConstant value ty .memberOfConstant)).text =
      (u.build (constant (.boxed ty value) (.holder ty))).text ++ "." ++ "Value" := by
    rw [text_eq]
    rfl
  rw [reference, box, Value.text]
  simp [String.append_assoc]

/-- The text of an expression after a substitution consists of pieces that the expression and the
node substituted determine, one more than the node has occurrences, with the text of the replacement
between them. Member references to values of one type therefore leave texts that differ in the
texts of the values alone. -/
theorem text_substitute (reach : Reachable s held) (mem : tree ∈ held) (old : Expr) :
    (tree.template old).pieces.length = tree.occurrences old + 1 ∧
    (∀ new ∈ held, (s.build (tree.substitute old new)).text =
      new.text.intercalate (tree.template old).pieces) ∧
    ∀ (value : Value) (ty : Ty),
      (s.build do tree.substitute old (← builtConstant value ty .memberOfConstant)).text =
        ("Holder<" ++ ty.text ++ ">(" ++ value.text ++ ").Value").intercalate
          (tree.template old).pieces := by
  have sound := reach.sound
  have root := mem_nodesOf_of_mem mem
  refine ⟨?_, fun new new_mem => ?_, fun value ty => ?_⟩
  · rw [Template.length_pieces, gaps_template sound root]
  · rw [Template.intercalate_pieces]
    exact text_build_substitute sound root (mem_nodesOf_of_mem new_mem) old (Nat.le_refl _)
  · obtain ⟨more, kept, later, built⟩ :=
      reach.arrives_builtConstant value ty .memberOfConstant
    rw [Supply.build_bind, Template.intercalate_pieces, ← text_builtConstant s value ty]
    exact text_build_substitute later.sound (mem_nodesOf_of_mem (kept mem))
      (mem_nodesOf_of_mem built) old (Nat.le_refl _)

end Reachable

/-- The declaration of `p` is written out, its occurrence is the only gap. -/
theorem text_substitute_sum :
    Reachable ⟨7⟩ Sample.held ∧ Sample.sumOf ∈ Sample.held ∧
    (Sample.sumOf.template Sample.p).pieces = ["(p, q) => (", ".X + q.X)"] ∧
    (Supply.build ⟨7⟩ (Sample.sumOf.substitute Sample.p Sample.a)).text =
      "(p, q) => (a.X + q.X)" := by
  have mem : Sample.sumOf ∈ Sample.held := by simp [Sample.held]
  have pieces : (Sample.sumOf.template Sample.p).pieces = ["(p, q) => (", ".X + q.X)"] := by
    decide +kernel
  obtain ⟨_, filled, _⟩ := text_substitute Sample.reachable mem Sample.p
  refine ⟨Sample.reachable, mem, pieces, ?_⟩
  rw [filled Sample.a (by simp [Sample.held]), pieces]
  decide +kernel

end Expr

end ExpressionGraphs
