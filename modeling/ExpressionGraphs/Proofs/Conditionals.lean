import ExpressionGraphs.Proofs.NodeTyping

set_option autoImplicit false

/-!
# The types of conditionals

A conditional is built with the type of its then branch. A pass that rebuilds it keeps this type,
whatever it puts into the branches. So no call but the one that builds a conditional adds to the
types that conditionals have: each is the type of a conditional that has it from its own then branch.
-/

namespace ExpressionGraphs

namespace Kind

variable {α : Type}

def isConditional : Kind α → Bool
  | conditional _ _ _ => true
  | _ => false

theorem isConditional_withOperands (kind : Kind α) (children : List α) :
    (kind.withOperands children).isConditional = kind.isConditional := by
  fun_cases withOperands kind children <;> rfl

theorem exists_of_isConditional {kind : Kind α} (h : kind.isConditional = true) :
    ∃ test thenBranch elseBranch, kind = .conditional test thenBranch elseBranch := by
  cases kind with
  | conditional test thenBranch elseBranch => exact ⟨test, thenBranch, elseBranch, rfl⟩
  | _ => cases h

end Kind

namespace Expr

variable {p : Expr → Prop} {allowed : Ty → Prop} {e : Expr}

theorem impliedType?_of_isConditional {kind : Kind Expr} (h : kind.isConditional = true) :
    impliedType? kind = none := by
  obtain ⟨_, _, _, rfl⟩ := Kind.exists_of_isConditional h
  rfl

def EachConditional (p : Expr → Prop) (e : Expr) : Prop :=
  ∀ c ∈ e.nodes, c.kind.isConditional = true → p c

theorem eachConditional_iff :
    e.EachConditional p ↔ (e.kind.isConditional = true → p e) ∧
      ∀ child ∈ e.kind.slots, child.EachConditional p := by
  unfold EachConditional
  rw [nodes_eq]
  simp only [List.forall_mem_cons, List.mem_flatMap]
  exact and_congr_right fun _ =>
    ⟨fun h child mem c inner => h c ⟨child, mem, inner⟩,
      fun h c ⟨child, mem, inner⟩ => h child mem c inner⟩

namespace EachConditional

theorem mono {q : Expr → Prop} (each : e.EachConditional p) (sub : ∀ c, p c → q c) :
    e.EachConditional q :=
  fun c inner conditional => sub c (each c inner conditional)

theorem child {child : Expr} (each : e.EachConditional p) (slot : child ∈ e.kind.slots) :
    child.EachConditional p :=
  (eachConditional_iff.1 each).2 child slot

theorem node {i : NodeId} {ty : Ty} {kind : Kind Expr} (other : kind.isConditional = false)
    (slots : ∀ child ∈ kind.slots, child.EachConditional p) :
    (Expr.node i ty kind).EachConditional p := by
  refine eachConditional_iff.2 ⟨fun conditional => ?_, slots⟩
  rw [kind_node, other] at conditional
  cases conditional

section Host

variable {σ ε : Type} {s t : Supply} {host host' : σ} {out : Expr}

theorem foldlM {α : Type} {f : Expr → α → BuildT (ExceptT ε (StateM σ)) Expr}
    (step : ∀ {s t : Supply} {host host' : σ} {object e : Expr} {a : α},
      object.EachConditional p → s.tryBuildIn host (f object a) = (.ok (e, t), host') →
      e.EachConditional p)
    (each : e.EachConditional p) {l : List α}
    (run : s.tryBuildIn host (l.foldlM f e) = (.ok (out, t), host')) :
    out.EachConditional p := by
  induction l generalizing s e host with
  | nil =>
    cases run
    exact each
  | cons a l ih =>
    rw [List.foldlM_cons, Supply.tryBuildIn_bind] at run
    split at run
    · rename_i first
      exact ih (step each first) run
    · cases run

theorem access (each : e.EachConditional p) {m : Member}
    (run : s.tryBuildIn host (e.access m ε) = (.ok (out, t), host')) : out.EachConditional p := by
  unfold Expr.access at run
  split at run
  · cases run
    exact .node rfl fun child slot => List.mem_singleton.1 slot ▸ each
  · cases run

theorem accessSegment (each : e.EachConditional p) {resolve : Resolver (StateM σ) ε}
    {segment : String}
    (run : s.tryBuildIn host (e.accessSegment resolve segment) = (.ok (out, t), host')) :
    out.EachConditional p := by
  rw [Expr.accessSegment, Supply.tryBuildIn_lift_bind] at run
  split at run
  · exact each.access run
  · cases run

end Host

theorem builtConstant (s : Supply) (value : Value) (ty : Ty) (shape : ConstantShape) :
    (s.build (Expr.builtConstant value ty shape)).EachConditional p := by
  cases shape with
  | literal => exact .node rfl (List.forall_mem_nil _)
  | memberOfConstant =>
    refine .node rfl fun child slot => ?_
    rw [List.mem_singleton.1 slot]
    exact .node rfl (List.forall_mem_nil _)

end EachConditional

def ConditionalsWithin (allowed : Ty → Prop) (e : Expr) : Prop :=
  e.EachConditional fun c => allowed c.ty

namespace ConditionalsWithin

theorem withOperands (within : e.ConditionalsWithin allowed) {answers : List Expr}
    (given : ∀ a ∈ answers, a.ConditionalsWithin allowed)
    (length : answers.length = e.kind.operands.length) (u : Supply) :
    (u.build (e.withOperands answers)).ConditionalsWithin allowed := by
  rw [Supply.build_withOperands]
  split
  · exact within
  rw [Supply.build_rebuild]
  refine eachConditional_iff.2 ⟨fun conditional => ?_, fun child slot => ?_⟩
  · -- its children imply no type for a conditional, so that it takes the one of the node before
    have implied := impliedType?_of_isConditional conditional
    rw [kind_node, Kind.isConditional_withOperands] at conditional
    rw [kind_node] at implied
    rw [ty_node, implied, Option.getD_none]
    exact within e e.mem_nodes_self conditional
  · rw [kind_node, Kind.slots_withOperands length] at slot
    rcases List.mem_append.1 slot with declared | answer
    · exact within.child (Kind.mem_slots_of_mem_parameters declared)
    · exact given child answer

theorem replace {g : Expr → Option Expr} (within : e.ConditionalsWithin allowed)
    (answers : ∀ node ∈ e.met g, ∀ answer, g node = some answer →
      answer.ConditionalsWithin allowed) (s : Supply) :
    (s.build (e.replace g)).ConditionalsWithin allowed := by
  refine replace_induction (motive := fun node out =>
    node.ConditionalsWithin allowed → out.ConditionalsWithin allowed) ?_ ?_ (Nat.le_refl s.next)
    within
  · intro node inner answer h _
    exact answers node inner answer h
  · intro node _ _ u outs _ related within
    refine within.withOperands (fun out mem => ?_) related.length_eq.symm u
    obtain ⟨operand, _, slot, holds, _⟩ := exists_of_forall₂ (List.Forall₂.flip related) mem
    exact holds (within.child (Kind.mem_slots_of_mem_operands slot))

theorem substitute (within : e.ConditionalsWithin allowed) (old : Expr) {new : Expr}
    (given : new.ConditionalsWithin allowed) (s : Supply) :
    (s.build (e.substitute old new)).ConditionalsWithin allowed := by
  rw [substitute_eq_replace]
  refine within.replace (fun node _ answer h => ?_) s
  exact (answerOf_single_eq_some_iff.1 h).2 ▸ given

theorem specialize {l : Lambda} {replacements : List Expr}
    (body : l.body.ConditionalsWithin allowed)
    (given : ∀ r ∈ replacements, r.ConditionalsWithin allowed) (s : Supply) :
    (s.build (l.specialize replacements)).ConditionalsWithin allowed := by
  have replaced : ∀ pair ∈ l.params.zip replacements, pair.2.ConditionalsWithin allowed :=
    fun pair mem => given pair.2 (List.of_mem_zip mem).2
  unfold Lambda.specialize
  generalize l.params.zip replacements = pairs at replaced ⊢
  generalize l.body = e at body ⊢
  induction pairs generalizing e s with
  | nil => exact body
  | cons pair rest ih =>
    rw [List.foldlM_cons, Supply.build_bind]
    apply ih
    · exact fun next mem => replaced next (List.mem_cons_of_mem pair mem)
    · exact body.substitute pair.1 (replaced pair List.mem_cons_self) s

end ConditionalsWithin

end Expr

/-! ## Calls of the interface -/

open ExpressionGraphs.Expr (EachConditional ConditionalsWithin)

variable {s t : Supply} {held : List Expr} {p : Expr → Prop}

/-- A pass of the interface. In a walk the host has answered for the operands before. -/
inductive Pass where
  | walk (e : Expr) (answers : List Expr)
  | substitute (tree old new : Expr)
  | specialize (l : Lambda) (replacements : List Expr)

namespace Pass

def outcome (s : Supply) : Pass → Expr
  | walk e answers => s.build (e.withOperands answers)
  | substitute tree old new => s.build (tree.substitute old new)
  | specialize l replacements => s.build (l.specialize replacements)

def Over (held : List Expr) : Pass → Prop
  | walk e answers =>
    e ∈ held ∧ (∀ a ∈ answers, a ∈ held) ∧ answers.length = e.kind.operands.length
  | substitute tree _ new => tree ∈ held ∧ new ∈ held
  | specialize l replacements => l.body ∈ held ∧ ∀ r ∈ replacements, r ∈ held

end Pass

theorem Offers.eachConditional {c : Build Expr} (offer : Offers held c)
    (before : ∀ e ∈ held, e.EachConditional p)
    (built : ∀ test ∈ held, ∀ thenBranch ∈ held, ∀ elseBranch ∈ held,
      c = Expr.conditional test thenBranch elseBranch → p (s.build c))
    (passed : ∀ pass : Pass, pass.Over held → s.build c = pass.outcome s →
      (s.build c).EachConditional p) :
    (s.build c).EachConditional p := by
  cases offer with
  | constant | parameter | host => exact .node rfl (List.forall_mem_nil _)
  | member mem m | unary op mem ty =>
    refine .node rfl fun child slot => ?_
    rw [List.mem_singleton.1 slot]
    exact before _ mem
  | binary op left right ty =>
    refine .node rfl fun child slot => ?_
    simp only [Kind.slots, List.mem_cons, List.not_mem_nil, or_false] at slot
    rcases slot with rfl | rfl
    · exact before child left
    · exact before child right
  | call function mem ty => exact .node rfl fun child slot => before child (mem child slot)
  | @conditional test thenBranch elseBranch first second third =>
    refine Expr.eachConditional_iff.2 ⟨fun _ => ?_, fun child slot => ?_⟩
    · exact built test first thenBranch second elseBranch third rfl
    · change child ∈ [test, thenBranch, elseBranch] at slot
      simp only [List.mem_cons, List.not_mem_nil, or_false] at slot
      rcases slot with rfl | rfl | rfl
      · exact before child first
      · exact before child second
      · exact before child third
  | @walk e answers mem given length => exact passed (.walk e answers) ⟨mem, given, length⟩ rfl

theorem Obtains.eachConditional {e : Expr} (step : Obtains held s e t)
    (before : ∀ e ∈ held, e.EachConditional p)
    (built : ∀ test ∈ held, ∀ thenBranch ∈ held, ∀ elseBranch ∈ held,
      e = s.build (Expr.conditional test thenBranch elseBranch) → p e)
    (passed : ∀ pass : Pass, pass.Over held → e = pass.outcome s → e.EachConditional p) :
    e.EachConditional p := by
  cases step with
  | child mem slot => exact (before _ mem).child slot
  | build offer =>
    refine offer.eachConditional before (fun test first thenBranch second elseBranch third h => ?_)
      passed
    exact built test first thenBranch second elseBranch third (h ▸ rfl)
  | access mem m run =>
    rw [Supply.tryBuild_access] at run
    split at run <;> cases run
    refine .node rfl fun child slot => ?_
    rw [List.mem_singleton.1 slot]
    exact before _ mem
  | lambda declared mem run =>
    rw [Supply.tryBuild_lambda] at run
    split at run <;> cases run
    refine .node rfl fun child slot => ?_
    rcases List.mem_append.1 slot with slot | slot
    · exact before child (declared child slot)
    · rw [List.mem_singleton.1 slot]
      exact before _ mem

/-- What holds of every conditional before a call holds after it, if it does of the conditional that
the call builds and after the pass that it is. -/
theorem Calls.eachConditional (obtained : Obtainable s held) {out : Expr}
    (call : Calls held s out t) (before : ∀ e ∈ held, e.EachConditional p)
    (built : ∀ test ∈ held, ∀ thenBranch ∈ held, ∀ elseBranch ∈ held,
      out = s.build (Expr.conditional test thenBranch elseBranch) → p out)
    (passed : ∀ pass : Pass, pass.Over held → out = pass.outcome s → out.EachConditional p) :
    out.EachConditional p := by
  obtain ⟨more, kept, reach⟩ := obtained.exists_reachable
  cases call with
  | basic step => exact step.eachConditional before built passed
  | accessAll mem members run =>
    exact EachConditional.foldlM (fun each run => each.access run) (before _ mem) run
  | accessPath mem resolve path run =>
    exact EachConditional.foldlM (fun each run => each.accessSegment run) (before _ mem) run
  | builtConstant value ty shape => exact .builtConstant s value ty shape
  | mapConstant mem mapper target run =>
    obtain ⟨c, _, ⟨_, rfl, _⟩ | ⟨value, _, _, rfl, _⟩⟩ := Expr.mapConstant_cases run
    · exact before _ mem
    · exact .builtConstant s value target c.shape
  | @substitute tree new _ _ mem old given run =>
    rw [Expr.tryBuild_checkedSubstitute (reach.formed (kept mem))] at run
    cases run
    exact passed (.substitute tree old new) ⟨mem, given⟩ rfl
  | @specialize l replacements _ _ mem given run =>
    rw [reach.tryBuild_checkedSpecialize (kept mem) fun r inner => kept (given r inner)] at run
    cases run
    exact passed (.specialize l replacements) ⟨mem, given⟩ rfl
  | @fold _ _ _ _ e _ answers _ _ mem pass answered given run =>
    have formed := reach.formed (kept mem) _ (Expr.mem_nodes_self _)
    rw [Expr.tryBuildIn_checkedWalk formed answered] at run
    cases run
    have length := Supply.length_of_tryBuildIn_mapM answered
    exact passed (.walk e answers) ⟨mem, given, length⟩ rfl

/-- The types that conditionals have from their own then branches. -/
def BranchTypes (held : List Expr) (ty : Ty) : Prop :=
  ∃ origin ∈ nodesOf held, ∃ test thenBranch elseBranch,
    origin.kind = .conditional test thenBranch elseBranch ∧ thenBranch.ty = ty ∧ origin.ty = ty

theorem BranchTypes.mono {more : List Expr} (sub : held ⊆ more) {ty : Ty}
    (branch : BranchTypes held ty) : BranchTypes more ty := by
  obtain ⟨origin, mem, rest⟩ := branch
  exact ⟨origin, nodesOf_mono sub mem, rest⟩

end ExpressionGraphs
