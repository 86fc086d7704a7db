import ExpressionGraphs.Proofs.Conditionals
import ExpressionGraphs.Proofs.Sharing

set_option autoImplicit false

/-!
# Conditionals typed by their branches

A conditional that is typed by its then branch stays so in a pass exactly if the pass leaves the type
of the then branch as it is. Since a rebuilt conditional keeps its type, a then branch of another type
parts the two.
-/

namespace ExpressionGraphs

namespace Expr

variable {e : Expr} {g : Expr → Option Expr}

def TypedByBranch (c : Expr) : Prop :=
  ∀ test thenBranch elseBranch, c.kind = .conditional test thenBranch elseBranch →
    c.ty = thenBranch.ty

def BranchTyped (e : Expr) : Prop := e.EachConditional TypedByBranch

theorem branchTyped_iff :
    e.BranchTyped ↔ e.TypedByBranch ∧ ∀ child ∈ e.kind.slots, child.BranchTyped := by
  refine eachConditional_iff.trans (and_congr_left fun _ => ⟨fun own => ?_, fun own _ => own⟩)
  intro test thenBranch elseBranch kind
  exact own (kind ▸ rfl) test thenBranch elseBranch kind

theorem BranchTyped.child {child : Expr} (typed : e.BranchTyped) (slot : child ∈ e.kind.slots) :
    child.BranchTyped :=
  EachConditional.child typed slot

theorem then_mem_operands {test thenBranch elseBranch : Expr}
    (kind : e.kind = .conditional test thenBranch elseBranch) : thenBranch ∈ e.kind.operands := by
  rw [kind]
  simp [Kind.operands, Kind.slots]

/-! ## One step -/

def KeepsBranch (e : Expr) (answers : List Expr) : Prop :=
  ∀ test thenBranch elseBranch, e.kind = .conditional test thenBranch elseBranch →
    ∀ test' thenBranch' elseBranch', answers = [test', thenBranch', elseBranch'] →
      thenBranch'.ty = thenBranch.ty

theorem keepsBranch_operands (e : Expr) : e.KeepsBranch e.kind.operands := by
  intro test thenBranch elseBranch kind test' thenBranch' elseBranch' same
  rw [kind] at same
  cases same
  rfl

theorem keepsBranch_iff {type : Expr → Ty} {answers : List Expr}
    (types : List.Forall₂ (fun operand answer => answer.ty = type operand) e.kind.operands answers) :
    e.KeepsBranch answers ↔
      ∀ test thenBranch elseBranch, e.kind = .conditional test thenBranch elseBranch →
        type thenBranch = thenBranch.ty := by
  refine forall₄_congr fun test thenBranch elseBranch kind => ?_
  rw [kind] at types
  rcases types with _ | ⟨_, _ | ⟨second, _ | ⟨_, _ | _⟩⟩⟩
  constructor
  · intro keeps
    rw [← second]
    exact keeps _ _ _ rfl
  · intro kept test' thenBranch' elseBranch' same
    cases same
    rw [second, kept]

/-- A node rebuilt over typed operands is typed again just if the new then branch has the type of
the old one. -/
theorem branchTyped_rebuild_iff (typed : e.BranchTyped) {answers : List Expr}
    (length : answers.length = e.kind.operands.length) (u : Supply) :
    (u.build (e.rebuild (e.kind.withOperands answers))).BranchTyped ↔
      e.KeepsBranch answers ∧ ∀ a ∈ answers, a.BranchTyped := by
  have own := (branchTyped_iff.1 typed).1
  have slots : (∀ child ∈ (e.kind.withOperands answers).slots, child.BranchTyped) ↔
      ∀ a ∈ answers, a.BranchTyped := by
    rw [Kind.slots_withOperands length, List.forall_mem_append]
    exact and_iff_right fun p declared => typed.child (Kind.mem_slots_of_mem_parameters declared)
  rw [branchTyped_iff, Supply.build_rebuild, kind_node, slots]
  refine and_congr_left fun _ => ?_
  unfold TypedByBranch KeepsBranch
  rw [kind_node, ty_node]
  cases conditional : e.kind.isConditional with
  | true =>
    obtain ⟨test, thenBranch, elseBranch, kind⟩ := Kind.exists_of_isConditional conditional
    rw [kind] at length
    obtain ⟨test', thenBranch', elseBranch', rfl⟩ := List.length_eq_three.1 length
    have before : e.ty = thenBranch.ty := own _ _ _ kind
    rw [kind]
    constructor
    · intro rule _ _ _ same _ _ _ same'
      cases same
      cases same'
      exact (rule _ _ _ rfl).symm.trans before
    · intro keeps _ _ _ same
      cases same
      exact before.trans (keeps _ _ _ rfl _ _ _ rfl).symm
  | false =>
    have other : ∀ {kind : Kind Expr} {test thenBranch elseBranch}, kind.isConditional = false →
        kind ≠ .conditional test thenBranch elseBranch := by
      rintro _ _ _ _ h rfl
      cases h
    refine iff_of_true (fun _ _ _ kind => absurd kind (other ?_)) fun _ _ _ kind =>
      absurd kind (other conditional)
    rw [Kind.isConditional_withOperands, conditional]

/-! ## A pass -/

/-- The pass leaves the types of the then branches as they are, wherever it goes through a
conditional. -/
def KeepsBranches (g : Expr → Option Expr) (e : Expr) : Prop :=
  ∀ c ∈ e.met g, g c = none → ∀ test thenBranch elseBranch,
    c.kind = .conditional test thenBranch elseBranch → (thenBranch.draft g).ty = thenBranch.ty

theorem keepsBranches_of_some {answer : Expr} (h : g e = some answer) : KeepsBranches g e := by
  intro c mem none
  rw [met_of_some h, List.mem_singleton] at mem
  rw [mem, h] at none
  cases none

theorem keepsBranches_of_none (h : g e = none) :
    KeepsBranches g e ↔
      (∀ test thenBranch elseBranch, e.kind = .conditional test thenBranch elseBranch →
        (thenBranch.draft g).ty = thenBranch.ty) ∧
      ∀ operand ∈ e.kind.operands, KeepsBranches g operand := by
  unfold KeepsBranches
  rw [met_of_none h]
  simp only [List.forall_mem_cons, List.mem_flatMap]
  constructor
  · rintro ⟨own, below⟩
    exact ⟨own h, fun operand mem c inner => below c ⟨operand, mem, inner⟩⟩
  · rintro ⟨own, below⟩
    exact ⟨fun _ => own, fun c ⟨operand, mem, inner⟩ => below operand mem c inner⟩

theorem keepsBranches_of_unchanged (faithful : Faithful g e) (unchanged : e.changes g = false) :
    KeepsBranches g e := by
  intro c mem none test thenBranch elseBranch kind
  have inner := mem_met_trans mem
    (mem_met_of_mem_operands none (then_mem_operands kind) (mem_met_self g thenBranch))
  rw [draft_of_unchanged (faithful.of_mem_met inner) (changes_eq_false_of_mem_met unchanged inner)]
  rfl

theorem ty_build_rebuild (h : g e = none) (changed : e.changes g = true) {outs : List Expr}
    (types : List.Forall₂ (fun operand out => out.ty = (operand.draft g).ty) e.kind.operands outs)
    (u : Supply) :
    (u.build (e.rebuild (e.kind.withOperands outs))).ty = (e.draft g).ty := by
  have kinds : (e.kind.withOperands outs).map ty =
      ((e.kind.map Draft.kept).withOperands (e.kind.operands.map (draft g))).map Draft.ty := by
    rw [Kind.map_withOperands, Kind.map_withOperands, map_eq_of_forall₂ types, Kind.map_map,
      List.map_map]
    rfl
  rw [Supply.build_rebuild, ty_node, impliedType?_eq, kinds, draft_of_rebuilt h changed]
  rfl

theorem forall_mem_iff_of_forall₂ {α β : Type} {p : α → Prop} {q : β → Prop} {as : List α}
    {bs : List β} (all : List.Forall₂ (fun a b => q b ↔ p a) as bs) :
    (∀ b ∈ bs, q b) ↔ ∀ a ∈ as, p a := by
  induction all with
  | nil => simp
  | cons head _ ih => rw [List.forall_mem_cons, List.forall_mem_cons, head, ih]

section Sound

variable {s t u : Supply} {held : List Expr}

/-- A pass keeps conditionals typed just if it keeps the types of the then branches. -/
theorem branchTyped_replace_iff (sound : t.Sound held) (mem : e ∈ nodesOf held)
    (answers : ∀ node ∈ e.met g, ∀ answer, g node = some answer →
      answer ∈ nodesOf held ∧ answer.BranchTyped) (le : t.next ≤ u.next) (typed : e.BranchTyped) :
    (u.build (e.replace g)).BranchTyped ↔ KeepsBranches g e := by
  have held_answers : ∀ node ∈ e.met g, ∀ answer, g node = some answer → answer ∈ nodesOf held :=
    fun node inner answer h => (answers node inner answer h).1
  have faithful := faithful_of_sound sound mem held_answers
  -- whether a rebuilt node is typed depends on the types that its operands have been given
  refine (pass_induction (motive := fun node out => out.ty = (node.draft g).ty ∧
    (node.BranchTyped → (out.BranchTyped ↔ KeepsBranches g node))) sound mem held_answers
    ?_ ?_ ?_ le).2 typed
  · intro node inner answer h
    refine ⟨?_, fun _ => ?_⟩
    · rw [draft_of_some h]
      rfl
    · exact iff_of_true (answers node inner answer h).2 (keepsBranches_of_some h)
  · intro node inner h unchanged _
    refine ⟨?_, fun typed => ?_⟩
    · rw [draft_of_returned h unchanged]
      rfl
    · exact iff_of_true typed (keepsBranches_of_unchanged (faithful.of_mem_met inner) unchanged)
  · intro node _ h changed v outs _ related
    have types := related.imp fun _ _ holds => holds.1
    refine ⟨ty_build_rebuild h changed types v, fun typed => ?_⟩
    have operands := (List.forall₂_and_left _ _).2
      ⟨fun operand slot => typed.child (Kind.mem_slots_of_mem_operands slot), related⟩
    rw [branchTyped_rebuild_iff typed types.length_eq.symm, keepsBranch_iff types,
      keepsBranches_of_none h,
      forall_mem_iff_of_forall₂ (operands.imp fun _ _ both => both.2.2 both.1)]

theorem ty_build_replace (sound : s.Sound held) (mem : e ∈ nodesOf held)
    (answers : ∀ node ∈ e.met g, ∀ answer, g node = some answer → answer ∈ nodesOf held) :
    (s.build (e.replace g)).ty = (e.draft g).ty := by
  have made : (s.build (e.replace g)).since s = (e.since s).rewrite g := by
    refine since_build_replace sound mem (fun node inner answer h => ?_) (Nat.le_refl _)
      (Nat.le_refl _)
    have answer_mem := answers node inner answer h
    have node_mem := mem_nodesOf_of_mem_nodes mem (mem_nodes_of_mem_met inner)
    exact ⟨answer_mem, sound.below node node_mem, sound.below answer answer_mem⟩
  rw [since_of_lt (sound.below e mem), Draft.rewrite_kept] at made
  rw [← ty_since s, made]

theorem eq_of_sameNodes (sound : s.Sound held) {as bs : List Expr}
    (left : ∀ a ∈ as, a ∈ nodesOf held) (right : ∀ b ∈ bs, b ∈ nodesOf held)
    (same : sameNodes as bs = true) : as = bs := by
  have ids : as.map id = bs.map id := of_decide_eq_true same
  clear same
  induction as generalizing bs with
  | nil => exact (List.map_eq_nil_iff.1 ids.symm).symm
  | cons a as ih =>
    cases bs with
    | nil => cases ids
    | cons b bs =>
      obtain ⟨a_mem, as_mem⟩ := List.forall_mem_cons.1 left
      obtain ⟨b_mem, bs_mem⟩ := List.forall_mem_cons.1 right
      obtain ⟨first, rest⟩ := List.cons.inj ids
      rw [sound.eq_of_id a_mem b_mem first, ih as_mem bs_mem rest]

theorem build_withOperands_cases (sound : s.Sound held) (mem : e ∈ nodesOf held)
    {answers : List Expr} (given : ∀ a ∈ answers, a ∈ nodesOf held) :
    (answers = e.kind.operands ∧ s.build (e.withOperands answers) = e) ∨
      s.build (e.withOperands answers) = s.build (e.rebuild (e.kind.withOperands answers)) := by
  rw [Supply.build_withOperands]
  split
  · rename_i same
    have operands : ∀ a ∈ e.kind.operands, a ∈ nodesOf held := fun a slot =>
      mem_nodesOf_of_mem_slots mem (Kind.mem_slots_of_mem_operands slot)
    exact .inl ⟨(eq_of_sameNodes sound operands given same).symm, rfl⟩
  · exact .inr rfl

theorem branchTyped_withOperands_iff (sound : s.Sound held) (mem : e ∈ nodesOf held)
    {answers : List Expr} (given : ∀ a ∈ answers, a ∈ nodesOf held ∧ a.BranchTyped)
    (length : answers.length = e.kind.operands.length) (typed : e.BranchTyped) :
    (s.build (e.withOperands answers)).BranchTyped ↔ e.KeepsBranch answers := by
  rcases build_withOperands_cases sound mem fun a inner => (given a inner).1 with
    ⟨rfl, returned⟩ | rebuilt
  · rw [returned]
    exact iff_of_true typed (keepsBranch_operands e)
  · rw [rebuilt, branchTyped_rebuild_iff typed length]
    exact and_iff_left fun a inner => (given a inner).2

end Sound

end Expr

end ExpressionGraphs
