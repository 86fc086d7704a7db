import ExpressionGraphs.Proofs.BranchTyping

set_option autoImplicit false

/-!
# Retyped branches

Conditionals are built with the type of their then branch, and no call parts the two but a pass that
puts a then branch of another type into a conditional. The conditional then keeps the type that it
had.
-/

namespace ExpressionGraphs

namespace Expr

variable {s : Supply} {held : List Expr} {e : Expr}

/-- The substitution leaves the types of the then branches as they are, wherever it goes through a
conditional. -/
def SubstitutionKeepsBranches (s : Supply) (tree old new : Expr) : Prop :=
  ∀ c ∈ tree.met (answerOf [(old, new)]), c.sameNode old = false →
    ∀ test thenBranch elseBranch, c.kind = .conditional test thenBranch elseBranch →
      (s.build (thenBranch.substitute old new)).ty = thenBranch.ty

def SubstitutionsKeepBranches : Supply → Expr → List (Expr × Expr) → Prop
  | _, _, [] => True
  | s, e, (old, new) :: rest =>
    SubstitutionKeepsBranches s e old new ∧
      SubstitutionsKeepBranches (s.after (e.substitute old new)) (s.build (e.substitute old new)) rest

theorem keepsBranches_answerOf_iff (sound : s.Sound held) {tree old new : Expr}
    (mem : tree ∈ nodesOf held) (given : new ∈ nodesOf held) :
    KeepsBranches (answerOf [(old, new)]) tree ↔ SubstitutionKeepsBranches s tree old new := by
  refine forall₂_congr fun c met => ?_
  rw [answerOf_single_eq_none_iff]
  refine imp_congr_right fun _ => forall₄_congr fun test thenBranch elseBranch kind => ?_
  have c_mem := mem_nodesOf_of_mem_nodes mem (mem_nodes_of_mem_met met)
  have then_mem := mem_nodesOf_of_mem_slots c_mem
    (Kind.mem_slots_of_mem_operands (then_mem_operands kind))
  rw [substitute_eq_replace, ty_build_replace sound then_mem fun node _ answer h => ?_]
  exact (answerOf_single_eq_some_iff.1 h).2 ▸ given

theorem branchTyped_substitute_iff (sound : s.Sound held) {tree old new : Expr}
    (mem : tree ∈ nodesOf held) (given : new ∈ nodesOf held) (typed : tree.BranchTyped)
    (new_typed : new.BranchTyped) :
    (s.build (tree.substitute old new)).BranchTyped ↔ SubstitutionKeepsBranches s tree old new := by
  rw [substitute_eq_replace, ← keepsBranches_answerOf_iff sound mem given]
  refine branchTyped_replace_iff sound mem (fun node _ answer h => ?_) (Nat.le_refl _) typed
  exact (answerOf_single_eq_some_iff.1 h).2 ▸ ⟨given, new_typed⟩

theorem branchTyped_of_substitutionsKeepBranches (reach : Reachable s held) (mem : e ∈ held)
    {pairs : List (Expr × Expr)} (given : ∀ pair ∈ pairs, pair.2 ∈ held ∧ pair.2.BranchTyped)
    (typed : e.BranchTyped) (keeps : SubstitutionsKeepBranches s e pairs) :
    (s.build (pairs.foldlM (fun e pair => e.substitute pair.1 pair.2) e)).BranchTyped := by
  induction pairs generalizing s held e with
  | nil => exact typed
  | cons pair rest ih =>
    obtain ⟨⟨new_mem, new_typed⟩, rest_given⟩ := List.forall_mem_cons.1 given
    obtain ⟨more, kept, reach', out_mem⟩ := reach.substitute mem pair.1 new_mem
    rw [List.foldlM_cons, Supply.build_bind]
    refine ih reach' out_mem (fun next inner => ?_) ?_ keeps.2
    · exact (rest_given next inner).imp_left fun old => kept old
    · exact (branchTyped_substitute_iff reach.sound (mem_nodesOf_of_mem mem)
        (mem_nodesOf_of_mem new_mem) typed new_typed).2 keeps.1

end Expr

/-! ## The first pass to blame -/

variable {s t : Supply} {held more : List Expr}

namespace Pass

def KeepsBranches (s : Supply) : Pass → Prop
  | walk e answers => e.KeepsBranch answers
  | substitute tree old new => Expr.SubstitutionKeepsBranches s tree old new
  | specialize l replacements => Expr.SubstitutionsKeepBranches s l.body (l.params.zip replacements)

theorem branchTyped {pass : Pass} (reach : Reachable s more) (kept : held ⊆ more)
    (known : pass.Over held) (before : ∀ e ∈ held, e.BranchTyped) (keeps : pass.KeepsBranches s) :
    (pass.outcome s).BranchTyped := by
  have node : ∀ e ∈ held, e ∈ nodesOf more := fun e mem => mem_nodesOf_of_mem (kept mem)
  cases pass with
  | walk e answers =>
    obtain ⟨mem, given, length⟩ := known
    have both : ∀ a ∈ answers, a ∈ nodesOf more ∧ a.BranchTyped := fun a inner =>
      ⟨node a (given a inner), before a (given a inner)⟩
    exact (Expr.branchTyped_withOperands_iff reach.sound (node e mem) both length
      (before e mem)).2 keeps
  | substitute tree old new =>
    obtain ⟨mem, given⟩ := known
    exact (Expr.branchTyped_substitute_iff reach.sound (node tree mem) (node new given)
      (before tree mem) (before new given)).2 keeps
  | specialize l replacements =>
    obtain ⟨mem, given⟩ := known
    refine Expr.branchTyped_of_substitutionsKeepBranches reach (kept mem) (fun pair inner => ?_)
      (before l.body mem) keeps
    have replacement := given pair.2 (List.of_mem_zip inner).2
    exact ⟨kept replacement, before pair.2 replacement⟩

end Pass

/-- A pass was the first to part a conditional from its then branch: it put one of another type
there. -/
def Retyped (held : List Expr) : Prop :=
  ∃ (s : Supply) (earlier : List Expr) (pass : Pass), Obtainable s earlier ∧ earlier ⊆ held ∧
    (∀ e ∈ earlier, e.BranchTyped) ∧ pass.Over earlier ∧ pass.outcome s ∈ held ∧
    ¬ (pass.outcome s).BranchTyped ∧ ¬ pass.KeepsBranches s

theorem Retyped.mono (sub : held ⊆ more) (retyped : Retyped held) : Retyped more := by
  obtain ⟨s, earlier, pass, obtained, kept, typed, known, mem, rest⟩ := retyped
  exact ⟨s, earlier, pass, obtained, fun _ old => sub (kept old), typed, known, sub mem, rest⟩

theorem Calls.branchTyped_or_retyped (obtained : Obtainable s held) {out : Expr}
    (call : Calls held s out t) (typed : ∀ e ∈ held, e.BranchTyped) :
    out.BranchTyped ∨ Retyped (out :: held) := by
  refine or_iff_not_imp_right.2 fun steady => ?_
  obtain ⟨more, kept, reach⟩ := obtained.exists_reachable
  refine call.eachConditional obtained typed ?_ fun pass known same => ?_
  · rintro test _ thenBranch _ elseBranch _ rfl _ _ _ kind
    cases kind
    rfl
  · -- a pass that leaves the branches their types leaves the conditionals typed
    subst same
    by_contra parted
    refine steady ⟨s, held, pass, obtained, List.subset_cons_self _ _, typed, known,
      List.mem_cons_self, parted, fun keeps => ?_⟩
    exact parted (Pass.branchTyped reach kept known typed keeps)

theorem Obtainable.branchTyped_iff (h : Obtainable s held) :
    (∀ e ∈ held, e.BranchTyped) ↔ ¬ Retyped held := by
  constructor
  · rintro typed ⟨_, _, pass, _, _, _, _, mem, parted, _⟩
    exact parted (typed _ mem)
  · intro steady
    induction h with
    | start => exact List.forall_mem_nil _
    | @next s t held e before call ih =>
      have typed := ih fun retyped => steady (retyped.mono (List.subset_cons_self e held))
      have out := (call.branchTyped_or_retyped before typed).resolve_right steady
      exact List.forall_mem_cons.2 ⟨out, typed⟩

/-! ## A choice between two points that becomes one between two numbers -/

namespace Sample

def flag : Expr := .node ⟨1⟩ .bool (.constant (.bool true))

def one : Expr := .node ⟨3⟩ .int (.constant (.int 1))

def retyped : Expr := .node ⟨4⟩ point (.conditional flag one one)

end Sample

end ExpressionGraphs
