import ExpressionGraphs.Expr.Checked
import ExpressionGraphs.Proofs.Closure

set_option autoImplicit false

/-!
# Assertions in passes

A pass leaves parameter lists alone, so that the lambdas it rebuilds declare what those declared
which it met. Over nodes that declare parameter nodes only, the assertion holds at each rebuild, and
a pass with assertions is the pass without them.
-/

namespace ExpressionGraphs

namespace Expr

section Monad

variable {m : Type → Type} [Monad m] {e : Expr}

theorem checkedRebuild_eq (e : Expr) {kind : Kind Expr}
    (declares : ∀ p ∈ kind.parameters, p.isParameter = true) :
    (e.checkedRebuild kind : BuildT (ExceptT LambdaError m) Expr) = e.rebuild kind := by
  cases kind with
  | lambda params body => exact if_pos (List.all_eq_true.2 declares)
  | member | constant | parameter | unary | binary | call | conditional | host => rfl

theorem checkedWithOperands_eq (formed : e.Formed) (operands : List Expr) :
    (e.checkedWithOperands operands : BuildT (ExceptT LambdaError m) Expr) =
      e.withOperands operands := by
  have declares : ∀ p ∈ (e.kind.withOperands operands).parameters, p.isParameter = true := by
    rw [Kind.parameters_withOperands]
    exact formed.declares
  rw [checkedWithOperands, withOperands, checkedRebuild_eq e declares]

theorem checkedWalk_eq (formed : e.Formed)
    (pass : Expr → BuildT (ExceptT LambdaError m) Expr) : e.checkedWalk pass = e.walk pass := by
  unfold checkedWalk walk
  congr 1
  funext operands
  exact checkedWithOperands_eq formed operands

theorem checkedTransform_eq (formed : ∀ node ∈ e.nodes, node.Formed)
    (replace : Expr → BuildT (ExceptT LambdaError m) (Option Expr)) :
    e.checkedTransform replace = e.transform replace := by
  induction e using induction with
  | step e ih =>
    rw [checkedTransform, transform]
    congr 1
    funext answer
    cases answer with
    | some replacement => rfl
    | none =>
      have operands : (fun child : { c // c ∈ e.kind.operands } =>
          child.1.checkedTransform replace) = fun child => child.1.transform replace := by
        funext child
        have slot := Kind.mem_slots_of_mem_operands child.2
        exact ih child.1 slot fun node inner => formed node (mem_nodes_of_mem_slots slot inner)
      dsimp only
      rw [operands]
      congr 1
      funext answers
      exact checkedWithOperands_eq (formed e e.mem_nodes_self) answers

end Monad

end Expr

/-! ## What is built where nothing fails -/

namespace Supply

variable {α β ε : Type}

theorem tryBuild_withOperands (s : Supply) (e : Expr) (operands : List Expr) :
    s.tryBuild (e.withOperands operands : BuildT (ExceptT ε Id) Expr) =
      .ok (s.build (e.withOperands operands), s.after (e.withOperands operands)) := by
  unfold Expr.withOperands
  split <;> rfl

theorem tryBuildIn_withOperands {σ : Type} (s : Supply) (host : σ) (e : Expr)
    (operands : List Expr) :
    s.tryBuildIn host (e.withOperands operands : BuildT (ExceptT ε (StateM σ)) Expr) =
      (.ok (s.build (e.withOperands operands), s.after (e.withOperands operands)), host) := by
  unfold Expr.withOperands
  split <;> rfl

theorem tryBuild_mapM {f : α → BuildT (ExceptT ε Id) β} {g : α → Build β} {l : List α}
    (each : ∀ a ∈ l, ∀ s : Supply, s.tryBuild (f a) = .ok (s.build (g a), s.after (g a)))
    (s : Supply) : s.tryBuild (l.mapM f) = .ok (s.build (l.mapM g), s.after (l.mapM g)) := by
  induction l generalizing s with
  | nil => rfl
  | cons a l ih =>
    rw [List.mapM_cons, tryBuild_bind, each a List.mem_cons_self, build_mapM_cons, after_mapM_cons]
    change (s.after (g a)).tryBuild (l.mapM f >>= fun rest => pure (s.build (g a) :: rest)) = _
    rw [tryBuild_bind, ih fun b mem => each b (List.mem_cons_of_mem a mem)]
    rfl

theorem length_of_tryBuildIn_mapM {σ : Type} {f : α → BuildT (ExceptT ε (StateM σ)) β}
    {l : List α} {out : List β} {s t : Supply} {host host' : σ}
    (run : s.tryBuildIn host (l.mapM f) = (.ok (out, t), host')) : out.length = l.length := by
  induction l generalizing s host out t host' with
  | nil =>
    cases run
    rfl
  | cons a l ih =>
    rw [List.mapM_cons, tryBuildIn_bind] at run
    split at run
    · rw [tryBuildIn_bind] at run
      split at run
      · rename_i rest u host'' tail
        cases run
        rw [List.length_cons, List.length_cons, ih tail]
      · cases run
    · cases run

end Supply

namespace Expr

variable {ε : Type}

theorem tryBuild_transform_pure (g : Expr → Option Expr) (e : Expr) (s : Supply) :
    s.tryBuild (e.transform fun node => pure (g node) : BuildT (ExceptT ε Id) Expr) =
      .ok (s.build (e.replace g), s.after (e.replace g)) := by
  induction e using induction generalizing s with
  | step e ih =>
    rw [transform_eq, pure_bind]
    cases h : g e with
    | some answer =>
      rw [replace_of_some h]
      rfl
    | none =>
      rw [replace_of_none h]
      change s.tryBuild (e.kind.operands.mapM _ >>= fun operands => e.withOperands operands) = _
      rw [Supply.tryBuild_bind, Supply.tryBuild_mapM fun operand mem =>
        ih operand (Kind.mem_slots_of_mem_operands mem)]
      exact Supply.tryBuild_withOperands _ e _

theorem tryBuild_checkedSubstitute {e : Expr} (formed : ∀ node ∈ e.nodes, node.Formed)
    (old new : Expr) (s : Supply) :
    s.tryBuild (e.checkedSubstitute old new) =
      .ok (s.build (e.substitute old new), s.after (e.substitute old new)) := by
  rw [checkedSubstitute, checkedTransform_eq formed]
  exact tryBuild_transform_pure (fun node => if node.sameNode old then some new else none) e s

/-- In any host, a step of a pass succeeds where the pass itself does for the operands. -/
theorem tryBuildIn_checkedWalk {σ : Type} {e : Expr} (formed : e.Formed)
    {pass : Expr → BuildT (ExceptT LambdaError (StateM σ)) Expr} {answers : List Expr}
    {s t : Supply} {host host' : σ}
    (answered : s.tryBuildIn host (e.kind.operands.mapM pass) = (.ok (answers, t), host')) :
    s.tryBuildIn host (e.checkedWalk pass) =
      (.ok (t.build (e.withOperands answers), t.after (e.withOperands answers)), host') := by
  rw [checkedWalk_eq formed, walk, Supply.tryBuildIn_bind, answered]
  exact Supply.tryBuildIn_withOperands t host' e answers

end Expr

/-! ## Within reach -/

theorem Reachable.formed {s : Supply} {held : List Expr} (reach : Reachable s held) {e : Expr}
    (mem : e ∈ held) : ∀ node ∈ e.nodes, node.Formed :=
  fun node inner => reach.sound.formed node (mem_nodesOf.2 ⟨e, mem, inner⟩)

/-- A specialization passes over its own results, which are within reach again. -/
theorem Reachable.tryBuild_checkedSpecialize {s : Supply} {held : List Expr}
    (reach : Reachable s held) {l : Lambda} {replacements : List Expr} (body : l.body ∈ held)
    (given : ∀ r ∈ replacements, r ∈ held) :
    s.tryBuild (l.checkedSpecialize replacements) =
      .ok (s.build (l.specialize replacements), s.after (l.specialize replacements)) := by
  have replaced : ∀ pair ∈ l.params.zip replacements, pair.2 ∈ held := fun pair mem =>
    given pair.2 (List.of_mem_zip mem).2
  clear given
  unfold Lambda.checkedSpecialize Lambda.specialize
  generalize l.params.zip replacements = pairs at replaced ⊢
  generalize l.body = e at body ⊢
  induction pairs generalizing s held e with
  | nil => rfl
  | cons pair rest ih =>
    obtain ⟨more, kept, reach', out⟩ :=
      reach.substitute body pair.1 (replaced pair List.mem_cons_self)
    rw [List.foldlM_cons, List.foldlM_cons, Supply.tryBuild_bind,
      Expr.tryBuild_checkedSubstitute (reach.formed body)]
    have rest_replaced : ∀ next ∈ rest, next.2 ∈ more := fun next mem =>
      kept (replaced next (List.mem_cons_of_mem pair mem))
    exact ih reach' rest_replaced _ out

end ExpressionGraphs
