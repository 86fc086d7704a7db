import Mathlib.Data.List.Forall2
import ExpressionGraphs.Expr.Transform

set_option autoImplicit false

/-!
# Building from a supply

A computation that only builds is a function of the supply from which it starts. `build` is what
it yields and `after` is the supply that it leaves, so that a pass can be followed node by node.
-/

namespace ExpressionGraphs

variable {α β : Type}

theorem exists_of_forall₂ {related : α → β → Prop} {as : List α} {bs : List β}
    (h : List.Forall₂ related as bs) {a : α} (mem : a ∈ as) : ∃ b ∈ bs, related a b := by
  induction h with
  | nil => cases mem
  | @cons c d _ _ head _ ih =>
    rcases List.mem_cons.1 mem with rfl | mem
    · exact ⟨d, List.mem_cons_self, head⟩
    · obtain ⟨b, b_mem, holds⟩ := ih mem
      exact ⟨b, List.mem_cons_of_mem d b_mem, holds⟩

theorem map_eq_of_forall₂ {γ : Type} {f : α → γ} {g : β → γ} {as : List α} {bs : List β}
    (h : List.Forall₂ (fun a b => g b = f a) as bs) : bs.map g = as.map f := by
  induction h with
  | nil => rfl
  | cons head _ ih => rw [List.map_cons, List.map_cons, head, ih]

theorem any_congr_of_mem {p q : α → Bool} {l : List α} (h : ∀ a ∈ l, p a = q a) :
    l.any p = l.any q := by
  induction l with
  | nil => rfl
  | cons a l ih =>
    rw [List.any_cons, List.any_cons, h a List.mem_cons_self,
      ih fun b mem => h b (List.mem_cons_of_mem a mem)]

namespace Supply

def build (s : Supply) (c : Build α) : α := (c.run s).run.1

def after (s : Supply) (c : Build α) : Supply := (c.run s).run.2

def tryBuild {ε : Type} (s : Supply) (c : BuildT (ExceptT ε Id) α) : Except ε (α × Supply) :=
  (c.run s).run.run

theorem build_pure (s : Supply) (a : α) : s.build (pure a) = a := rfl

theorem build_bind (s : Supply) (c : Build α) (f : α → Build β) :
    s.build (c >>= f) = (s.after c).build (f (s.build c)) := rfl

theorem after_bind (s : Supply) (c : Build α) (f : α → Build β) :
    s.after (c >>= f) = (s.after c).after (f (s.build c)) := rfl

theorem build_mapM_cons (s : Supply) (f : α → Build β) (a : α) (l : List α) :
    s.build ((a :: l).mapM f) = s.build (f a) :: (s.after (f a)).build (l.mapM f) := by
  rw [List.mapM_cons]
  rfl

theorem after_mapM_cons (s : Supply) (f : α → Build β) (a : α) (l : List α) :
    s.after ((a :: l).mapM f) = (s.after (f a)).after (l.mapM f) := by
  rw [List.mapM_cons]
  rfl

theorem length_build_mapM (s : Supply) (f : α → Build β) (l : List α) :
    (s.build (l.mapM f)).length = l.length := by
  induction l generalizing s with
  | nil => rfl
  | cons a l ih => rw [build_mapM_cons, List.length_cons, ih, List.length_cons]

/-- What holds of each item, from any supply of a kind that building keeps, holds of all. -/
theorem forall₂_mapM (kept : Supply → Prop) (related : α → β → Prop) {f : α → Build β}
    {l : List α} (step : ∀ a ∈ l, ∀ u : Supply, kept u →
      kept (u.after (f a)) ∧ related a (u.build (f a))) {s : Supply} (start : kept s) :
    kept (s.after (l.mapM f)) ∧ List.Forall₂ related l (s.build (l.mapM f)) := by
  induction l generalizing s with
  | nil => exact ⟨start, .nil⟩
  | cons a l ih =>
    obtain ⟨next, head⟩ := step a List.mem_cons_self s start
    obtain ⟨last, tail⟩ := ih (fun b mem => step b (List.mem_cons_of_mem a mem)) next
    rw [after_mapM_cons, build_mapM_cons]
    exact ⟨last, .cons head tail⟩

theorem build_rebuild (s : Supply) (e : Expr) (kind : Kind Expr) :
    s.build (e.rebuild kind) =
      .node ⟨s.next⟩ ((Expr.impliedType? kind).getD e.ty) kind := rfl

theorem build_withOperands (s : Supply) (e : Expr) (operands : List Expr) :
    s.build (e.withOperands operands) =
      if Expr.sameNodes e.kind.operands operands then e
      else s.build (e.rebuild (e.kind.withOperands operands)) := by
  unfold Expr.withOperands
  split <;> rfl

theorem after_withOperands (s : Supply) (e : Expr) (operands : List Expr) :
    s.after (e.withOperands operands) =
      if Expr.sameNodes e.kind.operands operands then s else ⟨s.next + 1⟩ := by
  unfold Expr.withOperands
  split <;> rfl

theorem next_le_after_withOperands (s : Supply) (e : Expr) (operands : List Expr) :
    s.next ≤ (s.after (e.withOperands operands)).next := by
  rw [after_withOperands]
  split
  · exact Nat.le_refl _
  · exact Nat.le_succ _

theorem tryBuild_bind {ε : Type} (s : Supply) (c : BuildT (ExceptT ε Id) α)
    (f : α → BuildT (ExceptT ε Id) β) :
    s.tryBuild (c >>= f) = s.tryBuild c >>= fun built => built.2.tryBuild (f built.1) := by
  unfold tryBuild
  rw [StateT.run_bind, ExceptT.run_bind]
  generalize (c.run s).run = result
  cases result <;> rfl

theorem tryBuild_lift {ε : Type} (s : Supply) (c : ExceptT ε Id α) :
    s.tryBuild (liftM c) = c.run.run.map fun a => (a, s) := by
  have lifted : StateT.run (liftM c : BuildT (ExceptT ε Id) α) s = c >>= fun a => pure (a, s) := rfl
  unfold tryBuild
  rw [lifted, ExceptT.run_bind]
  generalize c.run = result
  cases result <;> rfl

theorem run_liftM_bind {m : Type → Type} [Monad m] [LawfulMonad m] {ε : Type} (s : Supply)
    (asked : ExceptT ε m α) (f : α → BuildT (ExceptT ε m) β) :
    ((liftM asked >>= f).run s).run = asked.run >>= fun
      | .ok a => ((f a).run s).run
      | .error error => pure (.error error) := by
  have lifted : StateT.run (liftM asked : BuildT (ExceptT ε m) α) s =
      asked >>= fun a => pure (a, s) := rfl
  rw [StateT.run_bind, lifted, bind_assoc, ExceptT.run_bind]
  congr 1
  funext answer
  cases answer with
  | error error => rfl
  | ok a => exact congrArg ExceptT.run (pure_bind (a, s) _)

/-- The outcome of building in a host with a state of its own, and the state that it is left in. -/
def tryBuildIn {σ ε α : Type} (s : Supply) (host : σ)
    (c : BuildT (ExceptT ε (StateM σ)) α) : Except ε (α × Supply) × σ :=
  ((c.run s).run.run host).run

theorem tryBuildIn_lift_bind {σ ε α β : Type} (s : Supply) (host : σ)
    (asked : ExceptT ε (StateM σ) α) (f : α → BuildT (ExceptT ε (StateM σ)) β) :
    s.tryBuildIn host (liftM asked >>= f) =
      match (asked.run.run host).run with
      | (.ok a, host') => s.tryBuildIn host' (f a)
      | (.error error, host') => (.error error, host') := by
  unfold tryBuildIn
  rw [run_liftM_bind, StateT.run_bind]
  generalize asked.run.run host = answer
  obtain ⟨result, host'⟩ := answer
  cases result <;> rfl

theorem tryBuildIn_bind {σ ε : Type} (s : Supply) (host : σ) (c : BuildT (ExceptT ε (StateM σ)) α)
    (f : α → BuildT (ExceptT ε (StateM σ)) β) :
    s.tryBuildIn host (c >>= f) =
      match s.tryBuildIn host c with
      | (.ok (a, t), host') => t.tryBuildIn host' (f a)
      | (.error error, host') => (.error error, host') := by
  unfold tryBuildIn
  rw [StateT.run_bind, ExceptT.run_bind, StateT.run_bind]
  generalize (c.run s).run.run host = answer
  obtain ⟨result, host'⟩ := answer
  cases result <;> rfl

theorem exists_of_tryBuild_bind {ε : Type} {s u : Supply} {c : BuildT (ExceptT ε Id) α}
    {f : α → BuildT (ExceptT ε Id) β} {b : β} (run : s.tryBuild (c >>= f) = .ok (b, u)) :
    ∃ a t, s.tryBuild c = .ok (a, t) ∧ t.tryBuild (f a) = .ok (b, u) := by
  rw [tryBuild_bind] at run
  cases first : s.tryBuild c with
  | error e =>
    rw [first] at run
    cases run
  | ok built =>
    rw [first] at run
    exact ⟨built.1, built.2, rfl, run⟩

theorem tryBuild_access {ε : Type} (s : Supply) (object : Expr) (m : Member) :
    s.tryBuild (object.access m ε) =
      if m.isDeclaredOn object.ty then .ok (.node ⟨s.next⟩ m.ty (.member object m), ⟨s.next + 1⟩)
      else .error (.memberMismatch m object.ty) := by
  unfold Expr.access
  split <;> rfl

theorem tryBuild_lambda (s : Supply) (params : List Expr) (body : Expr) :
    s.tryBuild (Expr.lambda params body) =
      if params.all Expr.isParameter then
        .ok (.node ⟨s.next⟩ (Expr.lambdaType params body) (.lambda params body), ⟨s.next + 1⟩)
      else .error .notParameters := by
  unfold Expr.lambda
  split <;> rfl

end Supply

end ExpressionGraphs
