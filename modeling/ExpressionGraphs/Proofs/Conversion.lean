import ExpressionGraphs.Constant.Mappers
import ExpressionGraphs.Proofs.Reachability

set_option autoImplicit false

/-!
# Constants converted

A conversion asks its mapper unless the constant node is declared with the target type. For a
literal that node is the expression itself, so that the outcome has the target type and converts to
itself from then on. A member reference is seen through the constant below it, whose type is another
one: declared with the target type, it lets the reference through as it is, and for a reference that
was built by a conversion it is a box, so that the mapper is asked again.
-/

namespace ExpressionGraphs

namespace Expr

variable {σ ε : Type} {e out : Expr} {c : EffectiveConstant} {target : Ty} {s t : Supply}
  {host host' : σ}

section Monad

variable {m : Type → Type} [Monad m]

theorem mapConstant_of_none (mapper : ValueMapper ε m) (target : Ty)
    (h : e.asEffectiveConstant? = none) : e.mapConstant mapper target = return none := by
  rw [mapConstant, h]

theorem mapConstant_of_declared (mapper : ValueMapper ε m) (h : e.asEffectiveConstant? = some c)
    (declared : c.declaredType = target) : e.mapConstant mapper target = return some e := by
  rw [mapConstant, h]
  exact if_pos declared

theorem mapConstant_of_other (mapper : ValueMapper ε m) (h : e.asEffectiveConstant? = some c)
    (other : c.declaredType ≠ target) :
    e.mapConstant mapper target = do
      let value ← mapper c.value.unbox e.ty target
      return some (← builtConstant value target c.shape) := by
  rw [mapConstant, h]
  exact if_neg other

variable [LawfulMonad m]

theorem run_builtConstant (s : Supply) (value : Value) (ty : Ty) (shape : ConstantShape) :
    StateT.run (builtConstant value ty shape : BuildT m Expr) s =
      pure (s.build (builtConstant value ty shape), s.after (builtConstant value ty shape)) := by
  cases shape with
  | literal => rfl
  | memberOfConstant => exact pure_bind _ _

theorem run_mapConstant_of_other (mapper : ValueMapper ε m)
    (h : e.asEffectiveConstant? = some c) (other : c.declaredType ≠ target) (s : Supply) :
    ((e.mapConstant mapper target).run s).run =
      (mapper c.value.unbox e.ty target).run >>= fun answer => pure (answer.map fun value =>
        (some (s.build (builtConstant value target c.shape)),
          s.after (builtConstant value target c.shape))) := by
  rw [mapConstant_of_other mapper h other, Supply.run_liftM_bind]
  congr 1
  funext answer
  cases answer with
  | error error => rfl
  | ok value =>
    change ExceptT.run (StateT.run (builtConstant value target c.shape >>= fun e =>
      pure (some e)) s) = _
    rw [StateT.run_bind, run_builtConstant, pure_bind]
    rfl

end Monad

theorem ty_build_builtConstant (s : Supply) (value : Value) (ty : Ty) (shape : ConstantShape) :
    (s.build (builtConstant value ty shape)).ty = ty := by
  cases shape <;> rfl

theorem asEffectiveConstant?_built_literal (s : Supply) (value : Value) (ty : Ty) :
    (s.build (builtConstant value ty .literal)).asEffectiveConstant? =
      some ⟨s.build (constant value ty), value, .literal⟩ := rfl

theorem asEffectiveConstant?_built_member (s : Supply) (value : Value) (ty : Ty) :
    (s.build (builtConstant value ty .memberOfConstant)).asEffectiveConstant? =
      some ⟨s.build (constant (.boxed ty value) (.holder ty)), .boxed ty value,
        .memberOfConstant⟩ := rfl

theorem asEffectiveConstant?_of_member {object : Expr} {member : Member} {value : Value}
    (reference : e.kind = .member object member) (constant : object.asConstant? = some value) :
    e.asEffectiveConstant? = some ⟨object, value, .memberOfConstant⟩ := by
  rw [asEffectiveConstant?, reference]
  change object.asConstant?.map _ = _
  rw [constant, Option.map_some]

theorem constant_of_literal (h : e.asEffectiveConstant? = some c) (literal : c.shape = .literal) :
    c.constant = e := by
  unfold asEffectiveConstant? at h
  split at h
  · cases h
    rfl
  · obtain ⟨value, _, rfl⟩ := Option.map_eq_some_iff.1 h
    cases literal
  · cases h

theorem mapConstant_cases {mapper : ValueMapper ε (StateM σ)}
    (run : s.tryBuildIn host (e.mapConstant mapper target) = (.ok (some out, t), host')) :
    ∃ c, e.asEffectiveConstant? = some c ∧
      ((c.declaredType = target ∧ out = e ∧ t = s ∧ host' = host) ∨
        ∃ value, c.declaredType ≠ target ∧
          ((mapper c.value.unbox e.ty target).run.run host).run = (.ok value, host') ∧
          out = s.build (builtConstant value target c.shape) ∧
          t = s.after (builtConstant value target c.shape)) := by
  cases found : e.asEffectiveConstant? with
  | none =>
    rw [mapConstant_of_none mapper target found] at run
    cases run
  | some c =>
    refine ⟨c, rfl, ?_⟩
    by_cases declared : c.declaredType = target
    · rw [mapConstant_of_declared mapper found declared] at run
      cases run
      exact .inl ⟨declared, rfl, rfl, rfl⟩
    · rw [Supply.tryBuildIn, run_mapConstant_of_other mapper found declared, StateT.run_bind] at run
      cases answer : (mapper c.value.unbox e.ty target).run.run host with
      | mk result _ =>
        rw [answer] at run
        cases result with
        | ok value =>
          cases run
          exact .inr ⟨value, declared, rfl, rfl, rfl⟩
        | error => cases run

end Expr

/-! ## A limit of 18 captured in a closure, and the box that it is converted to -/

namespace Sample

def closure : Ty := .named "Closure"

def environment : Value := .record "Closure" [("limit", .int 18)]

def captured : Expr := .node ⟨0⟩ closure (.constant environment)

def limit : Expr := .node ⟨1⟩ .int (.member captured (.field closure "limit" .int))

def boxedLimit : Expr := Supply.build ⟨2⟩ (Expr.builtConstant (.int 18) .int .memberOfConstant)

theorem reachable_limit : Reachable ⟨2⟩ [limit, captured] :=
  ((Reachable.start ⟨0⟩).next (.build (.constant environment closure))).next
    (.access (show captured ∈ [captured] by simp) (.field closure "limit" .int) rfl)

theorem limit_run : Supply.tryBuildIn ⟨2⟩ () (limit.mapConstant (.answer (.int 18)) .int) =
    (.ok (some boxedLimit, ⟨4⟩), ()) := rfl

end Sample

namespace Expr

variable {σ ε : Type} {e out : Expr} {target : Ty} {s t : Supply} {host host' : σ}

/-- The outcome has the target type, unless the constant below a member reference is declared with
that type: then the reference is let through, whatever its own type. -/
theorem ty_of_mapConstant {mapper : ValueMapper ε (StateM σ)}
    (run : s.tryBuildIn host (e.mapConstant mapper target) = (.ok (some out, t), host')) :
    ∃ c, e.asEffectiveConstant? = some c ∧
      if c.isMemberReference ∧ c.declaredType = target then out = e else out.ty = target := by
  obtain ⟨c, found, ⟨declared, rfl, _, _⟩ | ⟨value, other, _, rfl, _⟩⟩ := mapConstant_cases run
  · refine ⟨c, found, ?_⟩
    split
    · rfl
    · rename_i literal
      have shape : c.shape = .literal := by
        cases shape : c.shape with
        | literal => rfl
        | memberOfConstant => exact absurd ⟨decide_eq_true shape, declared⟩ literal
      rw [← constant_of_literal found shape]
      exact declared
  · refine ⟨c, found, ?_⟩
    rw [if_neg fun both => other both.2]
    exact ty_build_builtConstant s value target c.shape

theorem ty_of_mapConstant_limit :
    Supply.tryBuildIn ⟨2⟩ () (Sample.limit.mapConstant (.answer (.int 18)) .int) =
      (.ok (some Sample.boxedLimit, ⟨4⟩), ()) ∧ Sample.boxedLimit.ty = .int := by
  refine ⟨Sample.limit_run, ?_⟩
  obtain ⟨c, found, typed⟩ := ty_of_mapConstant Sample.limit_run
  cases found
  exact typed

/-- The limit is let through as a constant of the closure's type. -/
theorem ty_of_mapConstant_ne_target :
    ¬ ∀ {σ ε : Type} (mapper : ValueMapper ε (StateM σ)) (target : Ty) (held : List Expr)
      (e out : Expr) (s t : Supply) (host host' : σ), Reachable s held → e ∈ held →
      s.tryBuildIn host (e.mapConstant mapper target) = (.ok (some out, t), host') →
        out.ty = target := by
  intro typed
  have run : Supply.tryBuildIn ⟨2⟩ () (Sample.limit.mapConstant .keep Sample.closure) =
      (.ok (some Sample.limit, ⟨2⟩), ()) := rfl
  have wrong : Sample.limit.ty = Sample.closure := typed _ _ _ _ _ _ _ _ _ Sample.reachable_limit
    List.mem_cons_self run
  cases wrong

/-- Converted to the same type again, a literal and a constant that was let through are their own
answer and the mapper is not asked. A member reference that was rebuilt is not declared with that
type: the mapper is asked for the value that it carries, from the type to itself, and the reference
is built anew from the answer. -/
theorem mapConstant_mapConstant {mapper : ValueMapper ε (StateM σ)}
    (run : s.tryBuildIn host (e.mapConstant mapper target) = (.ok (some out, t), host')) :
    ∃ c, e.asEffectiveConstant? = some c ∧
      (c.shape = .literal ∨ c.declaredType = target →
        ∀ {δ : Type} {m : Type → Type} [Monad m] (again : ValueMapper δ m),
          out.mapConstant again target = return some out) ∧
      (c.shape = .memberOfConstant → c.declaredType ≠ target →
        ∃ value, ((mapper c.value.unbox e.ty target).run.run host).run = (.ok value, host') ∧
          ∀ {δ : Type} {m : Type → Type} [Monad m] (again : ValueMapper δ m),
            out.mapConstant again target = do
              let next ← again value target target
              return some (← builtConstant next target .memberOfConstant)) := by
  obtain ⟨c, found, ⟨declared, rfl, _, _⟩ | ⟨value, other, answer, rfl, _⟩⟩ := mapConstant_cases run
  · refine ⟨c, found, ?_, fun _ other => absurd declared other⟩
    intro _ δ m _ again
    exact mapConstant_of_declared again found declared
  · refine ⟨c, found, ?_, ?_⟩
    · rintro (literal | declared) δ m _ again
      · rw [literal]
        exact mapConstant_of_declared again (asEffectiveConstant?_built_literal s value target) rfl
      · exact absurd declared other
    · intro shape _
      refine ⟨value, answer, ?_⟩
      intro δ m _ again
      have box : Ty.holder target ≠ target := by
        intro equal
        have := congrArg sizeOf equal
        simp at this
      rw [shape, mapConstant_of_other again (asEffectiveConstant?_built_member s value target) box,
        ty_build_builtConstant]
      rfl

theorem mapConstant_mapConstant_limit :
    Supply.tryBuildIn ⟨2⟩ () (Sample.limit.mapConstant (.answer (.int 18)) .int) =
      (.ok (some Sample.boxedLimit, ⟨4⟩), ()) ∧
    Sample.boxedLimit.mapConstant (ValueMapper.noConversion (m := Id)) .int = do
      let next ← ValueMapper.noConversion (m := Id) (.int 18) .int .int
      return some (← builtConstant next .int .memberOfConstant) := by
  refine ⟨Sample.limit_run, ?_⟩
  obtain ⟨c, found, _, asked⟩ := mapConstant_mapConstant Sample.limit_run
  cases found
  obtain ⟨value, answer, again⟩ := asked rfl (by decide)
  cases answer
  exact again .noConversion

/-- The box is not declared as an integer, so that the second mapper is asked, and refuses. -/
theorem mapConstant_asks_again :
    ¬ ∀ {σ ε : Type} (mapper : ValueMapper ε (StateM σ)) (target : Ty) (held : List Expr)
      (e out : Expr) (s t : Supply) (host host' : σ), Reachable s held → e ∈ held →
      s.tryBuildIn host (e.mapConstant mapper target) = (.ok (some out, t), host') →
        ∀ {δ : Type} {m : Type → Type} [Monad m] (again : ValueMapper δ m),
          out.mapConstant again target = return some out := by
  intro kept
  have same := kept _ _ _ _ _ _ _ _ _ Sample.reachable_limit List.mem_cons_self Sample.limit_run
    (ValueMapper.noConversion (m := StateM Unit))
  have refused := congrArg (Supply.tryBuildIn ⟨4⟩ ()) same
  cases refused

end Expr

end ExpressionGraphs
