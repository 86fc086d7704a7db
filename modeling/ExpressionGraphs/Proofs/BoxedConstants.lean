import ExpressionGraphs.Proofs.Conversion
import ExpressionGraphs.Proofs.PathOutcome

set_option autoImplicit false

/-!
# Constants that are built

A constant that is built is recognized in the shape in which it was built, and the value that it
was built from is found in it. A member reference is what the path `Value` builds from the box in
every registry: boxes have that property without being registered, and no class can take it away.
-/

namespace ExpressionGraphs

theorem segments_holderValueName :
    segments Member.holderValueName = [Member.holderValueName] := by decide

namespace Registry

theorem resolver_holder {m : Type → Type} [Monad m] (r : Registry) (inner : Ty) :
    (r.resolver (.holder inner) Member.holderValueName).run =
      (pure (.ok (.holderValue inner)) : m _) := rfl

end Registry

namespace Expr

theorem tryBuild_accessPath_holderValue (r : Registry) {box : Expr} {inner : Ty}
    (typed : box.ty = .holder inner) (s : Supply) :
    s.tryBuild (box.accessPath r.resolver Member.holderValueName) =
      .ok (node ⟨s.next⟩ inner (.member box (.holderValue inner)), ⟨s.next + 1⟩) := by
  have declared : (Member.holderValue inner).isDeclaredOn box.ty = true := by
    rw [typed]
    exact decide_eq_true rfl
  have segment : s.tryBuild (box.accessSegment r.resolver Member.holderValueName) =
      s.tryBuild (box.access (.holderValue inner)) := by
    rw [tryBuild_accessSegment, typed, Registry.resolver_holder]
    rfl
  rw [accessPath, segments_holderValueName, List.foldlM_cons, Supply.tryBuild_bind, segment,
    Supply.tryBuild_access, if_pos declared]
  rfl

/-- A literal is recognized with its value under its own type. A member reference is recognized
through its box, which carries the value as it was given, be it a box itself. Either has the type
that was asked for, and the reference is what a registry builds from the box along `Value`, whatever
classes it knows. -/
theorem builtConstant_recognized (value : Value) (ty : Ty) (s : Supply) :
    (∃ c, (s.build (builtConstant value ty .literal)).asEffectiveConstant? = some c ∧
      c.shape = .literal ∧ c.value = value ∧ c.declaredType = ty) ∧
    (∃ c, (s.build (builtConstant value ty .memberOfConstant)).asEffectiveConstant? = some c ∧
      c.shape = .memberOfConstant ∧ c.value.unbox = value ∧ c.declaredType = .holder ty) ∧
    (∀ shape, (s.build (builtConstant value ty shape)).ty = ty) ∧
    ∀ (r : Registry) (t u : Supply),
      u.tryForm ((t.build (constant (.boxed ty value) (.holder ty))).accessPath r.resolver "Value") =
        .ok (s.build (builtConstant value ty .memberOfConstant)).form := by
  refine ⟨⟨_, asEffectiveConstant?_built_literal s value ty, rfl, rfl, rfl⟩,
    ⟨_, asEffectiveConstant?_built_member s value ty, rfl, rfl, rfl⟩,
    ty_build_builtConstant s value ty, fun r t u => ?_⟩
  have typed : (t.build (constant (.boxed ty value) (.holder ty))).ty = .holder ty := rfl
  have built := tryBuild_accessPath_holderValue r typed u
  have reference : Wraps (s.build (constant (.boxed ty value) (.holder ty))) [.holderValue ty]
      (s.build (builtConstant value ty .memberOfConstant)) := .access ⟨s.next + 1⟩ (.root _)
  rw [Supply.tryForm, show "Value" = Member.holderValueName from rfl, built]
  exact congrArg Except.ok (Wraps.form_eq (.access ⟨u.next⟩ (.root _)) reference
    (form_node_eq_form_node _ _ _ _))

end Expr

end ExpressionGraphs
