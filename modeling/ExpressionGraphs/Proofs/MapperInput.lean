import ExpressionGraphs.Proofs.Conversion

set_option autoImplicit false

/-!
# What a mapper is asked

A conversion asks its mapper at most once, for the value that the constant node holds. Out of a box
that is the value which the `Value` of the box would yield. Out of a captured environment it is the
environment: the member that is accessed decides the source type alone, and no field is looked up.
-/

namespace ExpressionGraphs

theorem Value.ne_of_mem_fields {className name : String} {fields : List (String × Value)}
    {held : Value} (mem : (name, held) ∈ fields) : record className fields ≠ held := by
  rintro rfl
  have smaller := List.sizeOf_lt_of_mem mem
  simp at smaller
  omega

theorem ValueMapper.run_recording {ε : Type} {m : Type → Type} [Monad m] [LawfulMonad m]
    (mapper : ValueMapper ε m) (value : Value) (source target : Ty) (log : List Conversion) :
    StateT.run (mapper.recording value source target).run log =
      (fun answer => (answer, log ++ [⟨value, source, target⟩])) <$>
        (mapper value source target).run := by
  rw [recording, ExceptT.run_mk, StateT.run_bind, StateT.run_modify, pure_bind, map_eq_pure_bind]
  rfl

namespace Expr

variable {ε : Type} {m : Type → Type} [Monad m] {e object : Expr} {member : Member}
  {value : Value} {target : Ty}

def conversions (e : Expr) (target : Ty) : List Conversion :=
  match e.asEffectiveConstant? with
  | none => []
  | some c => if c.declaredType = target then [] else [⟨c.value.unbox, e.ty, target⟩]

section Monad

variable [LawfulMonad m]

theorem run_mapConstant_recording (mapper : ValueMapper ε m) (target : Ty) (e : Expr) (s : Supply)
    (log : List Conversion) :
    StateT.run ((e.mapConstant mapper.recording target).run s).run log =
      (fun result => (result, log ++ e.conversions target)) <$>
        ((e.mapConstant mapper target).run s).run := by
  -- the two cases in which the mapper is not asked
  have unasked (out : Option Expr) (none : e.conversions target = []) :
      StateT.run (StateT.run (return out : BuildT (ExceptT ε (StateT (List Conversion) m)) _) s).run
          log =
        (fun result => (result, log ++ e.conversions target)) <$>
          (StateT.run (return out : BuildT (ExceptT ε m) (Option Expr)) s).run := by
    rw [none, List.append_nil, StateT.run_pure, StateT.run_pure, ExceptT.run_pure, ExceptT.run_pure,
      StateT.run_pure, map_pure]
  cases found : e.asEffectiveConstant? with
  | none =>
    rw [mapConstant_of_none _ target found, mapConstant_of_none _ target found]
    exact unasked none (by rw [conversions, found])
  | some c =>
    by_cases declared : c.declaredType = target
    · rw [mapConstant_of_declared _ found declared, mapConstant_of_declared _ found declared]
      exact unasked (some e) (by rw [conversions, found]; exact if_pos declared)
    · have asked : e.conversions target = [⟨c.value.unbox, e.ty, target⟩] := by
        rw [conversions, found]
        exact if_neg declared
      rw [run_mapConstant_of_other _ found declared, run_mapConstant_of_other _ found declared,
        StateT.run_bind, ValueMapper.run_recording, bind_map_left, map_bind, asked]
      congr 1
      funext answer
      rw [StateT.run_pure, map_pure]

/-- For a member of a constant the mapper is asked once, from the type of the access, unless the
constant is declared with the target type. If the constant is a box it is asked for the value that
the box carries. If it is a record it is asked for the record itself, whatever the member, and so
never for the value of the field that has the name of the member. -/
theorem conversions_member (mapper : ValueMapper ε m) (target : Ty) (s : Supply)
    (reference : e.kind = .member object member) (constant : object.asConstant? = some value) :
    StateT.run ((e.mapConstant mapper.recording target).run s).run [] =
      (fun result => (result, e.conversions target)) <$> ((e.mapConstant mapper target).run s).run ∧
    (e.conversions target = [] ↔ object.ty = target) ∧
    ∀ asked ∈ e.conversions target, e.conversions target = [asked] ∧
      asked.source = e.ty ∧ asked.target = target ∧
      (∀ ty carried, value = .boxed ty carried → asked.value = carried) ∧
      (∀ className fields, value = .record className fields → asked.value = value ∧
        ∀ held, (member.name, held) ∈ fields → asked.value ≠ held) := by
  have found := asEffectiveConstant?_of_member reference constant
  have log : e.conversions target =
      if object.ty = target then [] else [⟨value.unbox, e.ty, target⟩] := by
    rw [conversions, found]
    rfl
  refine ⟨run_mapConstant_recording mapper target e s [], ?_, fun asked mem => ?_⟩
  · rw [log]
    split <;> simp [*]
  · rw [log] at mem ⊢
    by_cases declared : object.ty = target
    · rw [if_pos declared] at mem
      cases mem
    · rw [if_neg declared] at mem ⊢
      cases List.mem_singleton.1 mem
      refine ⟨rfl, rfl, rfl, ?_, ?_⟩
      · rintro ty carried rfl
        rfl
      · rintro className fields rfl
        exact ⟨rfl, fun held mem => Value.ne_of_mem_fields mem⟩

end Monad

theorem conversions_member_limit :
    Sample.limit.kind = .member Sample.captured (.field Sample.closure "limit" .int) ∧
    Sample.captured.asConstant? = some Sample.environment ∧
    (Supply.tryBuildIn ⟨2⟩ [] (Sample.limit.mapConstant (.recording (m := Id) .keep) .string)).2 =
      [⟨Sample.environment, .int, .string⟩] := by
  refine ⟨rfl, rfl, ?_⟩
  obtain ⟨run, _, _⟩ :=
    conversions_member (m := Id) .keep .string ⟨2⟩ (e := Sample.limit) rfl rfl
  exact congrArg Prod.snd run

/-- The environment is handed on for the limit of 18 that it holds. -/
theorem conversions_member_ne_field :
    ¬ ∀ {ε : Type} (mapper : ValueMapper ε Id) (target : Ty) (held : List Expr) (e object : Expr)
      (member : Member) (className : String) (fields : List (String × Value)) (value : Value)
      (s : Supply), Reachable s held → e ∈ held → e.kind = .member object member →
      object.kind = .constant (.record className fields) → (member.name, value) ∈ fields →
      ∀ asked ∈ (s.tryBuildIn [] (e.mapConstant mapper.recording target)).2,
        asked.value = value := by
  intro handed
  have wrong : Sample.environment = .int 18 := handed .keep .string _ _ _ _ _ _ (.int 18) _
    Sample.reachable_limit List.mem_cons_self rfl rfl List.mem_cons_self
    ⟨Sample.environment, .int, .string⟩ List.mem_cons_self
  cases wrong

end Expr

end ExpressionGraphs
