import Mathlib.Data.List.Chain
import ExpressionGraphs.Expr.Form
import ExpressionGraphs.Proofs.MapperInput

set_option autoImplicit false

/-!
# Conversions one after another

A conversion of a member reference puts the answer of its mapper into a box, and the next one takes
it out again. A pipeline of conversions is therefore the pipeline of its mappers: each is given what
the one before has answered, boxed or not, and only the last answer is left in a box.
-/

namespace ExpressionGraphs

structure Stage (ε : Type) (m : Type → Type) where
  target : Ty
  mapper : ValueMapper ε m

variable {ε : Type} {m : Type → Type} [Monad m]

namespace Stage

def recording (stage : Stage ε m) : Stage ε (StateT (List Conversion) m) :=
  ⟨stage.target, stage.mapper.recording⟩

/-- The mappers asked in turn, each for the answer of the one before and from the type to which that
was converted, until one fails: what they are asked, and the last answer or the error. -/
def handOn : List (Stage ε m) → Value → Ty → m (List Conversion × Except ε Value)
  | [], value, _ => pure ([], .ok value)
  | stage :: rest, value, source => do
    match ← (stage.mapper value source stage.target).run with
    | .ok answer =>
      let handed ← handOn rest answer stage.target
      pure (⟨value, source, stage.target⟩ :: handed.1, handed.2)
    | .error error => pure ([⟨value, source, stage.target⟩], .error error)

theorem handOn_nil (value : Value) (source : Ty) :
    handOn ([] : List (Stage ε m)) value source = pure ([], .ok value) := rfl

theorem handOn_cons (stage : Stage ε m) (rest : List (Stage ε m)) (value : Value) (source : Ty) :
    handOn (stage :: rest) value source =
      (stage.mapper value source stage.target).run >>= fun
        | .ok answer => handOn rest answer stage.target >>= fun handed =>
          pure (⟨value, source, stage.target⟩ :: handed.1, handed.2)
        | .error error => pure ([⟨value, source, stage.target⟩], .error error) := rfl

theorem run_handOn_recording [LawfulMonad m] (stages : List (Stage ε m)) (value : Value)
    (source : Ty) (log : List Conversion) :
    StateT.run (handOn (stages.map recording) value source) log =
      (fun handed => (handed, log ++ handed.1)) <$> handOn stages value source := by
  induction stages generalizing value source log with
  | nil =>
    rw [List.map_nil, handOn_nil, handOn_nil, StateT.run_pure, map_pure, List.append_nil]
  | cons stage rest ih =>
    rw [List.map_cons, handOn_cons, handOn_cons, StateT.run_bind, map_bind]
    have asked : StateT.run (stage.recording.mapper value source stage.recording.target).run log =
        (fun answer => (answer, log ++ [⟨value, source, stage.target⟩])) <$>
          (stage.mapper value source stage.target).run :=
      stage.mapper.run_recording value source stage.target log
    rw [asked, bind_map_left]
    congr 1
    funext answer
    cases answer with
    | ok answer =>
      dsimp only
      rw [StateT.run_bind, map_bind]
      change StateT.run (handOn (rest.map recording) answer stage.target) _ >>= _ = _
      rw [ih, bind_map_left]
      congr 1
      funext handed
      rw [map_pure, List.append_assoc]
      rfl
    | error error =>
      rw [map_pure]
      rfl

end Stage

namespace Expr

/-- Converts an expression, then the outcome, and so on. It ends without an answer where a
conversion has none. -/
def mapThrough : List (Stage ε m) → Expr → BuildT (ExceptT ε m) (Option Expr)
  | [], e => return some e
  | stage :: rest, e => do
    match ← e.mapConstant stage.mapper stage.target with
    | some out => mapThrough rest out
    | none => return none

variable {e object : Expr} {member : Member} {value : Value} {c : EffectiveConstant}
  {stage : Stage ε m} {rest : List (Stage ε m)}

variable [LawfulMonad m]

theorem run_mapThrough_cons (found : e.asEffectiveConstant? = some c)
    (other : c.declaredType ≠ stage.target) (s : Supply) :
    ((e.mapThrough (stage :: rest)).run s).run =
      (stage.mapper c.value.unbox e.ty stage.target).run >>= fun
        | .ok answer =>
          (((s.build (builtConstant answer stage.target c.shape)).mapThrough rest).run
            (s.after (builtConstant answer stage.target c.shape))).run
        | .error error => pure (.error error) := by
  rw [mapThrough, StateT.run_bind, ExceptT.run_bind, run_mapConstant_of_other _ found other,
    bind_assoc]
  congr 1
  funext answer
  cases answer with
  | ok value => exact pure_bind _ _
  | error error => exact pure_bind _ _

theorem run_mapThrough_cons_of_later (found : e.asEffectiveConstant? = some c)
    (reference : c.shape = .memberOfConstant) (other : stage.target ≠ c.declaredType) (s : Supply)
    {outcome : Value → Option Expr × Supply}
    (later : ∀ value, (((s.build (builtConstant value stage.target .memberOfConstant)).mapThrough
        rest).run ⟨s.next + 2⟩).run =
      (fun handed => handed.2.map outcome) <$> Stage.handOn rest value stage.target) :
    ((e.mapThrough (stage :: rest)).run s).run =
      (fun handed => handed.2.map outcome) <$>
        Stage.handOn (stage :: rest) c.value.unbox e.ty := by
  rw [run_mapThrough_cons found other.symm, Stage.handOn_cons, map_bind, reference]
  congr 1
  funext answer
  cases answer with
  | ok value =>
    dsimp only
    rw [map_bind]
    refine (later value).trans ?_
    rw [map_eq_pure_bind]
    congr 1
    funext handed
    rw [map_pure]
  | error error =>
    rw [map_pure]
    rfl

/-- A member reference to the last answer of a pipeline, built after two nodes for each stage before
the last one. -/
def pipelineOutcome (s : Supply) (stage : Stage ε m) (rest : List (Stage ε m)) (value : Value) :
    Option Expr × Supply :=
  (some (Supply.build ⟨s.next + 2 * rest.length⟩
    (builtConstant value (rest.getLastD stage).target .memberOfConstant)),
    ⟨s.next + 2 * rest.length + 2⟩)

omit [Monad m] [LawfulMonad m] in
theorem pipelineOutcome_cons (s : Supply) (stage next : Stage ε m) (rest : List (Stage ε m)) :
    pipelineOutcome s stage (next :: rest) = pipelineOutcome ⟨s.next + 2⟩ next rest := by
  funext last
  have nodes : s.next + 2 + 2 * rest.length = s.next + 2 * (rest.length + 1) := by omega
  rw [pipelineOutcome, pipelineOutcome, List.length_cons, List.getLastD_cons, nodes]

/-- What is classified in one stage is the box that was built in the stage before. -/
theorem run_mapThrough (found : e.asEffectiveConstant? = some c)
    (reference : c.shape = .memberOfConstant) (other : stage.target ≠ c.declaredType)
    (chain : (stage :: rest).IsChain fun before after => after.target ≠ .holder before.target)
    (s : Supply) :
    ((e.mapThrough (stage :: rest)).run s).run =
      (fun handed => handed.2.map (pipelineOutcome s stage rest)) <$>
        Stage.handOn (stage :: rest) c.value.unbox e.ty := by
  induction rest generalizing e c stage s with
  | nil =>
    apply run_mapThrough_cons_of_later found reference other
    intro value
    rw [Stage.handOn_nil, map_pure]
    rfl
  | cons next rest ih =>
    obtain ⟨apart, chain'⟩ := List.isChain_cons_cons.1 chain
    rw [pipelineOutcome_cons]
    apply run_mapThrough_cons_of_later found reference other
    intro value
    exact ih (asEffectiveConstant?_built_member s value stage.target) rfl apart chain' _

theorem form_builtConstant (s t : Supply) (value : Value) (ty : Ty) (shape : ConstantShape) :
    (s.build (builtConstant value ty shape)).form =
      (t.build (builtConstant value ty shape)).form := by
  cases shape with
  | literal => exact form_node_eq_form_node _ _ _ _
  | memberOfConstant =>
    have boxes :=
      form_node_eq_form_node ⟨s.next⟩ ⟨t.next⟩ (.holder ty) (.constant (.boxed ty value))
    change (node _ _ (.member (node ⟨s.next⟩ _ _) _)).form =
      (node _ _ (.member (node ⟨t.next⟩ _ _) _)).form
    rw [form_node, form_node, Kind.map, Kind.map, boxes]

omit [LawfulMonad m] in
theorem pipelineOutcome_recording (s : Supply) (stage : Stage ε m) (rest : List (Stage ε m)) :
    pipelineOutcome s stage.recording (rest.map Stage.recording) =
      pipelineOutcome s stage rest := by
  have last : (rest.map Stage.recording).getLastD stage.recording =
      (rest.getLastD stage).recording := by
    simp [List.getLastD_eq_getLast?, List.getLast?_map]
  funext value
  rw [pipelineOutcome, pipelineOutcome, List.length_map, last]
  rfl

/-- A member of a constant is converted by a pipeline if its first target is not the type of the
constant and no target is the box of the one before. The run is that of the mappers: the first is
asked once for the value in the constant, out of its box, from the type of the access, every other
once for the answer of the one before, as it is, and an error ends the run. The last answer is found
in a member reference of the form that every build of it has. -/
theorem mapThrough_member (reference : e.kind = .member object member)
    (constant : object.asConstant? = some value) (other : stage.target ≠ object.ty)
    (chain : (stage :: rest).IsChain fun before after => after.target ≠ .holder before.target)
    (s : Supply) :
    ((e.mapThrough (stage :: rest)).run s).run =
      (fun handed => handed.2.map (pipelineOutcome s stage rest)) <$>
        Stage.handOn (stage :: rest) value.unbox e.ty ∧
    StateT.run ((e.mapThrough ((stage :: rest).map Stage.recording)).run s).run [] =
      (fun handed => (handed.2.map (pipelineOutcome s stage rest), handed.1)) <$>
        Stage.handOn (stage :: rest) value.unbox e.ty ∧
    ∀ (answer : Value) (t : Supply), (pipelineOutcome s stage rest answer).1.map form =
      some (t.build
        (builtConstant answer (rest.getLastD stage).target .memberOfConstant)).form := by
  have found := asEffectiveConstant?_of_member reference constant
  refine ⟨run_mapThrough found rfl other chain s, ?_, fun answer t => ?_⟩
  · have recorded_chain : (stage.recording :: rest.map Stage.recording).IsChain
        fun before after => after.target ≠ .holder before.target := by
      rw [← List.map_cons]
      exact (List.isChain_map Stage.recording).2 chain
    have recorded_other : stage.recording.target ≠ object.ty := other
    rw [List.map_cons, run_mapThrough found rfl recorded_other recorded_chain s,
      pipelineOutcome_recording, StateT.run_map, ← List.map_cons, Stage.run_handOn_recording]
    simp
  · rw [pipelineOutcome, Option.map_some, form_builtConstant _ t]

theorem mapThrough_member_limit :
    Sample.limit.kind = .member Sample.captured (.field Sample.closure "limit" .int) ∧
    Sample.captured.asConstant? = some Sample.environment ∧
    (Supply.tryBuildIn ⟨2⟩ [] (Sample.limit.mapThrough
        [Stage.recording (m := Id) ⟨.object, .answer (.boxed .int (.int 18))⟩,
          Stage.recording ⟨.string, .noConversion⟩])).2 =
      [⟨Sample.environment, .int, .object⟩, ⟨.boxed .int (.int 18), .object, .string⟩] := by
  refine ⟨rfl, rfl, ?_⟩
  have chain : List.IsChain (fun before after : Stage ConversionError Id =>
      after.target ≠ .holder before.target)
      [⟨.object, .answer (.boxed .int (.int 18))⟩, ⟨.string, .noConversion⟩] := by simp
  obtain ⟨_, recorded, _⟩ := mapThrough_member (m := Id) (e := Sample.limit) rfl rfl
    (by decide) chain ⟨2⟩
  exact congrArg Prod.snd recorded

end Expr

end ExpressionGraphs
