import ExpressionGraphs.Proofs.Assertions
import ExpressionGraphs.Proofs.Conversion
import ExpressionGraphs.Proofs.PathOutcome

set_option autoImplicit false

/-!
# The types of member accesses and lambdas

Whatever a program calls of the interface, with hosts that answer as they like, it arrives at
expressions whose lambdas declare parameter nodes and have the type of their parameters and body,
and whose accesses have the type of their member. Every call comes down to steps by which a state
within reach leads to another.
-/

namespace ExpressionGraphs

/-- A call of the interface, with assertions on: the expression obtained and the supply left. In a
fold the host first obtains the answers for the operands, by calls of its own from another supply
on. -/
inductive Calls (held : List Expr) (s : Supply) : Expr → Supply → Prop
  | basic {e : Expr} {t : Supply} (step : Obtains held s e t) : Calls held s e t
  | accessAll {σ : Type} {host host' : σ} {root e : Expr} {t : Supply} (mem : root ∈ held)
    (members : List Member)
    (run : s.tryBuildIn host (root.accessAll members) = (.ok (e, t), host')) : Calls held s e t
  | accessPath {σ ε : Type} {host host' : σ} {root e : Expr} {t : Supply} (mem : root ∈ held)
    (resolve : Resolver (StateM σ) ε) (path : String)
    (run : s.tryBuildIn host (root.accessPath resolve path) = (.ok (e, t), host')) :
    Calls held s e t
  | builtConstant (value : Value) (ty : Ty) (shape : ConstantShape) :
    Calls held s (s.build (Expr.builtConstant value ty shape))
      (s.after (Expr.builtConstant value ty shape))
  | mapConstant {σ ε : Type} {host host' : σ} {e out : Expr} {t : Supply} (mem : e ∈ held)
    (mapper : ValueMapper ε (StateM σ)) (target : Ty)
    (run : s.tryBuildIn host (e.mapConstant mapper target) = (.ok (some out, t), host')) :
    Calls held s out t
  | substitute {e new out : Expr} {t : Supply} (mem : e ∈ held) (old : Expr) (given : new ∈ held)
    (run : s.tryBuild (e.checkedSubstitute old new) = .ok (out, t)) : Calls held s out t
  | specialize {l : Lambda} {replacements : List Expr} {out : Expr} {t : Supply}
    (mem : l.body ∈ held) (given : ∀ r ∈ replacements, r ∈ held)
    (run : s.tryBuild (l.checkedSpecialize replacements) = .ok (out, t)) : Calls held s out t
  | fold {σ : Type} {host host' host'' : σ} {e out : Expr} {answers : List Expr} {start t : Supply}
    (mem : e ∈ held) (pass : Expr → BuildT (ExceptT LambdaError (StateM σ)) Expr)
    (answered : start.tryBuildIn host (e.kind.operands.mapM pass) = (.ok (answers, s), host'))
    (given : ∀ a ∈ answers, a ∈ held)
    (run : start.tryBuildIn host (e.checkedWalk pass) = (.ok (out, t), host'')) :
    Calls held s out t

inductive Obtainable : Supply → List Expr → Prop
  | start (s : Supply) : Obtainable s []
  | next {s t : Supply} {held : List Expr} {e : Expr} (before : Obtainable s held)
    (call : Calls held s e t) : Obtainable t (e :: held)

/-! ## Calls as steps within reach -/

theorem Offers.mono {held more : List Expr} (sub : held ⊆ more) {c : Build Expr}
    (offer : Offers held c) : Offers more c := by
  cases offer with
  | constant value ty => exact .constant value ty
  | parameter name ty => exact .parameter name ty
  | host label ty => exact .host label ty
  | member mem m => exact .member (sub mem) m
  | unary op mem ty => exact .unary op (sub mem) ty
  | binary op left right ty => exact .binary op (sub left) (sub right) ty
  | call function mem ty => exact .call function (fun arg inner => sub (mem arg inner)) ty
  | conditional first second third => exact .conditional (sub first) (sub second) (sub third)
  | walk mem given length => exact .walk (sub mem) (fun a inner => sub (given a inner)) length

theorem Obtains.mono {held more : List Expr} (sub : held ⊆ more) {s t : Supply} {e : Expr}
    (step : Obtains held s e t) : Obtains more s e t := by
  cases step with
  | child mem slot => exact .child (sub mem) slot
  | build offer => exact .build (offer.mono sub)
  | access mem m run => exact .access (sub mem) m run
  | lambda declared mem run => exact .lambda (fun p inner => sub (declared p inner)) (sub mem) run

/-- What is held before and what a call yields are within reach together, at the supply it leaves. -/
def Arrives (held : List Expr) (t : Supply) (out : Expr) : Prop :=
  ∃ more, held ⊆ more ∧ Reachable t more ∧ out ∈ more

section Arriving

variable {s t : Supply} {held more : List Expr} {e out : Expr}

theorem Arrives.trans (arrives : Arrives more t out) (sub : held ⊆ more) : Arrives held t out := by
  obtain ⟨last, kept, reach, mem⟩ := arrives
  exact ⟨last, fun _ old => kept (sub old), reach, mem⟩

theorem Reachable.arrives (reach : Reachable s held) (step : Obtains held s e t) :
    Arrives held t e :=
  ⟨e :: held, List.subset_cons_self _ _, reach.next step, List.mem_cons_self⟩

theorem Reachable.arrives_self (reach : Reachable s held) (mem : e ∈ held) : Arrives held s e :=
  ⟨held, List.Subset.refl held, reach, mem⟩

section Host

variable {σ ε : Type} {host host' : σ}

theorem arrives_foldlM {α : Type} {f : Expr → α → BuildT (ExceptT ε (StateM σ)) Expr}
    (step : ∀ {s t : Supply} {host host' : σ} {held : List Expr} {object e : Expr} {a : α},
      Reachable s held → object ∈ held →
      s.tryBuildIn host (f object a) = (.ok (e, t), host') → Arrives held t e)
    (reach : Reachable s held) {root : Expr} (mem : root ∈ held) {l : List α}
    (run : s.tryBuildIn host (l.foldlM f root) = (.ok (out, t), host')) : Arrives held t out := by
  induction l generalizing s held root host with
  | nil =>
    cases run
    exact reach.arrives_self mem
  | cons a l ih =>
    rw [List.foldlM_cons, Supply.tryBuildIn_bind] at run
    split at run
    · rename_i e u host'' first
      obtain ⟨more, kept, reach', e_mem⟩ := step reach mem first
      exact (ih reach' e_mem run).trans kept
    · cases run

theorem Reachable.arrives_access (reach : Reachable s held) {object : Expr} (mem : object ∈ held)
    {m : Member} (run : s.tryBuildIn host (object.access m ε) = (.ok (e, t), host')) :
    Arrives held t e := by
  unfold Expr.access at run
  split at run
  · rename_i declared
    cases run
    refine reach.arrives (.access mem m ?_)
    rw [Supply.tryBuild_access, if_pos declared]
  · cases run

theorem Reachable.arrives_accessSegment (reach : Reachable s held) {object : Expr}
    (mem : object ∈ held) {resolve : Resolver (StateM σ) ε} {segment : String}
    (run : s.tryBuildIn host (object.accessSegment resolve segment) = (.ok (e, t), host')) :
    Arrives held t e := by
  rw [Expr.accessSegment, Supply.tryBuildIn_lift_bind] at run
  split at run
  · exact reach.arrives_access mem run
  · cases run

end Host

theorem Reachable.arrives_builtConstant (reach : Reachable s held) (value : Value) (ty : Ty)
    (shape : ConstantShape) :
    Arrives held (s.after (Expr.builtConstant value ty shape))
      (s.build (Expr.builtConstant value ty shape)) := by
  cases shape with
  | literal => exact reach.arrives (.build (.constant value ty))
  | memberOfConstant =>
    have boxed := reach.next (.build (.constant (.boxed ty value) (.holder ty)))
    have arrives := boxed.arrives (.build (.member List.mem_cons_self (.holderValue ty)))
    exact arrives.trans (List.subset_cons_self _ _)

theorem Reachable.arrives_call (reach : Reachable s more) (sub : held ⊆ more)
    (call : Calls held s out t) : Arrives more t out := by
  cases call with
  | basic step => exact reach.arrives (step.mono sub)
  | accessAll mem members run =>
    exact arrives_foldlM (fun reach mem run => reach.arrives_access mem run) reach (sub mem) run
  | accessPath mem resolve path run =>
    exact arrives_foldlM (fun reach mem run => reach.arrives_accessSegment mem run) reach
      (sub mem) run
  | builtConstant value ty shape => exact reach.arrives_builtConstant value ty shape
  | mapConstant mem mapper target run =>
    obtain ⟨c, _, ⟨_, rfl, rfl, _⟩ | ⟨value, _, _, rfl, rfl⟩⟩ := Expr.mapConstant_cases run
    · exact reach.arrives_self (sub mem)
    · exact reach.arrives_builtConstant value target c.shape
  | substitute mem old given run =>
    rw [Expr.tryBuild_checkedSubstitute (reach.formed (sub mem))] at run
    cases run
    exact reach.substitute (sub mem) old (sub given)
  | specialize mem given run =>
    have within : ∀ r ∈ _, r ∈ more := fun r inner => sub (given r inner)
    rw [reach.tryBuild_checkedSpecialize (sub mem) within] at run
    cases run
    obtain ⟨last, kept, reach', out_mem, _⟩ := Lambda.specialize_induction reach (sub mem) within
      (motive := fun _ _ => True) trivial (by intros; trivial)
    exact ⟨last, kept, reach', out_mem⟩
  | fold mem pass answered given run =>
    have formed := reach.formed (sub mem) _ (Expr.mem_nodes_self _)
    rw [Expr.tryBuildIn_checkedWalk formed answered] at run
    cases run
    refine reach.arrives (.build (.walk (sub mem) (fun a inner => sub (given a inner)) ?_))
    exact Supply.length_of_tryBuildIn_mapM answered

end Arriving

/-- A program that calls the interface holds nothing that is out of reach. -/
theorem Obtainable.exists_reachable {s : Supply} {held : List Expr} (h : Obtainable s held) :
    ∃ more, held ⊆ more ∧ Reachable s more := by
  induction h with
  | start s => exact ⟨[], List.Subset.refl [], .start s⟩
  | next _ call ih =>
    obtain ⟨more, kept, reach⟩ := ih
    obtain ⟨last, kept', reach', out⟩ := reach.arrives_call kept call
    exact ⟨last, List.cons_subset.2 ⟨out, fun _ old => kept' (kept old)⟩, reach'⟩

theorem Reachable.obtainable {s : Supply} {held : List Expr} (reach : Reachable s held) :
    Obtainable s held := by
  induction reach with
  | start s => exact .start s
  | next _ step ih => exact ih.next (.basic step)

/-! ## The sum of two points under a host that answers `true` for everything -/

namespace Sample

def answerTrue : Expr → BuildT (ExceptT LambdaError (StateM Unit)) Expr := fun _ =>
  Expr.constant (.bool true) .bool

def always : Expr := .node ⟨7⟩ .bool (.constant (.bool true))

def predicate : Expr := .node ⟨8⟩ (.func [point, point] .bool) (.lambda [p, q] always)

theorem obtainable_predicate : Obtainable ⟨9⟩ (predicate :: always :: held) := by
  have built : Obtainable ⟨8⟩ (always :: held) :=
    reachable.obtainable.next (.basic (.build (.constant (.bool true) .bool)))
  have answered : Supply.tryBuildIn ⟨7⟩ () (sumOf.kind.operands.mapM answerTrue) =
      (.ok ([always], ⟨8⟩), ()) := rfl
  have run : Supply.tryBuildIn ⟨7⟩ () (sumOf.checkedWalk answerTrue) =
      (.ok (predicate, ⟨9⟩), ()) := rfl
  refine built.next (.fold ?_ answerTrue answered ?_ run)
  · simp [held]
  · simp

end Sample

theorem Expr.Formed.lambda {e : Expr} (formed : e.Formed) {params : List Expr} {body : Expr}
    (kind : e.kind = .lambda params body) :
    (∀ p ∈ params, p.isParameter = true) ∧ e.ty = .func (params.map Expr.ty) body.ty := by
  have declares := formed.declares
  have typed := formed.typed
  rw [kind] at declares typed
  exact ⟨declares, typed _ rfl⟩

theorem Expr.Formed.member {e : Expr} (formed : e.Formed) {object : Expr} {m : Member}
    (kind : e.kind = .member object m) : e.ty = m.ty := by
  have typed := formed.typed
  rw [kind] at typed
  exact typed _ rfl

/-- Of all that a program can obtain, a lambda declares parameter nodes alone and has the type of
its parameters and its body, and an access has the type of its member, wherever they stand. For a
pass this means that the assertion never fails: a step succeeds where the host's pass does for the
operands, in every host a pass with assertions is the pass without them, and substitutions and
specializations always come to their end. -/
theorem Obtainable.node_typing {s : Supply} {held : List Expr} (h : Obtainable s held) :
    (∀ e ∈ held, ∀ node ∈ e.nodes,
      (∀ params body, node.kind = .lambda params body →
        (∀ p ∈ params, p.isParameter = true) ∧ node.ty = .func (params.map Expr.ty) body.ty) ∧
      (∀ object m, node.kind = .member object m → node.ty = m.ty) ∧
      ∀ {σ : Type} (pass : Expr → BuildT (ExceptT LambdaError (StateM σ)) Expr) answers
        (start t : Supply) (host host' : σ),
        start.tryBuildIn host (node.kind.operands.mapM pass) = (.ok (answers, t), host') →
        start.tryBuildIn host (node.checkedWalk pass) =
          (.ok (t.build (node.withOperands answers), t.after (node.withOperands answers)),
            host')) ∧
    (∀ e ∈ held, ∀ {n : Type → Type} [Monad n]
      (replace : Expr → BuildT (ExceptT LambdaError n) (Option Expr)),
      e.checkedTransform replace = e.transform replace) ∧
    (∀ e ∈ held, ∀ old new,
      s.tryBuild (e.checkedSubstitute old new) =
        .ok (s.build (e.substitute old new), s.after (e.substitute old new))) ∧
    ∀ l : Lambda, l.body ∈ held → ∀ replacements, (∀ r ∈ replacements, r ∈ held) →
      s.tryBuild (l.checkedSpecialize replacements) =
        .ok (s.build (l.specialize replacements), s.after (l.specialize replacements)) := by
  obtain ⟨more, kept, reach⟩ := h.exists_reachable
  have formed : ∀ e ∈ held, ∀ node ∈ e.nodes, node.Formed := fun e mem => reach.formed (kept mem)
  refine ⟨fun e mem node inner => ⟨?_, ?_, ?_⟩, ?_, ?_, ?_⟩
  · exact fun _ _ => (formed e mem node inner).lambda
  · exact fun _ _ => (formed e mem node inner).member
  · exact fun _ _ _ _ _ _ => Expr.tryBuildIn_checkedWalk (formed e mem node inner)
  · exact fun e mem _ _ => Expr.checkedTransform_eq (formed e mem)
  · exact fun e mem old new => Expr.tryBuild_checkedSubstitute (formed e mem) old new s
  · exact fun l body replacements given =>
      reach.tryBuild_checkedSpecialize (kept body) fun r mem => kept (given r mem)

theorem Obtainable.node_typing_predicate :
    Obtainable ⟨9⟩ (Sample.predicate :: Sample.always :: Sample.held) ∧
    (∀ e ∈ [Sample.p, Sample.q], e.isParameter = true) ∧
    Sample.predicate.ty = .func [Sample.p.ty, Sample.q.ty] Sample.always.ty := by
  refine ⟨Sample.obtainable_predicate, ?_⟩
  have typed := (node_typing Sample.obtainable_predicate).1 Sample.predicate List.mem_cons_self
    Sample.predicate Sample.predicate.mem_nodes_self
  exact typed.1 [Sample.p, Sample.q] Sample.always rfl

end ExpressionGraphs
