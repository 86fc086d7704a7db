import ExpressionGraphs.Expr.Form
import ExpressionGraphs.Proofs.PathRoundTrip

set_option autoImplicit false

/-!
# The outcome of following a path

A path is followed for as long as its segments resolve to members that are declared on the types
they were resolved on. The first segment that does not decides the error, and no segment behind it
is asked. A path followed to its end builds the accesses to the members that its cursor answers.
-/

namespace ExpressionGraphs

def Ty.behind (ty : Ty) (members : List Member) : Ty := (members.getLast?.map Member.ty).getD ty

theorem Ty.behind_cons (ty : Ty) (m : Member) (members : List Member) :
    ty.behind (m :: members) = m.ty.behind members := by
  rw [behind, behind, List.getLast?_cons, Option.map_some, Option.getD_some, Option.getD_map]

def Accepted : Ty → List Member → Prop
  | _, [] => True
  | ty, m :: members => m.isDeclaredOn ty = true ∧ Accepted m.ty members

inductive Refuses {ε : Type} (resolve : Resolver Id ε) (ty : Ty) (segment : String) :
    AccessError ε → Prop
  | unresolved {error : AccessError ε} (answer : (resolve ty segment).run = pure (.error error)) :
    Refuses resolve ty segment error
  | undeclared {m : Member} (answer : (resolve ty segment).run = pure (.ok m))
    (other : m.isDeclaredOn ty = false) : Refuses resolve ty segment (.memberMismatch m ty)

/-- What is asked along a path: the first segment on the given type, any other on the type of the
member before. -/
def queries (ty : Ty) (path : List String) (members : List Member) : List Query :=
  List.zipWith Query.mk (ty :: members.map Member.ty) path

/-- At most so many answers of a cursor, each put around the expression before the next is asked
for. -/
def PathCursor.accessEach {m : Type → Type} [Monad m] {ε : Type} (resolve : Resolver m ε) :
    Nat → PathCursor → Expr → BuildT (ExceptT (AccessError ε) m) Expr
  | 0, _, e => return e
  | n + 1, cursor, e => do
    match ← (ExceptT.lift (cursor.next? resolve) : ExceptT (AccessError ε) m _) with
    | none => return e
    | some (.ok member, cursor) => accessEach resolve n cursor (← e.access member ε)
    | some (.error error, _) => throw error

def Supply.tryForm {ε : Type} (s : Supply) (c : BuildT (ExceptT ε Id) Expr) : Except ε Form :=
  (s.tryBuild c).map fun built => built.1.form

section Following

variable {ε : Type} {resolve : Resolver Id ε}

theorem exists_followed (resolve : Resolver Id ε) (ty : Ty) (path : List String) :
    (∃ members, Resolves resolve ty path members ∧ Accepted ty members) ∨
      ∃ before segment rest members error, path = before ++ segment :: rest ∧
        Resolves resolve ty before members ∧ Accepted ty members ∧
        Refuses resolve (ty.behind members) segment error := by
  induction path generalizing ty with
  | nil => exact .inl ⟨[], .nil ty, trivial⟩
  | cons segment rest ih =>
    cases answer : (resolve ty segment).run.run with
    | error error =>
      exact .inr ⟨[], segment, rest, [], error, rfl, .nil ty, trivial, .unresolved answer⟩
    | ok m =>
      by_cases declared : m.isDeclaredOn ty = true
      · rcases ih m.ty with ⟨members, resolves, accepted⟩ |
          ⟨before, stop, rest, members, error, rfl, resolves, accepted, refuses⟩
        · exact .inl ⟨m :: members, .cons answer resolves, declared, accepted⟩
        · refine .inr ⟨segment :: before, stop, rest, m :: members, error, rfl,
            .cons answer resolves, ⟨declared, accepted⟩, ?_⟩
          rw [Ty.behind_cons]
          exact refuses
      · exact .inr ⟨[], segment, rest, [], _, rfl, .nil ty, trivial,
          .undeclared answer (Bool.of_not_eq_true declared)⟩

theorem Resolves.queries_concat {ty : Ty} {path : List String} {members : List Member}
    (resolves : Resolves resolve ty path members) (segment : String) :
    queries ty (path ++ [segment]) members =
      queries ty path members ++ [⟨ty.behind members, segment⟩] := by
  induction resolves with
  | nil => rfl
  | cons _ _ ih =>
    rw [Ty.behind_cons]
    exact congrArg (List.cons _) ih

end Following

namespace Expr

variable {ε : Type} {resolve : Resolver Id ε} {root e : Expr} {members : List Member}

theorem Wraps.ty_eq (wraps : Wraps root members e) : e.ty = root.ty.behind members := by
  induction wraps with
  | root => rfl
  | access id _ ih => rw [ih, Ty.behind_cons]; rfl

theorem Wraps.form_eq {root' e' : Expr} (wraps : Wraps root members e)
    (wraps' : Wraps root' members e') (same : root.form = root'.form) : e.form = e'.form := by
  induction wraps generalizing root' with
  | root => cases wraps'; exact same
  | access id _ ih =>
    cases wraps' with
    | access id' rest' =>
      refine ih rest' ?_
      rw [form_node, form_node]
      exact congrArg (fun object => Form.node _ (.member object _)) same

theorem tryBuild_accessAll_cons (s : Supply) (root : Expr) (m : Member) (members : List Member) :
    s.tryBuild (root.accessAll (m :: members)) =
      if m.isDeclaredOn root.ty = true then
        Supply.tryBuild ⟨s.next + 1⟩ ((node ⟨s.next⟩ m.ty (.member root m)).accessAll members)
      else .error (.memberMismatch m root.ty) := by
  rw [accessAll, List.foldlM_cons, Supply.tryBuild_bind, Supply.tryBuild_access]
  split <;> rfl

theorem wraps_accessAll (accepted : Accepted root.ty members) (s : Supply) :
    ∃ e t, s.tryBuild (root.accessAll members) = .ok (e, t) ∧ Wraps root members e := by
  induction members generalizing root s with
  | nil => exact ⟨root, s, rfl, .root root⟩
  | cons m members ih =>
    obtain ⟨declared, accepted⟩ := accepted
    have next : Accepted (node ⟨s.next⟩ m.ty (.member root m)).ty members := accepted
    obtain ⟨e, t, run, wraps⟩ := ih next ⟨s.next + 1⟩
    refine ⟨e, t, ?_, .access _ wraps⟩
    rw [tryBuild_accessAll_cons, if_pos declared]
    exact run

theorem tryBuildIn_accessSegment (s : Supply) (log : List Query) (object : Expr)
    (segment : String) :
    s.tryBuildIn log (object.accessSegment (Resolver.recording resolve) segment) =
      (s.tryBuild (object.accessSegment resolve segment), log ++ [⟨object.ty, segment⟩]) := by
  rw [tryBuild_accessSegment, accessSegment, Supply.tryBuildIn_lift_bind]
  have asked : ((Resolver.recording resolve object.ty segment).run.run log).run =
      ((resolve object.ty segment).run.run, log ++ [⟨object.ty, segment⟩]) := rfl
  rw [asked]
  cases (resolve object.ty segment).run.run with
  | error error => rfl
  | ok m =>
    change s.tryBuildIn _ (object.access m ε) = (s.tryBuild (object.access m ε), _)
    rw [Supply.tryBuild_access]
    unfold access
    split <;> rfl

theorem tryBuildIn_accessPath_fst (s : Supply) (log : List Query) (root : Expr) (path : String) :
    (s.tryBuildIn log (root.accessPath (Resolver.recording resolve) path)).1 =
      s.tryBuild (root.accessPath resolve path) := by
  unfold accessPath
  induction segments path generalizing s log root with
  | nil => rfl
  | cons segment rest ih =>
    rw [List.foldlM_cons, List.foldlM_cons, Supply.tryBuildIn_bind, Supply.tryBuild_bind,
      tryBuildIn_accessSegment]
    cases s.tryBuild (root.accessSegment resolve segment) with
    | error error => rfl
    | ok built => exact ih built.2 _ built.1

theorem follow {before : List String} (resolves : Resolves resolve root.ty before members)
    (accepted : Accepted root.ty members) (s : Supply) (log : List Query) :
    ∃ e, ∃ t : Supply, Wraps root members e ∧ ∀ rest : List String,
      s.tryBuildIn log ((before ++ rest).foldlM (accessSegment (Resolver.recording resolve)) root) =
        t.tryBuildIn (log ++ queries root.ty before members)
          (rest.foldlM (accessSegment (Resolver.recording resolve)) e) := by
  -- by induction on what is resolved: every step moves the root, the supply and the log along
  generalize start : root.ty = ty at *
  induction resolves generalizing root s log with
  | nil =>
    refine ⟨root, s, .root root, fun rest => ?_⟩
    rw [queries, List.zipWith_nil_right, List.append_nil]
    rfl
  | @cons _ segment before m members answer _ ih =>
    subst start
    obtain ⟨declared, accepted⟩ := accepted
    have next : (node ⟨s.next⟩ m.ty (.member root m)).ty = m.ty := rfl
    obtain ⟨e, t, wraps, run⟩ :=
      ih ⟨s.next + 1⟩ (log ++ [⟨root.ty, segment⟩]) next accepted
    refine ⟨e, t, .access _ wraps, fun rest => ?_⟩
    have step : s.tryBuild (root.accessSegment resolve segment) =
        .ok (.node ⟨s.next⟩ m.ty (.member root m), ⟨s.next + 1⟩) := by
      rw [tryBuild_accessSegment, answer]
      exact (Supply.tryBuild_access s root m).trans (if_pos declared)
    rw [List.cons_append, List.foldlM_cons, Supply.tryBuildIn_bind, tryBuildIn_accessSegment, step]
    refine (run rest).trans ?_
    rw [List.append_assoc]
    rfl

theorem tryBuild_accessSegment_of_refuses {segment : String} {error : AccessError ε}
    (refuses : Refuses resolve root.ty segment error) (s : Supply) :
    s.tryBuild (root.accessSegment resolve segment) = .error error := by
  rw [tryBuild_accessSegment]
  cases refuses with
  | unresolved answer => rw [answer]; rfl
  | undeclared answer other =>
    rw [answer]
    refine (Supply.tryBuild_access s root _).trans (if_neg ?_)
    rw [other]
    exact Bool.false_ne_true

theorem tryBuildIn_accessPath_of_resolves {path : String}
    (resolves : Resolves resolve root.ty (segments path) members)
    (accepted : Accepted root.ty members) (s : Supply) (log : List Query) :
    ∃ e t, Wraps root members e ∧
      s.tryBuildIn log (root.accessPath (Resolver.recording resolve) path) =
        (.ok (e, t), log ++ queries root.ty (segments path) members) := by
  obtain ⟨e, t, wraps, run⟩ := follow resolves accepted s log
  refine ⟨e, t, wraps, ?_⟩
  have whole := run []
  rw [List.append_nil] at whole
  exact whole

theorem tryBuildIn_accessPath_of_refuses {path : String} {before rest : List String}
    {segment : String} {error : AccessError ε} (split : segments path = before ++ segment :: rest)
    (resolves : Resolves resolve root.ty before members) (accepted : Accepted root.ty members)
    (refuses : Refuses resolve (root.ty.behind members) segment error) (s : Supply)
    (log : List Query) :
    s.tryBuildIn log (root.accessPath (Resolver.recording resolve) path) =
      (.error error, log ++ queries root.ty (before ++ [segment]) members) := by
  obtain ⟨e, t, wraps, run⟩ := follow resolves accepted s log
  rw [← wraps.ty_eq] at refuses
  rw [accessPath, split, run, List.foldlM_cons, Supply.tryBuildIn_bind, tryBuildIn_accessSegment,
    tryBuild_accessSegment_of_refuses refuses, wraps.ty_eq, resolves.queries_concat,
    List.append_assoc]

section Monad

variable {m : Type → Type} [Monad m] [LawfulMonad m]

theorem access_bind_congr {object : Expr} {member : Member} {α : Type}
    {f g : Expr → BuildT (ExceptT (AccessError ε) m) α} (h : ∀ e, e.ty = member.ty → f e = g e) :
    object.access member ε >>= f = object.access member ε >>= g := by
  refine StateT.ext fun s => ?_
  unfold access
  split
  · have made : StateT.run (object.member member : BuildT (ExceptT (AccessError ε) m) Expr) s =
        pure (.node ⟨s.next⟩ member.ty (.member object member), ⟨s.next + 1⟩) := rfl
    rw [StateT.run_bind, StateT.run_bind, made, pure_bind, pure_bind, h _ rfl]
  · simp only [StateT.run_bind, StateT.run_throw, bind_assoc]
    refine ExceptT.ext ?_
    simp only [ExceptT.run_bind, ExceptT.run_throw, pure_bind]

/-- A path is built while its cursor moves along: the cursor always stands on the type of what has
been built. -/
theorem accessPath_eq_accessEach (resolve : Resolver m ε) (root : Expr) (path : String) :
    root.accessPath resolve path =
      (PathCursor.start root.ty path).accessEach resolve (segments path).length root := by
  unfold accessPath PathCursor.start
  induction segments path generalizing root with
  | nil => rfl
  | cons segment rest ih =>
    have step : (root.accessSegment resolve segment >>= fun e =>
        rest.foldlM (accessSegment resolve) e) =
          liftM (resolve root.ty segment) >>= fun member => root.access member ε >>= fun e =>
            PathCursor.accessEach resolve rest.length ⟨member.ty, rest⟩ e := by
      rw [accessSegment, bind_assoc]
      congr 1
      funext member
      exact access_bind_congr fun e same => by rw [ih, same]
    rw [List.foldlM_cons, step, List.length_cons, PathCursor.accessEach, PathCursor.next?]
    refine StateT.ext fun s => ExceptT.ext ?_
    rw [Supply.run_liftM_bind, Supply.run_liftM_bind, ExceptT.run_lift, bind_map_left, bind_assoc]
    congr 1
    funext answer
    cases answer with
    | error error =>
      simp only [pure_bind, StateT.run_throw, ExceptT.run_bind, ExceptT.run_throw]
    | ok member => rw [pure_bind]

end Monad

/-- A path is followed to its end, and what is built are the accesses to the members that its
cursor answers; or some segment is the first that the resolver refuses or whose member is not
declared on the type behind the members before it, and decides the error. Either way a resolver is
asked for the segments up to there, each once and in order, on the type of the member before. -/
theorem accessPath_outcome (resolve : Resolver Id ε) (root : Expr) (path : String) (s : Supply) :
    root.accessPath (Resolver.recording resolve) path =
      (PathCursor.start root.ty path).accessEach (Resolver.recording resolve)
        (segments path).length root ∧
    (s.tryBuildIn [] (root.accessPath (Resolver.recording resolve) path)).1 =
      s.tryBuild (root.accessPath resolve path) ∧
    ((∃ members e t, Resolves resolve root.ty (segments path) members ∧ Accepted root.ty members ∧
        s.tryBuildIn [] (root.accessPath (Resolver.recording resolve) path) =
          (.ok (e, t), queries root.ty (segments path) members) ∧
        ((PathCursor.start root.ty path).toList resolve).run = members.map .ok ∧
        ∀ u : Supply, u.tryForm (root.accessAll members) = .ok e.form) ∨
      ∃ before segment rest members error, segments path = before ++ segment :: rest ∧
        Resolves resolve root.ty before members ∧ Accepted root.ty members ∧
        Refuses resolve (root.ty.behind members) segment error ∧
        s.tryBuildIn [] (root.accessPath (Resolver.recording resolve) path) =
          (.error error, queries root.ty (before ++ [segment]) members)) := by
  refine ⟨accessPath_eq_accessEach _ root path, tryBuildIn_accessPath_fst s [] root path, ?_⟩
  rcases exists_followed resolve root.ty (segments path) with ⟨members, resolves, accepted⟩ |
    ⟨before, segment, rest, members, error, split, resolves, accepted, refuses⟩
  · obtain ⟨e, t, wraps, run⟩ := tryBuildIn_accessPath_of_resolves resolves accepted s []
    refine .inl ⟨members, e, t, resolves, accepted, run, resolves.toList_cursor, fun u => ?_⟩
    obtain ⟨e', t', built, wraps'⟩ := wraps_accessAll accepted u
    rw [Supply.tryForm, built]
    exact congrArg Except.ok (wraps'.form_eq wraps rfl)
  · exact .inr ⟨before, segment, rest, members, error, split, resolves, accepted, refuses,
      tryBuildIn_accessPath_of_refuses split resolves accepted refuses s []⟩

/-- A host that is closed refuses the first segment, and its own reason is the error. -/
example :
    Supply.tryBuild ⟨1⟩ (accessPath (fun _ _ => throw (.host "closed"))
      (.node ⟨0⟩ .object (.parameter "x")) "a.b") = .error (AccessError.host "closed") := rfl

end Expr

end ExpressionGraphs
