import ExpressionGraphs.Proofs.PathConcatenation
import ExpressionGraphs.Proofs.RegistryHistory

set_option autoImplicit false

/-!
# Registrations that a path does not ask for

While a path is built, its resolver is asked one segment after the other, and what it answers to
these questions decides everything else. A resolver that answers the same questions alike leads to
the same outcome, whatever else it may know. A registration changes the answers for one name on one
class and on the nullable form of that class, and so cannot be noticed by a path that does not ask
for it.
-/

namespace ExpressionGraphs

namespace Registry

theorem lookup_call_of_unasked (r : Registry) (call : RegistryCall) {ty : Ty} {name : String}
    (other : name = call.registration.name →
      ty ≠ .named call.registration.className ∧
        ty ≠ .nullable (.named call.registration.className)) :
    (r.call call).lookup ty name = r.lookup ty name := by
  have apart : ∀ className, ty = .named className ∨ ty = .nullable (.named className) →
      call.registration.key ≠ (className, name) := by
    intro className shape key
    obtain ⟨own, named⟩ := Prod.mk.inj key
    obtain ⟨not_class, not_nullable⟩ := other named.symm
    rw [own] at not_class not_nullable
    rcases shape with shape | shape
    · exact not_class shape
    · exact not_nullable shape
  have found : (r.call call).member? name ty = r.member? name ty := by
    unfold member?
    split
    · rfl
    · exact r.classMember?_call_of_ne (apart _ (.inl rfl))
    · exact r.classMember?_call_of_ne (apart _ (.inr rfl))
    · rfl
  rw [lookup, lookup, found]

end Registry

namespace Expr

variable {ε : Type} {resolve resolve' : Resolver Id ε} {s : Supply} {root : Expr}

def askedAlong (resolve : Resolver Id ε) (root : Expr) (path : String) (s : Supply) : List Query :=
  (s.tryBuildIn [] (root.accessPath (Resolver.recording resolve) path)).2

theorem prefix_tryBuildIn_foldlM (path : List String) (s : Supply) (log : List Query)
    (root : Expr) :
    log <+: (s.tryBuildIn log
      (path.foldlM (accessSegment (Resolver.recording resolve)) root)).2 := by
  induction path generalizing s log root with
  | nil => exact List.prefix_rfl
  | cons segment rest ih =>
    rw [List.foldlM_cons, Supply.tryBuildIn_bind, tryBuildIn_accessSegment]
    cases s.tryBuild (root.accessSegment resolve segment) with
    | error error => exact List.prefix_append log _
    | ok built => exact (List.prefix_append log _).trans (ih built.2 _ built.1)

/-- The answers to what is asked decide all that is built and all that is asked. -/
theorem tryBuildIn_foldlM_congr (path : List String) (s : Supply) (log : List Query) (root : Expr)
    (agree : ∀ q ∈ (s.tryBuildIn log
        (path.foldlM (accessSegment (Resolver.recording resolve)) root)).2,
      resolve' q.ty q.name = resolve q.ty q.name) :
    s.tryBuildIn log (path.foldlM (accessSegment (Resolver.recording resolve')) root) =
      s.tryBuildIn log (path.foldlM (accessSegment (Resolver.recording resolve)) root) := by
  induction path generalizing s log root with
  | nil => rfl
  | cons segment rest ih =>
    have unfolded : ∀ resolve : Resolver Id ε,
        s.tryBuildIn log
            ((segment :: rest).foldlM (accessSegment (Resolver.recording resolve)) root) =
          match s.tryBuild (root.accessSegment resolve segment) with
          | .ok (e, t) => t.tryBuildIn (log ++ [⟨root.ty, segment⟩])
              (rest.foldlM (accessSegment (Resolver.recording resolve)) e)
          | .error error => (.error error, log ++ [⟨root.ty, segment⟩]) := by
      intro resolve
      rw [List.foldlM_cons, Supply.tryBuildIn_bind, tryBuildIn_accessSegment]
      cases s.tryBuild (root.accessSegment resolve segment) <;> rfl
    rw [unfolded resolve] at agree
    have asked : resolve' root.ty segment = resolve root.ty segment := by
      refine agree ⟨root.ty, segment⟩ ?_
      cases s.tryBuild (root.accessSegment resolve segment) with
      | error error => simp
      | ok built =>
        refine (prefix_tryBuildIn_foldlM rest built.2 _ built.1).subset ?_
        simp
    have step : s.tryBuild (root.accessSegment resolve' segment) =
        s.tryBuild (root.accessSegment resolve segment) := by
      rw [tryBuild_accessSegment, tryBuild_accessSegment, asked]
    rw [unfolded resolve', unfolded resolve, step]
    cases outcome : s.tryBuild (root.accessSegment resolve segment) with
    | error error => rfl
    | ok built =>
      rw [outcome] at agree
      exact ih built.2 _ built.1 agree

/-- A registration that is not asked for along a path makes no difference to it: the same accesses
are built or the same error is met, after the same questions. It does not matter whether the class
or the member was known before. -/
theorem accessPath_call_of_unasked (r : Registry) (call : RegistryCall) (root : Expr)
    (path : String) (s : Supply)
    (unasked : ∀ q ∈ root.askedAlong r.resolver path s, q.name = call.registration.name →
      q.ty ≠ .named call.registration.className ∧
        q.ty ≠ .nullable (.named call.registration.className)) :
    s.tryBuild (root.accessPath (r.call call).resolver path) =
      s.tryBuild (root.accessPath r.resolver path) ∧
    root.askedAlong (r.call call).resolver path s = root.askedAlong r.resolver path s ∧
    ∀ u : Supply, u.tryForm (root.accessPath (r.call call).resolver path) =
      s.tryForm (root.accessPath r.resolver path) := by
  have run : s.tryBuildIn [] (root.accessPath (Resolver.recording (r.call call).resolver) path) =
      s.tryBuildIn [] (root.accessPath (Resolver.recording r.resolver) path) := by
    refine tryBuildIn_foldlM_congr (segments path) s [] root fun q mem => ?_
    have answer := r.lookup_call_of_unasked call (unasked q mem)
    exact congrArg (fun a => ExceptT.mk (pure a)) answer
  have outcome : s.tryBuild (root.accessPath (r.call call).resolver path) =
      s.tryBuild (root.accessPath r.resolver path) := by
    rw [← tryBuildIn_accessPath_fst s [], run, tryBuildIn_accessPath_fst]
  refine ⟨outcome, congrArg Prod.snd run, fun u => ?_⟩
  have anywhere : u.tryForm (root.accessPath (r.call call).resolver path) =
      s.tryForm (root.accessPath (r.call call).resolver path) := tryForm_foldlM_congr _ rfl u s
  rw [anywhere, Supply.tryForm, Supply.tryForm, outcome]

/-- An order, of which nothing was known, comes to have a city. The city of a customer's address
is still that of the address. -/
theorem accessPath_call_of_unasked_order :
    Sample.customers.members? "Order" = none ∧
    Supply.tryBuild ⟨2⟩ (Sample.owner.accessPath
      (Sample.customers.call (.withField "Order" "City" .int)).resolver "Address.City") =
        .ok (Sample.ownerCity, ⟨4⟩) := by
  have resolves : Resolves Sample.customers.resolver Sample.owner.ty (segments "Address.City")
      [Sample.address, Sample.cityName] := .cons rfl (.cons rfl (.nil _))
  obtain ⟨e, t, -, run⟩ :=
    tryBuildIn_accessPath_of_resolves resolves ⟨rfl, rfl, trivial⟩ ⟨2⟩ []
  have unasked : ∀ q ∈ Sample.owner.askedAlong Sample.customers.resolver "Address.City" ⟨2⟩,
      q.name = "City" → q.ty ≠ .named "Order" ∧ q.ty ≠ .nullable (.named "Order") := by
    have asked : Sample.owner.askedAlong Sample.customers.resolver "Address.City" ⟨2⟩ =
        queries Sample.owner.ty (segments "Address.City") [Sample.address, Sample.cityName] :=
      congrArg Prod.snd run
    rw [asked]
    decide
  have built : Supply.tryBuild ⟨2⟩ (Sample.owner.accessPath Sample.customers.resolver
      "Address.City") = .ok (Sample.ownerCity, ⟨4⟩) := rfl
  have same := (accessPath_call_of_unasked Sample.customers (.withField "Order" "City" .int)
    Sample.owner "Address.City" ⟨2⟩ unasked).1
  exact ⟨rfl, same.trans built⟩

end Expr

end ExpressionGraphs
