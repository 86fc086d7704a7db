import ExpressionGraphs.Proofs.PathOutcome
import ExpressionGraphs.Proofs.Placement
import ExpressionGraphs.Registry.Registration

set_option autoImplicit false

/-!
# Registries and the paths they resolve

However a registry comes about, each class holds members that are declared on the class itself.
What a registry answers for a type is therefore declared on that type, and a path over a registry
fails at the first segment that stands for no member, or nowhere.
-/

namespace ExpressionGraphs

theorem exists_of_bind_eq_ok {ε α β : Type} {c : Except ε α} {f : α → Except ε β} {b : β}
    (run : c >>= f = .ok b) : ∃ a, c = .ok a ∧ f a = .ok b := by
  cases c with
  | error e => cases run
  | ok a => exact ⟨a, rfl, run⟩

theorem holds_of_foldlM {ε α β : Type} {holds : β → Prop} {f : β → α → Except ε β}
    (step : ∀ b a b', holds b → f b a = .ok b' → holds b') {l : List α} {b b' : β}
    (start : holds b) (run : l.foldlM f b = .ok b') : holds b' := by
  induction l generalizing b with
  | nil =>
    cases run
    exact start
  | cons a l ih =>
    rw [List.foldlM_cons] at run
    obtain ⟨next, first, run⟩ := exists_of_bind_eq_ok run
    exact ih (step b a next start first) run

namespace Registry

/-- Registries that begin empty or with a schema and grow by registrations. Whatever schema is read
from a text is ordered. -/
inductive Reachable : Registry → Prop
  | empty : Reachable empty
  | ofSchema {schema : Schema} {r : Registry} (ordered : schema.Ordered)
    (run : Registry.ofSchema schema = .ok r) : Reachable r
  | register {r : Registry} (h : Reachable r) (className name : String) (ty : Ty)
    (kind : MemberKind) : Reachable (r.register className name ty kind)
  | withField {r : Registry} (h : Reachable r) (className name : String) (ty : Ty) :
    Reachable (r.withField className name ty)
  | withProperty {r : Registry} (h : Reachable r) (className name : String) (ty : Ty) :
    Reachable (r.withProperty className name ty)

def Declaring (r : Registry) : Prop :=
  ∀ className members, r.members? className = some members →
    ∀ m ∈ members, m.declaringType = .named className

namespace Declaring

variable {r next : Registry} {className : String}

theorem empty : Declaring Registry.empty := by
  intro className members h
  have unknown : Registry.empty.members? className = none := Std.TreeMap.getElem?_emptyc
  rw [unknown] at h
  cases h

theorem declare (declaring : r.Declaring) (className : String) :
    (r.declare className).Declaring := by
  intro other members h m mem
  rw [members?_declare] at h
  split at h
  · cases known : r.members? other with
    | none =>
      rw [known] at h
      cases h
      cases mem
    | some earlier =>
      rw [known] at h
      cases h
      exact declaring other earlier known m mem
  · exact declaring other members h m mem

theorem register (declaring : r.Declaring) (className name : String) (ty : Ty)
    (kind : MemberKind) : (r.register className name ty kind).Declaring := by
  intro other members h m mem
  by_cases same : className = other
  · subst same
    rw [members?_register_self, putMember_eq_putBy] at h
    cases h
    rcases mem_putBy mem with rfl | mem
    · rfl
    · cases known : r.members? className with
      | none =>
        rw [known] at mem
        cases mem
      | some earlier =>
        rw [known] at mem
        exact declaring className earlier known m mem
  · rw [members?_register_of_ne r name ty kind same] at h
    exact declaring other members h m mem

theorem addField (declaring : r.Declaring) {entry : String × String}
    (run : Registry.addField className r entry = .ok next) : next.Declaring := by
  obtain ⟨ty, _, run⟩ := exists_of_bind_eq_ok run
  cases run
  exact declaring.register className entry.1 ty .field

theorem addProperty (declaring : r.Declaring) {fields : List (String × String)}
    {entry : String × String} (run : Registry.addProperty className fields r entry = .ok next) :
    next.Declaring := by
  unfold Registry.addProperty at run
  split at run
  · cases run
  · obtain ⟨ty, _, run⟩ := exists_of_bind_eq_ok run
    cases run
    exact declaring.register className entry.1 ty .property

theorem addClass (declaring : r.Declaring) {entry : String × ClassDeclaration}
    (run : Registry.addClass r entry = .ok next) : next.Declaring := by
  obtain ⟨className, declaration⟩ := entry
  obtain ⟨withFields, fields, properties⟩ := exists_of_bind_eq_ok run
  refine holds_of_foldlM (fun _ _ _ h step => h.addProperty step) ?_ properties
  exact holds_of_foldlM (fun _ _ _ h step => h.addField step) (declaring.declare className) fields

theorem ofSchema {schema : Schema} (run : Registry.ofSchema schema = .ok r) : r.Declaring :=
  holds_of_foldlM (fun _ _ _ h step => h.addClass step) empty run

end Declaring

theorem Reachable.declaring {r : Registry} (h : r.Reachable) : r.Declaring := by
  induction h with
  | empty => exact .empty
  | ofSchema _ run => exact .ofSchema run
  | register _ className name ty kind ih => exact ih.register className name ty kind
  | withField _ className name ty ih => exact ih.register className name ty .field
  | withProperty _ className name ty ih => exact ih.register className name ty .property

theorem Declaring.isDeclaredOn {r : Registry} (declaring : r.Declaring) {ty : Ty} {name : String}
    {m : Member} (h : r.member? name ty = some m) : m.isDeclaredOn ty = true := by
  have in_class : ∀ className, r.classMember? className name = some m →
      m.declaringType = .named className := by
    intro className h
    obtain ⟨members, known, found⟩ := Option.bind_eq_some_iff.1 h
    exact declaring className members known m (List.mem_of_find?_eq_some found)
  refine decide_eq_true ?_
  unfold member? at h
  split at h
  · split at h
    · cases h
      rfl
    · cases h
  · exact in_class _ h
  · exact in_class _ h
  · cases h

theorem resolver_eq_error_iff {r : Registry} {ty : Ty} {name : String} {error : AccessError} :
    (r.resolver ty name).run = (pure (.error error) : Id _) ↔
      r.member? name ty = none ∧ error = .memberNotFound ty name := by
  change r.lookup ty name = .error error ↔ _
  unfold lookup
  cases r.member? name ty with
  | none => simp [eq_comm]
  | some m => simp

theorem member?_of_resolver {r : Registry} {ty : Ty} {name : String} {m : Member}
    (h : (r.resolver ty name).run = (pure (.ok m) : Id _)) : r.member? name ty = some m := by
  change r.lookup ty name = .ok m at h
  unfold lookup at h
  split at h
  · cases h
    assumption
  · cases h

theorem resolver_of_member? {r : Registry} {ty : Ty} {name : String} {m : Member}
    (h : r.member? name ty = some m) : (r.resolver ty name).run = (pure (.ok m) : Id _) := by
  change r.lookup ty name = .ok m
  rw [lookup, h]

theorem Declaring.accepted {r : Registry} (declaring : r.Declaring) {ty : Ty} {path : List String}
    {members : List Member} (resolves : Resolves r.resolver ty path members) :
    Accepted ty members := by
  induction resolves with
  | nil => trivial
  | cons answer _ ih => exact ⟨declaring.isDeclaredOn (member?_of_resolver answer), ih⟩

end Registry

/-! ## A customer's address that may be missing -/

namespace Sample

theorem reachable_customers : customers.Reachable :=
  (Registry.Reachable.empty.withProperty "Customer" "Address" address.ty).withField
    "Address" "City" .string

theorem resolves_address : Resolves customers.resolver owner.ty ["Address"] [address] :=
  .cons rfl (.nil _)

end Sample

namespace Expr

variable {r : Registry} {root : Expr} {path : String} {s : Supply} {error : AccessError}

theorem exists_unknown_of_error (declaring : r.Declaring)
    (run : s.tryBuild (root.accessPath r.resolver path) = .error error) :
    ∃ before segment rest members, segments path = before ++ segment :: rest ∧
      Resolves r.resolver root.ty before members ∧
      r.member? segment (root.ty.behind members) = none ∧
      error = .memberNotFound (root.ty.behind members) segment := by
  rw [← tryBuildIn_accessPath_fst s [] root path] at run
  rcases exists_followed r.resolver root.ty (segments path) with ⟨members, resolves, accepted⟩ |
    ⟨before, segment, rest, members, refusal, split, resolves, accepted, refuses⟩
  · obtain ⟨e, t, _, built⟩ := tryBuildIn_accessPath_of_resolves resolves accepted s []
    rw [built] at run
    cases run
  · rw [tryBuildIn_accessPath_of_refuses split resolves accepted refuses s []] at run
    cases run
    refine ⟨before, segment, rest, members, split, resolves, ?_⟩
    cases refuses with
    | unresolved answer => exact Registry.resolver_eq_error_iff.1 answer
    | undeclared answer other =>
      have declared := declaring.isDeclaredOn (Registry.member?_of_resolver answer)
      rw [other] at declared
      cases declared

theorem tryBuild_accessPath_of_unknown (declaring : r.Declaring) {before rest : List String}
    {segment : String} {members : List Member} (split : segments path = before ++ segment :: rest)
    (resolves : Resolves r.resolver root.ty before members)
    (unknown : r.member? segment (root.ty.behind members) = none) (s : Supply) :
    s.tryBuild (root.accessPath r.resolver path) =
      .error (.memberNotFound (root.ty.behind members) segment) := by
  have refuses : Refuses r.resolver (root.ty.behind members) segment _ :=
    .unresolved (Registry.resolver_eq_error_iff.2 ⟨unknown, rfl⟩)
  rw [← tryBuildIn_accessPath_fst s [] root path,
    tryBuildIn_accessPath_of_refuses split resolves (declaring.accepted resolves) refuses]

/-- Over a registry a path fails exactly where a segment stands for no member. The first such
segment is named by the error, with the type behind the members before it; no member is ever found
undeclared on the type it was resolved on. -/
theorem accessPath_eq_error_iff (h : r.Reachable) (root : Expr) (path : String) (s : Supply) :
    (∀ m ty, s.tryBuild (root.accessPath r.resolver path) ≠ .error (.memberMismatch m ty)) ∧
    ∀ error, s.tryBuild (root.accessPath r.resolver path) = .error error ↔
      ∃ before segment rest members, segments path = before ++ segment :: rest ∧
        Resolves r.resolver root.ty before members ∧
        r.member? segment (root.ty.behind members) = none ∧
        error = .memberNotFound (root.ty.behind members) segment := by
  refine ⟨fun m ty run => ?_, fun error => ⟨exists_unknown_of_error h.declaring, ?_⟩⟩
  · obtain ⟨_, _, _, _, _, _, _, other⟩ := exists_unknown_of_error h.declaring run
    cases other
  · rintro ⟨before, segment, rest, members, split, resolves, unknown, rfl⟩
    exact tryBuild_accessPath_of_unknown h.declaring split resolves unknown s

theorem accessPath_eq_error_iff_zip :
    Sample.customers.Reachable ∧
    Supply.tryBuild ⟨2⟩ (Sample.owner.accessPath Sample.customers.resolver "Address.Zip.Code") =
      .error (.memberNotFound (.nullable (.named "Address")) "Zip") := by
  refine ⟨Sample.reachable_customers, ?_⟩
  have fails := (accessPath_eq_error_iff Sample.reachable_customers Sample.owner "Address.Zip.Code"
    ⟨2⟩).2 (.memberNotFound (.nullable (.named "Address")) "Zip")
  exact fails.2 ⟨["Address"], "Zip", ["Code"], [Sample.address], rfl, Sample.resolves_address,
    rfl, rfl⟩

end Expr

end ExpressionGraphs
