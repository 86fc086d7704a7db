import ExpressionGraphs.Proofs.Registries
import ExpressionGraphs.Proofs.Rerooting
import ExpressionGraphs.Registry.Registration

set_option autoImplicit false

/-!
# Nullable references

References from one class to another may be made nullable without a path noticing. Two runs along a
path, over a registry and over one in which some members have become nullable, stand on types that
differ in such a wrapper at most. They find members of the same names, stop at the same segment if
they stop, and build accesses that read the same.
-/

namespace ExpressionGraphs

/-- The type itself, or the nullable class in the place of the class. -/
inductive Ty.Loosened : Ty → Ty → Prop
  | same (ty : Ty) : Loosened ty ty
  | nullable (className : String) : Loosened (.named className) (.nullable (.named className))

structure Member.Loosened (m m' : Member) : Prop where
  declaringType : m.declaringType = m'.declaringType
  name : m.name = m'.name
  kind : m.kind = m'.kind
  ty : m.ty.Loosened m'.ty

theorem Member.Loosened.refl (m : Member) : m.Loosened m := ⟨rfl, rfl, rfl, .same m.ty⟩

def Registry.Loosened (r r' : Registry) : Prop :=
  ∀ className, Option.Rel (List.Forall₂ Member.Loosened) (r.members? className)
    (r'.members? className)

/-- Answers that name members alike, or that find no member of one name. -/
inductive AnsweredAlike : Except AccessError Member → Except AccessError Member → Prop
  | found {m m' : Member} (loosened : m.Loosened m') : AnsweredAlike (.ok m) (.ok m')
  | missing {ty ty' : Ty} (loosened : ty.Loosened ty') (name : String) :
    AnsweredAlike (.error (.memberNotFound ty name)) (.error (.memberNotFound ty' name))

theorem rel_find? {α β : Type} {related : α → β → Prop} {p : α → Bool} {q : β → Bool}
    {as : List α} {bs : List β} (all : List.Forall₂ related as bs)
    (same : ∀ a b, related a b → p a = q b) : Option.Rel related (as.find? p) (bs.find? q) := by
  induction all with
  | nil => exact .none
  | @cons a b as bs head _ ih =>
    rw [List.find?_cons, List.find?_cons, ← same a b head]
    cases p a with
    | true => exact .some head
    | false => exact ih

namespace Registry.Loosened

variable {r r' : Registry} {ty ty' : Ty}

theorem classMember? (loosened : r.Loosened r') (className name : String) :
    Option.Rel Member.Loosened (r.classMember? className name)
      (r'.classMember? className name) := by
  change Option.Rel _ ((r.members? className).bind _) ((r'.members? className).bind _)
  have known := loosened className
  generalize r.members? className = members, r'.members? className = members' at known
  cases known with
  | none => exact .none
  | some all =>
    apply rel_find? all
    intro m m' same
    rw [same.name]

theorem member? (loosened : r.Loosened r') (types : ty.Loosened ty') (name : String) :
    Option.Rel Member.Loosened (r.member? name ty) (r'.member? name ty') := by
  cases types with
  | nullable className => exact loosened.classMember? className name
  | same ty =>
    cases ty with
    | named className => exact loosened.classMember? className name
    | nullable inner =>
      cases inner with
      | named className => exact loosened.classMember? className name
      | _ => exact .none
    | holder inner =>
      simp only [Registry.member?]
      split
      · exact .some (.refl _)
      · exact .none
    | _ => exact .none

theorem lookup (loosened : r.Loosened r') (types : ty.Loosened ty') (name : String) :
    AnsweredAlike (r.lookup ty name) (r'.lookup ty' name) := by
  have found := loosened.member? types name
  unfold Registry.lookup
  generalize r.member? name ty = answer, r'.member? name ty' = answer' at found
  cases found with
  | none => exact .missing types name
  | some same => exact .found same

theorem declaring (loosened : r.Loosened r') (declaring : r.Declaring) : r'.Declaring := by
  intro className members' known' m' mem
  have all := loosened className
  rw [known'] at all
  generalize known : r.members? className = earlier at all
  cases all with
  | some all =>
    obtain ⟨m, m_mem, same⟩ := exists_of_forall₂ (List.Forall₂.flip all) mem
    rw [← same.declaringType]
    exact declaring className _ known m m_mem

theorem take_cursor (loosened : r.Loosened r') (types : ty.Loosened ty') (path : List String)
    (n : Nat) :
    List.Forall₂ AnsweredAlike (PathCursor.take (m := Id) r.resolver n ⟨ty, path⟩).run.1
      (PathCursor.take (m := Id) r'.resolver n ⟨ty', path⟩).run.1 := by
  induction n generalizing ty ty' path with
  | zero => exact .nil
  | succ n ih =>
    cases path with
    | nil => exact .nil
    | cons segment rest =>
      have step : ∀ (r : Registry) (ty : Ty),
          (PathCursor.take (m := Id) r.resolver (n + 1) ⟨ty, segment :: rest⟩).run.1 =
            r.lookup ty segment :: (PathCursor.take (m := Id) r.resolver n
              (match r.lookup ty segment with
                | .ok m => ⟨m.ty, rest⟩
                | .error _ => ⟨ty, []⟩)).run.1 := by
        intro r ty
        have answer : (r.resolver ty segment).run = (pure (r.lookup ty segment) : Id _) := rfl
        rw [PathCursor.take, PathCursor.next?]
        simp only [answer, pure_bind]
        cases r.lookup ty segment <;> rfl
      have answers := loosened.lookup types segment
      rw [step, step]
      generalize r.lookup ty segment = answer, r'.lookup ty' segment = answer' at answers ⊢
      refine .cons answers ?_
      cases answers with
      | found same => exact ih same.ty rest
      | missing _ _ =>
        -- both cursors have come to their end
        exact ih types []

/-- Both runs come to the end of a path, over members alike, or stop at one segment. -/
theorem follow (loosened : r.Loosened r') (types : ty.Loosened ty') (path : List String) :
    (∃ members members', Resolves r.resolver ty path members ∧
      Resolves r'.resolver ty' path members' ∧ List.Forall₂ Member.Loosened members members') ∨
    ∃ before segment rest members members', path = before ++ segment :: rest ∧
      Resolves r.resolver ty before members ∧ Resolves r'.resolver ty' before members' ∧
      (ty.behind members).Loosened (ty'.behind members') ∧
      r.member? segment (ty.behind members) = none ∧
      r'.member? segment (ty'.behind members') = none := by
  induction path generalizing ty ty' with
  | nil => exact .inl ⟨[], [], .nil ty, .nil ty', .nil⟩
  | cons segment rest ih =>
    have found := loosened.member? types segment
    generalize first : r.member? segment ty = answer at found
    generalize second : r'.member? segment ty' = answer' at found
    cases found with
    | none =>
      exact .inr ⟨[], segment, rest, [], [], rfl, .nil ty, .nil ty', types, first, second⟩
    | @some m m' same =>
      have answer := Registry.resolver_of_member? first
      have answer' := Registry.resolver_of_member? second
      rcases ih same.ty with ⟨members, members', resolves, resolves', all⟩ |
        ⟨before, stop, rest, members, members', rfl, resolves, resolves', behind, none, none'⟩
      · exact .inl ⟨m :: members, m' :: members', .cons answer resolves, .cons answer' resolves',
          .cons same all⟩
      · refine .inr ⟨segment :: before, stop, rest, m :: members, m' :: members', rfl,
          .cons answer resolves, .cons answer' resolves', ?_⟩
        rw [Ty.behind_cons, Ty.behind_cons]
        exact ⟨behind, none, none'⟩

end Registry.Loosened

/-! ## References made nullable -/

theorem forall₂_putMember {name : String} {m m' : Member} (same : m.Loosened m')
    (named : m'.name = name) {members : List Member}
    (found : members.find? (fun n => n.name = name) = some m) :
    List.Forall₂ Member.Loosened members (Registry.putMember m' members) := by
  induction members with
  | nil => cases found
  | cons n rest ih =>
    rw [List.find?_cons] at found
    rw [Registry.putMember, named]
    by_cases own : n.name = name
    · simp only [own, decide_true, Option.some.injEq] at found
      rw [if_pos own, found]
      exact .cons same (List.forall₂_same.2 fun other _ => .refl other)
    · simp only [own, decide_false] at found
      rw [if_neg own]
      exact .cons (.refl n) (ih found)

theorem Registry.loosened_register {r : Registry} {className name target : String} {m : Member}
    (found : r.classMember? className name = some m) (own : m.declaringType = .named className)
    (reference : m.ty = .named target) :
    r.Loosened (r.register className name (.nullable (.named target)) m.kind) := by
  intro other
  by_cases same : className = other
  · subst same
    obtain ⟨members, known, hit⟩ := Option.bind_eq_some_iff.1 found
    have named : m.name = name := by simpa using List.find?_some hit
    have nullable : m.ty.Loosened (.nullable (.named target)) := by
      rw [reference]
      exact .nullable target
    have same : m.Loosened ⟨.named className, name, .nullable (.named target), m.kind⟩ :=
      ⟨own, named, rfl, nullable⟩
    rw [members?_register_self, known, Option.getD_some]
    exact .some (forall₂_putMember same rfl hit)
  · rw [members?_register_of_ne r name _ _ same]
    cases r.members? other with
    | none => exact .none
    | some members => exact .some (List.forall₂_same.2 fun m _ => .refl m)

namespace Sample

def settled : Registry :=
  (Registry.empty.withProperty "Customer" "Address" (.named "Address")).withField
    "Address" "City" .string

def unsettled : Registry := settled.withProperty "Customer" "Address" address.ty

theorem reachable_settled : settled.Reachable :=
  (Registry.Reachable.empty.withProperty "Customer" "Address" (.named "Address")).withField
    "Address" "City" .string

theorem settled_loosened : settled.Loosened unsettled :=
  Registry.loosened_register (m := .property (.named "Customer") "Address" (.named "Address"))
    rfl rfl rfl

end Sample

namespace Expr

/-- Whatever references are made nullable, a path is resolved to the same members, but for the types
of these references, up to the same segment. The accesses that it builds on a root read the same, or
both fail at the segment that stands for no member. -/
theorem accessPath_loosened {r r' : Registry} (h : r.Reachable) (loosened : r.Loosened r')
    (root : Expr) (path : String) (s t : Supply) :
    List.Forall₂ AnsweredAlike ((PathCursor.start root.ty path).toList (m := Id) r.resolver).run
      ((PathCursor.start root.ty path).toList (m := Id) r'.resolver).run ∧
    ((∃ e u e' u', s.tryBuild (root.accessPath r.resolver path) = .ok (e, u) ∧
        t.tryBuild (root.accessPath r'.resolver path) = .ok (e', u') ∧ e.text = e'.text) ∨
      ∃ ty ty' segment, ty.Loosened ty' ∧
        s.tryBuild (root.accessPath r.resolver path) = .error (.memberNotFound ty segment) ∧
        t.tryBuild (root.accessPath r'.resolver path) = .error (.memberNotFound ty' segment)) := by
  have declaring' := loosened.declaring h.declaring
  refine ⟨loosened.take_cursor (.same root.ty) _ _, ?_⟩
  rcases loosened.follow (.same root.ty) (segments path) with
    ⟨members, members', resolves, resolves', all⟩ |
    ⟨before, segment, rest, members, members', split, resolves, resolves', behind, none, none'⟩
  · obtain ⟨e, u, wraps, run⟩ :=
      tryBuildIn_accessPath_of_resolves resolves (h.declaring.accepted resolves) s []
    obtain ⟨e', u', wraps', run'⟩ :=
      tryBuildIn_accessPath_of_resolves resolves' (declaring'.accepted resolves') t []
    have names : members'.map Member.name = members.map Member.name :=
      map_eq_of_forall₂ (all.imp fun _ _ same => same.name.symm)
    refine .inl ⟨e, u, e', u', ?_, ?_, ?_⟩
    · rw [← tryBuildIn_accessPath_fst s [] root path, run]
    · rw [← tryBuildIn_accessPath_fst t [] root path, run']
    · rw [wraps.text_eq, wraps'.text_eq, names]
  · exact .inr ⟨_, _, segment, behind,
      tryBuild_accessPath_of_unknown h.declaring split resolves none s,
      tryBuild_accessPath_of_unknown declaring' split resolves' none' t⟩

theorem accessPath_loosened_address :
    Sample.settled.Reachable ∧ Sample.settled.Loosened Sample.unsettled ∧
    ∃ e u e' u',
      Supply.tryBuild ⟨7⟩ (Sample.guest.accessPath Sample.settled.resolver "Address.City") =
        .ok (e, u) ∧
      Supply.tryBuild ⟨7⟩ (Sample.guest.accessPath Sample.unsettled.resolver "Address.City") =
        .ok (e', u') ∧ e.text = e'.text := by
  refine ⟨Sample.reachable_settled, Sample.settled_loosened, ?_⟩
  rcases (accessPath_loosened Sample.reachable_settled Sample.settled_loosened Sample.guest
    "Address.City" ⟨7⟩ ⟨7⟩).2 with built | ⟨ty, ty', segment, _, run, _⟩
  · exact built
  · cases run

end Expr

end ExpressionGraphs
