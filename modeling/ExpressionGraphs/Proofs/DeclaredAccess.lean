import ExpressionGraphs.Proofs.PathOutcome
import ExpressionGraphs.Proofs.Reachability

set_option autoImplicit false

/-!
# Members that are declared where they are accessed

A list of members is put around a root one access at a time, and every access checks its member
against the type of what has been built. The outcome is decided by the first member that the check
refuses. A member that belongs to a type is declared on the type itself or on the one that a
nullable type wraps. The check always looks behind the nullable type, so that it refuses a member
that is declared on the nullable type itself, and this is the one way in which the two part.
-/

namespace ExpressionGraphs

namespace Member

/-- Declared on the type, or on the one that a nullable type wraps. -/
def belongsTo (m : Member) (ty : Ty) : Bool :=
  m.declaringType = ty ∨ ty = .nullable m.declaringType

def IsOfNullable (m : Member) (ty : Ty) : Prop :=
  m.declaringType = ty ∧ ∃ inner, ty = .nullable inner

theorem belongsTo_eq_true {m : Member} {ty : Ty} :
    m.belongsTo ty = true ↔ m.declaringType = ty ∨ ty = .nullable m.declaringType :=
  decide_eq_true_iff

theorem belongsTo_of_isDeclaredOn {m : Member} {ty : Ty} (declared : m.isDeclaredOn ty = true) :
    m.belongsTo ty = true := by
  have same : m.declaringType = ty.withoutNullable := of_decide_eq_true declared
  rw [belongsTo_eq_true, same]
  cases ty with
  | nullable inner => exact .inr rfl
  | _ => exact .inl rfl

theorem isOfNullable_iff {m : Member} {ty : Ty} :
    m.IsOfNullable ty ↔ m.belongsTo ty = true ∧ m.isDeclaredOn ty = false := by
  constructor
  · rintro ⟨own, inner, rfl⟩
    refine ⟨belongsTo_eq_true.2 (.inl own), decide_eq_false fun same => ?_⟩
    have loop : inner = .nullable inner := same.symm.trans own
    have := congrArg sizeOf loop
    simp at this
  · rintro ⟨belongs, refused⟩
    have other : m.declaringType ≠ ty.withoutNullable := of_decide_eq_false refused
    rcases belongsTo_eq_true.1 belongs with rfl | rfl
    · cases own : m.declaringType with
      | nullable inner => exact ⟨own, inner, rfl⟩
      | _ =>
        rw [own] at other
        exact absurd rfl other
    · exact absurd rfl other

end Member

def DeclaredAlong (declared : Member → Ty → Bool) : Ty → List Member → Prop
  | _, [] => True
  | ty, m :: members => declared m ty = true ∧ DeclaredAlong declared m.ty members

def firstUndeclared? (declared : Member → Ty → Bool) : Ty → List Member → Option (Member × Ty)
  | _, [] => none
  | ty, m :: members =>
    if declared m ty = true then firstUndeclared? declared m.ty members else some (m, ty)

section Declared

variable {declared : Member → Ty → Bool} {ty owner : Ty} {m : Member} {members : List Member}

theorem firstUndeclared?_of_declared (h : declared m ty = true) :
    firstUndeclared? declared ty (m :: members) = firstUndeclared? declared m.ty members :=
  if_pos h

theorem firstUndeclared?_of_not_declared (h : declared m ty = false) :
    firstUndeclared? declared ty (m :: members) = some (m, ty) :=
  if_neg (ne_true_of_eq_false h)

theorem firstUndeclared?_eq_none_iff :
    firstUndeclared? declared ty members = none ↔ DeclaredAlong declared ty members := by
  induction members generalizing ty with
  | nil => exact ⟨fun _ => trivial, fun _ => rfl⟩
  | cons m members ih =>
    cases h : declared m ty with
    | true => rw [firstUndeclared?_of_declared h, ih, DeclaredAlong, h, eq_self, true_and]
    | false => simp [firstUndeclared?_of_not_declared h, DeclaredAlong, h]

theorem firstUndeclared?_eq_some_iff :
    firstUndeclared? declared ty members = some (m, owner) ↔
      ∃ before after, members = before ++ m :: after ∧ DeclaredAlong declared ty before ∧
        owner = ty.behind before ∧ declared m owner = false := by
  induction members generalizing ty with
  | nil => simp [firstUndeclared?]
  | cons first members ih =>
    cases h : declared first ty with
    | true =>
      rw [firstUndeclared?_of_declared h, ih]
      constructor
      · rintro ⟨before, after, rfl, along, rfl, refused⟩
        exact ⟨first :: before, after, rfl, ⟨h, along⟩, (Ty.behind_cons ..).symm, refused⟩
      · rintro ⟨before, after, split, along, rfl, refused⟩
        cases before with
        | nil =>
          cases split
          exact absurd h (ne_true_of_eq_false refused)
        | cons _ before =>
          cases split
          exact ⟨before, after, rfl, along.2, Ty.behind_cons .., refused⟩
    | false =>
      rw [firstUndeclared?_of_not_declared h]
      constructor
      · intro same
        cases same
        exact ⟨[], members, rfl, trivial, rfl, h⟩
      · rintro ⟨before, after, split, along, rfl, refused⟩
        cases before with
        | nil =>
          cases split
          rfl
        | cons _ before =>
          cases split
          exact absurd along.1 (ne_true_of_eq_false h)

theorem declaredAlong_isDeclaredOn :
    DeclaredAlong Member.isDeclaredOn ty members ↔ Accepted ty members := by
  induction members generalizing ty with
  | nil => exact Iff.rfl
  | cons m members ih => exact and_congr_right fun _ => ih

theorem DeclaredAlong.mono {declared' : Member → Ty → Bool}
    (weaker : ∀ m ty, declared m ty = true → declared' m ty = true)
    (along : DeclaredAlong declared ty members) : DeclaredAlong declared' ty members := by
  induction members generalizing ty with
  | nil => trivial
  | cons m members ih => exact ⟨weaker m ty along.1, ih along.2⟩

/-- What belongs to its type is told from what the check accepts by the member that the check
refuses first, if that one is declared on the nullable type it is accessed on. -/
theorem firstUndeclared?_belongsTo_iff :
    firstUndeclared? Member.belongsTo ty members = firstUndeclared? Member.isDeclaredOn ty members ↔
      ∀ m owner, firstUndeclared? Member.isDeclaredOn ty members = some (m, owner) →
        ¬ m.IsOfNullable owner := by
  constructor
  · intro same m owner refused own
    obtain ⟨_, _, _, _, _, other⟩ := firstUndeclared?_eq_some_iff.1 (same.trans refused)
    rw [(Member.isOfNullable_iff.1 own).1] at other
    cases other
  · intro proper
    cases refused : firstUndeclared? Member.isDeclaredOn ty members with
    | none =>
      exact firstUndeclared?_eq_none_iff.2
        ((firstUndeclared?_eq_none_iff.1 refused).mono fun _ _ => Member.belongsTo_of_isDeclaredOn)
    | some found =>
      obtain ⟨m, owner⟩ := found
      obtain ⟨before, after, split, along, behind, undeclared⟩ :=
        firstUndeclared?_eq_some_iff.1 refused
      refine firstUndeclared?_eq_some_iff.2 ⟨before, after, split,
        along.mono fun _ _ => Member.belongsTo_of_isDeclaredOn, behind, ?_⟩
      refine Bool.of_not_eq_true fun belongs => ?_
      exact proper m owner refused (Member.isOfNullable_iff.2 ⟨belongs, undeclared⟩)

end Declared

namespace Expr

variable {declared : Member → Ty → Bool} {root : Expr} {members : List Member} {s : Supply}

/-- The accesses to some members are built if and only if all of them are declared in the given
sense, each on the type behind the members before it, and else the first that is not is the
error. -/
structure AcceptsExactly (declared : Member → Ty → Bool) (root : Expr) (members : List Member)
    (s : Supply) : Prop where
  succeeds : (∃ e t, s.tryBuild (root.accessAll members) = .ok (e, t)) ↔
    DeclaredAlong declared root.ty members
  fails : ∀ before m after, members = before ++ m :: after → DeclaredAlong declared root.ty before →
    declared m (root.ty.behind before) = false →
      s.tryBuild (root.accessAll members) = .error (.memberMismatch m (root.ty.behind before))

theorem tryBuild_accessAll_of_refused {m : Member} {owner : Ty}
    (h : firstUndeclared? Member.isDeclaredOn root.ty members = some (m, owner)) (s : Supply) :
    s.tryBuild (root.accessAll members) = .error (.memberMismatch m owner) := by
  induction members generalizing root s with
  | nil => cases h
  | cons first members ih =>
    rw [tryBuild_accessAll_cons]
    cases declared : first.isDeclaredOn root.ty with
    | true =>
      rw [firstUndeclared?_of_declared declared] at h
      have next : firstUndeclared? Member.isDeclaredOn
          (node ⟨s.next⟩ first.ty (.member root first)).ty members = some (m, owner) := h
      exact ih next ⟨s.next + 1⟩
    | false =>
      rw [firstUndeclared?_of_not_declared declared] at h
      cases h
      rfl

theorem exists_tryBuild_accessAll_iff (s : Supply) :
    (∃ e t, s.tryBuild (root.accessAll members) = .ok (e, t)) ↔
      firstUndeclared? Member.isDeclaredOn root.ty members = none := by
  constructor
  · rintro ⟨e, t, run⟩
    refine Option.eq_none_iff_forall_ne_some.2 fun found refused => ?_
    rw [tryBuild_accessAll_of_refused refused] at run
    cases run
  · intro none
    obtain ⟨e, t, run, _⟩ :=
      wraps_accessAll (declaredAlong_isDeclaredOn.1 (firstUndeclared?_eq_none_iff.1 none)) s
    exact ⟨e, t, run⟩

theorem acceptsExactly_iff : AcceptsExactly declared root members s ↔
    firstUndeclared? declared root.ty members =
      firstUndeclared? Member.isDeclaredOn root.ty members := by
  constructor
  · rintro ⟨succeeds, fails⟩
    cases stops : firstUndeclared? declared root.ty members with
    | none =>
      have built := succeeds.2 (firstUndeclared?_eq_none_iff.1 stops)
      exact ((exists_tryBuild_accessAll_iff s).1 built).symm
    | some found =>
      obtain ⟨m, owner⟩ := found
      obtain ⟨before, after, split, along, behind, undeclared⟩ :=
        firstUndeclared?_eq_some_iff.1 stops
      rw [behind] at undeclared
      have run := fails before m after split along undeclared
      rw [← behind] at run
      cases refused : firstUndeclared? Member.isDeclaredOn root.ty members with
      | none =>
        obtain ⟨e, t, built⟩ := (exists_tryBuild_accessAll_iff s).2 refused
        cases run.symm.trans built
      | some _ =>
        cases run.symm.trans (tryBuild_accessAll_of_refused refused s)
        rfl
  · intro same
    refine ⟨?_, fun before m after split along undeclared => ?_⟩
    · rw [exists_tryBuild_accessAll_iff, ← same, firstUndeclared?_eq_none_iff]
    · refine tryBuild_accessAll_of_refused ?_ s
      rw [← same]
      exact firstUndeclared?_eq_some_iff.2 ⟨before, after, split, along, rfl, undeclared⟩

/-- The accesses to some members are built just when the check accepts all of them, and else the
first one that it refuses is the error. Whether a member belongs to the type it is accessed on
describes the same outcome unless the members that the check accepts lead to a nullable type and the
next one is declared on that type itself. -/
theorem acceptsExactly_accessAll (root : Expr) (members : List Member) (s : Supply) :
    AcceptsExactly Member.isDeclaredOn root members s ∧
    (AcceptsExactly Member.belongsTo root members s ↔
      ∀ before m after, members = before ++ m :: after →
        DeclaredAlong Member.isDeclaredOn root.ty before →
          ¬ m.IsOfNullable (root.ty.behind before)) := by
  refine ⟨acceptsExactly_iff.2 rfl, ?_⟩
  rw [acceptsExactly_iff, firstUndeclared?_belongsTo_iff]
  constructor
  · intro proper before m after split along own
    have refused := (Member.isOfNullable_iff.1 own).2
    have first := firstUndeclared?_eq_some_iff.2 ⟨before, after, split, along, rfl, refused⟩
    exact proper m _ first own
  · intro proper m owner refused
    obtain ⟨before, after, split, along, rfl, _⟩ := firstUndeclared?_eq_some_iff.1 refused
    exact proper before m after split along

/-- A property of a nullable integer is refused on a nullable integer. -/
theorem accessAll_refuses_nullable :
    ¬ ∀ (s : Supply) (held : List Expr) (root : Expr) (members : List Member), Reachable s held →
      root ∈ held → AcceptsExactly Member.belongsTo root members s := by
  intro exactly
  let count : Expr := .node ⟨0⟩ (.nullable .int) (.parameter "n")
  have reach : Reachable ⟨1⟩ [count] := (Reachable.start ⟨0⟩).next (.build (.parameter "n" _))
  let hasValue : Member := .property (.nullable .int) "HasValue" .bool
  obtain ⟨e, t, built⟩ :=
    (exactly _ _ count [hasValue] reach List.mem_cons_self).succeeds.2 ⟨by decide, trivial⟩
  cases built

end Expr

end ExpressionGraphs
