import ExpressionGraphs.Expr.Text
import ExpressionGraphs.Path.Chain

set_option autoImplicit false

/-!
# Chains of accesses built from a root

An expression under accesses to a list of members has the chain of the root behind as many new
nodes. Its members, its root, its type and its text are read off the list and the root alone.
-/

namespace ExpressionGraphs.Expr

theorem chainMembers_member (id : NodeId) (ty : Ty) (object : Expr) (m : Member) :
    (node id ty (.member object m)).chainMembers = object.chainMembers ++ [m] := by
  rw [chainMembers, chain_member, List.filterMap_cons]
  simp [chainMembers, asMember?, Expr.kind]

theorem text_member (id : NodeId) (ty : Ty) (object : Expr) (m : Member) :
    (node id ty (.member object m)).text = object.text ++ "." ++ m.name := by
  rw [text_eq]
  rfl

theorem chainRoot?_member (id : NodeId) (ty : Ty) (object : Expr) (m : Member) :
    (node id ty (.member object m)).chainRoot? = some (object.chainRoot?.getD object) := by
  induction object using induction generalizing id ty m with
  | step object ih =>
    obtain ⟨i, t, kind⟩ := object
    cases kind with
    | member inner n =>
      have rest := ih inner (by simp [Expr.kind, Kind.slots]) i t n
      rw [rest, Option.getD_some, ← rest, chainRoot?, chain_member, chain_member,
        List.getLast?_cons_cons, ← chain_member]
      rfl
    | _ => rfl

theorem exists_of_isMember {e : Expr} (h : e.isMember = true) :
    ∃ id ty object m, e = node id ty (.member object m) := by
  obtain ⟨id, ty, kind⟩ := e
  cases kind with
  | member object m => exact ⟨id, ty, object, m, rfl⟩
  | _ => cases h

/-- From the root of a chain outward: what holds of expressions that are no accesses, and of an
access if it holds of the object, holds of every expression. -/
@[elab_as_elim]
theorem access_induction {motive : Expr → Prop} (root : ∀ e, e.isMember = false → motive e)
    (access : ∀ id ty object m, motive object → motive (node id ty (.member object m)))
    (e : Expr) : motive e := by
  induction e using induction with
  | step e ih =>
    by_cases chained : e.isMember = true
    · obtain ⟨id, ty, object, m, rfl⟩ := exists_of_isMember chained
      exact access id ty object m (ih object (List.mem_singleton_self _))
    · exact root e (Bool.eq_false_iff.2 chained)

theorem views_of_not_isMember {e : Expr} (h : e.isMember = false) :
    e.chainMembers = [] ∧ e.chainRoot? = none ∧ e.memberPath? = none := by
  have empty := (chain_eq_nil_iff e).2 h
  rw [chainMembers, chainRoot?, memberPath?, empty]
  exact ⟨rfl, rfl, rfl⟩

theorem isMember_of_chainRoot? {e root : Expr} (origin : e.chainRoot? = some root) :
    e.isMember = true := by
  refine Bool.of_not_eq_false fun other => ?_
  rw [(views_of_not_isMember other).2.1] at origin
  cases origin

theorem memberPath?_of_isMember {e : Expr} (h : e.isMember = true) :
    e.memberPath? = some (".".intercalate (e.chainMembers.map Member.name)) := by
  obtain ⟨id, ty, object, m, rfl⟩ := exists_of_isMember h
  rw [memberPath?, chain_member]
  rfl

/-- An expression under accesses to members, the first of them innermost. -/
inductive Wraps : Expr → List Member → Expr → Prop
  | root (e : Expr) : Wraps e [] e
  | access {object e : Expr} {m : Member} {members : List Member} (id : NodeId)
    (rest : Wraps (node id m.ty (.member object m)) members e) : Wraps object (m :: members) e

namespace Wraps

variable {root e : Expr} {members : List Member}

theorem length_chain (wraps : Wraps root members e) :
    e.chain.length = root.chain.length + members.length := by
  induction wraps with
  | root => rfl
  | access id _ ih =>
    rw [ih, chain_member, List.length_cons, List.length_cons]
    omega

theorem chainMembers_eq (wraps : Wraps root members e) :
    e.chainMembers = root.chainMembers ++ members := by
  induction wraps with
  | root e => exact (List.append_nil e.chainMembers).symm
  | access id _ ih => rw [ih, chainMembers_member, List.append_assoc, List.singleton_append]

theorem ty_of_getLast? (wraps : Wraps root members e) {m : Member}
    (last : members.getLast? = some m) : e.ty = m.ty := by
  induction wraps with
  | root => cases last
  | access id rest ih =>
    cases rest with
    | root => exact congrArg Member.ty (Option.some.inj last)
    | access => exact ih (by rwa [List.getLast?_cons_cons] at last)

theorem chainRoot?_eq (wraps : Wraps root members e) (nonempty : members ≠ []) :
    e.chainRoot? = some (root.chainRoot?.getD root) := by
  induction wraps with
  | root => exact absurd rfl nonempty
  | access id rest ih =>
    cases rest with
    | root => exact chainRoot?_member _ _ _ _
    | access => rw [ih (List.cons_ne_nil _ _), chainRoot?_member, Option.getD_some]

theorem concat (wraps : Wraps root members e) (id : NodeId) (m : Member) :
    Wraps root (members ++ [m]) (node id m.ty (.member e m)) := by
  induction wraps with
  | root e => exact .access id (.root _)
  | access inner _ ih => exact .access inner ih

theorem cases_last (wraps : Wraps root members e) :
    (members = [] ∧ e = root) ∨ ∃ init m id object, members = init ++ [m] ∧
      e = node id m.ty (.member object m) ∧ Wraps root init object := by
  induction wraps with
  | root e => exact .inl ⟨rfl, rfl⟩
  | @access object e m members id rest ih =>
    rcases ih with ⟨rfl, rfl⟩ | ⟨init, last, outer, inner, rfl, rfl, wraps⟩
    · exact .inr ⟨[], m, id, object, rfl, rfl, .root object⟩
    · exact .inr ⟨m :: init, last, outer, inner, rfl, rfl, .access id wraps⟩

theorem eq_nil_of_self (wraps : Wraps e members e) : members = [] := by
  have length := wraps.length_chain
  apply List.eq_nil_of_length_eq_zero
  omega

theorem isMember (wraps : Wraps root members e) (nonempty : members ≠ []) : e.isMember = true := by
  refine Bool.of_not_eq_false fun other => ?_
  rw [← chain_eq_nil_iff] at other
  have length := wraps.length_chain
  have := List.length_pos_iff.2 nonempty
  rw [other, List.length_nil] at length
  omega

theorem ne_nil (wraps : Wraps root members e) (innermost : root.isMember = false)
    (chained : e.isMember = true) : members ≠ [] := by
  rintro rfl
  cases wraps
  rw [innermost] at chained
  cases chained

theorem memberPath?_eq (wraps : Wraps root members e) (nonempty : members ≠ []) :
    e.memberPath? =
      some (".".intercalate (root.chainMembers.map Member.name ++ members.map Member.name)) := by
  rw [memberPath?_of_isMember (wraps.isMember nonempty), wraps.chainMembers_eq, List.map_append]

theorem text_eq (wraps : Wraps root members e) :
    e.text = (members.map Member.name).foldl (fun text name => text ++ "." ++ name) root.text := by
  induction wraps with
  | root => rfl
  | access id _ ih =>
    rw [ih, text_member]
    rfl

end Wraps

end ExpressionGraphs.Expr
