import ExpressionGraphs.Proofs.Placement
import ExpressionGraphs.Proofs.Registries
import ExpressionGraphs.Registry.Registration

set_option autoImplicit false

/-!
# What a registry says of its history

A registry reflects its history: a class lists each name that was ever registered for it once, in
the order of the first registrations, with the type and kind of the last registration. A
registration bears on its own class and name alone, so that the order of registrations of different
members does not show in any answer.
-/

namespace ExpressionGraphs

/-! ## Histories -/

theorem lastIn?_concat (history : List Registration) (g : Registration) (className name : String) :
    lastIn? (history ++ [g]) className name =
      if g.key = (className, name) then some g else lastIn? history className name := by
  rw [lastIn?, List.reverse_concat, List.find?_cons]
  by_cases own : g.key = (className, name) <;> simp [own, lastIn?]

theorem namesIn_concat (history : List Registration) (g : Registration) (className : String) :
    namesIn (history ++ [g]) className =
      if g.className = className ∧ g.name ∉ namesIn history className then
        namesIn history className ++ [g.name]
      else namesIn history className := by
  by_cases own : g.className = className
  · let names := (history.filter fun h => h.className = className).map Registration.name
    have grown : namesIn (history ++ [g]) className = (names ++ [g.name]).eraseDups := by
      simp [namesIn, own, names]
    rw [grown, List.eraseDups_append]
    by_cases known : g.name ∈ names
    · have nothing : [g.name].removeAll names = [] := by simp [List.removeAll, known]
      rw [nothing, if_neg fun both => both.2 (List.mem_eraseDups.2 known)]
      exact List.append_nil _
    · have kept : [g.name].removeAll names = [g.name] := by simp [List.removeAll, known]
      rw [kept, if_pos ⟨own, fun mem => known (List.mem_eraseDups.1 mem)⟩]
      rfl
  · simp [namesIn, own]

namespace Registry

variable {r : Registry} {history : List Registration}

/-! ## One registration -/

theorem classMember?_enter (r : Registry) (g : Registration) (className name : String) :
    (r.enter g).classMember? className name =
      if g.key = (className, name) then some g.member else r.classMember? className name := by
  rw [classMember?_eq, listed_enter, classMember?_eq]
  by_cases own : g.className = className
  · rw [if_pos own, putMember_eq_putBy, find?_putBy, Registration.member_name]
    by_cases named : g.name = name
    · rw [if_pos named, if_pos (Prod.ext own named)]
    · rw [if_neg named, if_neg fun key => named (congrArg Prod.snd key)]
  · rw [if_neg own, if_neg fun key => own (congrArg Prod.fst key)]

/-! ## Reflection -/

/-- The registry says of each class what its history says. -/
structure Reflects (r : Registry) (history : List Registration) : Prop where
  names : ∀ className, (r.listed className).map Member.name = namesIn history className
  distinct : ∀ className, ((r.listed className).map Member.name).Nodup
  latest : ∀ className name,
    r.classMember? className name = (lastIn? history className name).map Registration.member

namespace Reflects

theorem empty : Reflects Registry.empty [] := by
  have unknown : ∀ className, Registry.empty.listed className = [] := by
    intro className
    have missing : Registry.empty.members? className = none := Std.TreeMap.getElem?_emptyc
    rw [listed, missing]
    rfl
  refine ⟨fun className => ?_, fun className => ?_, fun className name => ?_⟩
  · rw [unknown]
    rfl
  · rw [unknown]
    exact List.nodup_nil
  · rw [classMember?_eq, unknown]
    rfl

theorem declare (reflects : r.Reflects history) (className : String) :
    (r.declare className).Reflects history where
  names other := by rw [listed_declare, reflects.names]
  distinct other := by
    rw [listed_declare]
    exact reflects.distinct other
  latest other name := by rw [classMember?_eq, listed_declare, ← classMember?_eq, reflects.latest]

theorem enter (reflects : r.Reflects history) (g : Registration) :
    (r.enter g).Reflects (history ++ [g]) where
  names className := by
    rw [listed_enter, namesIn_concat, ← reflects.names]
    by_cases own : g.className = className
    · rw [if_pos own, putMember_eq_putBy, keys_putBy, Registration.member_name]
      by_cases known : g.name ∈ (r.listed className).map Member.name
      · rw [if_pos known, if_neg fun both => both.2 known]
      · rw [if_neg known, if_pos ⟨own, known⟩]
    · rw [if_neg own, if_neg fun both => own both.1]
  distinct className := by
    have before := reflects.distinct className
    rw [listed_enter]
    by_cases own : g.className = className
    · rw [if_pos own, putMember_eq_putBy]
      exact nodup_keys_putBy before _
    · rw [if_neg own]
      exact before
  latest className name := by
    rw [classMember?_enter, lastIn?_concat, reflects.latest]
    split <;> rfl

theorem enterAll (reflects : r.Reflects history) (more : List Registration) :
    (r.enterAll more).Reflects (history ++ more) := by
  induction more generalizing r history with
  | nil =>
    rw [List.append_nil]
    exact reflects
  | cons g more ih =>
    rw [List.append_cons]
    exact ih (reflects.enter g)

theorem listed_eq (reflects : r.Reflects history) (className : String) :
    r.listed className =
      (namesIn history className).filterMap fun name =>
        (lastIn? history className name).map Registration.member := by
  rw [eq_filterMap_find? (reflects.distinct className), reflects.names]
  refine List.filterMap_congr fun name _ => ?_
  rw [← classMember?_eq, reflects.latest]

theorem listed_eq_listed {other : Registry} (reflects : r.Reflects history)
    (reflects' : other.Reflects history) (className : String) :
    r.listed className = other.listed className := by
  rw [reflects.listed_eq, reflects'.listed_eq]

end Reflects

theorem lookup_congr {other : Registry}
    (same : ∀ className, r.classMember? className = other.classMember? className)
    (ty : Ty) (name : String) : r.lookup ty name = other.lookup ty name := by
  have found : r.member? name ty = other.member? name ty := by
    unfold member?
    split <;> simp [same]
  rw [lookup, lookup, found]

end Registry

end ExpressionGraphs
