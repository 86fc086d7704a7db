import ExpressionGraphs.Proofs.PathRebuilding
import ExpressionGraphs.Proofs.RegistryHistory

set_option autoImplicit false

/-!
# Paths with empty segments

A path has an empty segment when it is empty itself, begins or ends with a dot, or has two dots in a
row. An empty segment is looked up like any other, and there is a member for it on a class for which
one has been registered under the empty name: neither a program nor a schema is kept from doing so.
Where no such registration was ever made, and only there, every path with an empty segment fails.
-/

namespace ExpressionGraphs

/-! ## Where a segment is empty -/

section Splitting

variable {α : Type} [DecidableEq α] (separator : α) (l : List α)

theorem head?_splitAll_eq_nil_iff :
    (splitAll separator l).head? = some [] ↔ l = [] ∨ [separator] <+: l := by
  cases l with
  | nil => simp [splitAll]
  | cons a l =>
    by_cases same : a = separator
    · subst same
      simp [splitAll_cons_self]
    · obtain ⟨part, parts, split⟩ := List.exists_cons_of_ne_nil (splitAll_ne_nil separator l)
      simp [splitAll_cons_of_ne same, split, List.cons_prefix_cons, Ne.symm same]

theorem nil_mem_tail_splitAll_iff :
    [] ∈ (splitAll separator l).tail ↔
      [separator] <:+ l ∨ [separator, separator] <:+: l := by
  induction l with
  | nil => simp [splitAll]
  | cons a l ih =>
    obtain ⟨part, parts, split⟩ := List.exists_cons_of_ne_nil (splitAll_ne_nil separator l)
    have first := head?_splitAll_eq_nil_iff separator l
    rw [split, List.head?_cons, Option.some.injEq] at first
    rw [split, List.tail_cons] at ih
    rw [List.suffix_cons_iff, List.infix_cons_iff, List.cons_prefix_cons]
    by_cases same : a = separator
    · subst same
      rw [splitAll_cons_self, split, List.tail_cons, List.mem_cons, ih, eq_comm, first]
      simp only [List.cons.injEq, true_and, eq_comm (a := []) (b := l)]
      tauto
    · have shorter : [separator] ≠ a :: l := fun h => same (List.cons.inj h).1.symm
      rw [splitAll_cons_of_ne same, split, List.modifyHead_cons, List.tail_cons, ih]
      simp only [shorter, Ne.symm same, false_and, false_or]

theorem nil_mem_splitAll_iff :
    [] ∈ splitAll separator l ↔
      l = [] ∨ [separator] <+: l ∨ [separator] <:+ l ∨ [separator, separator] <:+: l := by
  have first := head?_splitAll_eq_nil_iff separator l
  have later := nil_mem_tail_splitAll_iff separator l
  obtain ⟨part, parts, split⟩ := List.exists_cons_of_ne_nil (splitAll_ne_nil separator l)
  rw [split, List.head?_cons, Option.some.injEq] at first
  rw [split, List.tail_cons] at later
  rw [split, List.mem_cons, eq_comm, first, later, or_assoc]

end Splitting

theorem empty_mem_segments_iff (path : String) :
    "" ∈ segments path ↔ path = "" ∨ ['.'] <+: path.toList ∨ ['.'] <:+ path.toList ∨
      ['.', '.'] <:+: path.toList := by
  have packed : "" ∈ segments path ↔ [] ∈ splitAll '.' path.toList := by
    rw [segments, List.mem_map]
    constructor
    · rintro ⟨part, mem, empty⟩
      rwa [String.ofList_eq_empty_iff.1 empty] at mem
    · intro mem
      exact ⟨[], mem, rfl⟩
  rw [packed, nil_mem_splitAll_iff, String.toList_eq_nil_iff]

/-! ## Segments in the middle of a path -/

theorem Resolves.exists_at {ε : Type} {resolve : Resolver Id ε} {ty : Ty}
    {before rest : List String} {segment : String} {members : List Member}
    (resolves : Resolves resolve ty (before ++ segment :: rest) members) :
    ∃ init m tail, members = init ++ m :: tail ∧ Resolves resolve ty before init ∧
      (resolve (ty.behind init) segment).run = pure (.ok m) ∧ Resolves resolve m.ty rest tail := by
  induction before generalizing ty members with
  | nil =>
    cases resolves with
    | cons answer tail => exact ⟨[], _, _, rfl, .nil ty, answer, tail⟩
  | cons first before ih =>
    cases resolves with
    | @cons _ _ _ m _ answer tail =>
      obtain ⟨init, found, behind, rfl, resolved, at_segment, rest⟩ := ih tail
      refine ⟨m :: init, found, behind, rfl, .cons answer resolved, ?_, rest⟩
      rw [Ty.behind_cons]
      exact at_segment

/-! ## Names that have been registered -/

namespace Registry

theorem Origin.reachable {r : Registry} {past : List Registration} (origin : Origin r past) :
    r.Reachable := by
  cases origin with
  | empty => exact .empty
  | ofSchema ordered run => exact .ofSchema ordered run

theorem Reachable.callAll {r : Registry} (h : r.Reachable) (calls : List RegistryCall) :
    (r.callAll calls).Reachable := by
  induction calls generalizing r with
  | nil => exact h
  | cons call calls ih =>
    apply ih
    cases call with
    | register className name ty kind => exact h.register className name ty kind
    | withField className name ty => exact h.withField className name ty
    | withProperty className name ty => exact h.withProperty className name ty

theorem Reflects.isSome_classMember?_iff {r : Registry} {history : List Registration}
    (reflects : r.Reflects history) {className name : String} :
    (r.classMember? className name).isSome ↔ ∃ g ∈ history, g.key = (className, name) := by
  rw [reflects.latest, Option.isSome_map, lastIn?, List.find?_isSome]
  simp

theorem exists_class_of_member?_empty {r : Registry} {ty : Ty} {m : Member}
    (found : r.member? "" ty = some m) :
    ∃ className, (ty = .named className ∨ ty = .nullable (.named className)) ∧
      r.classMember? className "" = some m := by
  unfold member? at found
  split at found
  · cases found
  · exact ⟨_, .inl rfl, found⟩
  · exact ⟨_, .inr rfl, found⟩
  · cases found

end Registry

/-! ## Orders with a field that has no name -/

namespace Sample

def unnamed : Schema := [("Order", ⟨[("", "int")], []⟩)]

theorem ofToml_unnamed :
    Schema.ofToml "[classes.Order.fields]\n\"\" = \"int\"" = .ok unnamed := by
  decide +kernel

theorem ordered_unnamed : unnamed.Ordered := Schema.ordered_of_ofToml ofToml_unnamed

theorem load_unnamed : Registry.ofSchema unnamed = .ok unnamed.loaded := by
  have clean : ∀ e ∈ unnamed.entries, unnamed.offence? e = none := by decide +kernel
  exact ordered_unnamed.ofSchema_eq_ok_iff.2 ⟨rfl, clean⟩

end Sample

/-! ## Whether a path is found -/

namespace Expr

open Registry (Origin)

variable {r : Registry} {history : List Registration}

/-- Each empty segment is looked up on a class, nullable or not, for which the empty name has been
registered. -/
def FindsEmpty (r : Registry) (history : List Registration) (root : Expr) (path : String) : Prop :=
  ∀ before rest, segments path = before ++ "" :: rest →
    ∃ members, Resolves r.resolver root.ty before members ∧
      ∃ g ∈ history, g.name = "" ∧ (root.ty.behind members = .named g.className ∨
        root.ty.behind members = .nullable (.named g.className))

theorem tryBuild_accessPath_empty (reflects : r.Reflects history) (declaring : r.Declaring)
    (root : Expr) (path : String) (s : Supply) :
    (∃ ty name, s.tryBuild (root.accessPath r.resolver path) =
      .error (.memberNotFound ty name)) ∨
    (∃ e t, s.tryBuild (root.accessPath r.resolver path) = .ok (e, t)) ∧
      FindsEmpty r history root path := by
  cases run : s.tryBuild (root.accessPath r.resolver path) with
  | error error =>
    obtain ⟨_, _, _, _, _, _, _, rfl⟩ := exists_unknown_of_error declaring run
    exact .inl ⟨_, _, rfl⟩
  | ok built =>
    obtain ⟨members, resolves, -⟩ := wraps_of_foldlM run
    refine .inr ⟨⟨built.1, built.2, rfl⟩, fun before rest split => ?_⟩
    rw [split] at resolves
    obtain ⟨init, m, _, -, resolved, answer, -⟩ := resolves.exists_at
    obtain ⟨className, shape, found⟩ :=
      Registry.exists_class_of_member?_empty (Registry.member?_of_resolver answer)
    obtain ⟨g, mem, key⟩ := reflects.isSome_classMember?_iff.1 (Option.isSome_of_eq_some found)
    obtain ⟨rfl, named⟩ := Prod.mk.inj key
    exact ⟨init, resolved, g, mem, named, shape⟩

theorem exists_tryBuild_accessPath_empty (reflects : r.Reflects history) (declaring : r.Declaring)
    {g : Registration} (mem : g ∈ history) (named : g.name = "") (root : Expr)
    (typed : root.ty = .named g.className) (s : Supply) :
    ∃ e t, s.tryBuild (root.accessPath r.resolver "") = .ok (e, t) := by
  obtain ⟨m, found⟩ := Option.isSome_iff_exists.1
    (reflects.isSome_classMember?_iff.2 ⟨g, mem, rfl⟩)
  rw [named] at found
  have own : r.member? "" root.ty = some m := by
    rw [typed]
    exact found
  have resolves : Resolves r.resolver root.ty (segments "") [m] :=
    .cons (Registry.resolver_of_member? own) (.nil _)
  obtain ⟨e, t, -, run⟩ :=
    tryBuildIn_accessPath_of_resolves resolves (declaring.accepted resolves) s []
  refine ⟨e, t, ?_⟩
  rw [← tryBuildIn_accessPath_fst _ [], run]

/-- A path with an empty segment fails for want of a member, or finds a member for each of its empty
segments where the empty name has been registered for a class. That all such paths fail, from every
root, holds of those registries alone for which the empty name was never registered, neither by a
call nor by a schema. -/
theorem accessPath_of_emptySegment {start : Registry} {past : List Registration}
    (origin : Origin start past) (calls : List RegistryCall) :
    let r := start.callAll calls
    let history := past ++ calls.map RegistryCall.registration
    (∀ path, "" ∈ segments path ↔ path = "" ∨ ['.'] <+: path.toList ∨ ['.'] <:+ path.toList ∨
      ['.', '.'] <:+: path.toList) ∧
    (∀ (root : Expr) (path : String) (s : Supply), "" ∈ segments path →
      (∃ ty name, s.tryBuild (root.accessPath r.resolver path) =
        .error (.memberNotFound ty name)) ∨
      (∃ e t, s.tryBuild (root.accessPath r.resolver path) = .ok (e, t)) ∧
        FindsEmpty r history root path) ∧
    ((∀ (root : Expr) (path : String) (s : Supply), "" ∈ segments path →
      ∃ ty name, s.tryBuild (root.accessPath r.resolver path) =
        .error (.memberNotFound ty name)) ↔ ∀ g ∈ history, g.name ≠ "") := by
  intro r history
  have reflects : r.Reflects history := by
    change (start.callAll calls).Reflects _
    rw [Registry.callAll_eq_enterAll]
    exact origin.reflects.enterAll _
  have declaring : r.Declaring := (origin.reachable.callAll calls).declaring
  refine ⟨empty_mem_segments_iff, fun root path s _ =>
    tryBuild_accessPath_empty reflects declaring root path s, fun fails g mem named => ?_, ?_⟩
  · obtain ⟨e, t, run⟩ := exists_tryBuild_accessPath_empty reflects declaring mem named
      (.node ⟨0⟩ (.named g.className) (.parameter "x")) rfl ⟨1⟩
    obtain ⟨ty, name, fails⟩ := fails _ "" ⟨1⟩ (by decide)
    rw [run] at fails
    cases fails
  · intro none_empty root path s empty
    rcases tryBuild_accessPath_empty reflects declaring root path s with fails | ⟨-, finds⟩
    · exact fails
    · obtain ⟨before, rest, split⟩ := List.append_of_mem empty
      obtain ⟨_, _, g, mem, named, _⟩ := finds before rest split
      exact absurd named (none_empty g mem)

theorem accessPath_of_emptySegment_orders :
    (∃ ty name, Supply.tryBuild ⟨2⟩ (Sample.owner.accessPath Sample.customers.resolver
      "Address..City") = .error (.memberNotFound ty name)) ∧
    ∃ start, Registry.ofToml "[classes.Order.fields]\n\"\" = \"int\"" = .ok start ∧
      ¬ ∀ (root : Expr) (path : String) (s : Supply), "" ∈ segments path →
        ∃ ty name, s.tryBuild (root.accessPath start.resolver path) =
          .error (.memberNotFound ty name) := by
  refine ⟨?_, ?_⟩
  · have all := accessPath_of_emptySegment .empty
      [.withProperty "Customer" "Address" Sample.address.ty, .withField "Address" "City" .string]
    refine all.2.2.2 ?_ Sample.owner "Address..City" ⟨2⟩ (by decide)
    decide
  · have read := Schema.ofToml_eq_ofSchema Sample.ofToml_unnamed
    refine ⟨Sample.unnamed.loaded, read.trans Sample.load_unnamed, fun fails => ?_⟩
    have entered : Sample.unnamed.registrations = [⟨"Order", "", .int, .field⟩] := by
      decide +kernel
    have origin := Origin.ofSchema Sample.ordered_unnamed Sample.load_unnamed
    have none_empty := (accessPath_of_emptySegment origin []).2.2.1 fails
    rw [entered] at none_empty
    exact none_empty _ List.mem_cons_self rfl

/-- The empty path leads to a field that has been registered under the empty name. -/
theorem accessPath_emptyName_builds :
    ¬ ∀ (r : Registry) (root : Expr) (path : String) (s : Supply), r.Reachable →
      "" ∈ segments path →
      ∃ ty name, s.tryBuild (root.accessPath r.resolver path) =
        .error (.memberNotFound ty name) := by
  intro fails
  obtain ⟨ty, name, run⟩ := fails (Registry.empty.withField "Order" "" .int) Sample.order "" ⟨1⟩
    (.withField .empty "Order" "" .int) (by decide)
  cases run

end Expr

end ExpressionGraphs
