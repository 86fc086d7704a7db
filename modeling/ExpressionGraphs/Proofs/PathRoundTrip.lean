import ExpressionGraphs.Path.Access
import ExpressionGraphs.Proofs.Building
import ExpressionGraphs.Proofs.Chains

set_option autoImplicit false

/-!
# Paths read back

Building the accesses along a path and reading the path of a chain are inverse to each other. A
segment resolves to a member of its name, and each member is put around what the segments before it
have built, so that the chain holds the members in the order of the segments.
-/

namespace ExpressionGraphs

/-- Segments resolve to members, each on the type of the member before. -/
inductive Resolves {ε : Type} (resolve : Resolver Id ε) : Ty → List String → List Member → Prop
  | nil (ty : Ty) : Resolves resolve ty [] []
  | cons {ty : Ty} {segment : String} {rest : List String} {m : Member} {members : List Member}
    (answer : (resolve ty segment).run = pure (.ok m)) (tail : Resolves resolve m.ty rest members) :
    Resolves resolve ty (segment :: rest) (m :: members)

namespace Resolves

variable {ε : Type} {resolve : Resolver Id ε} {ty : Ty} {segments : List String}
  {members : List Member}

theorem length_eq (resolves : Resolves resolve ty segments members) :
    members.length = segments.length := by
  induction resolves with
  | nil => rfl
  | cons _ _ ih => rw [List.length_cons, List.length_cons, ih]

theorem names (resolves : Resolves resolve ty segments members)
    (named : ∀ ty name m, (resolve ty name).run = pure (.ok m) → m.name = name) :
    members.map Member.name = segments := by
  induction resolves with
  | nil => rfl
  | cons answer _ ih => rw [List.map_cons, ih, named _ _ _ answer]

theorem take_cursor (resolves : Resolves resolve ty segments members) :
    ∃ last, PathCursor.take resolve segments.length ⟨ty, segments⟩ =
      pure (members.map .ok, last) := by
  induction resolves with
  | nil ty => exact ⟨⟨ty, []⟩, rfl⟩
  | @cons ty segment rest m members answer _ ih =>
    obtain ⟨last, tail⟩ := ih
    refine ⟨last, ?_⟩
    rw [List.length_cons, PathCursor.take, PathCursor.next?]
    simp only [answer, pure_bind, tail, List.map_cons]

theorem toList_cursor (resolves : Resolves resolve ty segments members) :
    (PathCursor.toList resolve ⟨ty, segments⟩).run = members.map .ok := by
  obtain ⟨last, all⟩ := resolves.take_cursor
  rw [PathCursor.toList, all]
  rfl

end Resolves

theorem segments_ne_nil (path : String) : segments path ≠ [] :=
  fun h => splitAll_ne_nil '.' path.toList (List.map_eq_nil_iff.1 h)

theorem intercalate_segments (path : String) : ".".intercalate (segments path) = path := by
  rw [← String.toList_inj, String.toList_intercalate, segments, List.map_map]
  have unpacked : String.toList ∘ String.ofList = id := by
    funext cs
    exact String.toList_ofList
  rw [unpacked, List.map_id]
  exact intercalate_splitAll '.' path.toList

namespace Registry

theorem name_of_member? {r : Registry} {ty : Ty} {name : String} {m : Member}
    (h : r.member? name ty = some m) : m.name = name := by
  have in_class : ∀ className, r.classMember? className name = some m → m.name = name := by
    intro className h
    obtain ⟨members, _, found⟩ := Option.bind_eq_some_iff.1 h
    simpa using List.find?_some found
  unfold member? at h
  split at h
  · split at h
    · rename_i same
      cases h
      exact same.symm
    · cases h
  · exact in_class _ h
  · exact in_class _ h
  · cases h

theorem name_of_resolver {r : Registry} {ty : Ty} {name : String} {m : Member}
    (h : (r.resolver ty name).run = (pure (.ok m) : Id _)) : m.name = name := by
  have answer : r.lookup ty name = .ok m := h
  unfold lookup at answer
  split at answer
  · rename_i found
    cases answer
    exact name_of_member? found
  · cases answer

end Registry

/-! ## Customers with an address that may be missing, and the owner of an order as root -/

namespace Sample

def address : Member := .property (.named "Customer") "Address" (.nullable (.named "Address"))

def cityName : Member := .field (.named "Address") "City" .string

def customers : Registry :=
  (Registry.empty.withProperty "Customer" "Address" address.ty).withField "Address" "City" .string

def owner : Expr :=
  .node ⟨1⟩ (.named "Customer") (.member (.node ⟨0⟩ (.named "Order") (.parameter "o"))
    (.property (.named "Order") "Owner" (.named "Customer")))

def ownerCity : Expr :=
  .node ⟨3⟩ cityName.ty (.member (.node ⟨2⟩ address.ty (.member owner address)) cityName)

end Sample

namespace Expr

variable {ε : Type} {resolve : Resolver Id ε} {root e : Expr} {s t : Supply}

theorem tryBuild_accessSegment (s : Supply) (resolve : Resolver Id ε) (object : Expr)
    (segment : String) :
    s.tryBuild (object.accessSegment resolve segment) =
      (resolve object.ty segment).run.run >>= fun m => s.tryBuild (object.access m ε) := by
  unfold accessSegment
  rw [Supply.tryBuild_bind, Supply.tryBuild_lift]
  cases (resolve object.ty segment).run.run <;> rfl

theorem exists_of_accessSegment {object : Expr} {segment : String}
    (run : s.tryBuild (object.accessSegment resolve segment) = .ok (e, t)) :
    ∃ m, (resolve object.ty segment).run = pure (.ok m) ∧ m.isDeclaredOn object.ty = true ∧
      e = .node ⟨s.next⟩ m.ty (.member object m) ∧ t = ⟨s.next + 1⟩ := by
  rw [tryBuild_accessSegment] at run
  cases answer : (resolve object.ty segment).run.run with
  | error err =>
    rw [answer] at run
    cases run
  | ok m =>
    rw [answer] at run
    change s.tryBuild (object.access m ε) = _ at run
    rw [Supply.tryBuild_access] at run
    split at run <;> cases run
    rename_i declared
    exact ⟨m, answer, declared, rfl, rfl⟩

theorem wraps_of_foldlM {path : List String}
    (run : s.tryBuild (path.foldlM (accessSegment resolve) root) = .ok (e, t)) :
    ∃ members, Resolves resolve root.ty path members ∧ Wraps root members e := by
  induction path generalizing root s with
  | nil =>
    rw [List.foldlM_nil] at run
    cases run
    exact ⟨[], .nil _, .root _⟩
  | cons segment rest ih =>
    rw [List.foldlM_cons] at run
    obtain ⟨first, u, step, tail⟩ := Supply.exists_of_tryBuild_bind run
    obtain ⟨m, answer, _, rfl, _⟩ := exists_of_accessSegment step
    obtain ⟨members, resolves, wraps⟩ := ih tail
    exact ⟨m :: members, .cons answer resolves, .access _ wraps⟩

/-- Building along a path and reading the path of the chain are inverse: what is read is the path
built, behind the path of the root if that is an access. The chain keeps the root that it had and
grows by a node for each segment, and its type is that of the last member resolved. -/
theorem memberPath?_accessPath (r : Registry) {path : String}
    (run : s.tryBuild (root.accessPath r.resolver path) = .ok (e, t)) :
    (root.isMember = false → e.memberPath? = some path ∧ e.chainRoot? = some root) ∧
    (root.isMember = true → ∃ before origin,
      root.memberPath? = some before ∧ root.chainRoot? = some origin ∧
      e.memberPath? = some (before ++ "." ++ path) ∧ e.chainRoot? = some origin) ∧
    e.chain.length = root.chain.length + (segments path).length ∧
    ∃ members last, ((PathCursor.start root.ty path).toList (m := Id) r.resolver).run =
      (members ++ [last]).map .ok ∧ e.ty = last.ty := by
  obtain ⟨members, resolves, wraps⟩ := wraps_of_foldlM run
  have names : members.map Member.name = segments path :=
    resolves.names fun _ _ _ => Registry.name_of_resolver
  have nonempty : members ≠ [] := by
    rintro rfl
    exact segments_ne_nil path names.symm
  have whole : e.memberPath? =
      some (".".intercalate (root.chainMembers.map Member.name ++ segments path)) := by
    rw [memberPath?_of_isMember (wraps.isMember nonempty), wraps.chainMembers_eq, List.map_append,
      names]
  have origin := wraps.chainRoot?_eq nonempty
  refine ⟨fun other => ?_, fun chained => ?_, ?_, ?_⟩
  · obtain ⟨empty, no_root, _⟩ := views_of_not_isMember other
    rw [whole, origin, empty, no_root]
    exact ⟨congrArg some (intercalate_segments path), rfl⟩
  · have before := memberPath?_of_isMember chained
    obtain ⟨id, ty, object, m, rfl⟩ := exists_of_isMember chained
    have joined := chainMembers_member id ty object m
    refine ⟨_, _, before, chainRoot?_member id ty object m, ?_, ?_⟩
    · rw [whole, String.intercalate_append_of_ne_nil (by simp [joined]) (segments_ne_nil path),
        intercalate_segments]
    · rw [origin, chainRoot?_member, Option.getD_some]
  · rw [wraps.length_chain, resolves.length_eq]
  · refine ⟨members.dropLast, members.getLast nonempty, ?_, ?_⟩
    · rw [List.dropLast_append_getLast]
      exact resolves.toList_cursor
    · exact wraps.ty_of_getLast? (List.getLast?_eq_some_getLast nonempty)

theorem memberPath?_accessPath_owner :
    Supply.tryBuild ⟨2⟩ (Sample.owner.accessPath Sample.customers.resolver "Address.City") =
      .ok (Sample.ownerCity, ⟨4⟩) ∧
    Sample.ownerCity.memberPath? = some "Owner.Address.City" ∧
    Sample.ownerCity.chain.length = 3 := by
  have run : Supply.tryBuild ⟨2⟩ (Sample.owner.accessPath Sample.customers.resolver
      "Address.City") = .ok (Sample.ownerCity, ⟨4⟩) := rfl
  obtain ⟨_, behind, length, _⟩ := memberPath?_accessPath Sample.customers run
  obtain ⟨before, _, owner, _, whole, _⟩ := behind rfl
  have name : Sample.owner.memberPath? = some "Owner" := rfl
  rw [name] at owner
  cases owner
  exact ⟨run, whole, length⟩

end Expr

end ExpressionGraphs
