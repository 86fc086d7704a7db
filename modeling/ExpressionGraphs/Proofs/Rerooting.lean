import ExpressionGraphs.Proofs.NodeTyping
import ExpressionGraphs.Proofs.Outcome
import ExpressionGraphs.Proofs.Registries

set_option autoImplicit false

/-!
# Chains on another root

To substitute for the root of a chain puts the same members, with the types that they declare, around
another node. A path can therefore be followed first and its root exchanged afterwards, and a lambda
that selects along a path continues the path of the expression that it is specialized to.
-/

namespace ExpressionGraphs

namespace Expr

variable {e old new root : Expr} {members : List Member} {s : Supply} {held : List Expr}

theorem Wraps.root_mem_nodes (wraps : Wraps root members e) : root ∈ e.nodes := by
  induction wraps with
  | root e => exact e.mem_nodes_self
  | access id _ ih =>
    refine mem_nodes_trans ?_ ih
    apply mem_nodes_of_mem_slots (List.mem_singleton_self _)
    exact mem_nodes_self _

/-- The pass finds the root and no access above it, so that each access is kept or rebuilt around
what has become of its object. -/
theorem Wraps.substitute (wraps : Wraps old members e) (sound : s.Sound held)
    (mem : e ∈ nodesOf held) (new_mem : new ∈ nodesOf held) {u : Supply} (le : s.next ≤ u.next) :
    Wraps new members (u.build (e.substitute old new)) := by
  have old_mem := mem_nodesOf_of_mem_nodes mem wraps.root_mem_nodes
  have other : ∀ node members, answerOf [(old, new)] node = none → Wraps old members node →
      ∃ init m id object, members = init ++ [m] ∧ node = .node id m.ty (.member object m) ∧
        Wraps old init object := by
    intro node members h wraps
    rcases wraps.cases_last with ⟨-, rfl⟩ | access
    · simp [answerOf_single, sameNode] at h
    · exact access
  rw [substitute_eq_replace]
  refine pass_induction (motive := fun node out =>
    ∀ members, Wraps old members node → Wraps new members out) sound mem ?_ ?_ ?_ ?_ le members wraps
  · intro node _ answer h
    exact (answerOf_single_eq_some_iff.1 h).2 ▸ new_mem
  · intro node inner answer h members wraps
    obtain ⟨hit, rfl⟩ := answerOf_single_eq_some_iff.1 h
    have node_mem := mem_nodesOf_of_mem_nodes mem (mem_nodes_of_mem_met inner)
    rw [sound.eq_of_sameNode node_mem old_mem hit] at wraps
    rw [wraps.eq_nil_of_self]
    exact .root new
  · intro node _ h _ operands members wraps
    obtain ⟨init, m, id, object, rfl, rfl, below⟩ := other node members h wraps
    exact (operands object List.mem_cons_self init below).concat id m
  · intro node _ h _ v outs _ related members wraps
    obtain ⟨init, m, id, object, rfl, rfl, below⟩ := other node members h wraps
    cases related with
    | cons first rest =>
      cases rest with
      | nil => exact (first init below).concat ⟨v.next⟩ m

theorem wraps_chainMembers (formed : ∀ node ∈ e.nodes, node.Formed) (chained : e.isMember = true) :
    ∃ root, e.chainRoot? = some root ∧ root.isMember = false ∧ Wraps root e.chainMembers e := by
  induction e using induction with
  | step e ih =>
    obtain ⟨id, ty, object, m, rfl⟩ := exists_of_isMember chained
    have typed : ty = m.ty := (formed _ (mem_nodes_self _)).member rfl
    have slot : object ∈ (node id ty (.member object m)).kind.slots := List.mem_singleton_self _
    rw [chainMembers_member, chainRoot?_member, typed]
    by_cases inner : object.isMember = true
    · obtain ⟨root, found, innermost, wraps⟩ :=
        ih object slot (fun node below => formed node (mem_nodes_of_mem_slots slot below)) inner
      rw [found]
      exact ⟨root, rfl, innermost, wraps.concat id m⟩
    · have innermost := Bool.eq_false_iff.2 inner
      obtain ⟨empty, none, _⟩ := views_of_not_isMember innermost
      rw [empty, none]
      exact ⟨object, rfl, innermost, .access id (.root _)⟩

theorem exists_root (sound : s.Sound held) (mem : e ∈ nodesOf held) (chained : e.isMember = true) :
    ∃ root, e.chainRoot? = some root ∧ root.isMember = false ∧ Wraps root e.chainMembers e :=
  wraps_chainMembers (fun node inner => sound.formed node (mem_nodesOf_of_mem_nodes mem inner))
    chained

end Expr

/-! ## Paths from roots that expose the same members -/

section Exchange

variable {ε : Type} {resolve : Resolver Id ε} {ty ty' : Ty} {path : List String}
  {members : List Member}

theorem Accepted.congr (same : ty.withoutNullable = ty'.withoutNullable)
    (accepted : Accepted ty members) : Accepted ty' members := by
  cases members with
  | nil => trivial
  | cons m members =>
    obtain ⟨declared, rest⟩ := accepted
    refine ⟨?_, rest⟩
    rw [Member.isDeclaredOn, ← same]
    exact declared

theorem Registry.resolves_congr {r : Registry}
    (same : ∀ name, r.member? name ty = r.member? name ty')
    (resolves : Resolves r.resolver ty path members) : Resolves r.resolver ty' path members := by
  cases resolves with
  | nil => exact .nil ty'
  | cons answer tail =>
    have found := member?_of_resolver answer
    rw [same] at found
    exact .cons (resolver_of_member? found) tail

end Exchange

/-! ## Customers, one of whom may be missing, and the selector of a customer's city -/

namespace Sample

def guest : Expr := .node ⟨2⟩ (.named "Customer") (.parameter "guest")

def host : Expr := .node ⟨3⟩ (.named "Customer") (.parameter "host")

def absent : Expr := .node ⟨4⟩ (.nullable (.named "Customer")) (.parameter "absent")

def guestAddress : Expr := .node ⟨5⟩ address.ty (.member guest address)

def guestCity : Expr := .node ⟨6⟩ cityName.ty (.member guestAddress cityName)

def guests : List Expr :=
  [guestCity, guestAddress, absent, host, guest, owner,
    .node ⟨0⟩ (.named "Order") (.parameter "o")]

theorem reachable_guests : Reachable ⟨7⟩ guests := by
  have order : Reachable ⟨1⟩ [.node ⟨0⟩ (.named "Order") (.parameter "o")] :=
    (Reachable.start ⟨0⟩).next (.build (.parameter "o" (.named "Order")))
  have owned : Reachable ⟨2⟩ [owner, .node ⟨0⟩ (.named "Order") (.parameter "o")] :=
    order.next (.access List.mem_cons_self
      (.property (.named "Order") "Owner" (.named "Customer")) rfl)
  have customers : Reachable ⟨5⟩ [absent, host, guest, owner,
      .node ⟨0⟩ (.named "Order") (.parameter "o")] :=
    ((owned.next (.build (.parameter "guest" (.named "Customer")))).next
      (.build (.parameter "host" (.named "Customer")))).next
      (.build (.parameter "absent" (.nullable (.named "Customer"))))
  have addressed : Reachable ⟨6⟩ [guestAddress, absent, host, guest, owner,
      .node ⟨0⟩ (.named "Order") (.parameter "o")] :=
    customers.next (.access (show guest ∈ [absent, host, guest, owner, _] by simp) address rfl)
  exact addressed.next (.access List.mem_cons_self cityName rfl)

end Sample

namespace Expr

variable {s : Supply} {held : List Expr}

section Roots

variable {ε : Type} {resolve : Resolver Id ε} {path : String} {members : List Member} {x y : Expr}

/-- What a path builds on `x` is, but for identities, what it builds on `y` as soon as `y` is
substituted for `x`. -/
def BuildsAlike (s : Supply) (resolve : Resolver Id ε) (path : String) (x y : Expr) : Prop :=
  ∃ e t, s.tryBuild (x.accessPath resolve path) = .ok (e, t) ∧
    ∀ u : Supply, ∃ e' u', u.tryBuild (y.accessPath resolve path) = .ok (e', u') ∧
      ∀ v : Supply, t.next ≤ v.next → (v.build (e.substitute x y)).form = e'.form

theorem buildsAlike_of_resolves (reach : Reachable s held) (x_mem : x ∈ held) (y_mem : y ∈ held)
    (first : Resolves resolve x.ty (segments path) members) (accepted : Accepted x.ty members)
    (second : Resolves resolve y.ty (segments path) members) (accepted' : Accepted y.ty members) :
    BuildsAlike s resolve path x y := by
  obtain ⟨e, t, wraps, run⟩ := tryBuildIn_accessPath_of_resolves first accepted s []
  obtain ⟨more, kept, reach', out⟩ :=
    arrives_foldlM (fun reach mem run => reach.arrives_accessSegment mem run) reach x_mem run
  refine ⟨e, t, ?_, fun u => ?_⟩
  · rw [← tryBuildIn_accessPath_fst s [] x path, run]
  obtain ⟨e', u', wraps', run'⟩ := tryBuildIn_accessPath_of_resolves second accepted' u []
  refine ⟨e', u', ?_, fun v le => ?_⟩
  · rw [← tryBuildIn_accessPath_fst u [] y path, run']
  have exchanged := wraps.substitute reach'.sound (mem_nodesOf_of_mem out)
    (mem_nodesOf_of_mem (kept y_mem)) le
  exact exchanged.form_eq wraps' rfl

theorem tryBuild_accessPath_of_refuses {root : Expr} {before rest : List String} {segment : String}
    {error : AccessError ε} (split : segments path = before ++ segment :: rest)
    (resolves : Resolves resolve root.ty before members) (accepted : Accepted root.ty members)
    (refuses : Refuses resolve (root.ty.behind members) segment error) (u : Supply) :
    u.tryBuild (root.accessPath resolve path) = .error error := by
  rw [← tryBuildIn_accessPath_fst u [] root path,
    tryBuildIn_accessPath_of_refuses split resolves accepted refuses u []]

end Roots

/-- From roots of one type a path fails with one error, or builds on the one what it builds on the
other once the root is exchanged. Over a registry the same is built on a class and on its nullable
class, if anything is. -/
theorem substitute_accessPath (reach : Reachable s held) {x y : Expr} (x_mem : x ∈ held)
    (y_mem : y ∈ held) (path : String) :
    (∀ {ε : Type} (resolve : Resolver Id ε), x.ty = y.ty →
      (∃ error, ∀ u : Supply, u.tryBuild (x.accessPath resolve path) = .error error ∧
        u.tryBuild (y.accessPath resolve path) = .error error) ∨
      BuildsAlike s resolve path x y) ∧
    ∀ (r : Registry) (className : String),
      (x.ty = .named className ∧ y.ty = .nullable (.named className)) ∨
        (x.ty = .nullable (.named className) ∧ y.ty = .named className) →
      (∃ error error', ∀ u : Supply, u.tryBuild (x.accessPath r.resolver path) = .error error ∧
        u.tryBuild (y.accessPath r.resolver path) = .error error') ∨
      BuildsAlike s r.resolver path x y := by
  refine ⟨fun {ε} resolve same => ?_, fun r className classes => ?_⟩
  · rcases exists_followed resolve x.ty (segments path) with ⟨members, resolves, accepted⟩ |
      ⟨before, segment, rest, members, error, split, resolves, accepted, refuses⟩
    · exact .inr (buildsAlike_of_resolves reach x_mem y_mem resolves accepted (same ▸ resolves)
        (same ▸ accepted))
    · refine .inl ⟨error, fun u => ⟨?_, ?_⟩⟩
      · exact tryBuild_accessPath_of_refuses split resolves accepted refuses u
      · rw [same] at resolves accepted refuses
        exact tryBuild_accessPath_of_refuses split resolves accepted refuses u
  · have found : ∀ name, r.member? name x.ty = r.member? name y.ty := by
      intro name
      rcases classes with ⟨first, second⟩ | ⟨first, second⟩ <;> rw [first, second] <;> rfl
    have exposed : x.ty.withoutNullable = y.ty.withoutNullable := by
      rcases classes with ⟨first, second⟩ | ⟨first, second⟩ <;> rw [first, second] <;> rfl
    rcases exists_followed r.resolver x.ty (segments path) with ⟨members, resolves, accepted⟩ |
      ⟨_, _, _, _, error, split, resolves, accepted, refuses⟩
    · exact .inr (buildsAlike_of_resolves reach x_mem y_mem resolves accepted
        (Registry.resolves_congr found resolves) (accepted.congr exposed))
    have fails := tryBuild_accessPath_of_refuses split resolves accepted refuses
    rcases exists_followed r.resolver y.ty (segments path) with ⟨members', resolves', accepted'⟩ |
      ⟨_, _, _, _, error', split', resolves', accepted', refuses'⟩
    · -- the other root cannot be followed to the end, for then the first could be as well
      obtain ⟨e, t, run, _⟩ := buildsAlike_of_resolves reach x_mem y_mem
        (Registry.resolves_congr (fun name => (found name).symm) resolves')
        (accepted'.congr exposed.symm) resolves' accepted'
      rw [fails s] at run
      cases run
    · exact .inl ⟨error, error', fun u =>
        ⟨fails u, tryBuild_accessPath_of_refuses split' resolves' accepted' refuses' u⟩⟩

theorem substitute_accessPath_guest :
    Reachable ⟨7⟩ Sample.guests ∧ Sample.guest.ty = Sample.host.ty ∧
    BuildsAlike ⟨7⟩ Sample.customers.resolver "Address.City" Sample.guest Sample.host ∧
    Sample.absent.ty = .nullable Sample.guest.ty ∧
    BuildsAlike ⟨7⟩ Sample.customers.resolver "Address.City" Sample.absent Sample.guest := by
  have guest : Sample.guest ∈ Sample.guests := by simp [Sample.guests]
  have host : Sample.host ∈ Sample.guests := by simp [Sample.guests]
  have absent : Sample.absent ∈ Sample.guests := by simp [Sample.guests]
  refine ⟨Sample.reachable_guests, rfl, ?_, rfl, ?_⟩
  · rcases (substitute_accessPath Sample.reachable_guests guest host "Address.City").1
      Sample.customers.resolver rfl with ⟨error, fails⟩ | alike
    · cases (fails ⟨7⟩).1
    · exact alike
  · rcases (substitute_accessPath Sample.reachable_guests absent guest "Address.City").2
      Sample.customers "Customer" (.inr ⟨rfl, rfl⟩) with ⟨error, error', fails⟩ | alike
    · cases (fails ⟨7⟩).1
    · exact alike

/-! ## Selectors -/

theorem specialize_single {params : List Expr} {first body : Expr} (head : params.head? = some first)
    (r : Expr) (s : Supply) :
    s.build ((Lambda.mk params body).specialize [r]) = s.build (body.substitute first r) := by
  cases params with
  | nil => cases head
  | cons p rest =>
    cases head
    rw [Lambda.specialize, List.zip_cons_cons, List.zip_nil_right]
    rfl

theorem substitute_of_sameNode {e old target : Expr} (same : old.sameNode target = true)
    (new : Expr) : (e.substitute target new : Build Expr) = e.substitute old new := by
  have id_eq : old.id = target.id := of_decide_eq_true same
  unfold substitute sameNode
  rw [id_eq]

theorem exists_of_isMemberPath (sound : s.Sound held) {l : Lambda} (body : l.body ∈ nodesOf held)
    (path : l.isMemberPath = true) :
    ∃ first root, l.params.head? = some first ∧ root.isMember = false ∧ l.body.isMember = true ∧
      Wraps root l.body.chainMembers l.body ∧ root.sameNode first = true := by
  unfold Lambda.isMemberPath at path
  split at path
  · rename_i first root declared origin
    have chained := isMember_of_chainRoot? origin
    obtain ⟨_, origin', innermost, wraps⟩ := exists_root sound body chained
    cases origin.symm.trans origin'
    exact ⟨first, root, declared, innermost, chained, wraps, path⟩
  · cases path

/-- A selector continues the path of the expression that it is specialized to: what comes out is an
access of the type that the selector has, to the members of the expression and then to those
selected, on the root of the expression or on the expression itself. -/
theorem specialize_selector (reach : Reachable s held) {l : Lambda} (body : l.body ∈ nodesOf held)
    (selector : l.isMemberPath = true) {r : Expr} (given : r ∈ nodesOf held) :
    (s.build (l.specialize [r])).isMember = true ∧
    (s.build (l.specialize [r])).ty = l.body.ty ∧
    (s.build (l.specialize [r])).chainMembers = r.chainMembers ++ l.body.chainMembers ∧
    ∃ selected, l.body.memberPath? = some selected ∧
      (r.isMember = false →
        (s.build (l.specialize [r])).memberPath? = some selected ∧
        (s.build (l.specialize [r])).chainRoot? = some r) ∧
      (r.isMember = true → ∃ before origin,
        r.memberPath? = some before ∧ r.chainRoot? = some origin ∧
        (s.build (l.specialize [r])).memberPath? = some (before ++ "." ++ selected) ∧
        (s.build (l.specialize [r])).chainRoot? = some origin) := by
  obtain ⟨first, root, head, innermost, chained, wraps, same⟩ :=
    exists_of_isMemberPath reach.sound body selector
  obtain ⟨params, e⟩ := l
  have nonempty := wraps.ne_nil innermost chained
  rw [specialize_single head, substitute_of_sameNode same]
  have out := wraps.substitute reach.sound body given (Nat.le_refl _)
  have views := views_of_not_isMember innermost
  have selected := wraps.memberPath?_eq nonempty
  have whole := out.memberPath?_eq nonempty
  have origin := out.chainRoot?_eq nonempty
  rw [views.1] at selected
  refine ⟨out.isMember nonempty, ?_, out.chainMembers_eq, _, selected, fun other => ?_, fun chain => ?_⟩
  · have last := List.getLast?_eq_some_getLast nonempty
    rw [out.ty_of_getLast? last, wraps.ty_of_getLast? last]
  · have empty := views_of_not_isMember other
    rw [whole, origin, empty.1, empty.2.1]
    exact ⟨rfl, rfl⟩
  · obtain ⟨id, ty, object, m, rfl⟩ := exists_of_isMember chain
    have joined := chainMembers_member id ty object m
    refine ⟨_, _, memberPath?_of_isMember chain, chainRoot?_member id ty object m, ?_, ?_⟩
    · rw [whole, String.intercalate_append_of_ne_nil (by simp [joined]) (by simpa using nonempty)]
      rfl
    · rw [origin, chainRoot?_member, Option.getD_some]

theorem specialize_selector_owner :
    Reachable ⟨7⟩ Sample.guests ∧ Sample.guestCity ∈ nodesOf Sample.guests ∧
    (Lambda.mk [Sample.guest] Sample.guestCity).isMemberPath = true ∧
    Sample.owner ∈ nodesOf Sample.guests ∧
    (Supply.build ⟨7⟩ ((Lambda.mk [Sample.guest] Sample.guestCity).specialize
      [Sample.owner])).memberPath? = some "Owner.Address.City" ∧
    (Supply.build ⟨7⟩ ((Lambda.mk [Sample.guest] Sample.guestCity).specialize
      [Sample.owner])).ty = .string := by
  have body : Sample.guestCity ∈ nodesOf Sample.guests := mem_nodesOf_of_mem (by simp [Sample.guests])
  have given : Sample.owner ∈ nodesOf Sample.guests := mem_nodesOf_of_mem (by simp [Sample.guests])
  have selector : (Lambda.mk [Sample.guest] Sample.guestCity).isMemberPath = true := rfl
  obtain ⟨_, typed, _, selected, path, _, continued⟩ :=
    specialize_selector Sample.reachable_guests body selector given
  obtain ⟨before, _, owner, _, whole, _⟩ := continued rfl
  have selected_eq : selected = "Address.City" := Option.some.inj (path.symm.trans rfl)
  have before_eq : before = "Owner" := Option.some.inj (owner.symm.trans rfl)
  rw [selected_eq, before_eq] at whole
  exact ⟨Sample.reachable_guests, body, selector, given, whole, typed⟩

end Expr

end ExpressionGraphs
