import ExpressionGraphs.Proofs.ExprEquality
import ExpressionGraphs.Proofs.PathConcatenation
import ExpressionGraphs.Proofs.Rerooting

set_option autoImplicit false

/-!
# Chains rebuilt from their paths

A path joins the names along a chain by dots and is split at every dot. What is split are the names
again as long as none of them has a dot of its own, which registries and schemas do not forbid. A
chain whose members are those that a registry knows by their names is then built again from its
root and its path; with a dot in some name, what the path leads to, if anything, is another chain.
-/

namespace ExpressionGraphs

/-! ## Names joined and split -/

section Splitting

variable {α : Type} [DecidableEq α] {separator : α}

theorem splitAll_of_not_mem {l : List α} (plain : separator ∉ l) : splitAll separator l = [l] := by
  induction l with
  | nil => rfl
  | cons a l ih =>
    obtain ⟨other, rest⟩ := not_or.1 (mt List.mem_cons.2 plain)
    rw [splitAll_cons_of_ne (Ne.symm other), ih rest]
    rfl

theorem not_mem_of_mem_splitAll {l part : List α} (mem : part ∈ splitAll separator l) :
    separator ∉ part := by
  induction l generalizing part with
  | nil =>
    rw [List.mem_singleton.1 mem]
    exact List.not_mem_nil
  | cons a l ih =>
    by_cases same : a = separator
    · subst same
      rw [splitAll_cons_self] at mem
      rcases List.mem_cons.1 mem with rfl | mem
      · exact List.not_mem_nil
      · exact ih mem
    · obtain ⟨first, rest, split⟩ := List.exists_cons_of_ne_nil (splitAll_ne_nil separator l)
      rw [splitAll_cons_of_ne same, split, List.modifyHead_cons] at mem
      rw [split] at ih
      rcases List.mem_cons.1 mem with rfl | mem
      · intro found
        rcases List.mem_cons.1 found with equal | found
        · exact same equal.symm
        · exact ih List.mem_cons_self found
      · exact ih (List.mem_cons_of_mem _ mem)

theorem splitAll_intercalate {parts : List (List α)} (nonempty : parts ≠ [])
    (plain : ∀ part ∈ parts, separator ∉ part) :
    splitAll separator ([separator].intercalate parts) = parts := by
  induction parts with
  | nil => exact absurd rfl nonempty
  | cons part parts ih =>
    have head := splitAll_of_not_mem (plain part List.mem_cons_self)
    cases parts with
    | nil => rw [List.intercalate_singleton, head]
    | cons next parts =>
      have rest := ih (List.cons_ne_nil _ _) fun p mem => plain p (List.mem_cons_of_mem _ mem)
      rw [List.intercalate_cons_cons, List.append_assoc, List.singleton_append, splitAll_append,
        head, rest]
      rfl

end Splitting

def IsSegment (name : String) : Prop := '.' ∉ name.toList

instance (name : String) : Decidable (IsSegment name) :=
  inferInstanceAs (Decidable ('.' ∉ name.toList))

theorem segments_intercalate_iff {names : List String} (nonempty : names ≠ []) :
    segments (".".intercalate names) = names ↔ ∀ name ∈ names, IsSegment name := by
  constructor
  · intro split name mem
    rw [← split, segments] at mem
    obtain ⟨part, part_mem, rfl⟩ := List.mem_map.1 mem
    rw [IsSegment, String.toList_ofList]
    exact not_mem_of_mem_splitAll part_mem
  · intro plain
    have parts : splitAll '.' (['.'].intercalate (names.map String.toList)) =
        names.map String.toList := by
      refine splitAll_intercalate (by simpa using nonempty) fun part mem => ?_
      obtain ⟨name, name_mem, rfl⟩ := List.mem_map.1 mem
      exact plain name name_mem
    have packed : String.ofList ∘ String.toList = id := by
      funext name
      exact String.ofList_toList
    have joined : (".".intercalate names).toList =
        ['.'].intercalate (names.map String.toList) := String.toList_intercalate
    rw [segments, joined, parts, List.map_map, packed, List.map_id]

/-! ## Orders with a field whose name has a dot -/

namespace Sample

def shipments : Registry := Registry.empty.withField "Order" "Ship.City" .string

def order : Expr := .node ⟨0⟩ (.named "Order") (.parameter "o")

def shipCity : Expr :=
  .node ⟨1⟩ .string (.member order (.field (.named "Order") "Ship.City" .string))

theorem reachable_shipments : shipments.Reachable :=
  Registry.Reachable.empty.withField "Order" "Ship.City" .string

theorem reachable_shipCity : Reachable ⟨2⟩ [shipCity, order] :=
  ((Reachable.start ⟨0⟩).next (.build (.parameter "o" (.named "Order")))).next
    (.access List.mem_cons_self (.field (.named "Order") "Ship.City" .string) rfl)

end Sample

namespace Expr

variable {r : Registry} {root root' e e' : Expr} {members members' : List Member} {s t : Supply}
  {held : List Expr}

/-- Every access of the chain is to the member that the registry answers for its name on the type
of its object. -/
def ResolvedBy (r : Registry) (e : Expr) : Prop :=
  ∀ node ∈ e.chain, ∀ object m, node.asMember? = some (object, m) →
    r.member? m.name object.ty = some m

theorem Wraps.chain_subset (wraps : Wraps root members e) : root.chain ⊆ e.chain := by
  induction wraps with
  | root e => exact List.Subset.refl e.chain
  | access id _ ih =>
    rw [chain_member] at ih
    exact List.Subset.trans (List.subset_cons_self _ _) ih

theorem Wraps.resolves (wraps : Wraps root members e) (resolved : e.ResolvedBy r) :
    Resolves r.resolver root.ty (members.map Member.name) members := by
  induction wraps with
  | root e => exact .nil e.ty
  | @access object e m members id rest ih =>
    have inner : node id m.ty (.member object m) ∈ e.chain := by
      refine rest.chain_subset ?_
      rw [chain_member]
      exact List.mem_cons_self
    exact .cons (Registry.resolver_of_member? (resolved _ inner object m rfl)) (ih resolved)

/-! ## Equality of chains -/

theorem exists_of_shape {m : Member} (h : e.kind.shape = .member () m) :
    ∃ id ty object, e = node id ty (.member object m) := by
  obtain ⟨id, ty, kind⟩ := e
  cases kind with
  | member object n =>
    cases h
    exact ⟨id, ty, object, rfl⟩
  | _ => cases h

theorem eq_member_iff_of_beq {k l : Kind Unit} {m : Member} (h : (k == l) = true) :
    k = .member () m ↔ l = .member () m := by
  rcases Kind.eq_or_constant_of_beq h with rfl | ⟨v, w, rfl, rfl, _⟩
  · exact Iff.rfl
  · simp

theorem beq_member {a b : Expr} (same : (a == b) = true) (i j : NodeId) (m : Member) :
    (node i m.ty (.member a m) == node j m.ty (.member b m)) = true := by
  have shapes : ((Kind.member () m : Kind Unit) == Kind.member () m) = true := by
    simp [BEq.beq, instBEqKind.beq]
  rw [beq_def]
  simp [ty_node, kind_node, Kind.shape, Kind.map, Kind.slots, shapes, same]

theorem Wraps.beq (wraps : Wraps root members e) (wraps' : Wraps root' members e')
    (same : (root == root') = true) : (e == e') = true := by
  induction wraps generalizing root' with
  | root => cases wraps'; exact same
  | access id _ ih =>
    cases wraps' with
    | access id' rest' => exact ih rest' (beq_member same _ _ _)

theorem chainMembers_eq_of_beq (sound : s.Sound held) {a b : Expr} (a_mem : a ∈ nodesOf held)
    (b_mem : b ∈ nodesOf held) (equal : (a == b) = true) : a.chainMembers = b.chainMembers := by
  induction a using induction generalizing b with
  | step a ih =>
    rw [beq_def, Bool.or_eq_true, Bool.and_eq_true, Bool.and_eq_true] at equal
    rcases equal with same | ⟨⟨_, shapes⟩, children⟩
    · rw [sound.eq_of_sameNode a_mem b_mem same]
    by_cases chained : a.isMember = true
    · obtain ⟨i, ty, object, m, rfl⟩ := exists_of_isMember chained
      obtain ⟨j, ty', object', rfl⟩ := exists_of_shape ((eq_member_iff_of_beq shapes).1 rfl)
      have slot : object ∈ (node i ty (.member object m)).kind.slots := List.mem_singleton_self _
      have slot' : object' ∈ (node j ty' (.member object' m)).kind.slots :=
        List.mem_singleton_self _
      have objects : (object == object') = true :=
        List.all_eq_true.1 children (object, object') List.mem_cons_self
      rw [chainMembers_member, chainMembers_member, ih object slot
        (mem_nodesOf_of_mem_slots a_mem slot) (mem_nodesOf_of_mem_slots b_mem slot') objects]
    · have other : b.isMember = false := by
        refine Bool.eq_false_iff.2 fun chained' => ?_
        obtain ⟨j, ty', object', m, rfl⟩ := exists_of_isMember chained'
        obtain ⟨i, ty, object, rfl⟩ := exists_of_shape ((eq_member_iff_of_beq shapes).2 rfl)
        exact chained rfl
      rw [(views_of_not_isMember (Bool.eq_false_iff.2 chained)).1, (views_of_not_isMember other).1]

/-- An access whose chain the registry resolves is built again, but for the identities on the way,
from its root along its path, exactly if no name in the chain has a dot. -/
theorem accessPath_memberPath (h : r.Reachable) (reach : Reachable s held) (mem : e ∈ nodesOf held)
    (chained : e.isMember = true) (resolved : e.ResolvedBy r) :
    ∃ root path, e.chainRoot? = some root ∧ e.memberPath? = some path ∧
      ((∀ m ∈ e.chainMembers, IsSegment m.name) →
        ∃ e' t, s.tryBuild (root.accessPath r.resolver path) = .ok (e', t) ∧ (e' == e) = true ∧
          e'.form = e.form) ∧
      ∀ e' t, s.tryBuild (root.accessPath r.resolver path) = .ok (e', t) → (e' == e) = true →
        ∀ m ∈ e.chainMembers, IsSegment m.name := by
  obtain ⟨root, origin, innermost, wraps⟩ := exists_root reach.sound mem chained
  have path := memberPath?_of_isMember chained
  have resolves := wraps.resolves resolved
  have nonempty : e.chainMembers.map Member.name ≠ [] := by
    simpa using wraps.ne_nil innermost chained
  refine ⟨root, _, origin, path, fun plain => ?_, fun e' t run equal => ?_⟩
  · have split := (segments_intercalate_iff nonempty).2 (List.forall_mem_map.2 plain)
    rw [← split] at resolves
    obtain ⟨e', t, wraps', run⟩ :=
      tryBuildIn_accessPath_of_resolves resolves (h.declaring.accepted resolves) s []
    refine ⟨e', t, ?_, wraps'.beq wraps (beq_of_sameNode (sameNode_self _)),
      wraps'.form_eq wraps rfl⟩
    rw [← tryBuildIn_accessPath_fst s [] root, run]
  · obtain ⟨members, found, wraps'⟩ := wraps_of_foldlM run
    have names := found.names fun _ _ _ => Registry.name_of_resolver
    have within : ∀ node ∈ [e, root], node ∈ nodesOf held := by
      simpa using ⟨mem, mem_nodesOf_of_mem_nodes mem wraps.root_mem_nodes⟩
    obtain ⟨more, kept, reach', needed⟩ := reach.hold_nodes within
    obtain ⟨e_mem, rest⟩ := List.cons_subset.1 needed
    have recorded : s.tryBuildIn [] (root.accessPath (Resolver.recording r.resolver) _) =
        (.ok (e', t), _) :=
      Prod.ext ((tryBuildIn_accessPath_fst s [] root _).trans run) rfl
    obtain ⟨last, kept', final, out⟩ := arrives_foldlM
      (fun reach mem run => reach.arrives_accessSegment mem run) reach' (rest List.mem_cons_self)
      recorded
    have same := chainMembers_eq_of_beq final.sound (mem_nodesOf_of_mem out)
      (mem_nodesOf_of_mem (kept' e_mem)) equal
    rw [wraps'.chainMembers_eq, (views_of_not_isMember innermost).1, List.nil_append] at same
    rw [same] at names
    exact List.forall_mem_map.1 ((segments_intercalate_iff nonempty).1 names.symm)

theorem accessPath_memberPath_guest :
    Sample.customers.Reachable ∧ Reachable ⟨7⟩ Sample.guests ∧
    Sample.guestCity ∈ nodesOf Sample.guests ∧ Sample.guestCity.isMember = true ∧
    Sample.guestCity.ResolvedBy Sample.customers ∧
    ∃ e' t, Supply.tryBuild ⟨7⟩ (Sample.guest.accessPath Sample.customers.resolver
      "Address.City") = .ok (e', t) ∧ (e' == Sample.guestCity) = true := by
  have mem : Sample.guestCity ∈ nodesOf Sample.guests :=
    mem_nodesOf_of_mem (by simp [Sample.guests])
  have resolved : Sample.guestCity.ResolvedBy Sample.customers := by
    have chain : Sample.guestCity.chain = [Sample.guestCity, Sample.guestAddress] := rfl
    intro node inner object m access
    rw [chain] at inner
    rcases List.mem_cons.1 inner with rfl | inner
    · cases access
      rfl
    · cases List.mem_singleton.1 inner
      cases access
      rfl
  refine ⟨Sample.reachable_customers, Sample.reachable_guests, mem, rfl, resolved, ?_⟩
  obtain ⟨root, path, origin, read, built, _⟩ :=
    accessPath_memberPath Sample.reachable_customers Sample.reachable_guests mem rfl resolved
  have root_eq : Sample.guest = root := Option.some.inj (Eq.trans rfl origin)
  have path_eq : "Address.City" = path := Option.some.inj (Eq.trans rfl read)
  have plain : ∀ m ∈ Sample.guestCity.chainMembers, IsSegment m.name := by
    have members : Sample.guestCity.chainMembers = [Sample.address, Sample.cityName] := rfl
    rw [members]
    decide
  obtain ⟨e', t, run, equal, _⟩ := built plain
  rw [← root_eq, ← path_eq] at run
  exact ⟨e', t, run, equal⟩

/-- The path of a member whose name has a dot looks for a member of half the name. -/
theorem accessPath_memberPath_dotted :
    ¬ ∀ (r : Registry) (s : Supply) (held : List Expr), r.Reachable → Reachable s held →
      ∀ e ∈ held, e.isMember = true → e.ResolvedBy r →
      ∃ root path e' t, e.chainRoot? = some root ∧ e.memberPath? = some path ∧
        s.tryBuild (root.accessPath r.resolver path) = .ok (e', t) ∧ (e' == e) = true := by
  intro rebuilt
  have resolved : Sample.shipCity.ResolvedBy Sample.shipments := by
    have chain : Sample.shipCity.chain = [Sample.shipCity] := rfl
    intro node inner object m access
    rw [chain] at inner
    cases List.mem_singleton.1 inner
    cases access
    rfl
  obtain ⟨root, path, e', t, origin, read, run, _⟩ :=
    rebuilt Sample.shipments ⟨2⟩ _ Sample.reachable_shipments Sample.reachable_shipCity
      Sample.shipCity List.mem_cons_self rfl resolved
  have root_eq : Sample.order = root := Option.some.inj (Eq.trans rfl origin)
  have path_eq : "Ship.City" = path := Option.some.inj (Eq.trans rfl read)
  rw [← root_eq, ← path_eq] at run
  have missing : Supply.tryBuild ⟨2⟩ (Sample.order.accessPath Sample.shipments.resolver
      "Ship.City") = .error (.memberNotFound (.named "Order") "Ship") := rfl
  rw [missing] at run
  cases run

end Expr

end ExpressionGraphs
