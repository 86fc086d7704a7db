import ExpressionGraphs.Proofs.PathRebuilding

set_option autoImplicit false

/-!
# Chains taken apart

An access is its chain of members around the root of the chain, and nothing is lost when the two are
kept instead: the members put around the root again, the innermost first, give the same expression but
for the identities on the way, and the root and the path determine the text.
-/

namespace ExpressionGraphs

theorem ChainCursor.take_before (e : Expr) (n : Nat) : take n (before e) = e.chain.take n := by
  induction e using Expr.access_induction generalizing n with
  | root e other =>
    have ended : before e = ⟨none⟩ := by rw [before, other]; rfl
    rw [(Expr.chain_eq_nil_iff e).2 other, ended, List.take_nil]
    cases n <;> rfl
  | access id ty object m ih =>
    cases n with
    | zero => rfl
    | succ n =>
      rw [Expr.chain_member, List.take_succ_cons, ← ih n]
      rfl

namespace Expr

variable {e root : Expr} {members : List Member} {s : Supply} {held : List Expr}

theorem isMember_of_isParameter (h : e.isParameter = true) : e.isMember = false := by
  obtain ⟨id, ty, kind⟩ := e
  cases kind with
  | parameter => rfl
  | _ => cases h

def IsAccessTo (outer inner : Expr) : Prop := ∃ m, outer.asMember? = some (inner, m)

theorem head?_chain (h : e.isMember = true) : e.chain.head? = some e := by
  obtain ⟨id, ty, object, m, rfl⟩ := exists_of_isMember h
  rw [chain_member]
  rfl

theorem isMember_of_mem_chain {node : Expr} (mem : node ∈ e.chain) : node.isMember = true := by
  induction e using access_induction with
  | root e other =>
    rw [(chain_eq_nil_iff e).2 other] at mem
    cases mem
  | access id ty object m ih =>
    rw [chain_member] at mem
    rcases List.mem_cons.1 mem with rfl | inner
    · rfl
    · exact ih inner

theorem isChain_chain (e : Expr) : e.chain.IsChain IsAccessTo := by
  induction e using access_induction with
  | root e other =>
    rw [(chain_eq_nil_iff e).2 other]
    exact .nil
  | access id ty object m ih =>
    rw [chain_member]
    by_cases inner : object.isMember = true
    · obtain ⟨id', ty', object', m', rfl⟩ := exists_of_isMember inner
      rw [chain_member] at ih ⊢
      exact .cons_cons ⟨m, rfl⟩ ih
    · rw [(chain_eq_nil_iff object).2 (Bool.eq_false_iff.2 inner)]
      exact .singleton _

theorem exists_innermost (origin : e.chainRoot? = some root) :
    ∃ innermost, e.chain.getLast? = some innermost ∧ innermost.IsAccessTo root := by
  obtain ⟨⟨object, m⟩, last, rfl⟩ := Option.map_eq_some_iff.1 origin
  obtain ⟨innermost, found, access⟩ := Option.bind_eq_some_iff.1 last
  exact ⟨innermost, found, m, access⟩

theorem wraps_foldlM_member (s : Supply) (root : Expr) (members : List Member) :
    Wraps root members (s.build (members.foldlM member root)) := by
  induction members generalizing s root with
  | nil => exact .root root
  | cons m members ih =>
    rw [List.foldlM_cons, Supply.build_bind]
    exact .access ⟨s.next⟩ (ih _ _)

theorem isMemberPath_iff (sound : s.Sound held) {l : Lambda} (body : l.body ∈ nodesOf held)
    (params : ∀ p ∈ l.params, p ∈ nodesOf held) (parameters : ∀ p ∈ l.params, p.isParameter = true) :
    l.isMemberPath = true ↔
      ∃ first members, l.params.head? = some first ∧ members ≠ [] ∧ Wraps first members l.body := by
  constructor
  · intro path
    obtain ⟨first, root, declared, innermost, chained, wraps, same⟩ :=
      exists_of_isMemberPath sound body path
    -- the test compares identities, which within a graph tell nodes apart
    have root_mem := mem_nodesOf_of_mem_nodes body wraps.root_mem_nodes
    have first_mem := params first (List.mem_of_head? declared)
    have nonempty := wraps.ne_nil innermost chained
    rw [sound.eq_of_sameNode root_mem first_mem same] at wraps
    exact ⟨first, _, declared, nonempty, wraps⟩
  · rintro ⟨first, members, declared, nonempty, wraps⟩
    have innermost := isMember_of_isParameter (parameters first (List.mem_of_head? declared))
    have origin := wraps.chainRoot?_eq nonempty
    rw [(views_of_not_isMember innermost).2.1, Option.getD_none] at origin
    rw [Lambda.isMemberPath, declared, origin]
    exact sameNode_self first

/-- A chain and its root are what a walk inward from the expression meets, and they hold all of the
expression but the identities of its accesses. A lambda is a member path exactly if its body is one or
more accesses around its first parameter. -/
theorem chain_decomposition (reach : Reachable s held) :
    (∀ e ∈ nodesOf held, (∀ n, ChainCursor.take n (.before e) = e.chain.take n) ∧
      (e.isMember = false → e.chain = [] ∧ e.chainRoot? = none ∧ e.memberPath? = none) ∧
      (e.isMember = true → ∃ root innermost, e.chainRoot? = some root ∧ root.isMember = false ∧
        e.chain.head? = some e ∧ (∀ node ∈ e.chain, node.isMember = true) ∧
        e.chain.IsChain IsAccessTo ∧
        e.chain.getLast? = some innermost ∧ innermost.IsAccessTo root ∧
        (s.build (e.chainMembers.foldlM member root) == e) = true ∧
        (s.build (e.chainMembers.foldlM member root)).form = e.form)) ∧
    ∀ l : Lambda, l.body ∈ nodesOf held → (∀ p ∈ l.params, p ∈ nodesOf held) →
      (∀ p ∈ l.params, p.isParameter = true) →
      (l.isMemberPath = true ↔ ∃ first members,
        l.params.head? = some first ∧ members ≠ [] ∧ Wraps first members l.body) := by
  refine ⟨fun e mem => ⟨ChainCursor.take_before e, fun other => ?_, fun chained => ?_⟩,
    fun l body params parameters => isMemberPath_iff reach.sound body params parameters⟩
  · obtain ⟨_, origin, path⟩ := views_of_not_isMember other
    exact ⟨(chain_eq_nil_iff e).2 other, origin, path⟩
  · obtain ⟨root, origin, innermost, wraps⟩ := exists_root reach.sound mem chained
    obtain ⟨last, last_eq, access⟩ := exists_innermost origin
    have again := wraps_foldlM_member s root e.chainMembers
    exact ⟨root, last, origin, innermost, head?_chain chained, fun _ => isMember_of_mem_chain,
      isChain_chain e, last_eq, access, again.beq wraps (beq_of_sameNode (sameNode_self root)),
      again.form_eq wraps rfl⟩

theorem chain_decomposition_guest :
    Reachable ⟨7⟩ Sample.guests ∧ Sample.guestCity ∈ nodesOf Sample.guests ∧
    ChainCursor.take 5 (.before Sample.guestCity) = [Sample.guestCity, Sample.guestAddress] ∧
    (Supply.build ⟨7⟩ ([Sample.address, Sample.cityName].foldlM member Sample.guest) ==
      Sample.guestCity) = true ∧
    Sample.guest ∈ nodesOf Sample.guests ∧ Sample.host ∈ nodesOf Sample.guests ∧
    (Lambda.mk [Sample.guest, Sample.host] Sample.guestCity).isMemberPath = true ∧
    ¬ ∃ members, members ≠ [] ∧ Wraps Sample.host members Sample.guestCity := by
  have held : ∀ e ∈ Sample.guests, e ∈ nodesOf Sample.guests := fun e => mem_nodesOf_of_mem
  have city := held Sample.guestCity (by simp [Sample.guests])
  have guest := held Sample.guest (by simp [Sample.guests])
  have host := held Sample.host (by simp [Sample.guests])
  obtain ⟨chains, paths⟩ := chain_decomposition Sample.reachable_guests
  obtain ⟨walk, _, decomposed⟩ := chains Sample.guestCity city
  obtain ⟨root, _, origin, _, _, _, _, _, _, again, _⟩ := decomposed rfl
  have root_eq : Sample.guest = root := Option.some.inj (Eq.trans rfl origin)
  have selector := paths ⟨[Sample.guest, Sample.host], Sample.guestCity⟩ city
    (by simp [guest, host]) (by decide)
  have other := paths ⟨[Sample.host, Sample.guest], Sample.guestCity⟩ city
    (by simp [guest, host]) (by decide)
  refine ⟨Sample.reachable_guests, city, walk 5, ?_, guest, host, ?_, ?_⟩
  · rw [root_eq]
    exact again
  · exact selector.2 ⟨Sample.guest, [Sample.address, Sample.cityName], rfl, List.cons_ne_nil _ _,
      .access ⟨5⟩ (.access ⟨6⟩ (.root _))⟩
  · rintro ⟨members, nonempty, wraps⟩
    cases other.2 ⟨Sample.host, members, rfl, nonempty, wraps⟩

/-! ## The text of a chain -/

theorem foldl_dotted (start : String) {names : List String} (nonempty : names ≠ []) :
    names.foldl (fun text name => text ++ "." ++ name) start =
      start ++ "." ++ ".".intercalate names := by
  induction names generalizing start with
  | nil => exact absurd rfl nonempty
  | cons name names ih =>
    cases names with
    | nil => rw [List.foldl_cons, List.foldl_nil, String.intercalate_singleton]
    | cons next names =>
      have more := List.cons_ne_nil next names
      rw [List.foldl_cons, ih _ more, String.intercalate_cons_of_ne_nil more]
      simp [String.append_assoc]

/-- The printer descends to the root and writes the names on its way back, the innermost first. -/
theorem text_eq_foldl (e : Expr) :
    e.text = (e.chainMembers.map Member.name).foldl (fun text name => text ++ "." ++ name)
      (e.chainRoot?.getD e).text := by
  induction e using access_induction with
  | root e other =>
    obtain ⟨empty, none, _⟩ := views_of_not_isMember other
    rw [empty, none]
    rfl
  | access id ty object m ih =>
    rw [text_member, ih, chainMembers_member, chainRoot?_member, List.map_append, List.foldl_append]
    rfl

/-- The text of an access is that of its root followed by its path. What a path builds on a root is
therefore written as the text of the root followed by that path. -/
theorem text_memberPath :
    (∀ e : Expr, e.isMember = true → ∃ root path, e.chainRoot? = some root ∧
      e.memberPath? = some path ∧ e.text = root.text ++ "." ++ path) ∧
    ∀ (r : Registry) (root e : Expr) (path : String) (s t : Supply),
      s.tryBuild (root.accessPath r.resolver path) = .ok (e, t) →
      e.text = root.text ++ "." ++ path := by
  refine ⟨fun e chained => ?_, fun r root e path s t run => ?_⟩
  · obtain ⟨id, ty, object, m, rfl⟩ := exists_of_isMember chained
    have origin := chainRoot?_member id ty object m
    have nonempty : (node id ty (.member object m)).chainMembers.map Member.name ≠ [] := by
      simp [chainMembers_member]
    refine ⟨_, _, origin, memberPath?_of_isMember chained, ?_⟩
    rw [text_eq_foldl, foldl_dotted _ nonempty, origin, Option.getD_some]
  · obtain ⟨members, resolves, wraps⟩ := wraps_of_foldlM run
    have names : members.map Member.name = segments path :=
      resolves.names fun _ _ _ => Registry.name_of_resolver
    rw [wraps.text_eq, names, foldl_dotted _ (segments_ne_nil path), intercalate_segments]

theorem text_memberPath_guest :
    ∃ e t, Supply.tryBuild ⟨7⟩ (Sample.guest.accessPath Sample.customers.resolver
      "Address.City") = .ok (e, t) ∧ e.text = "guest.Address.City" := by
  have run : Supply.tryBuild ⟨7⟩ (Sample.guest.accessPath Sample.customers.resolver
      "Address.City") = .ok (.node ⟨8⟩ Sample.cityName.ty (.member
        (.node ⟨7⟩ Sample.address.ty (.member Sample.guest Sample.address)) Sample.cityName),
        ⟨9⟩) := rfl
  refine ⟨_, _, run, ?_⟩
  rw [text_memberPath.2 _ _ _ _ _ _ run]
  decide +kernel

end Expr

end ExpressionGraphs
