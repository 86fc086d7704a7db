import ExpressionGraphs.Proofs.Traversal

set_option autoImplicit false

/-!
# Search for a node

A node is searched for, by identity, by a visitor with a flag. With the flag set no node is entered
any more. The visit itself does not end there: at each level it still comes to the siblings that are
left, and turns away from them. What it finds is what is found among all nodes in preorder.
-/

namespace ExpressionGraphs

section Stopping

variable {σ : Type} {enter : Expr → StateM σ Bool} {s : σ}

theorem run_forM_eq_foldl {α : Type} {act : α → StateM σ Unit} {step : σ → α → σ} {l : List α}
    (h : ∀ a ∈ l, ∀ s, (act a).run s = ((), step s a)) (s : σ) :
    (forM l act).run s = ((), l.foldl step s) := by
  induction l generalizing s with
  | nil => rfl
  | cons a l ih =>
    rw [List.forM_cons, StateT.run_bind, h a List.mem_cons_self]
    apply ih
    intro b mem
    exact h b (List.mem_cons_of_mem a mem)

def atNode (enter : Expr → StateM σ Bool) (s : σ) (node : Expr) : σ := ((enter node).run s).2

/-- A visitor that has not entered a node is through: it enters no later one and stays as it is. -/
def StopsForGood (enter : Expr → StateM σ Bool) : Prop :=
  ∀ node s, ((enter node).run s).1 = false →
    ∀ later, (enter later).run (atNode enter s node) = (false, atNode enter s node)

theorem foldl_atNode_of_refused (h : ∀ node, (enter node).run s = (false, s)) (l : List Expr) :
    l.foldl (atNode enter) s = s := by
  induction l with
  | nil => rfl
  | cons node l ih =>
    rw [List.foldl_cons, atNode, h node]
    exact ih

/-- A visitor that stops for good ends as if it had entered every node. -/
theorem Expr.run_visitWith (stops : StopsForGood enter) (e : Expr) (s : σ) :
    (e.visitWith enter).run s = ((), e.nodes.foldl (atNode enter) s) := by
  induction e using induction generalizing s with
  | step e ih =>
    have final := stops e s
    rw [visitWith_eq, StateT.run_bind, nodes_eq, List.foldl_cons, List.foldl_flatMap]
    rw [atNode] at final ⊢
    rcases run : (enter e).run s with ⟨entered, s'⟩
    rw [run] at final
    cases entered with
    | true => exact run_forM_eq_foldl ih s'
    | false =>
      -- The children are not met, and would have been turned away.
      rw [← List.foldl_flatMap, foldl_atNode_of_refused (final rfl)]
      rfl

def noting (enter : Expr → StateM σ Bool) (node : Expr) : StateM (σ × List Expr) Bool :=
  fun state =>
    let (entered, s) := (enter node).run state.1
    (entered, s, if entered then state.2 ++ [node] else state.2)

theorem run_noting (node : Expr) (s : σ) (noted : List Expr) :
    (noting enter node).run (s, noted) = (((enter node).run s).1, ((enter node).run s).2,
      if ((enter node).run s).1 then noted ++ [node] else noted) := rfl

theorem StopsForGood.noting (stops : StopsForGood enter) : StopsForGood (noting enter) := by
  rintro node ⟨s, noted⟩ refused later
  have refused : ((enter node).run s).1 = false := refused
  have kept : atNode (ExpressionGraphs.noting enter) (s, noted) node =
      (atNode enter s node, noted) := by
    rw [atNode, run_noting, refused]
    rfl
  rw [kept, run_noting, stops node s refused]
  rfl

end Stopping

namespace NodeFinder

def meet (finder : NodeFinder) (node : Expr) : NodeFinder :=
  { finder with found := finder.found || node.sameNode finder.target }

theorem run_enter (node : Expr) (finder : NodeFinder) :
    (enter node).run finder = (!(finder.meet node).found, finder.meet node) := by
  obtain ⟨target, found⟩ := finder
  cases found with
  | true => rfl
  | false => cases hit : node.sameNode target <;> simp [enter, meet, hit] <;> rfl

theorem atNode_enter : atNode enter = meet := by
  funext finder node
  rw [atNode, run_enter]

theorem meet_of_found {finder : NodeFinder} (h : finder.found = true) (node : Expr) :
    finder.meet node = finder := by
  obtain ⟨target, found⟩ := finder
  cases h
  rfl

theorem enter_stopsForGood : StopsForGood enter := by
  intro node finder refused later
  rw [run_enter] at refused
  have found : (finder.meet node).found = true := by simpa using refused
  rw [atNode_enter, run_enter, meet_of_found found, found]
  rfl

theorem foldl_found (test : Expr → Expr → Bool) (finder : NodeFinder) (l : List Expr) :
    l.foldl (fun finder e => { finder with found := finder.found || test e finder.target }) finder =
      { finder with found := finder.found || l.any fun e => test e finder.target } := by
  induction l generalizing finder with
  | nil => simp
  | cons e l ih => simp [ih, Bool.or_assoc]

theorem foldl_meet (finder : NodeFinder) (l : List Expr) :
    l.foldl meet finder =
      { finder with found := finder.found || l.any fun node => node.sameNode finder.target } :=
  foldl_found Expr.sameNode finder l

theorem run_visitWith_enter (e : Expr) (finder : NodeFinder) :
    (e.visitWith enter).run finder = ((), e.nodes.foldl meet finder) := by
  rw [Expr.run_visitWith enter_stopsForGood, atNode_enter]

theorem foldl_noting (l : List Expr) (finder : NodeFinder) (noted : List Expr) :
    l.foldl (atNode (noting enter)) (finder, noted) = (l.foldl meet finder, noted ++
      if finder.found then [] else l.takeWhile fun node => !node.sameNode finder.target) := by
  induction l generalizing finder noted with
  | nil => simp
  | cons node l ih =>
    rw [List.foldl_cons, List.foldl_cons, atNode, run_noting, run_enter, ih]
    obtain ⟨target, found⟩ := finder
    cases found with
    | true => simp [meet]
    | false => cases hit : node.sameNode target <;> simp [meet, hit]

end NodeFinder

namespace Expr

theorem contains_eq_any_nodes (e target : Expr) :
    e.contains target = e.nodes.any fun node => node.sameNode target := by
  rw [contains, NodeFinder.run_visitWith_enter, NodeFinder.foldl_meet]
  rfl

theorem contains_eq (e target : Expr) :
    e.contains target = (e.sameNode target || e.kind.slots.any fun c => c.contains target) := by
  simp only [contains_eq_any_nodes]
  rw [nodes_eq, List.any_cons, List.any_flatMap]

theorem run_search (e : Expr) (finder : NodeFinder) :
    (e.visitWith NodeFinder.enter).run finder =
      ((), { finder with found := finder.found || e.contains finder.target }) := by
  rw [NodeFinder.run_visitWith_enter, NodeFinder.foldl_meet, contains_eq_any_nodes]

theorem run_visitWith_entering {σ : Type} (step : σ → Expr → σ) (e : Expr) (s : σ) :
    (e.visitWith fun node => do modify (step · node); return true : StateM σ Unit).run s =
      ((), e.nodes.foldl step s) := by
  rw [visitWith_noting (fun node => modify (step · node)) fun _ => true]
  exact run_forM_eq_foldl (fun _ _ _ => rfl) s

theorem visited_eq_nodes (e : Expr) : e.visited = e.nodes := by
  rw [visited, run_visitWith_entering fun noted node => noted ++ [node],
    List.foldl_append_eq_append, ← List.flatMap_def, List.flatMap_singleton', List.nil_append]

theorem mem_nodes_iff {e node : Expr} : node ∈ e.nodes ↔ ∃ path, e.at? path = some node := by
  constructor
  · intro mem
    rw [← map_snd_positions] at mem
    obtain ⟨⟨path, node⟩, position, rfl⟩ := List.mem_map.1 mem
    exact ⟨path, mem_positions_iff.1 position⟩
  · rintro ⟨path, found⟩
    exact mem_nodes_of_at? found

/-- A search finds its target exactly if a visitor that enters every node meets it, and that visitor
meets the root and whatever some sequence of slots leads to. The search enters the nodes in front of
the first hit in preorder and no others, but it ends as if it had entered them all, and the flag it
leaves behind siblings does not depend on which of them holds the hit. -/
theorem contains_exact (tree target : Expr) :
    (tree.contains target = true ↔ ∃ node ∈ tree.visited, node.sameNode target = true) ∧
    (∀ node, node ∈ tree.visited ↔ ∃ path, tree.at? path = some node) ∧
    (tree.visitWith NodeFinder.enter =
      tree.visitWith fun node => do modify (NodeFinder.meet · node); return true) ∧
    (∀ (siblings : List Expr) (finder : NodeFinder),
      (forM siblings (visitWith NodeFinder.enter)).run finder =
        ((), { finder with found :=
          finder.found || siblings.any fun sibling => sibling.contains finder.target })) ∧
    (tree.visitWith (noting NodeFinder.enter)).run (⟨target, false⟩, []) =
      ((), ⟨target, tree.contains target⟩,
        tree.visited.takeWhile fun node => !node.sameNode target) := by
  rw [visited_eq_nodes]
  refine ⟨?decides, fun node => mem_nodes_iff, ?exit, ?siblings, ?entered⟩
  case decides => rw [contains_eq_any_nodes, List.any_eq_true]
  case exit =>
    apply StateT.ext
    intro finder
    rw [NodeFinder.run_visitWith_enter, run_visitWith_entering]
  case siblings =>
    intro siblings finder
    rw [run_forM_eq_foldl fun sibling _ => run_search sibling,
      NodeFinder.foldl_found contains]
  case entered =>
    rw [run_visitWith NodeFinder.enter_stopsForGood.noting, NodeFinder.foldl_noting,
      NodeFinder.foldl_meet, ← contains_eq_any_nodes]
    rfl

/-- A node that looks like the target is another one. -/
example : (node ⟨1⟩ .int (.unary .neg (node ⟨0⟩ .int (.parameter "x")))).contains
    (node ⟨2⟩ .int (.parameter "x")) = false := by decide +kernel

end Expr

end ExpressionGraphs
