import ExpressionGraphs.Expr.Identity
import ExpressionGraphs.Proofs.Building

set_option autoImplicit false

/-!
# Expressions within reach

A program holds expressions and obtains further ones by the interface alone. `Reachable` collects
the supplies and expressions that such a program can arrive at, and `Supply.Sound` is what all
of them have in common: identities belong to one node each and come from below the supply,
children are older than their parents, and nodes whose contents determine a type have it.
-/

namespace ExpressionGraphs

/-- What the interface can build from the expressions held without failing. In a pass of a host
the answers for the operands of a node are obtained first, by whatever steps the host takes, and
`walk` then yields the node for these answers. -/
inductive Offers (held : List Expr) : Build Expr → Prop
  | constant (value : Value) (ty : Ty) : Offers held (Expr.constant value ty)
  | parameter (name : String) (ty : Ty) : Offers held (Expr.parameter name ty)
  | host (label : String) (ty : Ty) : Offers held (Expr.host label ty)
  | member {object : Expr} (mem : object ∈ held) (m : Member) : Offers held (object.member m)
  | unary {operand : Expr} (op : UnaryOp) (mem : operand ∈ held) (ty : Ty) :
    Offers held (Expr.unary op operand ty)
  | binary {lhs rhs : Expr} (op : BinaryOp) (left : lhs ∈ held) (right : rhs ∈ held) (ty : Ty) :
    Offers held (Expr.binary op lhs rhs ty)
  | call {args : List Expr} (function : String) (mem : ∀ arg ∈ args, arg ∈ held) (ty : Ty) :
    Offers held (Expr.call function args ty)
  | conditional {test thenBranch elseBranch : Expr} (first : test ∈ held)
    (second : thenBranch ∈ held) (third : elseBranch ∈ held) :
    Offers held (Expr.conditional test thenBranch elseBranch)
  | walk {e : Expr} {answers : List Expr} (mem : e ∈ held) (given : ∀ a ∈ answers, a ∈ held)
    (length : answers.length = e.kind.operands.length) : Offers held (e.withOperands answers)

inductive Obtains (held : List Expr) (s : Supply) : Expr → Supply → Prop
  | child {e child : Expr} (mem : e ∈ held) (slot : child ∈ e.kind.slots) :
    Obtains held s child s
  | build {c : Build Expr} (offer : Offers held c) : Obtains held s (s.build c) (s.after c)
  | access {object e : Expr} {t : Supply} (mem : object ∈ held) (m : Member)
    (run : s.tryBuild (object.access m) = .ok (e, t)) : Obtains held s e t
  | lambda {params : List Expr} {body e : Expr} {t : Supply} (declared : ∀ p ∈ params, p ∈ held)
    (mem : body ∈ held) (run : s.tryBuild (Expr.lambda params body) = .ok (e, t)) :
    Obtains held s e t

/-- The supplies and the expressions held that a program can arrive at. -/
inductive Reachable : Supply → List Expr → Prop
  | start (s : Supply) : Reachable s []
  | next {s t : Supply} {held : List Expr} {e : Expr} (reach : Reachable s held)
    (step : Obtains held s e t) : Reachable t (e :: held)

def nodesOf (held : List Expr) : List Expr := held.flatMap Expr.nodes

namespace Expr

theorem kind_node (i : NodeId) (ty : Ty) (kind : Kind Expr) : (node i ty kind).kind = kind := rfl

theorem ty_node (i : NodeId) (ty : Ty) (kind : Kind Expr) : (node i ty kind).ty = ty := rfl

/-- A node that has the type its contents determine and declares parameter nodes only. -/
structure Formed (e : Expr) : Prop where
  typed : ∀ ty, impliedType? e.kind = some ty → e.ty = ty
  declares : ∀ p ∈ e.kind.parameters, p.isParameter = true

theorem Formed.getD_impliedType? {e : Expr} (formed : e.Formed) :
    (impliedType? e.kind).getD e.ty = e.ty := by
  cases implied : impliedType? e.kind with
  | none => rfl
  | some ty => rw [Option.getD_some, formed.typed ty implied]

theorem mem_nodes_trans {a b c : Expr} (inner : a ∈ b.nodes) (outer : b ∈ c.nodes) :
    a ∈ c.nodes := by
  induction c using induction with
  | step c ih =>
    rw [nodes_eq] at outer
    rcases List.mem_cons.1 outer with rfl | below
    · exact inner
    · obtain ⟨child, slot, mem⟩ := List.mem_flatMap.1 below
      exact mem_nodes_of_mem_slots slot (ih child slot mem)

theorem slots_eq_nil_of_isParameter {e : Expr} (h : e.isParameter = true) : e.kind.slots = [] := by
  obtain ⟨i, ty, kind⟩ := e
  cases kind with
  | parameter => rfl
  | _ => cases h

end Expr

theorem mem_nodesOf {held : List Expr} {node : Expr} :
    node ∈ nodesOf held ↔ ∃ e ∈ held, node ∈ e.nodes :=
  List.mem_flatMap

theorem mem_nodesOf_of_mem {held : List Expr} {e : Expr} (mem : e ∈ held) : e ∈ nodesOf held :=
  mem_nodesOf.2 ⟨e, mem, e.mem_nodes_self⟩

theorem mem_nodesOf_of_mem_nodes {held : List Expr} {e node : Expr} (mem : e ∈ nodesOf held)
    (inner : node ∈ e.nodes) : node ∈ nodesOf held := by
  obtain ⟨root, root_mem, outer⟩ := mem_nodesOf.1 mem
  exact mem_nodesOf.2 ⟨root, root_mem, Expr.mem_nodes_trans inner outer⟩

theorem mem_nodesOf_of_mem_slots {held : List Expr} {e child : Expr} (mem : e ∈ nodesOf held)
    (slot : child ∈ e.kind.slots) : child ∈ nodesOf held :=
  mem_nodesOf_of_mem_nodes mem (Expr.mem_nodes_of_mem_slots slot child.mem_nodes_self)

theorem nodesOf_mono {held more : List Expr} (sub : held ⊆ more) : nodesOf held ⊆ nodesOf more := by
  intro node mem
  obtain ⟨root, root_mem, inner⟩ := mem_nodesOf.1 mem
  exact mem_nodesOf.2 ⟨root, sub root_mem, inner⟩

/-- The state of a program: what is held, and the supply from which the next node is built. -/
structure Supply.Sound (s : Supply) (held : List Expr) : Prop where
  coherent : Coherent held
  below : ∀ node ∈ nodesOf held, node.id.index < s.next
  older : ∀ node ∈ nodesOf held, ∀ child ∈ node.kind.slots, child.id.index < node.id.index
  formed : ∀ node ∈ nodesOf held, node.Formed

namespace Supply.Sound

variable {s : Supply} {held : List Expr}

theorem eq_of_id (sound : s.Sound held) {a b : Expr} (ha : a ∈ nodesOf held)
    (hb : b ∈ nodesOf held) (h : a.id = b.id) : a = b :=
  sound.coherent a ha b hb h

theorem eq_of_sameNode (sound : s.Sound held) {a b : Expr} (ha : a ∈ nodesOf held)
    (hb : b ∈ nodesOf held) (h : a.sameNode b = true) : a = b :=
  sound.eq_of_id ha hb (of_decide_eq_true h)

theorem start (s : Supply) : s.Sound [] where
  coherent := by simp [Coherent]
  below := by simp [nodesOf]
  older := by simp [nodesOf]
  formed := by simp [nodesOf]

theorem hold (sound : s.Sound held) {e : Expr} (mem : e ∈ nodesOf held) : s.Sound (e :: held) := by
  have old : ∀ node ∈ nodesOf (e :: held), node ∈ nodesOf held := by
    intro node inner
    obtain ⟨root, root_mem, below⟩ := mem_nodesOf.1 inner
    rcases List.mem_cons.1 root_mem with rfl | root_mem
    · exact mem_nodesOf_of_mem_nodes mem below
    · exact mem_nodesOf.2 ⟨root, root_mem, below⟩
  exact ⟨fun a ha b hb => sound.coherent a (old a ha) b (old b hb),
    fun node inner => sound.below node (old node inner),
    fun node inner => sound.older node (old node inner),
    fun node inner => sound.formed node (old node inner)⟩

theorem mem_nodesOf_cons_node {i : NodeId} {ty : Ty} {kind : Kind Expr} {node : Expr}
    (slots : ∀ child ∈ kind.slots, child ∈ nodesOf held)
    (mem : node ∈ nodesOf (Expr.node i ty kind :: held)) :
    node = .node i ty kind ∨ node ∈ nodesOf held := by
  obtain ⟨root, root_mem, inner⟩ := mem_nodesOf.1 mem
  rcases List.mem_cons.1 root_mem with rfl | root_mem
  · rw [Expr.nodes_eq] at inner
    rcases List.mem_cons.1 inner with rfl | inner
    · exact .inl rfl
    · obtain ⟨child, slot, below⟩ := List.mem_flatMap.1 inner
      exact .inr (mem_nodesOf_of_mem_nodes (slots child slot) below)
  · exact .inr (mem_nodesOf.2 ⟨root, root_mem, inner⟩)

theorem add (sound : s.Sound held) {ty : Ty} {kind : Kind Expr}
    (slots : ∀ child ∈ kind.slots, child ∈ nodesOf held)
    (formed : (Expr.node ⟨s.next⟩ ty kind).Formed) :
    Supply.Sound ⟨s.next + 1⟩ (.node ⟨s.next⟩ ty kind :: held) := by
  have fresh : ∀ node ∈ nodesOf held, node.id ≠ ⟨s.next⟩ := by
    intro node mem equal
    have := sound.below node mem
    rw [equal] at this
    exact Nat.lt_irrefl _ this
  refine ⟨?_, ?_, ?_, ?_⟩
  · intro a ha b hb equal
    rcases mem_nodesOf_cons_node slots ha with rfl | ha <;>
      rcases mem_nodesOf_cons_node slots hb with rfl | hb
    · rfl
    · exact absurd equal.symm (fresh b hb)
    · exact absurd equal (fresh a ha)
    · exact sound.eq_of_id ha hb equal
  · intro node mem
    rcases mem_nodesOf_cons_node slots mem with rfl | mem
    · exact Nat.lt_succ_self _
    · exact Nat.lt_succ_of_lt (sound.below node mem)
  · intro node mem child slot
    rcases mem_nodesOf_cons_node slots mem with rfl | mem
    · exact sound.below child (slots child slot)
    · exact sound.older node mem child slot
  · intro node mem
    rcases mem_nodesOf_cons_node slots mem with rfl | mem
    · exact formed
    · exact sound.formed node mem

theorem index_lt_of_mem_nodes (sound : s.Sound held) {e : Expr} (mem : e ∈ nodesOf held)
    {n : Nat} (old : e.id.index < n) : ∀ node ∈ e.nodes, node.id.index < n := by
  induction e using Expr.induction with
  | step e ih =>
    intro node inner
    rw [Expr.nodes_eq] at inner
    rcases List.mem_cons.1 inner with rfl | inner
    · exact old
    · obtain ⟨child, slot, below⟩ := List.mem_flatMap.1 inner
      have younger := sound.older e mem child slot
      exact ih child slot (mem_nodesOf_of_mem_slots mem slot) (by omega) node below

end Supply.Sound

namespace Expr

theorem formed_of_free {i : NodeId} {ty : Ty} {kind : Kind Expr} (free : impliedType? kind = none)
    (declares : kind.parameters = []) : (node i ty kind).Formed where
  typed := by
    intro implied h
    rw [kind_node, free] at h
    cases h
  declares := by
    intro p mem
    rw [kind_node, declares] at mem
    cases mem

theorem formed_rebuild {e : Expr} (formed : e.Formed) (i : NodeId) (answers : List Expr) :
    (node i ((impliedType? (e.kind.withOperands answers)).getD e.ty)
      (e.kind.withOperands answers)).Formed where
  typed := by
    intro implied h
    rw [kind_node] at h
    rw [ty_node, h, Option.getD_some]
  declares := by
    intro p mem
    rw [kind_node, Kind.parameters_withOperands] at mem
    exact formed.declares p mem

end Expr

/-- The interface yields what is held already, or a well-formed new node over what is held. -/
theorem Offers.cases {s : Supply} {held : List Expr} {c : Build Expr} (offer : Offers held c)
    (sound : s.Sound held) :
    (s.build c ∈ held ∧ s.after c = s) ∨
    ∃ ty kind, s.build c = .node ⟨s.next⟩ ty kind ∧ s.after c = ⟨s.next + 1⟩ ∧
      (∀ child ∈ kind.slots, child ∈ nodesOf held) ∧ (Expr.node ⟨s.next⟩ ty kind).Formed := by
  cases offer with
  | constant | parameter | host =>
    refine .inr ⟨_, _, rfl, rfl, ?_, Expr.formed_of_free rfl rfl⟩
    intro child slot
    cases slot
  | member mem m =>
    refine .inr ⟨_, _, rfl, rfl, ?_, ⟨?_, ?_⟩⟩
    · intro child slot
      rw [List.mem_singleton.1 slot]
      exact mem_nodesOf_of_mem mem
    · intro ty h
      exact Option.some.inj h
    · intro p declared
      cases declared
  | unary op mem ty =>
    refine .inr ⟨_, _, rfl, rfl, ?_, Expr.formed_of_free rfl rfl⟩
    intro child slot
    rw [List.mem_singleton.1 slot]
    exact mem_nodesOf_of_mem mem
  | binary op left right ty =>
    refine .inr ⟨_, _, rfl, rfl, ?_, Expr.formed_of_free rfl rfl⟩
    intro child slot
    simp only [Kind.slots, List.mem_cons, List.not_mem_nil, or_false] at slot
    rcases slot with rfl | rfl
    · exact mem_nodesOf_of_mem left
    · exact mem_nodesOf_of_mem right
  | call function mem ty =>
    refine .inr ⟨_, _, rfl, rfl, ?_, Expr.formed_of_free rfl rfl⟩
    intro child slot
    exact mem_nodesOf_of_mem (mem child slot)
  | conditional first second third =>
    refine .inr ⟨_, _, rfl, rfl, ?_, Expr.formed_of_free rfl rfl⟩
    intro child slot
    simp only [Kind.slots, List.mem_cons, List.not_mem_nil, or_false] at slot
    rcases slot with rfl | rfl | rfl
    · exact mem_nodesOf_of_mem first
    · exact mem_nodesOf_of_mem second
    · exact mem_nodesOf_of_mem third
  | @walk e answers mem given length =>
    rw [Supply.build_withOperands, Supply.after_withOperands]
    split
    · exact .inl ⟨mem, rfl⟩
    · refine .inr ⟨_, _, Supply.build_rebuild s e _, rfl, ?_, ?_⟩
      · intro child slot
        rw [Kind.slots_withOperands length] at slot
        rcases List.mem_append.1 slot with declared | answer
        · exact mem_nodesOf_of_mem_slots (mem_nodesOf_of_mem mem)
            (Kind.mem_slots_of_mem_parameters declared)
        · exact mem_nodesOf_of_mem (given child answer)
      · exact Expr.formed_rebuild (sound.formed e (mem_nodesOf_of_mem mem)) _ _

theorem Obtains.sound {s t : Supply} {held : List Expr} {e : Expr} (step : Obtains held s e t)
    (sound : s.Sound held) : t.Sound (e :: held) := by
  cases step with
  | child mem slot =>
    exact sound.hold (mem_nodesOf_of_mem_slots (mem_nodesOf_of_mem mem) slot)
  | build offer =>
    rcases offer.cases sound with ⟨mem, same⟩ | ⟨ty, kind, built, left, slots, formed⟩
    · rw [same]
      exact sound.hold (mem_nodesOf_of_mem mem)
    · rw [built, left]
      exact sound.add slots formed
  | @access object _ _ mem m run =>
    rw [Supply.tryBuild_access] at run
    split at run <;> cases run
    refine sound.add ?_ ⟨?_, ?_⟩
    · intro child slot
      rw [List.mem_singleton.1 slot]
      exact mem_nodesOf_of_mem mem
    · intro ty h
      exact Option.some.inj h
    · intro p declared
      cases declared
  | @lambda params body _ _ declared mem run =>
    rw [Supply.tryBuild_lambda] at run
    split at run <;> cases run
    rename_i parameters
    refine sound.add ?_ ⟨?_, ?_⟩
    · intro child slot
      rcases List.mem_append.1 slot with slot | slot
      · exact mem_nodesOf_of_mem (declared child slot)
      · rw [List.mem_singleton.1 slot]
        exact mem_nodesOf_of_mem mem
    · intro ty h
      exact Option.some.inj h
    · exact List.all_eq_true.1 parameters

theorem Reachable.sound {s : Supply} {held : List Expr} (reach : Reachable s held) :
    s.Sound held := by
  induction reach with
  | start s => exact Supply.Sound.start s
  | next _ step ih => exact step.sound ih

/-! ## A graph within reach: `(p, q) => (p.X + q.X)` beside a further point `a` -/

namespace Sample

def point : Ty := .named "Point"

def x : Member := .field point "X" .int

def p : Expr := .node ⟨0⟩ point (.parameter "p")

def q : Expr := .node ⟨1⟩ point (.parameter "q")

def a : Expr := .node ⟨2⟩ point (.parameter "a")

def px : Expr := .node ⟨3⟩ .int (.member p x)

def qx : Expr := .node ⟨4⟩ .int (.member q x)

def sum : Expr := .node ⟨5⟩ .int (.binary .add px qx)

def sumOf : Expr := .node ⟨6⟩ (.func [point, point] .int) (.lambda [p, q] sum)

def held : List Expr := [sumOf, sum, qx, px, a, q, p]

theorem reachable : Reachable ⟨7⟩ held := by
  have points : Reachable ⟨3⟩ [a, q, p] :=
    (((Reachable.start ⟨0⟩).next (.build (.parameter "p" point))).next
      (.build (.parameter "q" point))).next (.build (.parameter "a" point))
  have left : Reachable ⟨4⟩ [px, a, q, p] :=
    points.next (.access (show p ∈ [a, q, p] by simp) x rfl)
  have right : Reachable ⟨5⟩ [qx, px, a, q, p] :=
    left.next (.access (show q ∈ [px, a, q, p] by simp) x rfl)
  have body : Reachable ⟨6⟩ [sum, qx, px, a, q, p] :=
    right.next (.build (.binary .add (show px ∈ [qx, px, a, q, p] by simp)
      (show qx ∈ [qx, px, a, q, p] by simp) .int))
  have declared : ∀ e ∈ [p, q], e ∈ [sum, qx, px, a, q, p] := by simp
  exact body.next (.lambda declared (show sum ∈ [sum, qx, px, a, q, p] by simp) rfl)

end Sample

end ExpressionGraphs
