import ExpressionGraphs.Expr.Form
import ExpressionGraphs.Proofs.Reachability

set_option autoImplicit false

/-!
# Drafts

Seen from a supply, an expression consists of nodes that stood before and of nodes built since. Its
draft keeps the former as they are and of the latter only type and contents. Two expressions of
one draft have the same form and hold the same older nodes at the same positions; they differ in
the identities of the nodes built since and in nothing else.
-/

namespace ExpressionGraphs

def Kind.impliedType? : Kind Ty → Option Ty
  | member _ m => some m.ty
  | lambda params body => some (.func params body)
  | _ => none

theorem Kind.isSome_impliedType?_withOperands (kind : Kind Ty) (operands : List Ty) :
    (kind.withOperands operands).impliedType?.isSome = kind.impliedType?.isSome := by
  cases kind with
  | member | lambda | unary => rcases operands with _ | ⟨_, _ | _⟩ <;> rfl
  | binary => rcases operands with _ | ⟨_, _ | ⟨_, _ | _⟩⟩ <;> rfl
  | conditional => rcases operands with _ | ⟨_, _ | ⟨_, _ | ⟨_, _ | _⟩⟩⟩ <;> rfl
  | call => rfl
  | constant | parameter | host => rfl

theorem Expr.impliedType?_eq (kind : Kind Expr) :
    Expr.impliedType? kind = (kind.map Expr.ty).impliedType? := by
  cases kind <;> rfl

theorem getD_getD_of_isSome_eq {α : Type} {after before : Option α}
    (same : after.isSome = before.isSome) (a : α) : after.getD (before.getD a) = after.getD a := by
  cases after with
  | some _ => rfl
  | none =>
    cases before with
    | some _ => cases same
    | none => rfl

inductive Draft where
  | kept (e : Expr)
  | made (ty : Ty) (kind : Kind Draft)

namespace Draft

theorem sizeOf_lt_of_mem_slots {ty : Ty} {kind : Kind Draft} {child : Draft}
    (h : child ∈ kind.slots) : sizeOf child < sizeOf (made ty kind) := by
  have : sizeOf child < sizeOf kind := Kind.sizeOf_lt_of_mem_slots h
  simp only [made.sizeOf_spec]
  omega

@[elab_as_elim]
theorem induction {motive : Draft → Prop} (kept : ∀ e, motive (kept e))
    (made : ∀ ty kind, (∀ child ∈ kind.slots, motive child) → motive (made ty kind)) :
    (d : Draft) → motive d
  | .kept e => kept e
  | .made ty kind => made ty kind fun child _ => induction kept made child
termination_by d => sizeOf d
decreasing_by exact sizeOf_lt_of_mem_slots ‹_›

def ty : Draft → Ty
  | kept e => e.ty
  | made ty _ => ty

def remade (ty : Ty) (kind : Kind Draft) : Draft :=
  made ((kind.map Draft.ty).impliedType?.getD ty) kind

def form : Draft → Form
  | kept e => e.form
  | made ty kind => .node ty (kind.attach.map fun child => child.1.form)
termination_by d => sizeOf d
decreasing_by exact sizeOf_lt_of_mem_slots child.2

/-- The draft at a position. Inside a node that is kept, every position holds a node kept. -/
def sub? : Draft → List Nat → Option Draft
  | d, [] => some d
  | kept e, i :: path => (e.at? (i :: path)).map kept
  | made _ kind, i :: path => kind.slots[i]?.bind fun child => child.sub? path

theorem form_kept (e : Expr) : (kept e).form = e.form := by
  rw [form]

theorem form_made (ty : Ty) (kind : Kind Draft) :
    (made ty kind).form = .node ty (kind.map form) := by
  rw [form, Kind.attach_map]

theorem sub?_nil (d : Draft) : d.sub? [] = some d := by
  rw [sub?]

theorem sub?_kept (e : Expr) (path : List Nat) : (kept e).sub? path = (e.at? path).map kept := by
  cases path <;> rfl

theorem sub?_made_cons (ty : Ty) (kind : Kind Draft) (i : Nat) (path : List Nat) :
    (made ty kind).sub? (i :: path) = kind.slots[i]?.bind fun child => child.sub? path := by
  rw [sub?]

end Draft

namespace Expr

/-- An expression seen from a supply. -/
def since (s : Supply) (e : Expr) : Draft :=
  if e.id.index < s.next then .kept e
  else .made e.ty (e.kind.attach.map fun child => child.1.since s)
termination_by sizeOf e
decreasing_by exact sizeOf_lt_of_mem_slots child.2

theorem since_of_lt {s : Supply} {e : Expr} (old : e.id.index < s.next) :
    e.since s = .kept e := by
  rw [since, if_pos old]

theorem since_of_le {s : Supply} {e : Expr} (new : s.next ≤ e.id.index) :
    e.since s = .made e.ty (e.kind.map (since s)) := by
  rw [since, if_neg (Nat.not_lt.2 new), Kind.attach_map]

theorem since_eq_kept_iff {s : Supply} {e node : Expr} :
    e.since s = .kept node ↔ e = node ∧ e.id.index < s.next := by
  rw [since]
  split
  · rename_i old
    exact ⟨fun h => ⟨Draft.kept.inj h, old⟩, fun h => congrArg Draft.kept h.1⟩
  · rename_i new
    refine ⟨fun h => ?_, fun h => absurd h.2 new⟩
    cases h

theorem ty_since (s : Supply) (e : Expr) : (e.since s).ty = e.ty := by
  rw [since]
  split <;> rfl

theorem form_since (s : Supply) (e : Expr) : (e.since s).form = e.form := by
  induction e using induction with
  | step e ih =>
    rcases Nat.lt_or_ge e.id.index s.next with old | new
    · rw [since_of_lt old, Draft.form_kept]
    · rw [since_of_le new, Draft.form_made, form_eq e, Kind.map_map]
      exact congrArg (Form.node e.ty) (Kind.map_congr ih)

theorem sub?_since {s t : Supply} {held : List Expr} (sound : t.Sound held) {e : Expr}
    (mem : e ∈ nodesOf held) (path : List Nat) :
    (e.since s).sub? path = (e.at? path).map (since s) := by
  induction path generalizing e with
  | nil => rw [Draft.sub?_nil, at?_nil, Option.map_some]
  | cons i path ih =>
    rcases Nat.lt_or_ge e.id.index s.next with old | new
    · rw [since_of_lt old, Draft.sub?_kept]
      refine Option.map_congr fun node at_path => (since_of_lt ?_).symm
      exact sound.index_lt_of_mem_nodes mem old node (mem_nodes_of_at? at_path)
    · rw [since_of_le new, Draft.sub?_made_cons, at?_cons, Kind.slots_map, List.getElem?_map]
      cases h : e.kind.slots[i]? with
      | none => rfl
      | some child => exact ih (mem_nodesOf_of_mem_slots mem (List.mem_of_getElem? h))

theorem at?_eq_some_iff {s t : Supply} {held : List Expr} (sound : t.Sound held) {e node : Expr}
    (mem : e ∈ nodesOf held) (old : node.id.index < s.next) (path : List Nat) :
    e.at? path = some node ↔ (e.since s).sub? path = some (.kept node) := by
  rw [sub?_since sound mem, Option.map_eq_some_iff]
  constructor
  · intro stands
    exact ⟨node, stands, since_of_lt old⟩
  · rintro ⟨out, stands, kept⟩
    rw [stands, (since_eq_kept_iff.1 kept).1]

theorem since_rebuild {s u : Supply} (le : s.next ≤ u.next) (e : Expr) (kind : Kind Expr) :
    (u.build (e.rebuild kind)).since s = .remade e.ty (kind.map (since s)) := by
  have types : (kind.map (since s)).map Draft.ty = kind.map Expr.ty := by
    rw [Kind.map_map]
    exact Kind.map_congr fun child _ => ty_since s child
  rw [Supply.build_rebuild, since_of_le le, Draft.remade, types, impliedType?_eq]
  rfl

end Expr

end ExpressionGraphs
