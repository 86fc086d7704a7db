import ExpressionGraphs.Expr.Basic

set_option autoImplicit false

/-!
# Chains of member accesses

The chain of an access lists the nodes from the outermost access inward, up to the first object
that is no access itself. That object is the root of the chain. `ChainCursor` walks along a chain one
node at a time.
-/

namespace ExpressionGraphs.Expr

def chain : Expr → List Expr
  | node id ty (.member object member) => node id ty (.member object member) :: object.chain
  | _ => []

theorem chain_member (id : NodeId) (ty : Ty) (object : Expr) (member : Member) :
    (node id ty (.member object member)).chain =
      node id ty (.member object member) :: object.chain := by
  rw [chain]

theorem chain_eq_nil_iff (e : Expr) : e.chain = [] ↔ e.isMember = false := by
  obtain ⟨id, ty, kind⟩ := e
  cases kind <;> simp [chain, isMember, asMember?, Expr.kind]

def chainRoot? (e : Expr) : Option Expr := e.chain.getLast?.bind asMember? |>.map Prod.fst

/-- The members along the chain, the innermost first. -/
def chainMembers (e : Expr) : List Member := (e.chain.filterMap asMember?).reverse.map Prod.snd

def memberPath? (e : Expr) : Option String :=
  if e.chain.isEmpty then none else some (".".intercalate (e.chainMembers.map Member.name))

end Expr

/-- Stands before an access, or at the end. -/
structure ChainCursor where
  access? : Option Expr

namespace ChainCursor

def before (e : Expr) : ChainCursor := ⟨if e.isMember then some e else none⟩

def next? (cursor : ChainCursor) : Option (Expr × ChainCursor) :=
  cursor.access?.map fun access =>
    match access.kind with
    | .member object _ => (access, before object)
    | _ => (access, ⟨none⟩)

def take : Nat → ChainCursor → List Expr
  | 0, _ => []
  | n + 1, cursor =>
    match cursor.next? with
    | none => []
    | some (access, cursor) => access :: take n cursor

end ChainCursor

def Lambda.isMemberPath (l : Lambda) : Bool :=
  match l.params.head?, l.body.chainRoot? with
  | some first, some root => root.sameNode first
  | _, _ => false

end ExpressionGraphs
