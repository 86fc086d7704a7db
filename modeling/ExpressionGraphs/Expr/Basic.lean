import ExpressionGraphs.Error
import ExpressionGraphs.Expr.Kind

set_option autoImplicit false

/-!
# Expressions

An expression is an immutable graph whose nodes carry an identity. Nodes are built with fresh
identities from a supply, so that two expressions are the same node exactly when their
identities agree, whatever they look like.

`Expr.rebuild` is the step of every transformation: the types of member accesses and lambdas follow
their new children, any other node keeps its type.
-/

namespace ExpressionGraphs

structure NodeId where
  index : Nat
  deriving DecidableEq, Repr, Hashable

inductive Expr where
  | node (id : NodeId) (ty : Ty) (kind : Kind Expr)

/-- The identities not yet given away are those from `next` on. -/
structure Supply where
  next : Nat
  deriving DecidableEq, Repr

abbrev BuildT (m : Type → Type) := StateT Supply m

abbrev Build := BuildT Id

namespace Expr

def id : Expr → NodeId
  | node id _ _ => id

def ty : Expr → Ty
  | node _ ty _ => ty

def kind : Expr → Kind Expr
  | node _ _ kind => kind

def sameNode (a b : Expr) : Bool := a.id = b.id

@[simp]
theorem sameNode_self (e : Expr) : e.sameNode e = true := decide_eq_true rfl

theorem sameNode_comm (a b : Expr) : a.sameNode b = b.sameNode a :=
  decide_eq_decide.2 eq_comm

theorem sizeOf_lt_of_mem_slots {e child : Expr} (h : child ∈ e.kind.slots) :
    sizeOf child < sizeOf e := by
  obtain ⟨i, t, kind⟩ := e
  have : sizeOf child < sizeOf kind := Kind.sizeOf_lt_of_mem_slots h
  simp only [node.sizeOf_spec]
  omega

@[elab_as_elim]
theorem induction {motive : Expr → Prop}
    (step : ∀ e, (∀ child ∈ e.kind.slots, motive child) → motive e) (e : Expr) : motive e :=
  step e fun child _ => induction step child
termination_by sizeOf e
decreasing_by exact sizeOf_lt_of_mem_slots ‹_›

section Build

variable {m : Type → Type} [Monad m]

def fresh (ty : Ty) (kind : Kind Expr) : BuildT m Expr := fun supply =>
  pure (node ⟨supply.next⟩ ty kind, ⟨supply.next + 1⟩)

def constant (value : Value) (ty : Ty) : BuildT m Expr := fresh ty (.constant value)

def parameter (name : String) (ty : Ty) : BuildT m Expr := fresh ty (.parameter name)

/-- An access typed by the member, which need not be declared on the type of the object. -/
def member (object : Expr) (member : Member) : BuildT m Expr :=
  fresh member.ty (.member object member)

def unary (op : UnaryOp) (operand : Expr) (ty : Ty) : BuildT m Expr :=
  fresh ty (.unary op operand)

def binary (op : BinaryOp) (lhs rhs : Expr) (ty : Ty) : BuildT m Expr :=
  fresh ty (.binary op lhs rhs)

def call (function : String) (args : List Expr) (ty : Ty) : BuildT m Expr :=
  fresh ty (.call function args)

def conditional (test thenBranch elseBranch : Expr) : BuildT m Expr :=
  fresh thenBranch.ty (.conditional test thenBranch elseBranch)

def host (label : String) (ty : Ty) : BuildT m Expr := fresh ty (.host label)

end Build

def isParameter (e : Expr) : Bool :=
  match e.kind with
  | .parameter _ => true
  | _ => false

def lambdaType (params : List Expr) (body : Expr) : Ty := .func (params.map ty) body.ty

def lambda {m : Type → Type} [Monad m] (params : List Expr) (body : Expr) :
    BuildT (ExceptT LambdaError m) Expr :=
  if params.all isParameter then fresh (lambdaType params body) (.lambda params body)
  else throw .notParameters

def access {m : Type → Type} [Monad m] (object : Expr) (member : Member) (ε : Type := Empty) :
    BuildT (ExceptT (AccessError ε) m) Expr :=
  if member.isDeclaredOn object.ty then object.member member
  else throw (.memberMismatch member object.ty)

def impliedType? : Kind Expr → Option Ty
  | .member _ member => some member.ty
  | .lambda params body => some (lambdaType params body)
  | _ => none

def rebuild {m : Type → Type} [Monad m] (e : Expr) (kind : Kind Expr) : BuildT m Expr :=
  fresh ((impliedType? kind).getD e.ty) kind

def asMember? (e : Expr) : Option (Expr × Member) :=
  match e.kind with
  | .member object member => some (object, member)
  | _ => none

def isMember (e : Expr) : Bool := e.asMember?.isSome

def asConstant? (e : Expr) : Option Value :=
  match e.kind with
  | .constant value => some value
  | _ => none

end Expr

structure Lambda where
  params : List Expr
  body : Expr

def Expr.asLambda? (e : Expr) : Option Lambda :=
  match e.kind with
  | .lambda params body => some ⟨params, body⟩
  | _ => none

theorem Expr.kind_of_asLambda? {e : Expr} {l : Lambda} (h : e.asLambda? = some l) :
    e.kind = .lambda l.params l.body := by
  unfold asLambda? at h
  split at h
  · cases h
    assumption
  · cases h

end ExpressionGraphs
