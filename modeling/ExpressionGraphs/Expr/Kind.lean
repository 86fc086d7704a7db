import ExpressionGraphs.Member.Basic
import ExpressionGraphs.Value.Basic

set_option autoImplicit false

/-!
# Kinds of nodes

The kind of a node over the type `α` of its children. `slots` are all children in order;
`operands` leaves out the parameter list of a lambda, which binds and is not evaluated.
`shape` is what remains of a kind when its children are forgotten.
-/

namespace ExpressionGraphs

inductive UnaryOp where
  | neg
  | not
  deriving DecidableEq, Repr

def UnaryOp.symbol : UnaryOp → String
  | neg => "-"
  | not => "!"

inductive BinaryOp where
  | add
  | sub
  | mul
  | div
  | eq
  | neq
  | lt
  | gt
  | and
  | or
  deriving DecidableEq, Repr

def BinaryOp.symbol : BinaryOp → String
  | add => "+"
  | sub => "-"
  | mul => "*"
  | div => "/"
  | eq => "=="
  | neq => "!="
  | lt => "<"
  | gt => ">"
  | and => "&&"
  | or => "||"

inductive Kind (α : Type) where
  | member (object : α) (member : Member)
  | constant (value : Value)
  | parameter (name : String)
  | lambda (params : List α) (body : α)
  | unary (op : UnaryOp) (operand : α)
  | binary (op : BinaryOp) (lhs rhs : α)
  | call (function : String) (args : List α)
  | conditional (test thenBranch elseBranch : α)
  /-- A node of the host, without children known here. -/
  | host (label : String)
  deriving BEq

namespace Kind

variable {α β : Type}

def slots : Kind α → List α
  | member object _ => [object]
  | lambda params body => params ++ [body]
  | unary _ operand => [operand]
  | binary _ lhs rhs => [lhs, rhs]
  | call _ args => args
  | conditional test thenBranch elseBranch => [test, thenBranch, elseBranch]
  | constant _ | parameter _ | host _ => []

def operands : Kind α → List α
  | lambda _ body => [body]
  | kind => kind.slots

def parameters : Kind α → List α
  | lambda params _ => params
  | _ => []

theorem slots_eq (kind : Kind α) : kind.slots = kind.parameters ++ kind.operands := by
  cases kind <;> rfl

theorem mem_slots {kind : Kind α} {child : α} :
    child ∈ kind.slots ↔ child ∈ kind.parameters ∨ child ∈ kind.operands := by
  rw [slots_eq, List.mem_append]

theorem mem_slots_of_mem_operands {kind : Kind α} {child : α} (h : child ∈ kind.operands) :
    child ∈ kind.slots :=
  mem_slots.2 (.inr h)

theorem mem_slots_of_mem_parameters {kind : Kind α} {child : α} (h : child ∈ kind.parameters) :
    child ∈ kind.slots :=
  mem_slots.2 (.inl h)

theorem sizeOf_lt_of_mem_slots [SizeOf α] {kind : Kind α} {child : α} (h : child ∈ kind.slots) :
    sizeOf child < sizeOf kind := by
  cases kind <;> simp only [slots, List.mem_append, List.mem_cons, List.not_mem_nil,
    or_false] at h
  case lambda params body =>
    rcases h with h | rfl
    · have := List.sizeOf_lt_of_mem h
      simp only [lambda.sizeOf_spec]
      omega
    · simp only [lambda.sizeOf_spec]
      omega
  case call args =>
    have := List.sizeOf_lt_of_mem h
    simp only [call.sizeOf_spec]
    omega
  case member =>
    subst h
    simp only [member.sizeOf_spec]
    omega
  case unary =>
    subst h
    simp only [unary.sizeOf_spec]
    omega
  case binary =>
    rcases h with rfl | rfl <;> simp only [binary.sizeOf_spec] <;> omega
  case conditional =>
    rcases h with rfl | rfl | rfl <;> simp only [conditional.sizeOf_spec] <;> omega

/-- The kind with other operands, of which there must be as many. -/
def withOperands : Kind α → List α → Kind α
  | member _ m, [object] => member object m
  | lambda params _, [body] => lambda params body
  | unary op _, [operand] => unary op operand
  | binary op _ _, [lhs, rhs] => binary op lhs rhs
  | call function _, args => call function args
  | conditional _ _ _, [test, thenBranch, elseBranch] => conditional test thenBranch elseBranch
  | kind, _ => kind

theorem withOperands_operands (kind : Kind α) : kind.withOperands kind.operands = kind := by
  cases kind <;> rfl

theorem operands_withOperands {kind : Kind α} {children : List α}
    (h : children.length = kind.operands.length) :
    (kind.withOperands children).operands = children := by
  cases kind <;> simp only [operands, slots, List.length_cons, List.length_nil] at h
  case call => rfl
  case member | lambda | unary => match children, h with | [_], _ => rfl
  case binary => match children, h with | [_, _], _ => rfl
  case conditional => match children, h with | [_, _, _], _ => rfl
  all_goals rw [List.length_eq_zero_iff.1 h]; rfl

theorem parameters_withOperands (kind : Kind α) (children : List α) :
    (kind.withOperands children).parameters = kind.parameters := by
  fun_cases withOperands kind children <;> rfl

theorem slots_withOperands {kind : Kind α} {children : List α}
    (h : children.length = kind.operands.length) :
    (kind.withOperands children).slots = kind.parameters ++ children := by
  rw [slots_eq, parameters_withOperands, operands_withOperands h]

theorem withOperands_withOperands {kind : Kind α} {before after : List α}
    (h : after.length = kind.operands.length) :
    (kind.withOperands before).withOperands after = kind.withOperands after := by
  cases kind with
  | member | lambda | unary =>
    match after, h with
    | [_], _ => rcases before with _ | ⟨_, _ | _⟩ <;> rfl
  | binary =>
    match after, h with
    | [_, _], _ => rcases before with _ | ⟨_, _ | ⟨_, _ | _⟩⟩ <;> rfl
  | conditional =>
    match after, h with
    | [_, _, _], _ => rcases before with _ | ⟨_, _ | ⟨_, _ | ⟨_, _ | _⟩⟩⟩ <;> rfl
  | call | constant | parameter | host => rfl

def map (f : α → β) : Kind α → Kind β
  | member object m => member (f object) m
  | constant value => constant value
  | parameter name => parameter name
  | lambda params body => lambda (params.map f) (f body)
  | unary op operand => unary op (f operand)
  | binary op lhs rhs => binary op (f lhs) (f rhs)
  | call function args => call function (args.map f)
  | conditional test thenBranch elseBranch =>
    conditional (f test) (f thenBranch) (f elseBranch)
  | host label => host label

theorem slots_map (f : α → β) (kind : Kind α) : (kind.map f).slots = kind.slots.map f := by
  cases kind <;> simp [map, slots]

theorem operands_map (f : α → β) (kind : Kind α) :
    (kind.map f).operands = kind.operands.map f := by
  cases kind <;> simp [map, operands, slots]

theorem length_operands_map {γ : Type} (f : α → β) (g : α → γ) (kind : Kind α) :
    (kind.operands.map f).length = (kind.map g).operands.length := by
  rw [operands_map, List.length_map, List.length_map]

theorem parameters_map (f : α → β) (kind : Kind α) :
    (kind.map f).parameters = kind.parameters.map f := by
  cases kind <;> rfl

theorem map_map {γ : Type} (f : α → β) (g : β → γ) (kind : Kind α) :
    (kind.map f).map g = kind.map (g ∘ f) := by
  cases kind <;> simp [map]

theorem map_congr {f g : α → β} {kind : Kind α} (h : ∀ child ∈ kind.slots, f child = g child) :
    kind.map f = kind.map g := by
  cases kind <;> simp_all [map, slots]

theorem map_withOperands (f : α → β) (kind : Kind α) (children : List α) :
    (kind.withOperands children).map f = (kind.map f).withOperands (children.map f) := by
  cases kind with
  | member | lambda | unary => rcases children with _ | ⟨_, _ | _⟩ <;> rfl
  | binary => rcases children with _ | ⟨_, _ | ⟨_, _ | _⟩⟩ <;> rfl
  | conditional => rcases children with _ | ⟨_, _ | ⟨_, _ | ⟨_, _ | _⟩⟩⟩ <;> rfl
  | call => rfl
  | constant | parameter | host => rfl

def shape (kind : Kind α) : Kind Unit := kind.map fun _ => ()

def attach : (kind : Kind α) → Kind { child : α // child ∈ kind.slots }
  | member object m => member ⟨object, by simp [slots]⟩ m
  | constant value => constant value
  | parameter name => parameter name
  | lambda params body =>
    lambda (params.attach.map fun p => ⟨p.1, by simp [slots, p.2]⟩) ⟨body, by simp [slots]⟩
  | unary op operand => unary op ⟨operand, by simp [slots]⟩
  | binary op lhs rhs => binary op ⟨lhs, by simp [slots]⟩ ⟨rhs, by simp [slots]⟩
  | call function args => call function (args.attach.map fun a => ⟨a.1, by simp [slots, a.2]⟩)
  | conditional test thenBranch elseBranch =>
    conditional ⟨test, by simp [slots]⟩ ⟨thenBranch, by simp [slots]⟩ ⟨elseBranch, by simp [slots]⟩
  | host label => host label

theorem attach_map (f : α → β) (kind : Kind α) :
    (kind.attach.map fun child => f child.1) = kind.map f := by
  cases kind <;> simp [attach, map]

end Kind
end ExpressionGraphs
