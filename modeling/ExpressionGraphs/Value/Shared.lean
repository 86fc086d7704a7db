import ExpressionGraphs.Value.Basic

set_option autoImplicit false

/-!
# Values behind references

A program holds a record or a box through a reference, which any number of values may share; an
array belongs to the value that it is a part of. A comparison could stop where it meets one reference
on both sides only if everything equaled itself, which what holds NaN does not. It therefore always
looks at what stands behind references, and its outcome is that of `Value.same` on the contents.
-/

namespace ExpressionGraphs

structure Reference where
  address : Nat
  deriving DecidableEq, Repr

inductive SharedValue where
  | null
  | bool (b : Bool)
  | int (n : Int64)
  | float (x : Binary64)
  | string (text : String)
  | array (items : List SharedValue)
  | record (ref : Reference) (className : String) (fields : List (String × SharedValue))
  | boxed (ref : Reference) (ty : Ty) (value : SharedValue)

namespace SharedValue

mutual

def content : SharedValue → Value
  | null => .null
  | bool b => .bool b
  | int n => .int n
  | float x => .float x
  | string text => .string text
  | array items => .array (contents items)
  | record _ className fields => .record className (fieldContents fields)
  | boxed _ ty value => .boxed ty (content value)

def contents : List SharedValue → List Value
  | [] => []
  | v :: vs => content v :: contents vs

def fieldContents : List (String × SharedValue) → List (String × Value)
  | [] => []
  | (name, v) :: fields => (name, content v) :: fieldContents fields

end

mutual

def same : SharedValue → SharedValue → Bool
  | null, null => true
  | bool a, bool b => a = b
  | int a, int b => a = b
  | float a, float b => a == b
  | string a, string b => a = b
  | array as, array bs => sameItems as bs
  | record _ c fs, record _ d gs => c = d && sameFields fs gs
  | boxed _ t a, boxed _ u b => t = u && same a b
  | _, _ => false

def sameItems : List SharedValue → List SharedValue → Bool
  | [], [] => true
  | a :: as, b :: bs => same a b && sameItems as bs
  | _, _ => false

def sameFields : List (String × SharedValue) → List (String × SharedValue) → Bool
  | [], [] => true
  | (m, a) :: fs, (n, b) :: gs => m = n && same a b && sameFields fs gs
  | _, _ => false

end

instance : BEq SharedValue := ⟨same⟩

mutual

theorem same_eq : (a b : SharedValue) → same a b = Value.same a.content b.content
  | null, b | bool _, b | int _, b | float _, b | string _, b => by
    cases b <;> simp [same, Value.same, content]
  | array as, b => by
    cases b <;> simp [same, Value.same, content, sameItems_eq as]
  | record _ _ fs, b => by
    cases b <;> simp [same, Value.same, content, sameFields_eq fs]
  | boxed _ _ a, b => by
    cases b <;> simp [same, Value.same, content, same_eq a]

theorem sameItems_eq : (as bs : List SharedValue) →
    sameItems as bs = Value.sameItems (contents as) (contents bs)
  | [], bs => by cases bs <;> simp [sameItems, Value.sameItems, contents]
  | a :: as, bs => by
    cases bs <;> simp [sameItems, Value.sameItems, contents, same_eq a, sameItems_eq as]

theorem sameFields_eq : (fs gs : List (String × SharedValue)) →
    sameFields fs gs = Value.sameFields (fieldContents fs) (fieldContents gs)
  | [], gs => by cases gs <;> simp [sameFields, Value.sameFields, fieldContents]
  | (_, a) :: fs, gs => by
    cases gs <;> simp [sameFields, Value.sameFields, fieldContents, same_eq a, sameFields_eq fs]

end

theorem beq_eq (a b : SharedValue) : (a == b) = (a.content == b.content) := same_eq a b

end SharedValue

end ExpressionGraphs
