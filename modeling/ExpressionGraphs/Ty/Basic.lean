set_option autoImplicit false

/-!
# Static types

Types carried by expression nodes and member descriptors, and the text in which they are
displayed. Equality of types is decided by `Ty.same`.
-/

namespace ExpressionGraphs

inductive Ty where
  | void
  | bool
  | int
  | float
  | string
  /-- The erased type: any value fits. -/
  | object
  | named (name : String)
  | array (element : Ty)
  | nullable (inner : Ty)
  | func (params : List Ty) (result : Ty)
  /-- A box with a single `Value` property of the inner type. -/
  | holder (inner : Ty)
  deriving Inhabited, Repr

namespace Ty

mutual

def same : Ty → Ty → Bool
  | void, void | bool, bool | int, int | float, float | string, string | object, object => true
  | named a, named b => a = b
  | array a, array b | nullable a, nullable b | holder a, holder b => same a b
  | func ps a, func qs b => sameList ps qs && same a b
  | _, _ => false

def sameList : List Ty → List Ty → Bool
  | [], [] => true
  | a :: as, b :: bs => same a b && sameList as bs
  | _, _ => false

end

mutual

theorem same_refl : (a : Ty) → same a a = true
  | void | bool | int | float | string | object => by simp [same]
  | named _ => by simp [same]
  | array a | nullable a | holder a => by simp [same, same_refl a]
  | func ps a => by simp [same, sameList_refl ps, same_refl a]

theorem sameList_refl : (as : List Ty) → sameList as as = true
  | [] => by simp [sameList]
  | a :: as => by simp [sameList, same_refl a, sameList_refl as]

end

mutual

theorem eq_of_same : {a b : Ty} → same a b = true → a = b
  | void, b, h | bool, b, h | int, b, h | float, b, h | string, b, h | object, b, h => by
    cases b <;> simp_all [same]
  | named _, b, h => by cases b <;> simp_all [same]
  | array a, b, h => by
    cases b <;> simp only [same, Bool.false_eq_true] at h
    rw [eq_of_same h]
  | nullable a, b, h => by
    cases b <;> simp only [same, Bool.false_eq_true] at h
    rw [eq_of_same h]
  | holder a, b, h => by
    cases b <;> simp only [same, Bool.false_eq_true] at h
    rw [eq_of_same h]
  | func ps a, b, h => by
    cases b <;> simp only [same, Bool.and_eq_true, Bool.false_eq_true] at h
    rw [eq_of_sameList h.1, eq_of_same h.2]

theorem eq_of_sameList : {as bs : List Ty} → sameList as bs = true → as = bs
  | [], bs, h => by cases bs <;> simp_all [sameList]
  | a :: as, bs, h => by
    cases bs <;> simp only [sameList, Bool.and_eq_true, Bool.false_eq_true] at h
    rw [eq_of_same h.1, eq_of_sameList h.2]

end

theorem same_iff {a b : Ty} : same a b = true ↔ a = b :=
  ⟨eq_of_same, fun h => h ▸ same_refl a⟩

instance : DecidableEq Ty := fun _ _ => decidable_of_iff _ same_iff

mutual

def text : Ty → String
  | void => "void"
  | bool => "bool"
  | int => "int"
  | float => "float"
  | string => "string"
  | object => "object"
  | named name => name
  | array element => "[" ++ text element ++ "]"
  | nullable inner => text inner ++ "?"
  | func params result => "fn(" ++ ", ".intercalate (textList params) ++ ") " ++ text result
  | holder inner => "Holder<" ++ text inner ++ ">"

def textList : List Ty → List String
  | [] => []
  | t :: ts => text t :: textList ts

end

def holderInner? : Ty → Option Ty
  | holder inner => some inner
  | _ => none

/-- The type whose members a value of this type exposes. -/
def withoutNullable : Ty → Ty
  | nullable inner => inner
  | t => t

end Ty
end ExpressionGraphs
