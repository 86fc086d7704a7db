import ExpressionGraphs.Binary64.Basic
import ExpressionGraphs.Ty.Basic

set_option autoImplicit false

/-!
# Values held by constants

The entries of a record are sorted by name and their names are distinct; `Value.ofEntries`
brings any list of entries into this form. Equality of values is numerical on floats, so a
value that contains NaN differs from itself.
-/

namespace ExpressionGraphs

inductive Value where
  | null
  | bool (b : Bool)
  | int (n : Int64)
  | float (x : Binary64)
  | string (text : String)
  | array (items : List Value)
  | record (className : String) (fields : List (String × Value))
  /-- A box that carries a value of a stated type. -/
  | boxed (ty : Ty) (value : Value)
  deriving Inhabited

namespace Value

mutual

def same : Value → Value → Bool
  | null, null => true
  | bool a, bool b => a = b
  | int a, int b => a = b
  | float a, float b => a == b
  | string a, string b => a = b
  | array as, array bs => sameItems as bs
  | record c fs, record d gs => c = d && sameFields fs gs
  | boxed t a, boxed u b => t = u && same a b
  | _, _ => false

def sameItems : List Value → List Value → Bool
  | [], [] => true
  | a :: as, b :: bs => same a b && sameItems as bs
  | _, _ => false

def sameFields : List (String × Value) → List (String × Value) → Bool
  | [], [] => true
  | (m, a) :: fs, (n, b) :: gs => m = n && same a b && sameFields fs gs
  | _, _ => false

end

instance : BEq Value := ⟨same⟩

theorem beq_def (a b : Value) : (a == b) = same a b := rfl

/-- Entries in order of their names; an entry takes the place of one with the same name. -/
def insertField (name : String) (value : Value) : List (String × Value) → List (String × Value)
  | [] => [(name, value)]
  | (n, v) :: rest =>
    if name < n then (name, value) :: (n, v) :: rest
    else if name = n then (name, value) :: rest
    else (n, v) :: insertField name value rest

def ofEntries (className : String) (entries : List (String × Value)) : Value :=
  record className (entries.foldl (fun fields e => insertField e.1 e.2 fields) [])

def isBoxed : Value → Bool
  | boxed _ _ => true
  | _ => false

def asBoxed? : Value → Option (Ty × Value)
  | boxed ty value => some (ty, value)
  | _ => none

/-- Strips one box. -/
def unbox : Value → Value
  | boxed _ value => value
  | value => value

end Value
end ExpressionGraphs
