import ExpressionGraphs.Error
import Std.Data.TreeMap

set_option autoImplicit false

/-!
# The registry of classes

A registry knows the members of classes in the order of their first registration. A member of
the same name takes the place of the earlier one. Boxes have their `Value` property without
being registered, and a nullable class has the members of the class.
-/

namespace ExpressionGraphs

structure Registry where
  classes : Std.TreeMap String (List Member)

namespace Registry

def empty : Registry := ⟨∅⟩

instance : Inhabited Registry := ⟨empty⟩

/-- The members of a class, or `none` for an unknown one. -/
def members? (r : Registry) (className : String) : Option (List Member) := r.classes[className]?

def declare (r : Registry) (className : String) : Registry :=
  ⟨r.classes.insertIfNew className []⟩

def putMember (m : Member) : List Member → List Member
  | [] => [m]
  | n :: rest => if n.name = m.name then m :: rest else n :: putMember m rest

def register (r : Registry) (className name : String) (ty : Ty) (kind : MemberKind) : Registry :=
  let earlier := (r.members? className).getD []
  ⟨r.classes.insert className (putMember ⟨.named className, name, ty, kind⟩ earlier)⟩

def withField (r : Registry) (className name : String) (ty : Ty) : Registry :=
  r.register className name ty .field

def withProperty (r : Registry) (className name : String) (ty : Ty) : Registry :=
  r.register className name ty .property

def classMember? (r : Registry) (className name : String) : Option Member := do
  (← r.members? className).find? (·.name = name)

def member? (r : Registry) (name : String) : Ty → Option Member
  | .holder inner => if name = Member.holderValueName then some (.holderValue inner) else none
  | .named className | .nullable (.named className) => r.classMember? className name
  | _ => none

def lookup (r : Registry) (ty : Ty) (name : String) : Except AccessError Member :=
  match r.member? name ty with
  | some m => .ok m
  | none => .error (.memberNotFound ty name)

theorem members?_register_self (r : Registry) (className name : String) (ty : Ty)
    (kind : MemberKind) :
    (r.register className name ty kind).members? className =
      some (putMember ⟨.named className, name, ty, kind⟩ ((r.members? className).getD [])) := by
  simp [register, members?]

theorem members?_register_of_ne (r : Registry) {className other : String} (name : String) (ty : Ty)
    (kind : MemberKind) (h : className ≠ other) :
    (r.register className name ty kind).members? other = r.members? other := by
  simp [register, members?, Std.TreeMap.getElem?_insert, h]

theorem members?_declare (r : Registry) (className other : String) :
    (r.declare className).members? other =
      if className = other then some ((r.members? other).getD []) else r.members? other := by
  simp only [declare, members?, Std.TreeMap.getElem?_insertIfNew]
  by_cases same : className = other
  · subst same
    by_cases known : className ∈ r.classes <;> simp [known]
  · simp [same]

end Registry
end ExpressionGraphs
