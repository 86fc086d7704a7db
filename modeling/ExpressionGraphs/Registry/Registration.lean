import ExpressionGraphs.Registry.Schema

set_option autoImplicit false

/-!
# Registrations

What a registry has been told, as data: the calls of a program and the entries of a schema both
come down to registrations. The history of a registry is the list of its registrations, the
earliest first.
-/

namespace ExpressionGraphs

structure Registration where
  className : String
  name : String
  ty : Ty
  kind : MemberKind
  deriving DecidableEq, Repr

namespace Registration

def member (g : Registration) : Member := ⟨.named g.className, g.name, g.ty, g.kind⟩

@[simp] theorem member_name (g : Registration) : g.member.name = g.name := rfl

def key (g : Registration) : String × String := (g.className, g.name)

end Registration

/-- The names registered for a class, in the order of their first registrations. -/
def namesIn (history : List Registration) (className : String) : List String :=
  ((history.filter fun g => g.className = className).map Registration.name).eraseDups

def lastIn? (history : List Registration) (className name : String) : Option Registration :=
  history.reverse.find? fun g => g.key = (className, name)

inductive RegistryCall where
  | register (className name : String) (ty : Ty) (kind : MemberKind)
  | withField (className name : String) (ty : Ty)
  | withProperty (className name : String) (ty : Ty)

def RegistryCall.registration : RegistryCall → Registration
  | register className name ty kind => ⟨className, name, ty, kind⟩
  | withField className name ty => ⟨className, name, ty, .field⟩
  | withProperty className name ty => ⟨className, name, ty, .property⟩

namespace Registry

def call (r : Registry) : RegistryCall → Registry
  | .register className name ty kind => r.register className name ty kind
  | .withField className name ty => r.withField className name ty
  | .withProperty className name ty => r.withProperty className name ty

def callAll (r : Registry) (calls : List RegistryCall) : Registry := calls.foldl call r

def enter (r : Registry) (g : Registration) : Registry :=
  r.register g.className g.name g.ty g.kind

def enterAll (r : Registry) (history : List Registration) : Registry := history.foldl enter r

def listed (r : Registry) (className : String) : List Member := (r.members? className).getD []

theorem call_eq_enter (r : Registry) (c : RegistryCall) : r.call c = r.enter c.registration := by
  cases c <;> rfl

theorem callAll_eq_enterAll (r : Registry) (calls : List RegistryCall) :
    r.callAll calls = r.enterAll (calls.map RegistryCall.registration) := by
  rw [callAll, enterAll, List.foldl_map]
  congr 1
  funext r c
  exact call_eq_enter r c

theorem classMember?_eq (r : Registry) (className name : String) :
    r.classMember? className name = (r.listed className).find? (·.name = name) := by
  change (r.members? className).bind _ = _
  rw [listed]
  cases r.members? className <;> rfl

theorem members?_enter (r : Registry) (g : Registration) (className : String) :
    (r.enter g).members? className =
      if g.className = className then some (putMember g.member (r.listed className))
      else r.members? className := by
  by_cases same : g.className = className
  · subst same
    rw [if_pos rfl]
    exact members?_register_self r g.className g.name g.ty g.kind
  · rw [if_neg same]
    exact members?_register_of_ne r g.name g.ty g.kind same

theorem listed_enter (r : Registry) (g : Registration) (className : String) :
    (r.enter g).listed className =
      if g.className = className then putMember g.member (r.listed className)
      else r.listed className := by
  rw [listed, members?_enter]
  split <;> rfl

theorem listed_declare (r : Registry) (className other : String) :
    (r.declare className).listed other = r.listed other := by
  rw [listed, members?_declare, listed]
  split <;> rfl

end Registry

/-! ## The entries of a schema -/

structure SchemaEntry where
  className : String
  name : String
  kind : MemberKind
  text : String

namespace SchemaEntry

def key (e : SchemaEntry) : String × String := (e.className, e.name)

def registration? (e : SchemaEntry) : Option Registration :=
  match Ty.parse e.text with
  | .ok ty => some ⟨e.className, e.name, ty, e.kind⟩
  | .error _ => none

/-- Why an entry is refused. That its name is declared twice comes before its type. -/
def offence? (e : SchemaEntry) (twice : Bool) : Option SchemaError :=
  if twice then some (.duplicateMember e.className e.name)
  else
    match Ty.parse e.text with
    | .ok _ => none
    | .error cause => some (.badMemberType e.className e.name cause)

end SchemaEntry

def ClassDeclaration.entries (d : ClassDeclaration) (className : String) : List SchemaEntry :=
  (d.fields.map fun f => ⟨className, f.1, .field, f.2⟩) ++
    d.properties.map fun p => ⟨className, p.1, .property, p.2⟩

namespace Schema

def entries (schema : Schema) : List SchemaEntry := schema.flatMap fun c => c.2.entries c.1

/-- A property that has the name of a field of its class. -/
def declaresTwice (schema : Schema) (e : SchemaEntry) : Bool :=
  e.kind = .property && schema.entries.any fun o => o.kind = .field && o.key = e.key

def offence? (schema : Schema) (e : SchemaEntry) : Option SchemaError :=
  e.offence? (schema.declaresTwice e)

def registrations (schema : Schema) : List Registration :=
  schema.entries.filterMap SchemaEntry.registration?

/-- The schema is a map of maps: keys are distinct and met in their order. -/
structure Ordered (schema : Schema) : Prop where
  classes : (schema.map Prod.fst).Pairwise (· < ·)
  fields : ∀ c ∈ schema, (c.2.fields.map Prod.fst).Pairwise (· < ·)
  properties : ∀ c ∈ schema, (c.2.properties.map Prod.fst).Pairwise (· < ·)

end Schema

end ExpressionGraphs
