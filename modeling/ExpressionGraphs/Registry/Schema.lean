import ExpressionGraphs.Registry.Basic
import ExpressionGraphs.Toml.Document

set_option autoImplicit false

/-!
# Schemas

A schema declares classes with the texts of the types of their fields and properties. It is
worked off in the order of the class names, in each class the fields before the properties,
both in the order of their names; the first entry that is wrong decides the error.
-/

namespace ExpressionGraphs

structure ClassDeclaration where
  fields : List (String × String)
  properties : List (String × String)
  deriving DecidableEq, Inhabited

abbrev Schema := List (String × ClassDeclaration)

def sortedByKey {α : Type} (entries : List (String × α)) : List (String × α) :=
  entries.mergeSort fun a b => a.1 ≤ b.1

namespace Schema

open Toml (Item Entries)

/-- Where a table is expected, a date-time is read as a table with its text under this key. -/
def dateTimeKey : String := "$__toml_private_datetime"

def entriesOf? : Item → Option Entries
  | .table _ entries => some entries
  | .dateTime text => some [(dateTimeKey, .string text)]
  | _ => none

def typeText? : String × Item → Option (String × String)
  | (name, .string text) => some (name, text)
  | _ => none

def typeTexts? (item : Item) : Option (List (String × String)) := do
  return sortedByKey (← (← entriesOf? item).mapM typeText?)

def typeTextsOr? : Option Item → Option (List (String × String))
  | some item => typeTexts? item
  | none => some []

def classOfParts? (fields properties : Option Item) : Option ClassDeclaration := do
  return ⟨← typeTextsOr? fields, ← typeTextsOr? properties⟩

/-- A class is a table with the entries `fields` and `properties`, or a list whose first and
second items stand for them. -/
def class? : Item → Option ClassDeclaration
  | .array items => classOfParts? items[0]? items[1]?
  | .rows tables =>
    classOfParts? (tables[0]?.map (.table .header)) (tables[1]?.map (.table .header))
  | item => do
    let entries ← entriesOf? item
    classOfParts? (entries.lookup "fields") (entries.lookup "properties")

def ofEntries? (document : Entries) : Option Schema :=
  match document.lookup "classes" with
  | none => some []
  | some classes => do
    let declared ← (← entriesOf? classes).mapM fun (name, item) => do return (name, ← class? item)
    return sortedByKey declared

def ofToml (source : String) : Except SchemaError Schema :=
  match Toml.parse? source >>= ofEntries? with
  | some schema => .ok schema
  | none => .error .malformed

end Schema

namespace Registry

def memberType (className name text : String) : Except SchemaError Ty :=
  (Ty.parse text).mapError (.badMemberType className name)

def addField (className : String) (r : Registry) (entry : String × String) :
    Except SchemaError Registry := do
  return r.withField className entry.1 (← memberType className entry.1 entry.2)

def addProperty (className : String) (fields : List (String × String)) (r : Registry)
    (entry : String × String) : Except SchemaError Registry := do
  if fields.any (·.1 = entry.1) then throw (.duplicateMember className entry.1)
  return r.withProperty className entry.1 (← memberType className entry.1 entry.2)

def addClass (r : Registry) (entry : String × ClassDeclaration) : Except SchemaError Registry := do
  let (className, declaration) := entry
  let r ← declaration.fields.foldlM (addField className) (r.declare className)
  declaration.properties.foldlM (addProperty className declaration.fields) r

def ofSchema (schema : Schema) : Except SchemaError Registry := schema.foldlM addClass empty

def ofToml (source : String) : Except SchemaError Registry := do ofSchema (← Schema.ofToml source)

def load (contents : Option ByteArray) : Except SchemaError Registry :=
  match contents.bind String.fromUTF8? with
  | some source => ofToml source
  | none => .error .unreadable

end Registry
end ExpressionGraphs
