import ExpressionGraphs.Toml.Item

set_option autoImplicit false

/-!
# Building tables

A document and an inline table are both built by adding one line after the other. A path leads
through tables, and through an array of tables to its last row.
-/

namespace ExpressionGraphs.Toml

namespace Entries

def has (key : String) (entries : Entries) : Bool := entries.any (·.1 = key)

def set (key : String) (item : Item) : Entries → Entries
  | [] => [(key, item)]
  | (k, i) :: rest => if k = key then (k, item) :: rest else (k, i) :: set key item rest

/-- How a path was written decides which tables it may enter and creates on its way. -/
inductive Passage where
  | header
  | dotted
  deriving DecidableEq, Repr

namespace Passage

def created : Passage → TableKind
  | header => .implied
  | dotted => .dotted

def enters : Passage → TableKind → Bool
  | _, .inline => false
  | header, _ => true
  | dotted, kind => kind ≠ .header

end Passage

def change (passage : Passage) (f : TableKind → Entries → Option Entries) :
    List String → TableKind → Entries → Option Entries
  | [], kind, entries => f kind entries
  | key :: path, _, entries =>
    match entries.lookup key with
    | none => do
      let content ← change passage f path passage.created []
      return set key (.table passage.created content) entries
    | some (.table kind content) => do
      guard (passage.enters kind)
      return set key (.table kind (← change passage f path kind content)) entries
    | some (.rows rows) => do
      let last ← change passage f path .header (← rows.getLast?)
      return set key (.rows (rows.dropLast ++ [last])) entries
    | some _ => none

def assign (path : List String) (item : Item) (entries : Entries) : Option Entries := do
  let key ← path.getLast?
  let before := path.dropLast
  let add (kind : TableKind) (content : Entries) : Option Entries := do
    guard (before.isEmpty || kind = .dotted)
    guard (!has key content)
    return set key item content
  change .dotted add before .header entries

def openTable (path : List String) (entries : Entries) : Option Entries := do
  let key ← path.getLast?
  let opened (_ : TableKind) (content : Entries) : Option Entries :=
    match content.lookup key with
    | none => some (set key (.table .header []) content)
    | some (.table .implied inner) => some (set key (.table .header inner) content)
    | some _ => none
  change .header opened path.dropLast .header entries

def addRow (path : List String) (entries : Entries) : Option Entries := do
  let key ← path.getLast?
  let added (_ : TableKind) (content : Entries) : Option Entries :=
    match content.lookup key with
    | none => some (set key (.rows [[]]) content)
    | some (.rows rows) => some (set key (.rows (rows ++ [[]])) content)
    | some _ => none
  change .header added path.dropLast .header entries

end Entries

inductive Line where
  | header (path : List String)
  | rowHeader (path : List String)
  | entry (path : List String) (item : Item)

/-- A document that is read down to some line: its tables so far, and the path of the table
to which the next entries belong. -/
structure Draft where
  tables : Entries
  current : List String

namespace Draft

def add (draft : Draft) : Line → Option Draft
  | .header path => do return ⟨← draft.tables.openTable path, path⟩
  | .rowHeader path => do return ⟨← draft.tables.addRow path, path⟩
  | .entry path item => do
    let tables ← Entries.change .header (fun _ => Entries.assign path item) draft.current .header
      draft.tables
    return { draft with tables }

end Draft

def ofLines (lines : List Line) : Option Entries :=
  (lines.foldlM Draft.add ⟨[], []⟩).map Draft.tables

def inlineTable (entries : List (List String × Item)) : Option Item :=
  (entries.foldlM (fun table e => Entries.assign e.1 e.2 table) []).map (.table .inline)

end ExpressionGraphs.Toml
