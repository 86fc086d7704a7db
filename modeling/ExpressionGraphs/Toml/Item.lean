set_option autoImplicit false

/-!
# The contents of a TOML document

A table remembers how it came to be, because that decides who may still add to it: tables
written out under a header or between braces are closed, tables that only stand on the way to
another one are not.
-/

namespace ExpressionGraphs.Toml

inductive TableKind where
  /-- Opened by a header of its own. -/
  | header
  /-- Named on the way to a header. -/
  | implied
  /-- Named on the way to a dotted key. -/
  | dotted
  /-- Written between braces. -/
  | inline
  deriving DecidableEq, Repr

inductive Item where
  | string (text : String)
  | integer (n : Int)
  | float (literal : String)
  | boolean (b : Bool)
  | dateTime (text : String)
  | array (items : List Item)
  | table (kind : TableKind) (entries : List (String × Item))
  /-- An array of tables, one for each of its headers. -/
  | rows (tables : List (List (String × Item)))
  deriving Inhabited

abbrev Entries := List (String × Item)

end ExpressionGraphs.Toml
