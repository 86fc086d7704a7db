import ExpressionGraphs.Ty.Parse

set_option autoImplicit false

/-!
# What a text denotes

The relation between texts and types that reading decides. It says nothing of the order in
which a reader looks at the two ends of a text.
-/

namespace ExpressionGraphs.Ty

open Text

def primitives : List (String × Ty) := [
  ("void", void), ("bool", bool), ("int", int), ("float", float), ("string", string),
  ("object", object)]

inductive Denotes : List Char → Ty → Prop where
  | blank {before body after : List Char} {t : Ty} (hb : ∀ c ∈ before, isWhiteSpace c = true)
    (ha : ∀ c ∈ after, isWhiteSpace c = true) (h : Denotes body t) :
    Denotes (before ++ body ++ after) t
  | primitive {name : String} {t : Ty} (h : (name, t) ∈ primitives) : Denotes name.toList t
  | className {name : String} (h : ∀ t, (name, t) ∉ primitives)
    (wf : isName name.toList = true) : Denotes name.toList (named name)
  | nullable {body : List Char} {t : Ty} (h : Denotes body t) :
    Denotes (body ++ ['?']) (nullable t)
  | array {body : List Char} {t : Ty} (h : Denotes body t) :
    Denotes ('[' :: body ++ [']']) (array t)

/-- Whether a type has a notation. A function type and a box have none, wherever they occur. -/
def hasNotation : Ty → Bool
  | array t | nullable t => t.hasNotation
  | func _ _ | holder _ => false
  | _ => true

mutual

def classNames : Ty → List String
  | named name => [name]
  | array t | nullable t | holder t => classNames t
  | func params result => classNamesOf params ++ classNames result
  | _ => []

def classNamesOf : List Ty → List String
  | [] => []
  | t :: ts => classNames t ++ classNamesOf ts

end

/-- The text inside the outermost layer of a text, white space around it ignored. -/
inductive Peels : List Char → List Char → Prop where
  | nullable {cs body : List Char} (h : trim cs = body ++ ['?']) : Peels cs body
  | array {cs body : List Char} (h : trim cs = '[' :: body ++ [']']) : Peels cs body

/-- What is left of a text when no layer peels off any more. -/
inductive Remains : List Char → List Char → Prop where
  | last {cs : List Char} (h : ∀ body, ¬ Peels cs body) : Remains cs (trim cs)
  | layer {cs body core : List Char} (h : Peels cs body) (inner : Remains body core) :
    Remains cs core

end ExpressionGraphs.Ty
