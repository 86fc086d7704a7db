import ExpressionGraphs.Proofs.PathOutcome

set_option autoImplicit false

/-!
# Paths joined by a dot

The segments of two paths joined by a dot are those of the first and then those of the second, also
where a path is empty or has a dot at either end. So the joined path is the second path, followed
from what the first has built.
-/

namespace ExpressionGraphs

theorem splitAll_cons_self {α : Type} [DecidableEq α] (separator : α) (l : List α) :
    splitAll separator (separator :: l) = [] :: splitAll separator l := by
  obtain ⟨part, parts, split⟩ := List.exists_cons_of_ne_nil (splitAll_ne_nil separator l)
  rw [splitAll, split]
  exact if_pos rfl

theorem splitAll_cons_of_ne {α : Type} [DecidableEq α] {a separator : α} (h : a ≠ separator)
    (l : List α) :
    splitAll separator (a :: l) = (splitAll separator l).modifyHead (a :: ·) := by
  obtain ⟨part, parts, split⟩ := List.exists_cons_of_ne_nil (splitAll_ne_nil separator l)
  rw [splitAll, split]
  exact if_neg h

theorem splitAll_append {α : Type} [DecidableEq α] (separator : α) (a b : List α) :
    splitAll separator (a ++ separator :: b) = splitAll separator a ++ splitAll separator b := by
  induction a with
  | nil => exact splitAll_cons_self separator b
  | cons c a ih =>
    rw [List.cons_append]
    by_cases same : c = separator
    · subst same
      rw [splitAll_cons_self, splitAll_cons_self, ih, List.cons_append]
    · rw [splitAll_cons_of_ne same, splitAll_cons_of_ne same, ih]
      obtain ⟨part, parts, split⟩ := List.exists_cons_of_ne_nil (splitAll_ne_nil separator a)
      rw [split]
      rfl

theorem segments_append (p q : String) :
    segments (p ++ "." ++ q) = segments p ++ segments q := by
  have joined : (p ++ "." ++ q).toList = p.toList ++ '.' :: q.toList := by
    rw [String.toList_append, String.toList_append, List.append_assoc]
    rfl
  rw [segments, joined, splitAll_append, List.map_append]
  rfl

namespace Expr

variable {ε : Type} {resolve : Resolver Id ε}

theorem tryForm_foldlM_congr (path : List String) {root root' : Expr}
    (same : root.form = root'.form) (s t : Supply) :
    s.tryForm (path.foldlM (accessSegment resolve) root) =
      t.tryForm (path.foldlM (accessSegment resolve) root') := by
  induction path generalizing root root' s t with
  | nil => exact congrArg Except.ok same
  | cons segment rest ih =>
    have typed : root.ty = root'.ty := by
      rw [form_eq, form_eq] at same
      exact (Form.node.inj same).1
    rw [List.foldlM_cons, List.foldlM_cons, Supply.tryForm, Supply.tryForm, Supply.tryBuild_bind,
      Supply.tryBuild_bind, tryBuild_accessSegment, tryBuild_accessSegment, typed]
    cases (resolve root'.ty segment).run.run with
    | error error => rfl
    | ok m =>
      change Except.map _ (s.tryBuild (root.access m ε) >>= _) =
        Except.map _ (t.tryBuild (root'.access m ε) >>= _)
      rw [Supply.tryBuild_access, Supply.tryBuild_access, typed]
      split
      · refine ih ?_ _ _
        rw [form_node, form_node]
        exact congrArg (fun object => Form.node _ (.member object m)) same
      · rfl

/-- A joined path ends with the error of the first path, or else as the second path does from what
the first path has built. -/
theorem accessPath_append (resolve : Resolver Id ε) (root : Expr) (p q : String) (s t u : Supply) :
    t.tryForm (root.accessPath resolve (p ++ "." ++ q)) =
      s.tryBuild (root.accessPath resolve p) >>= fun built =>
        u.tryForm (built.1.accessPath resolve q) := by
  have whole : t.tryForm (root.accessPath resolve (p ++ "." ++ q)) =
      s.tryForm (root.accessPath resolve (p ++ "." ++ q)) := tryForm_foldlM_congr _ rfl t s
  rw [whole, Supply.tryForm, accessPath, segments_append, List.foldlM_append, Supply.tryBuild_bind]
  change Except.map _ (s.tryBuild (root.accessPath resolve p) >>= _) = _
  cases s.tryBuild (root.accessPath resolve p) with
  | error error => rfl
  | ok built => exact tryForm_foldlM_congr _ rfl built.2 u

end Expr

end ExpressionGraphs
