import Mathlib.Data.List.Nodup
import ExpressionGraphs.Registry.Basic
import ExpressionGraphs.Toml.Tables

set_option autoImplicit false

/-!
# Lists with keys

The members of a class and the entries of a table are lists in which an item takes the place of the
one with its key, and comes last where there is none. Keys are kept distinct and in their order, and
an item is found by its key.
-/

namespace ExpressionGraphs

variable {α κ : Type} [DecidableEq κ] {key : α → κ}

/-- Puts an item in the place of the first one with its key, or behind all. -/
def putBy (key : α → κ) (a : α) : List α → List α
  | [] => [a]
  | b :: rest => if key b = key a then a :: rest else b :: putBy key a rest

theorem mem_putBy {a b : α} {l : List α} (h : b ∈ putBy key a l) : b = a ∨ b ∈ l := by
  induction l with
  | nil => exact .inl (List.mem_singleton.1 h)
  | cons first rest ih =>
    rw [putBy] at h
    split at h
    · rcases List.mem_cons.1 h with rfl | h
      · exact .inl rfl
      · exact .inr (List.mem_cons_of_mem first h)
    · rcases List.mem_cons.1 h with rfl | h
      · exact .inr List.mem_cons_self
      · exact (ih h).imp_right (List.mem_cons_of_mem first)

theorem putBy_of_fresh {a : α} {l : List α} (fresh : key a ∉ l.map key) :
    putBy key a l = l ++ [a] := by
  induction l with
  | nil => rfl
  | cons b rest ih =>
    have apart : key a ≠ key b ∧ key a ∉ rest.map key := by simpa using fresh
    rw [putBy, if_neg (Ne.symm apart.1), ih apart.2]
    rfl

theorem keys_putBy_of_mem {a : α} {l : List α} (known : key a ∈ l.map key) :
    (putBy key a l).map key = l.map key := by
  induction l with
  | nil => cases known
  | cons b rest ih =>
    rw [putBy]
    by_cases same : key b = key a
    · rw [if_pos same, List.map_cons, List.map_cons, same]
    · rcases List.mem_cons.1 known with first | later
      · exact absurd first.symm same
      · rw [if_neg same, List.map_cons, ih later, List.map_cons]

theorem keys_putBy (a : α) (l : List α) :
    (putBy key a l).map key = if key a ∈ l.map key then l.map key else l.map key ++ [key a] := by
  by_cases known : key a ∈ l.map key
  · rw [if_pos known, keys_putBy_of_mem known]
  · rw [if_neg known, putBy_of_fresh known, List.map_append]
    rfl

theorem nodup_keys_putBy {l : List α} (distinct : (l.map key).Nodup) (a : α) :
    ((putBy key a l).map key).Nodup := by
  by_cases known : key a ∈ l.map key
  · rw [keys_putBy_of_mem known]
    exact distinct
  · rw [putBy_of_fresh known, List.map_append]
    exact List.Nodup.append distinct (List.nodup_singleton _) (List.disjoint_singleton.2 known)

theorem find?_putBy (a : α) (l : List α) (k : κ) :
    (putBy key a l).find? (fun b => key b = k) =
      if key a = k then some a else l.find? fun b => key b = k := by
  induction l with
  | nil => by_cases own : key a = k <;> simp [putBy, own]
  | cons b rest ih =>
    rw [putBy]
    by_cases same : key b = key a
    · rw [if_pos same]
      by_cases own : key a = k <;> simp [own, same]
    · rw [if_neg same, List.find?_cons, ih, List.find?_cons]
      by_cases first : key b = k
      · have other : key a ≠ k := fun own => same (first.trans own.symm)
        simp [first, other]
      · simp [first]

theorem find?_of_mem {l : List α} (distinct : (l.map key).Nodup) {a : α} (mem : a ∈ l) :
    l.find? (fun b => key b = key a) = some a := by
  induction l with
  | nil => cases mem
  | cons b rest ih =>
    have tail := List.nodup_cons.1 distinct
    rcases List.mem_cons.1 mem with rfl | later
    · exact List.find?_cons_of_pos (decide_eq_true rfl)
    · have other : key b ≠ key a := fun same => tail.1 (same ▸ List.mem_map_of_mem later)
      rw [List.find?_cons_of_neg (by simpa using other), ih tail.2 later]

theorem eq_filterMap_find? {l : List α} (distinct : (l.map key).Nodup) :
    l = (l.map key).filterMap fun k => l.find? fun b => key b = k := by
  rw [List.filterMap_map]
  have found : l.filterMap (fun a => l.find? fun b => key b = key a) = l.filterMap some :=
    List.filterMap_congr fun a mem => find?_of_mem distinct mem
  exact (List.filterMap_some.symm.trans found.symm)

theorem Registry.putMember_eq_putBy (m : Member) (members : List Member) :
    putMember m members = putBy Member.name m members := by
  induction members with
  | nil => rfl
  | cons n rest ih => rw [putMember, putBy, ih]

theorem Toml.Entries.set_eq_putBy (name : String) (item : Item) (entries : Entries) :
    set name item entries = putBy Prod.fst (name, item) entries := by
  induction entries with
  | nil => rfl
  | cons e rest ih =>
    rw [set, putBy, ih]
    by_cases same : e.1 = name
    · subst same
      rfl
    · simp [same]

end ExpressionGraphs
