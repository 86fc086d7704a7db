import ExpressionGraphs.Member.Json

set_option autoImplicit false

/-!
# Serialized types and members read back

What a type or a member is serialized to is read as that type or member. The name of a class stands
beside the names of variants, never in their place, so that it may be any of them. The parts of a
member are found by their keys, in whatever order the entries have been kept.
-/

namespace ExpressionGraphs

theorem lookup_of_perm {α : Type} {entries others : List (String × α)} (perm : entries.Perm others)
    (distinct : (entries.map Prod.fst).Nodup) (key : String) :
    entries.lookup key = others.lookup key := by
  induction perm with
  | nil => rfl
  | cons entry _ ih =>
    rw [List.lookup_cons, List.lookup_cons, ih (List.nodup_cons.1 distinct).2]
  | swap first second rest =>
    obtain ⟨k, v⟩ := first
    obtain ⟨l, w⟩ := second
    have apart : k ≠ l := fun same => (List.nodup_cons.1 distinct).1 (by simp [same])
    rw [List.lookup_cons, List.lookup_cons, List.lookup_cons, List.lookup_cons]
    by_cases here : key = k
    · rw [beq_false_of_ne fun same : key = l => apart (here.symm.trans same)]
    · rw [beq_false_of_ne here]
  | trans first _ ih ih' =>
    rw [ih distinct, ih' ((first.map Prod.fst).nodup_iff.1 distinct)]

namespace Ty

theorem ofJson?_entry {tag : String} (other : tag ≠ "Class") (t : Ty) :
    ofJson? (.object [(tag, t.toJson)]) = wrap? tag (ofJson? t.toJson) := by
  cases t <;> simp [toJson, ofJson?, other]

mutual

theorem ofJson?_toJson : (t : Ty) → ofJson? t.toJson = some t
  | void | bool | int | float | string | object => by simp [toJson, ofJson?, ofTag?]
  | named name => by simp [toJson, ofJson?]
  | array element => by
    rw [toJson, ofJson?_entry (by decide), ofJson?_toJson element]
    rfl
  | nullable inner => by
    rw [toJson, ofJson?_entry (by decide), ofJson?_toJson inner]
    rfl
  | holder inner => by
    rw [toJson, ofJson?_entry (by decide), ofJson?_toJson inner]
    rfl
  | func params result => by
    simp [toJson, ofJson?, listOfJson?_listToJson params, ofJson?_toJson result]

theorem listOfJson?_listToJson : (ts : List Ty) → listOfJson? (listToJson ts) = some ts
  | [] => by simp [listToJson, listOfJson?]
  | t :: ts => by
    simp [listToJson, listOfJson?, ofJson?_toJson t, listOfJson?_listToJson ts]

end

theorem toJson_injective : Function.Injective toJson := fun t u same => by
  have read := congrArg ofJson? same
  rw [ofJson?_toJson, ofJson?_toJson] at read
  exact Option.some.inj read

end Ty

namespace Member

theorem ofJson?_toJson (m : Member) : ofJson? m.toJson = some m := by
  simp [toJson, ofJson?, ofParts?, Ty.ofJson?_toJson, MemberKind.ofJson?_toJson, Json.asString?,
    List.lookup_cons]

theorem toJson_injective : Function.Injective toJson := fun m n same => by
  have read := congrArg ofJson? same
  rw [ofJson?_toJson, ofJson?_toJson] at read
  exact Option.some.inj read

theorem ofJson?_of_perm {m : Member} {entries reordered : List (String × Json)}
    (written : m.toJson = .object entries) (perm : reordered.Perm entries) :
    ofJson? (.object reordered) = some m := by
  have distinct : (entries.map Prod.fst).Nodup := by
    cases written
    exact show ["declaring_type", "name", "ty", "kind"].Nodup by decide
  have found : ∀ key, reordered.lookup key = entries.lookup key := fun key =>
    (lookup_of_perm perm.symm distinct key).symm
  have read := ofJson?_toJson m
  rw [written] at read
  simp only [ofJson?, found] at read ⊢
  exact read

end Member

/-- Every type and every member is read back from its serialized form, a member from its entries in
any order. Different types have different forms, and so have different members. -/
theorem serialized_forms_read_back :
    (∀ t : Ty, Ty.ofJson? t.toJson = some t) ∧
    (∀ m : Member, Member.ofJson? m.toJson = some m) ∧
    (∀ (m : Member) (entries reordered : List (String × Json)), m.toJson = .object entries →
      reordered.Perm entries → Member.ofJson? (.object reordered) = some m) ∧
    Function.Injective Ty.toJson ∧ Function.Injective Member.toJson :=
  ⟨Ty.ofJson?_toJson, Member.ofJson?_toJson, fun _ _ _ => Member.ofJson?_of_perm,
    Ty.toJson_injective, Member.toJson_injective⟩

end ExpressionGraphs
