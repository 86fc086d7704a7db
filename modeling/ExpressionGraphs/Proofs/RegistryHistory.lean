import ExpressionGraphs.Proofs.SchemaLoading

set_option autoImplicit false

/-!
# The history of a registry

A registry begins empty or with the registrations of a schema, and calls add to its history. What
it lists and answers is read off that history.
-/

namespace ExpressionGraphs

namespace Registry

/-- How a registry begins, with what is registered in it then. -/
inductive Origin : Registry → List Registration → Prop
  | empty : Origin .empty []
  | ofSchema {schema : Schema} {r : Registry} (ordered : schema.Ordered)
    (run : Registry.ofSchema schema = .ok r) : Origin r schema.registrations

theorem Origin.reflects {r : Registry} {past : List Registration} (origin : Origin r past) :
    r.Reflects past := by
  cases origin with
  | empty => exact .empty
  | @ofSchema schema _ ordered run =>
    rw [(ordered.ofSchema_eq_ok_iff.1 run).1]
    exact schema.reflects_loaded

/-! ## What is listed -/

namespace Reflects

variable {r : Registry} {history : List Registration}

theorem classMember?_eq_some_iff (reflects : r.Reflects history) {className name : String}
    {m : Member} :
    r.classMember? className name = some m ↔ m ∈ r.listed className ∧ m.name = name := by
  rw [classMember?_eq]
  constructor
  · intro found
    exact ⟨List.mem_of_find?_eq_some found, by simpa using List.find?_some found⟩
  · rintro ⟨mem, rfl⟩
    exact find?_of_mem (reflects.distinct className) mem

theorem lookup_eq_ok_iff (reflects : r.Reflects history) {className name : String} {m : Member} :
    r.lookup (.named className) name = .ok m ↔ m ∈ r.listed className ∧ m.name = name := by
  rw [← reflects.classMember?_eq_some_iff]
  have own : r.member? name (.named className) = r.classMember? className name := rfl
  rw [lookup, own]
  cases r.classMember? className name <;> simp

theorem exists_last (reflects : r.Reflects history) {className : String} {m : Member}
    (mem : m ∈ r.listed className) :
    ∃ g, lastIn? history className m.name = some g ∧ g.className = className ∧ g.member = m := by
  have found := reflects.classMember?_eq_some_iff.2 ⟨mem, rfl⟩
  rw [reflects.latest] at found
  obtain ⟨g, last, same⟩ := Option.map_eq_some_iff.1 found
  have key : g.key = (className, m.name) := by simpa using List.find?_some last
  exact ⟨g, last, congrArg Prod.fst key, same⟩

end Reflects

/-! ## What one call changes -/

theorem classMember?_call_of_ne (r : Registry) {call : RegistryCall} {className name : String}
    (other : call.registration.key ≠ (className, name)) :
    (r.call call).classMember? className name = r.classMember? className name := by
  rw [call_eq_enter, classMember?_enter, if_neg other]

theorem members?_call_of_ne (r : Registry) {call : RegistryCall} {className : String}
    (other : call.registration.className ≠ className) :
    (r.call call).members? className = r.members? className := by
  rw [call_eq_enter, members?_enter, if_neg other]

theorem names_call (r : Registry) (call : RegistryCall) :
    ((r.call call).listed call.registration.className).map Member.name =
      if call.registration.name ∈ (r.listed call.registration.className).map Member.name then
        (r.listed call.registration.className).map Member.name
      else (r.listed call.registration.className).map Member.name ++ [call.registration.name] := by
  rw [call_eq_enter, listed_enter, if_pos rfl, putMember_eq_putBy, keys_putBy, Registration.member_name]

/-! ## The order of calls -/

theorem classMember?_enterAll_congr {r other : Registry}
    (same : ∀ className, r.classMember? className = other.classMember? className)
    (gs : List Registration) (className : String) :
    (r.enterAll gs).classMember? className = (other.enterAll gs).classMember? className := by
  induction gs generalizing r other with
  | nil => exact same className
  | cons g gs ih =>
    refine ih fun className => ?_
    funext name
    rw [classMember?_enter, classMember?_enter, same]

theorem classMember?_enter_enter (r : Registry) {g h : Registration} (apart : g.key ≠ h.key)
    (className : String) :
    ((r.enter g).enter h).classMember? className =
      ((r.enter h).enter g).classMember? className := by
  funext name
  simp only [classMember?_enter]
  by_cases first : g.key = (className, name)
  · have second : h.key ≠ (className, name) := fun key => apart (first.trans key.symm)
    simp only [if_pos first, if_neg second]
  · simp only [if_neg first]

theorem lookup_callAll_swap (r : Registry) (before after : List RegistryCall) {x y : RegistryCall}
    (apart : x.registration.key ≠ y.registration.key) (ty : Ty) (name : String) :
    (r.callAll (before ++ x :: y :: after)).lookup ty name =
      (r.callAll (before ++ y :: x :: after)).lookup ty name := by
  have split : ∀ first second : RegistryCall,
      r.callAll (before ++ first :: second :: after) =
        (((r.callAll before).enter first.registration).enter second.registration).enterAll
          (after.map RegistryCall.registration) := by
    intro first second
    rw [← callAll_eq_enterAll, ← call_eq_enter, ← call_eq_enter]
    exact List.foldl_append
  rw [split, split]
  exact lookup_congr (classMember?_enterAll_congr (classMember?_enter_enter _ apart) _) ty name

/-- Whatever calls follow the beginning of a registry, a class lists the names registered for it in
the order of their first registrations, each once, declared on the class with the type and kind of
the last registration; these members and no others are found. One more call bears on its own member
alone, and the order of two calls for different members shows in no answer. -/
theorem callAll_exact {start : Registry} {past : List Registration} (origin : Origin start past)
    (calls : List RegistryCall) :
    let r := start.callAll calls
    let history := past ++ calls.map RegistryCall.registration
    (∀ className,
      ((r.listed className).map Member.name).Nodup ∧
      (r.listed className).map Member.name = namesIn history className ∧
      (∀ m ∈ r.listed className, m.declaringType = .named className ∧
        ∃ g, lastIn? history className m.name = some g ∧ m.ty = g.ty ∧ m.kind = g.kind) ∧
      ∀ name m, r.lookup (.named className) name = .ok m ↔
        m ∈ r.listed className ∧ m.name = name) ∧
    (∀ call : RegistryCall,
      (∀ className name, call.registration.key ≠ (className, name) →
        (r.call call).classMember? className name = r.classMember? className name) ∧
      (∀ className, call.registration.className ≠ className →
        (r.call call).members? className = r.members? className) ∧
      ((r.call call).listed call.registration.className).map Member.name =
        if call.registration.name ∈ (r.listed call.registration.className).map Member.name then
          (r.listed call.registration.className).map Member.name
        else (r.listed call.registration.className).map Member.name ++
          [call.registration.name]) ∧
    ∀ before x y after, calls = before ++ x :: y :: after →
      x.registration.key ≠ y.registration.key →
      ∀ ty name, r.lookup ty name =
        (start.callAll (before ++ y :: x :: after)).lookup ty name := by
  intro r history
  have reflects : r.Reflects history := by
    change (start.callAll calls).Reflects _
    rw [callAll_eq_enterAll]
    exact origin.reflects.enterAll _
  refine ⟨fun className => ⟨reflects.distinct className, reflects.names className, ?_, ?_⟩,
    fun call => ⟨fun _ _ => r.classMember?_call_of_ne, fun _ => r.members?_call_of_ne,
      r.names_call call⟩, ?_⟩
  · intro m mem
    obtain ⟨g, last, own, rfl⟩ := reflects.exists_last mem
    exact ⟨congrArg Ty.named own, g, last, rfl, rfl⟩
  · exact fun _ _ => reflects.lookup_eq_ok_iff
  · rintro before x y after split apart ty name
    change (start.callAll calls).lookup ty name = _
    rw [split]
    exact start.lookup_callAll_swap before after apart ty name

theorem callAll_exact_orders :
    ∃ start, Registry.ofToml "[classes.Order]\nfields.Id = \"int\"" = .ok start ∧
      let r := start.callAll [.withField "Order" "Total" .int, .withProperty "Order" "Id" .string]
      (r.listed "Order").map Member.name = ["Id", "Total"] ∧
      ∃ m, r.lookup (.named "Order") "Id" = .ok m ∧ m.ty = .string ∧ m.kind = .property := by
  let orders : Schema := [("Order", ⟨[("Id", "int")], []⟩)]
  let calls : List RegistryCall :=
    [.withField "Order" "Total" .int, .withProperty "Order" "Id" .string]
  have decoded : Schema.ofToml "[classes.Order]\nfields.Id = \"int\"" = .ok orders := by
    decide +kernel
  have entered : orders.registrations = [⟨"Order", "Id", .int, .field⟩] := by decide +kernel
  have ordered : orders.Ordered := Schema.ordered_of_ofToml decoded
  have run : Registry.ofSchema orders = .ok orders.loaded := by
    refine ordered.ofSchema_eq_ok_iff.2 ⟨rfl, fun e mem => ?_⟩
    rw [List.mem_singleton.1 mem]
    decide +kernel
  refine ⟨orders.loaded, (Schema.ofToml_eq_ofSchema decoded).trans run, ?_⟩
  obtain ⟨names, listed, found⟩ := ((callAll_exact (.ofSchema ordered run) calls).1 "Order").2
  rw [entered] at names listed
  have order : namesIn ([⟨"Order", "Id", .int, .field⟩] ++ calls.map RegistryCall.registration)
      "Order" = ["Id", "Total"] := by decide +kernel
  rw [order] at names
  obtain ⟨m, mem, name⟩ : ∃ m ∈ (orders.loaded.callAll calls).listed "Order", m.name = "Id" := by
    refine List.mem_map.1 ?_
    rw [names]
    exact List.mem_cons_self
  obtain ⟨-, g, last, ty, kind⟩ := listed m mem
  rw [name] at last
  cases last
  exact ⟨names, m, (found "Id" m).2 ⟨mem, name⟩, ty, kind⟩

end Registry

end ExpressionGraphs
