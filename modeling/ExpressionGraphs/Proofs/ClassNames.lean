import ExpressionGraphs.Proofs.RegistryHistory
import ExpressionGraphs.Proofs.TypeText

set_option autoImplicit false

/-!
# Names of classes

A schema may declare a class under any key, but the notation of types gives names to some classes
only: a name begins with a letter or an underscore, goes on with letters, digits and underscores,
and is not the name of a primitive type. A member typed by such a name leads on to the members of
its class. A class of any other name can be the type of a root, but no notation mentions it and no
member of a schema leads to it.
-/

namespace ExpressionGraphs

namespace Ty

open Text

theorem Denotes.isClassName {cs : List Char} {t : Ty} (h : Denotes cs t) :
    ∀ name ∈ t.classNames, IsClassName name := by
  induction h with
  | blank _ _ _ ih => exact ih
  | primitive h =>
    have none_named : ∀ p ∈ primitives, p.2.classNames = [] := by decide
    intro name mem
    rw [none_named _ h] at mem
    cases mem
  | className other wf =>
    intro name mem
    rw [List.mem_singleton.1 mem]
    exact ⟨wf, other⟩
  | nullable _ ih => exact ih
  | array _ ih => exact ih

theorem isClassName_of_parse {source name : String} {t : Ty} (read : parse source = .ok t)
    (mem : name ∈ t.classNames) : IsClassName name :=
  (denotes_of_ofChars read).isClassName name mem

theorem parse_eq_named_iff (name : String) : parse name = .ok (named name) ↔ IsClassName name := by
  constructor
  · intro read
    exact isClassName_of_parse read List.mem_cons_self
  · rintro ⟨wf, other⟩
    exact ofChars_of_denotes (.className other wf)

end Ty

/-! ## The members of a schema -/

namespace Schema

variable {schema : Schema} {r : Registry}

theorem Loads.exists_lookup (loads : schema.Loads r) {history : List Registration}
    (reflects : r.Reflects history) {e : SchemaEntry} (mem : e ∈ schema.entries) :
    ∃ m, e.Declares m ∧ r.lookup (.named e.className) e.name = .ok m := by
  obtain ⟨c, c_mem, entry⟩ := mem_entries.1 mem
  obtain ⟨members, known, all⟩ := loads.members c c_mem
  obtain ⟨m, m_mem, declares⟩ := exists_of_forall₂ all entry
  have own : e.className = c.1 := ClassDeclaration.entries_className entry
  have listed : m ∈ r.listed e.className := by
    rw [own, Registry.listed, known]
    exact m_mem
  exact ⟨m, declares, reflects.lookup_eq_ok_iff.2 ⟨listed, declares.name_eq⟩⟩

theorem Loads.exists_entry (loads : schema.Loads r) {owner : String} {m : Member}
    (mem : m ∈ r.listed owner) : ∃ e ∈ schema.entries, e.Declares m := by
  have known : (r.members? owner).isSome := by
    rw [Registry.listed] at mem
    cases members : r.members? owner with
    | none =>
      rw [members] at mem
      cases mem
    | some _ => rfl
  obtain ⟨c, c_mem, rfl⟩ := List.mem_map.1 ((loads.known owner).1 known)
  obtain ⟨members, found, all⟩ := loads.members c c_mem
  rw [Registry.listed, found] at mem
  obtain ⟨e, entry, declares⟩ := exists_of_forall₂ all.flip mem
  exact ⟨e, mem_entries.2 ⟨c, c_mem, entry⟩, declares⟩

end Schema

/-! ## What refers to a class -/

namespace Registry

variable {r : Registry} {history : List Registration}

theorem Reflects.resolves_pair_iff (reflects : r.Reflects history) {ty : Ty} {first second : String}
    {m next : Member} {className : String} (answer : r.lookup ty first = .ok m)
    (refers : m.ty = .named className ∨ m.ty = .nullable (.named className)) :
    Resolves r.resolver ty [first, second] [m, next] ↔
      next ∈ r.listed className ∧ next.name = second := by
  have behind : r.member? second m.ty = r.classMember? className second := by
    rcases refers with shape | shape <;> rw [shape] <;> rfl
  rw [← reflects.classMember?_eq_some_iff, ← behind]
  constructor
  · rintro (_ | ⟨_, _ | ⟨found, _⟩⟩)
    exact member?_of_resolver found
  · intro found
    exact .cons answer (.cons (resolver_of_member? found) (.nil _))

end Registry

namespace Schema

variable {schema : Schema} {r : Registry}

/-- The name of a class that a schema makes known is read as that class exactly if it is a name of
the notation. An entry that refers to such a class leads on to its members, each by its name, and to
nothing else. A class of any other name is mentioned in no notation, and so in the type of no member
of the schema. -/
theorem references_of_known (ordered : schema.Ordered) (run : Registry.ofSchema schema = .ok r)
    {className : String} {members : List Member} (known : r.members? className = some members) :
    (Ty.parse className = .ok (.named className) ↔ Ty.IsClassName className) ∧
    (∀ e ∈ schema.entries, ∀ t, Ty.parse e.text = .ok t →
      t = .named className ∨ t = .nullable (.named className) →
      ∃ m, e.Declares m ∧ m.ty = t ∧ r.lookup (.named e.className) e.name = .ok m ∧
        ∀ name next, Resolves r.resolver (.named e.className) [e.name, name] [m, next] ↔
          next ∈ members ∧ next.name = name) ∧
    (¬ Ty.IsClassName className →
      (∀ text t, Ty.parse text = .ok t → className ∉ t.classNames) ∧
      ∀ owner, ∀ m ∈ r.listed owner, className ∉ m.ty.classNames) := by
  have loads := ordered.loads_of_ofSchema run
  have reflects := (Registry.Origin.ofSchema ordered run).reflects
  have listed : r.listed className = members := by
    rw [Registry.listed, known]
    rfl
  refine ⟨Ty.parse_eq_named_iff className, fun e mem t read refers => ?_, fun other => ?_⟩
  · obtain ⟨m, declares, answer⟩ := loads.exists_lookup reflects mem
    have typed : m.ty = t := Except.ok.inj (declares.typed.symm.trans read)
    refine ⟨m, declares, typed, answer, fun name next => ?_⟩
    rw [← typed] at refers
    rw [← listed]
    exact reflects.resolves_pair_iff answer refers
  · have unmentioned : ∀ text t, Ty.parse text = .ok t → className ∉ t.classNames :=
      fun text t read mentioned => other (Ty.isClassName_of_parse read mentioned)
    refine ⟨unmentioned, fun owner m mem => ?_⟩
    obtain ⟨e, -, declares⟩ := loads.exists_entry mem
    exact unmentioned e.text m.ty declares.typed

end Schema

/-! ## Customers with their referrers, and a class that is named like a number -/

namespace Sample

def referrals : Schema := [("Customer", ⟨[("Referrer", "Customer?")], []⟩)]

def numbers : Schema := [("int", ⟨[("Next", "int")], []⟩)]

theorem ordered_referrals : referrals.Ordered := by
  constructor <;> simp [referrals]

theorem ordered_numbers : numbers.Ordered := by
  constructor <;> simp [numbers]

theorem load_referrals : Registry.ofSchema referrals = .ok referrals.loaded := by
  have clean : ∀ e ∈ referrals.entries, referrals.offence? e = none := by decide +kernel
  exact ordered_referrals.ofSchema_eq_ok_iff.2 ⟨rfl, clean⟩

theorem load_numbers : Registry.ofSchema numbers = .ok numbers.loaded := by
  have clean : ∀ e ∈ numbers.entries, numbers.offence? e = none := by decide +kernel
  exact ordered_numbers.ofSchema_eq_ok_iff.2 ⟨rfl, clean⟩

end Sample

namespace Schema

open Sample

/-- The referrer of a customer's referrer is found through the nullable reference. The class that
is named like a number has a member of that name's type, which does not lead to the class. -/
theorem references_of_known_referrals :
    (∃ first second, Resolves referrals.loaded.resolver (.named "Customer")
      ["Referrer", "Referrer"] [first, second]) ∧
    (numbers.loaded.members? "int").isSome ∧
    ∀ m ∈ numbers.loaded.listed "int", "int" ∉ m.ty.classNames := by
  have customer : referrals.loaded.members? "Customer" =
      some [⟨.named "Customer", "Referrer", .nullable (.named "Customer"), .field⟩] := by
    decide +kernel
  have number : numbers.loaded.members? "int" =
      some [⟨.named "int", "Next", .int, .field⟩] := by decide +kernel
  refine ⟨?_, by rw [number]; rfl, ?_⟩
  · obtain ⟨-, leads, -⟩ := references_of_known ordered_referrals load_referrals customer
    obtain ⟨first, -, -, -, onward⟩ := leads ⟨"Customer", "Referrer", .field, "Customer?"⟩
      List.mem_cons_self (.nullable (.named "Customer")) (by decide +kernel) (.inr rfl)
    exact ⟨first, _, (onward "Referrer" _).2 ⟨List.mem_cons_self, rfl⟩⟩
  · obtain ⟨-, -, unnamed⟩ := references_of_known ordered_numbers load_numbers number
    exact (unnamed fun named => named.2 .int (by decide)).2 "int"

/-- A class that is named like a number is known, and its name is still read as a number. -/
theorem exists_known_misread :
    ¬ ∀ (source : String) (r : Registry) (className : String), Registry.ofToml source = .ok r →
      (r.members? className).isSome → Ty.parse className = .ok (.named className) := by
  intro read
  have decoded : ofToml "[classes.int]\nfields.Next = \"int\"" = .ok numbers := by
    decide +kernel
  have known : (numbers.loaded.members? "int").isSome := by decide +kernel
  have number : Ty.parse "int" = .ok .int := by decide +kernel
  have named := read _ _ "int" ((ofToml_eq_ofSchema decoded).trans load_numbers) known
  rw [number] at named
  cases named

end Schema

end ExpressionGraphs
