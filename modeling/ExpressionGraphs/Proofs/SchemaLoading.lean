import ExpressionGraphs.Proofs.Registrations
import ExpressionGraphs.Proofs.TomlKeys

set_option autoImplicit false

/-!
# Loading a schema

Loading goes through the entries of a schema in their order and stops at the first that is refused.
Where none is, the registry holds the entries of the schema and nothing else: within a schema no
registration takes the place of another.
-/

namespace ExpressionGraphs

/-- A fold in which an item fails or is taken, whatever the state, fails at the first item that
does. -/
theorem foldlM_eq_elim {ε α β : Type} {f : β → α → Except ε β} {offence : α → Option ε}
    {take : β → α → β} (step : ∀ b a, f b a = (offence a).elim (.ok (take b a)) .error)
    (l : List α) (b : β) :
    l.foldlM f b = (l.findSome? offence).elim (.ok (l.foldl take b)) .error := by
  induction l generalizing b with
  | nil => rfl
  | cons a l ih =>
    rw [List.foldlM_cons, step, List.findSome?_cons]
    cases offence a with
    | some error => rfl
    | none => exact ih (take b a)

theorem findSome?_flatMap {α β γ : Type} (f : α → List β) (p : β → Option γ) (l : List α) :
    (l.flatMap f).findSome? p = l.findSome? fun a => (f a).findSome? p := by
  induction l with
  | nil => rfl
  | cons a l ih =>
    rw [List.flatMap_cons, List.findSome?_append, ih, List.findSome?_cons]
    cases (f a).findSome? p <;> rfl

theorem findSome?_congr {α β : Type} {p q : α → Option β} {l : List α}
    (h : ∀ a ∈ l, p a = q a) : l.findSome? p = l.findSome? q := by
  induction l with
  | nil => rfl
  | cons a l ih =>
    rw [List.findSome?_cons, List.findSome?_cons, h a List.mem_cons_self,
      ih fun b mem => h b (List.mem_cons_of_mem a mem)]

/-! ## One class -/

def Registry.take (r : Registry) (e : SchemaEntry) : Registry :=
  e.registration?.elim r r.enter

theorem Registry.foldl_take (r : Registry) (entries : List SchemaEntry) :
    entries.foldl take r = r.enterAll (entries.filterMap SchemaEntry.registration?) := by
  rw [enterAll, List.foldl_filterMap]
  congr 1
  funext r e
  unfold take
  cases e.registration? <;> rfl

theorem SchemaEntry.offence?_eq_none_iff {e : SchemaEntry} {twice : Bool} :
    e.offence? twice = none ↔ twice = false ∧ ∃ ty, Ty.parse e.text = .ok ty := by
  unfold offence?
  cases twice <;> cases Ty.parse e.text <;> simp

namespace ClassDeclaration

def declaresTwice (d : ClassDeclaration) (e : SchemaEntry) : Bool :=
  e.kind = .property && d.fields.any (·.1 = e.name)

def offence? (d : ClassDeclaration) (e : SchemaEntry) : Option SchemaError :=
  e.offence? (d.declaresTwice e)

def registrations (d : ClassDeclaration) (className : String) : List Registration :=
  (d.entries className).filterMap SchemaEntry.registration?

def addEntry (d : ClassDeclaration) (r : Registry) (e : SchemaEntry) :
    Except SchemaError Registry :=
  (d.offence? e).elim (.ok (r.take e)) .error

theorem addField_eq_addEntry (d : ClassDeclaration) (className : String) (r : Registry)
    (f : String × String) :
    Registry.addField className r f = d.addEntry r ⟨className, f.1, .field, f.2⟩ := by
  unfold Registry.addField Registry.memberType addEntry offence? SchemaEntry.offence?
    Registry.take SchemaEntry.registration?
  cases Ty.parse f.2 <;> rfl

theorem addProperty_eq_addEntry (d : ClassDeclaration) (className : String) (r : Registry)
    (p : String × String) :
    Registry.addProperty className d.fields r p =
      d.addEntry r ⟨className, p.1, .property, p.2⟩ := by
  unfold Registry.addProperty Registry.memberType addEntry offence? SchemaEntry.offence?
    Registry.take SchemaEntry.registration?
  by_cases twice : (d.fields.any (·.1 = p.1)) = true
  · have declared : d.declaresTwice ⟨className, p.1, .property, p.2⟩ = true := twice
    rw [if_pos twice, if_pos declared]
    rfl
  · have single : ¬ d.declaresTwice ⟨className, p.1, .property, p.2⟩ = true := twice
    rw [if_neg twice, if_neg single]
    cases Ty.parse p.2 <;> rfl

theorem addClass_eq (r : Registry) (className : String) (d : ClassDeclaration) :
    Registry.addClass r (className, d) =
      ((d.entries className).findSome? d.offence?).elim
        (.ok ((r.declare className).enterAll (d.registrations className))) .error := by
  have whole : Registry.addClass r (className, d) =
      (d.entries className).foldlM d.addEntry (r.declare className) := by
    simp only [entries, List.foldlM_append, List.foldlM_map, ← addField_eq_addEntry,
      ← addProperty_eq_addEntry]
    rfl
  have step : ∀ r e, d.addEntry r e = (d.offence? e).elim (.ok (r.take e)) .error :=
    fun _ _ => rfl
  rw [whole, foldlM_eq_elim step, Registry.foldl_take, registrations]

theorem forall_declaresTwice_iff (d : ClassDeclaration) (className : String) :
    (∀ e ∈ d.entries className, d.declaresTwice e = false) ↔
      ∀ f ∈ d.fields, ∀ p ∈ d.properties, f.1 ≠ p.1 := by
  constructor
  · intro single f f_mem p p_mem same
    have entry : (⟨className, p.1, .property, p.2⟩ : SchemaEntry) ∈ d.entries className :=
      List.mem_append_right _ (List.mem_map.2 ⟨p, p_mem, rfl⟩)
    have twice : d.declaresTwice ⟨className, p.1, .property, p.2⟩ = true :=
      List.any_eq_true.2 ⟨f, f_mem, decide_eq_true same⟩
    rw [single _ entry] at twice
    cases twice
  · intro apart e mem
    rcases List.mem_append.1 mem with mem | mem <;> obtain ⟨p, p_mem, rfl⟩ := List.mem_map.1 mem
    · rfl
    · refine List.any_eq_false.2 fun f f_mem => ?_
      simpa using apart f f_mem p p_mem

theorem entries_className {d : ClassDeclaration} {className : String} {e : SchemaEntry}
    (mem : e ∈ d.entries className) : e.className = className := by
  rcases List.mem_append.1 mem with mem | mem <;>
    obtain ⟨_, _, rfl⟩ := List.mem_map.1 mem <;> rfl

end ClassDeclaration

/-! ## The whole schema -/

namespace Schema

def loadClass (r : Registry) (c : String × ClassDeclaration) : Registry :=
  (r.declare c.1).enterAll (c.2.registrations c.1)

def loaded (schema : Schema) : Registry := schema.foldl loadClass .empty

theorem ofSchema_eq_classes (schema : Schema) :
    Registry.ofSchema schema =
      (schema.findSome? fun c => (c.2.entries c.1).findSome? c.2.offence?).elim
        (.ok schema.loaded) .error :=
  foldlM_eq_elim (fun r c => ClassDeclaration.addClass_eq r c.1 c.2) schema .empty

theorem mem_entries {schema : Schema} {e : SchemaEntry} :
    e ∈ schema.entries ↔ ∃ c ∈ schema, e ∈ c.2.entries c.1 :=
  List.mem_flatMap

theorem registrations_eq_flatMap (schema : Schema) :
    schema.registrations = schema.flatMap fun c => c.2.registrations c.1 :=
  List.filterMap_flatMap

namespace Ordered

variable {schema : Schema}

theorem eq_of_mem (ordered : schema.Ordered) {c other : String × ClassDeclaration}
    (mem : c ∈ schema) (mem' : other ∈ schema) (same : c.1 = other.1) : c = other :=
  List.inj_on_of_nodup_map ordered.classes.nodup mem mem' same

theorem declaresTwice_eq (ordered : schema.Ordered) {c : String × ClassDeclaration}
    (mem : c ∈ schema) {e : SchemaEntry} (entry : e ∈ c.2.entries c.1) :
    c.2.declaresTwice e = schema.declaresTwice e := by
  have own : e.className = c.1 := ClassDeclaration.entries_className entry
  have fields : c.2.fields.any (·.1 = e.name) =
      schema.entries.any fun o => o.kind = .field && o.key = e.key := by
    rw [Bool.eq_iff_iff, List.any_eq_true, List.any_eq_true]
    constructor
    · rintro ⟨f, field, same⟩
      refine ⟨⟨c.1, f.1, .field, f.2⟩, mem_entries.2 ⟨c, mem, ?_⟩, ?_⟩
      · exact List.mem_append_left _ (List.mem_map.2 ⟨f, field, rfl⟩)
      · simpa [SchemaEntry.key, own] using same
    · rintro ⟨o, o_mem, same⟩
      obtain ⟨field, key⟩ : o.kind = .field ∧ o.key = e.key := by simpa using same
      obtain ⟨other, other_mem, inner⟩ := mem_entries.1 o_mem
      have shared : other.1 = c.1 :=
        (ClassDeclaration.entries_className inner).symm.trans ((congrArg Prod.fst key).trans own)
      rw [ordered.eq_of_mem other_mem mem shared] at inner
      rcases List.mem_append.1 inner with inner | inner <;>
        obtain ⟨f, f_mem, rfl⟩ := List.mem_map.1 inner
      · exact ⟨f, f_mem, decide_eq_true (congrArg Prod.snd key)⟩
      · cases field
  rw [ClassDeclaration.declaresTwice, fields, declaresTwice]

theorem ofSchema_eq (ordered : schema.Ordered) :
    Registry.ofSchema schema =
      (schema.entries.findSome? schema.offence?).elim (.ok schema.loaded) .error := by
  have classes : (schema.findSome? fun c => (c.2.entries c.1).findSome? c.2.offence?) =
      schema.findSome? fun c => (c.2.entries c.1).findSome? schema.offence? := by
    refine findSome?_congr fun c mem => findSome?_congr fun e entry => ?_
    rw [ClassDeclaration.offence?, ordered.declaresTwice_eq mem entry, offence?]
  rw [ofSchema_eq_classes, classes, entries, findSome?_flatMap]

/-- Loading succeeds exactly when no entry is refused, and then yields the loaded registry. -/
theorem ofSchema_eq_ok_iff (ordered : schema.Ordered) {r : Registry} :
    Registry.ofSchema schema = .ok r ↔
      r = schema.loaded ∧ ∀ e ∈ schema.entries, schema.offence? e = none := by
  rw [ordered.ofSchema_eq, ← List.findSome?_eq_none_iff]
  cases schema.entries.findSome? schema.offence? <;> simp [eq_comm]

theorem ofSchema_eq_error_iff (ordered : schema.Ordered) {error : SchemaError} :
    Registry.ofSchema schema = .error error ↔
      ∃ before e after, schema.entries = before ++ e :: after ∧
        (∀ b ∈ before, schema.offence? b = none) ∧ schema.offence? e = some error := by
  have first : Registry.ofSchema schema = .error error ↔
      schema.entries.findSome? schema.offence? = some error := by
    rw [ordered.ofSchema_eq]
    cases schema.entries.findSome? schema.offence? <;> simp
  rw [first, List.findSome?_eq_some_iff]
  constructor
  · rintro ⟨before, e, after, split, refused, clean⟩
    exact ⟨before, e, after, split, clean, refused⟩
  · rintro ⟨before, e, after, split, clean, refused⟩
    exact ⟨before, e, after, split, refused, clean⟩

theorem forall_offence?_iff (ordered : schema.Ordered) :
    (∀ e ∈ schema.entries, schema.offence? e = none) ↔
      (∀ e ∈ schema.entries, ∃ ty, Ty.parse e.text = .ok ty) ∧
        ∀ c ∈ schema, ∀ f ∈ c.2.fields, ∀ p ∈ c.2.properties, f.1 ≠ p.1 := by
  have apart : (∀ e ∈ schema.entries, schema.declaresTwice e = false) ↔
      ∀ c ∈ schema, ∀ f ∈ c.2.fields, ∀ p ∈ c.2.properties, f.1 ≠ p.1 := by
    constructor
    · intro single c mem
      refine (c.2.forall_declaresTwice_iff c.1).1 fun e entry => ?_
      rw [ordered.declaresTwice_eq mem entry]
      exact single e (mem_entries.2 ⟨c, mem, entry⟩)
    · intro apart e e_mem
      obtain ⟨c, mem, entry⟩ := mem_entries.1 e_mem
      rw [← ordered.declaresTwice_eq mem entry]
      exact (c.2.forall_declaresTwice_iff c.1).2 (apart c mem) e entry
  rw [← apart]
  constructor
  · intro clean
    exact ⟨fun e mem => (SchemaEntry.offence?_eq_none_iff.1 (clean e mem)).2,
      fun e mem => (SchemaEntry.offence?_eq_none_iff.1 (clean e mem)).1⟩
  · rintro ⟨typed, single⟩ e mem
    exact SchemaEntry.offence?_eq_none_iff.2 ⟨single e mem, typed e mem⟩

end Ordered

end Schema

/-! ## What is loaded -/

namespace Registry

theorem members?_enterAll_of_ne {gs : List Registration} {className : String}
    (apart : ∀ g ∈ gs, g.className ≠ className) (r : Registry) :
    (r.enterAll gs).members? className = r.members? className := by
  induction gs generalizing r with
  | nil => rfl
  | cons g gs ih =>
    change ((r.enter g).enterAll gs).members? className = _
    rw [ih fun h mem => apart h (List.mem_cons_of_mem g mem), members?_enter,
      if_neg (apart g List.mem_cons_self)]

theorem members?_enterAll_of_fresh {gs : List Registration} {className : String}
    (own : ∀ g ∈ gs, g.className = className) {r : Registry} {members : List Member}
    (known : r.members? className = some members)
    (fresh : (members.map Member.name ++ gs.map Registration.name).Nodup) :
    (r.enterAll gs).members? className = some (members ++ gs.map Registration.member) := by
  induction gs generalizing r members with
  | nil =>
    rw [List.map_nil, List.append_nil]
    exact known
  | cons g gs ih =>
    have new : g.name ∉ members.map Member.name := by
      intro mem
      exact (List.nodup_append.1 fresh).2.2 g.name mem g.name List.mem_cons_self rfl
    have entered : (r.enter g).members? className = some (members ++ [g.member]) := by
      rw [members?_enter, if_pos (own g List.mem_cons_self), listed, known, Option.getD_some,
        putMember_eq_putBy, putBy_of_fresh new]
    change ((r.enter g).enterAll gs).members? className = _
    rw [ih (fun h mem => own h (List.mem_cons_of_mem g mem)) entered ?_, List.map_cons,
      List.append_assoc]
    · rfl
    · rw [List.map_append, List.append_assoc]
      exact fresh

end Registry

namespace SchemaEntry

theorem registration?_eq_some_iff {e : SchemaEntry} {g : Registration} :
    e.registration? = some g ↔
      g.key = e.key ∧ g.kind = e.kind ∧ Ty.parse e.text = .ok g.ty := by
  obtain ⟨className, name, ty, kind⟩ := g
  unfold registration? key Registration.key
  cases Ty.parse e.text with
  | error cause => simp
  | ok t =>
    simp only [Option.some.injEq, Registration.mk.injEq, Prod.mk.injEq, Except.ok.injEq]
    constructor
    · rintro ⟨rfl, rfl, rfl, rfl⟩
      exact ⟨⟨rfl, rfl⟩, rfl, rfl⟩
    · rintro ⟨⟨rfl, rfl⟩, rfl, rfl⟩
      exact ⟨rfl, rfl, rfl, rfl⟩

structure Declares (e : SchemaEntry) (m : Member) : Prop where
  class_eq : m.declaringType = .named e.className
  name_eq : m.name = e.name
  kind_eq : m.kind = e.kind
  typed : Ty.parse e.text = .ok m.ty

theorem declares_of_registration? {e : SchemaEntry} {g : Registration}
    (h : e.registration? = some g) : e.Declares g.member := by
  obtain ⟨key, kind, typed⟩ := registration?_eq_some_iff.1 h
  have class_eq : g.className = e.className := congrArg Prod.fst key
  exact ⟨congrArg Ty.named class_eq, congrArg Prod.snd key, kind, typed⟩

theorem forall₂_registrations {entries : List SchemaEntry}
    (typed : ∀ e ∈ entries, ∃ ty, Ty.parse e.text = .ok ty) :
    List.Forall₂ (fun e g => e.registration? = some g) entries
      (entries.filterMap registration?) := by
  induction entries with
  | nil => exact .nil
  | cons e entries ih =>
    obtain ⟨ty, read⟩ := typed e List.mem_cons_self
    have registered : e.registration? = some ⟨e.className, e.name, ty, e.kind⟩ :=
      registration?_eq_some_iff.2 ⟨rfl, rfl, read⟩
    rw [List.filterMap_cons_some registered]
    exact .cons registered (ih fun e' mem => typed e' (List.mem_cons_of_mem e mem))

end SchemaEntry

theorem ClassDeclaration.registrations_className {d : ClassDeclaration} {className : String}
    {g : Registration} (mem : g ∈ d.registrations className) : g.className = className := by
  obtain ⟨e, entry, registered⟩ := List.mem_filterMap.1 mem
  have key := (SchemaEntry.registration?_eq_some_iff.1 registered).1
  exact (congrArg Prod.fst key).trans (entries_className entry)

namespace Schema

theorem members?_loadClass_of_ne {c : String × ClassDeclaration} {className : String}
    (other : c.1 ≠ className) (r : Registry) :
    (loadClass r c).members? className = r.members? className := by
  have apart : ∀ g ∈ c.2.registrations c.1, g.className ≠ className := by
    intro g mem
    rw [ClassDeclaration.registrations_className mem]
    exact other
  rw [loadClass, Registry.members?_enterAll_of_ne apart, Registry.members?_declare, if_neg other]

theorem members?_foldl_loadClass_of_not_mem {classes : Schema} {className : String}
    (absent : className ∉ classes.map Prod.fst) (r : Registry) :
    (classes.foldl loadClass r).members? className = r.members? className := by
  induction classes generalizing r with
  | nil => rfl
  | cons c classes ih =>
    have apart : className ≠ c.1 ∧ className ∉ classes.map Prod.fst := by simpa using absent
    rw [List.foldl_cons, ih apart.2, members?_loadClass_of_ne (Ne.symm apart.1)]

theorem reflects_foldl_loadClass {classes : Schema} {r : Registry} {history : List Registration}
    (reflects : r.Reflects history) :
    (classes.foldl loadClass r).Reflects
      (history ++ classes.flatMap fun c => c.2.registrations c.1) := by
  induction classes generalizing r history with
  | nil =>
    rw [List.flatMap_nil, List.append_nil]
    exact reflects
  | cons c classes ih =>
    rw [List.flatMap_cons, ← List.append_assoc]
    exact ih ((reflects.declare c.1).enterAll (c.2.registrations c.1))

theorem reflects_loaded (schema : Schema) : schema.loaded.Reflects schema.registrations := by
  rw [registrations_eq_flatMap]
  exact reflects_foldl_loadClass .empty

namespace Ordered

variable {schema : Schema}

theorem keys_distinct (ordered : schema.Ordered)
    (apart : ∀ c ∈ schema, ∀ f ∈ c.2.fields, ∀ p ∈ c.2.properties, f.1 ≠ p.1) :
    schema.entries.Pairwise fun e e' => e.key ≠ e'.key := by
  refine List.pairwise_flatMap.2 ⟨fun c mem => ?_, ?_⟩
  · have named : ∀ {members : List (String × String)} (kind : MemberKind),
        (members.map Prod.fst).Pairwise (· < ·) →
        (members.map fun m => (⟨c.1, m.1, kind, m.2⟩ : SchemaEntry)).Pairwise
          fun e e' => e.key ≠ e'.key := by
      intro members kind sorted
      have distinct := List.pairwise_map.1 sorted.nodup
      exact List.pairwise_map.2 (distinct.imp fun other key => other (congrArg Prod.snd key))
    refine List.pairwise_append.2 ⟨named .field (ordered.fields c mem),
      named .property (ordered.properties c mem), fun e field e' property key => ?_⟩
    obtain ⟨f, f_mem, rfl⟩ := List.mem_map.1 field
    obtain ⟨p, p_mem, rfl⟩ := List.mem_map.1 property
    exact apart c mem f f_mem p p_mem (congrArg Prod.snd key)
  · refine (List.pairwise_map.1 ordered.classes.nodup).imp ?_
    intro c c' other e entry e' entry' key
    have class_eq := congrArg Prod.fst key
    simp only [SchemaEntry.key, ClassDeclaration.entries_className entry,
      ClassDeclaration.entries_className entry'] at class_eq
    exact other class_eq

theorem registered_apart (ordered : schema.Ordered)
    (apart : ∀ c ∈ schema, ∀ f ∈ c.2.fields, ∀ p ∈ c.2.properties, f.1 ≠ p.1) :
    schema.registrations.Pairwise fun g g' => g.key ≠ g'.key := by
  refine (ordered.keys_distinct apart).filterMap _ fun e e' other g entered g' entered' => ?_
  rw [(SchemaEntry.registration?_eq_some_iff.1 entered).1,
    (SchemaEntry.registration?_eq_some_iff.1 entered').1]
  exact other

theorem members?_loaded (ordered : schema.Ordered)
    (apart : ∀ c ∈ schema, ∀ f ∈ c.2.fields, ∀ p ∈ c.2.properties, f.1 ≠ p.1)
    {c : String × ClassDeclaration} (mem : c ∈ schema) :
    schema.loaded.members? c.1 = some ((c.2.registrations c.1).map Registration.member) := by
  obtain ⟨before, after, split⟩ := List.append_of_mem mem
  have distinct : (before.map Prod.fst ++ c.1 :: after.map Prod.fst).Nodup := by
    have whole := ordered.classes.nodup
    rwa [split, List.map_append, List.map_cons] at whole
  have earlier : c.1 ∉ before.map Prod.fst := fun h =>
    (List.nodup_append.1 distinct).2.2 c.1 h c.1 List.mem_cons_self rfl
  have later : c.1 ∉ after.map Prod.fst :=
    (List.nodup_cons.1 (List.nodup_append.1 distinct).2.1).1
  have unknown : (before.foldl loadClass .empty).members? c.1 = none := by
    rw [members?_foldl_loadClass_of_not_mem earlier]
    exact Std.TreeMap.getElem?_emptyc
  have declared : ((before.foldl loadClass .empty).declare c.1).members? c.1 = some [] := by
    rw [Registry.members?_declare, if_pos rfl, unknown]
    rfl
  have names : ((c.2.registrations c.1).map Registration.name).Nodup := by
    have within : (c.2.registrations c.1).Pairwise fun g g' => g.key ≠ g'.key := by
      have whole := ordered.registered_apart apart
      rw [registrations_eq_flatMap] at whole
      exact (List.pairwise_flatMap.1 whole).1 c mem
    refine List.pairwise_map.2 (within.imp_of_mem fun own own' other name => other ?_)
    exact Prod.ext ((ClassDeclaration.registrations_className own).trans
      (ClassDeclaration.registrations_className own').symm) name
  rw [loaded, split, List.foldl_append, List.foldl_cons,
    members?_foldl_loadClass_of_not_mem later]
  exact Registry.members?_enterAll_of_fresh (fun _ => ClassDeclaration.registrations_className)
    declared names

theorem isSome_members?_loaded (ordered : schema.Ordered)
    (apart : ∀ c ∈ schema, ∀ f ∈ c.2.fields, ∀ p ∈ c.2.properties, f.1 ≠ p.1)
    (className : String) :
    (schema.loaded.members? className).isSome ↔ className ∈ schema.map Prod.fst := by
  by_cases declared : className ∈ schema.map Prod.fst
  · obtain ⟨c, mem, rfl⟩ := List.mem_map.1 declared
    simp [ordered.members?_loaded apart mem, declared]
  · have unknown : schema.loaded.members? className = none := by
      rw [loaded, members?_foldl_loadClass_of_not_mem declared]
      exact Std.TreeMap.getElem?_emptyc
    simp [unknown, declared]

end Ordered

theorem lastIn?_eq_none {before after : List Registration} {g : Registration}
    (apart : (before ++ g :: after).Pairwise fun g g' => g.key ≠ g'.key) :
    lastIn? before g.className g.name = none := by
  refine List.find?_eq_none.2 fun earlier mem => ?_
  have other := (List.pairwise_append.1 apart).2.2 earlier (List.mem_reverse.1 mem) g
    List.mem_cons_self
  exact fun found => other (of_decide_eq_true found)

end Schema

namespace Schema

theorem message_of_offence? {schema : Schema} {e : SchemaEntry} {error : SchemaError}
    (refused : schema.offence? e = some error) :
    error.message = "Schema error: " ++ error.reason ∧
      (error.reason = "duplicate member `" ++ e.className ++ "." ++ e.name ++ "`" ∨
        ∃ cause : TyError, error.reason =
          "member `" ++ e.className ++ "." ++ e.name ++ "`: " ++ cause.message) := by
  rw [offence?, SchemaEntry.offence?] at refused
  refine ⟨rfl, ?_⟩
  by_cases twice : schema.declaresTwice e = true
  · rw [if_pos twice] at refused
    exact .inl (congrArg SchemaError.reason (Option.some.inj refused).symm)
  · rw [if_neg twice] at refused
    cases read : Ty.parse e.text with
    | ok ty =>
      rw [read] at refused
      cases refused
    | error cause =>
      rw [read] at refused
      exact .inr ⟨cause, congrArg SchemaError.reason (Option.some.inj refused).symm⟩

/-- A registry that holds what a schema declares and nothing else. -/
structure Loads (schema : Schema) (r : Registry) : Prop where
  known : ∀ className, (r.members? className).isSome ↔ className ∈ schema.map Prod.fst
  members : ∀ c ∈ schema, ∃ members, r.members? c.1 = some members ∧
    List.Forall₂ SchemaEntry.Declares (c.2.entries c.1) members
  registered : schema.entries.map SchemaEntry.registration? = schema.registrations.map some
  listed : ∀ className,
    r.listed className = (Registry.empty.enterAll schema.registrations).listed className
  answers : ∀ ty name,
    r.lookup ty name = (Registry.empty.enterAll schema.registrations).lookup ty name
  /-- What is registered next is not there yet. -/
  unreplaced : ∀ before g after, schema.registrations = before ++ g :: after →
    (Registry.empty.enterAll before).classMember? g.className g.name = none

theorem Ordered.loads_loaded {schema : Schema} (ordered : schema.Ordered)
    (clean : ∀ e ∈ schema.entries, schema.offence? e = none) : schema.Loads schema.loaded := by
  obtain ⟨typed, apart⟩ := ordered.forall_offence?_iff.1 clean
  have reflects : (Registry.empty.enterAll schema.registrations).Reflects schema.registrations :=
    Registry.Reflects.empty.enterAll schema.registrations
  refine ⟨ordered.isSome_members?_loaded apart, fun c mem => ?_, ?_,
    schema.reflects_loaded.listed_eq_listed reflects,
    Registry.lookup_congr fun className => ?_, fun before g after split => ?_⟩
  · refine ⟨_, ordered.members?_loaded apart mem, ?_⟩
    have registered := SchemaEntry.forall₂_registrations fun e entry =>
      typed e (mem_entries.2 ⟨c, mem, entry⟩)
    exact List.forall₂_map_right_iff.2
      (registered.imp fun _ _ => SchemaEntry.declares_of_registration?)
  · exact map_eq_of_forall₂ ((SchemaEntry.forall₂_registrations typed).flip.imp fun _ _ => id)
  · funext name
    rw [schema.reflects_loaded.latest, reflects.latest]
  · have past := (Registry.Reflects.empty.enterAll before).latest g.className g.name
    have keys := ordered.registered_apart apart
    rw [split] at keys
    rw [past, List.nil_append, lastIn?_eq_none keys]
    rfl

theorem Ordered.loads_of_ofSchema {schema : Schema} (ordered : schema.Ordered) {r : Registry}
    (run : Registry.ofSchema schema = .ok r) : schema.Loads r := by
  obtain ⟨rfl, clean⟩ := ordered.ofSchema_eq_ok_iff.1 run
  exact ordered.loads_loaded clean

theorem ofToml_eq_ofSchema {source : String} {schema : Schema}
    (decoded : ofToml source = .ok schema) :
    Registry.ofToml source = Registry.ofSchema schema := by
  rw [Registry.ofToml, decoded]
  rfl

/-- A document that is a schema at all is a map of maps, and such a schema is loaded exactly when
every text is that of a type and no class has one name both among its fields and its properties.
Then the classes known are those declared; each lists its fields and then its properties, every
entry registered and none in the place of another. Otherwise the error is that of the first entry
that is refused, and names its class and member. -/
theorem load_exact :
    (∀ source schema, ofToml source = .ok schema →
      schema.Ordered ∧ Registry.ofToml source = Registry.ofSchema schema) ∧
    ∀ schema : Schema, schema.Ordered →
      ((∃ r, Registry.ofSchema schema = .ok r) ↔
        (∀ e ∈ schema.entries, ∃ ty, Ty.parse e.text = .ok ty) ∧
          ∀ c ∈ schema, ∀ f ∈ c.2.fields, ∀ p ∈ c.2.properties, f.1 ≠ p.1) ∧
      (∀ r, Registry.ofSchema schema = .ok r → schema.Loads r) ∧
      (∀ error, Registry.ofSchema schema = .error error ↔
        ∃ before e after, schema.entries = before ++ e :: after ∧
          (∀ b ∈ before, schema.offence? b = none) ∧ schema.offence? e = some error) ∧
      ∀ e error, schema.offence? e = some error →
        error.message = "Schema error: " ++ error.reason ∧
          (error.reason = "duplicate member `" ++ e.className ++ "." ++ e.name ++ "`" ∨
            ∃ cause : TyError, error.reason =
              "member `" ++ e.className ++ "." ++ e.name ++ "`: " ++ cause.message) := by
  refine ⟨fun source schema decoded => ⟨ordered_of_ofToml decoded, ofToml_eq_ofSchema decoded⟩,
    fun schema ordered => ⟨?_, fun r => ordered.loads_of_ofSchema,
      fun error => ordered.ofSchema_eq_error_iff, fun e error => message_of_offence?⟩⟩
  rw [← ordered.forall_offence?_iff]
  constructor
  · rintro ⟨r, run⟩
    exact (ordered.ofSchema_eq_ok_iff.1 run).2
  · intro clean
    exact ⟨schema.loaded, ordered.ofSchema_eq_ok_iff.2 ⟨rfl, clean⟩⟩

/-- A document that declares an order with a number, and a schema that gives a customer's name two
meanings, the second of them without a type. -/
theorem load_exact_orders :
    (∃ r, Registry.ofToml "[classes.Order]\nfields.Id = \"int\"" = .ok r ∧
      Loads [("Order", ⟨[("Id", "int")], []⟩)] r) ∧
    Registry.ofSchema [("Customer", ⟨[("Name", "string")], [("Name", "[")]⟩)] =
      .error (.duplicateMember "Customer" "Name") := by
  have ordered : Ordered [("Customer", ⟨[("Name", "string")], [("Name", "[")]⟩)] := by
    constructor <;> simp
  have twice : offence? [("Customer", ⟨[("Name", "string")], [("Name", "[")]⟩)]
      ⟨"Customer", "Name", .property, "["⟩ = some (.duplicateMember "Customer" "Name") := by
    decide +kernel
  refine ⟨?_, ?_⟩
  · obtain ⟨ordered, same⟩ := load_exact.1 "[classes.Order]\nfields.Id = \"int\""
      [("Order", ⟨[("Id", "int")], []⟩)] (by decide +kernel)
    obtain ⟨succeeds, loads, _⟩ := load_exact.2 _ ordered
    obtain ⟨r, run⟩ := succeeds.2 ⟨by simpa [entries, ClassDeclaration.entries] using
      ⟨.int, by decide +kernel⟩, by simp⟩
    exact ⟨r, same.trans run, loads r run⟩
  · obtain ⟨_, _, refused, _⟩ := load_exact.2 _ ordered
    refine (refused _).2 ⟨[⟨"Customer", "Name", .field, "string"⟩], _, [], rfl, ?_, twice⟩
    intro b mem
    rw [List.mem_singleton.1 mem]
    decide +kernel

end Schema

end ExpressionGraphs
