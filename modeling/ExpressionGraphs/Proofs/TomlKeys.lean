import Mathlib.Data.Option.Basic
import ExpressionGraphs.Proofs.Building
import ExpressionGraphs.Proofs.Placement
import ExpressionGraphs.Registry.Registration

set_option autoImplicit false

/-!
# The keys of TOML tables

Whatever document is read, no table of it has two entries of one key, at any depth. A schema that
is read from a document is therefore a map of maps.
-/

namespace ExpressionGraphs

namespace Toml

mutual

/-- In an item and in the items inside it, no table has two entries of one key. -/
inductive Item.Keyed : Item → Prop
  | string (text : String) : Item.Keyed (.string text)
  | integer (n : Int) : Item.Keyed (.integer n)
  | float (literal : String) : Item.Keyed (.float literal)
  | boolean (b : Bool) : Item.Keyed (.boolean b)
  | dateTime (text : String) : Item.Keyed (.dateTime text)
  | array {items : List Item} (inner : ∀ i ∈ items, Item.Keyed i) : Item.Keyed (.array items)
  | table (kind : TableKind) {entries : Entries} (keyed : Entries.Keyed entries) :
    Item.Keyed (.table kind entries)
  | rows {tables : List Entries} (keyed : ∀ t ∈ tables, Entries.Keyed t) :
    Item.Keyed (.rows tables)

inductive Entries.Keyed : Entries → Prop
  | intro {entries : Entries} (distinct : (entries.map Prod.fst).Nodup)
    (inner : ∀ e ∈ entries, Item.Keyed e.2) : Entries.Keyed entries

end

namespace Entries

theorem Keyed.distinct {entries : Entries} : entries.Keyed → (entries.map Prod.fst).Nodup
  | ⟨distinct, _⟩ => distinct

theorem Keyed.inner {entries : Entries} : entries.Keyed → ∀ e ∈ entries, e.2.Keyed
  | ⟨_, inner⟩ => inner

theorem keyed_nil : Keyed [] := ⟨List.nodup_nil, fun _ mem => nomatch mem⟩

theorem mem_of_lookup {entries : Entries} {key : String} {item : Item}
    (found : entries.lookup key = some item) : (key, item) ∈ entries := by
  induction entries with
  | nil => cases found
  | cons e entries ih =>
    by_cases same : key = e.1
    · subst same
      rw [List.lookup_cons_self] at found
      cases found
      exact List.mem_cons_self
    · have other : (key == e.1) = false := beq_false_of_ne same
      rw [List.lookup_cons, other] at found
      exact List.mem_cons_of_mem e (ih found)

theorem Keyed.set {entries : Entries} (keyed : entries.Keyed) (key : String) {item : Item}
    (inner : item.Keyed) : (Entries.set key item entries).Keyed := by
  rw [set_eq_putBy]
  refine ⟨nodup_keys_putBy keyed.distinct _, fun e mem => ?_⟩
  rcases mem_putBy mem with rfl | mem
  · exact inner
  · exact keyed.inner e mem

theorem Keyed.lookup {entries : Entries} (keyed : entries.Keyed) {key : String} {item : Item}
    (found : List.lookup key entries = some item) : item.Keyed :=
  keyed.inner _ (mem_of_lookup found)

theorem keyed_of_table {kind : TableKind} {entries : Entries} (h : (Item.table kind entries).Keyed) :
    entries.Keyed := by
  cases h with
  | table _ keyed => exact keyed

theorem keyed_of_rows {tables : List Entries} (h : (Item.rows tables).Keyed) :
    ∀ t ∈ tables, Keyed t := by
  cases h with
  | rows keyed => exact keyed

/-- A change of a table that keeps keys distinct there keeps them distinct everywhere. -/
theorem Keyed.change {passage : Passage} {f : TableKind → Entries → Option Entries}
    (kept : ∀ kind content out, Keyed content → f kind content = some out → Keyed out)
    {path : List String} {kind : TableKind} {entries out : Entries} (keyed : entries.Keyed)
    (run : Entries.change passage f path kind entries = some out) : out.Keyed := by
  induction path generalizing kind entries out with
  | nil => exact kept kind entries out keyed run
  | cons key path ih =>
    rw [Entries.change] at run
    split at run
    · obtain ⟨content, changed, run⟩ := Option.bind_eq_some_iff.1 run
      cases run
      exact keyed.set key (.table _ (ih keyed_nil changed))
    · rename_i kind content found
      obtain ⟨_, _, run⟩ := Option.bind_eq_some_iff.1 run
      obtain ⟨content', changed, run⟩ := Option.bind_eq_some_iff.1 run
      cases run
      exact keyed.set key (.table kind (ih (keyed_of_table (keyed.lookup found)) changed))
    · rename_i rows found
      have before := keyed_of_rows (keyed.lookup found)
      obtain ⟨row, last, run⟩ := Option.bind_eq_some_iff.1 run
      obtain ⟨row', changed, run⟩ := Option.bind_eq_some_iff.1 run
      cases run
      refine keyed.set key (.rows fun t mem => ?_)
      rcases List.mem_append.1 mem with mem | mem
      · exact before t (List.dropLast_subset rows mem)
      · rw [List.mem_singleton.1 mem]
        exact ih (before row (List.mem_of_getLast? last)) changed
    · cases run

theorem Keyed.assign {path : List String} {item : Item} {entries out : Entries}
    (keyed : entries.Keyed) (inner : item.Keyed)
    (run : Entries.assign path item entries = some out) : out.Keyed := by
  obtain ⟨key, _, run⟩ := Option.bind_eq_some_iff.1 run
  refine keyed.change (fun kind content out keyed run => ?_) run
  obtain ⟨_, _, run⟩ := Option.bind_eq_some_iff.1 run
  obtain ⟨_, _, run⟩ := Option.bind_eq_some_iff.1 run
  cases run
  exact keyed.set key inner

theorem Keyed.openTable {path : List String} {entries out : Entries} (keyed : entries.Keyed)
    (run : Entries.openTable path entries = some out) : out.Keyed := by
  obtain ⟨key, _, run⟩ := Option.bind_eq_some_iff.1 run
  refine keyed.change (fun kind content out keyed run => ?_) run
  split at run
  · cases run
    exact keyed.set key (.table .header keyed_nil)
  · rename_i inner found
    cases run
    exact keyed.set key (.table .header (keyed_of_table (keyed.lookup found)))
  · cases run

theorem Keyed.addRow {path : List String} {entries out : Entries} (keyed : entries.Keyed)
    (run : Entries.addRow path entries = some out) : out.Keyed := by
  obtain ⟨key, _, run⟩ := Option.bind_eq_some_iff.1 run
  refine keyed.change (fun kind content out keyed run => ?_) run
  split at run
  · cases run
    refine keyed.set key (.rows fun t mem => ?_)
    rw [List.mem_singleton.1 mem]
    exact keyed_nil
  · rename_i rows found
    cases run
    refine keyed.set key (.rows fun t mem => ?_)
    rcases List.mem_append.1 mem with mem | mem
    · exact keyed_of_rows (keyed.lookup found) t mem
    · rw [List.mem_singleton.1 mem]
      exact keyed_nil
  · cases run

end Entries

/-! ## Lines -/

def Line.Keyed : Line → Prop
  | .entry _ item => item.Keyed
  | _ => True

theorem Draft.keyed_add {draft draft' : Draft} {line : Line} (keyed : draft.tables.Keyed)
    (inner : line.Keyed) (run : draft.add line = some draft') : draft'.tables.Keyed := by
  cases line with
  | header path =>
    obtain ⟨tables, opened, run⟩ := Option.bind_eq_some_iff.1 run
    cases run
    exact keyed.openTable opened
  | rowHeader path =>
    obtain ⟨tables, added, run⟩ := Option.bind_eq_some_iff.1 run
    cases run
    exact keyed.addRow added
  | entry path item =>
    obtain ⟨tables, changed, run⟩ := Option.bind_eq_some_iff.1 run
    cases run
    exact keyed.change (fun _ _ _ keyed run => keyed.assign inner run) changed

theorem holds_of_foldlM_some {α β : Type} {p : β → Prop} {f : β → α → Option β} {l : List α}
    (step : ∀ a ∈ l, ∀ b b', p b → f b a = some b' → p b') {b b' : β} (start : p b)
    (run : l.foldlM f b = some b') : p b' := by
  induction l generalizing b with
  | nil =>
    cases run
    exact start
  | cons a l ih =>
    rw [List.foldlM_cons] at run
    obtain ⟨next, first, run⟩ := Option.bind_eq_some_iff.1 run
    exact ih (fun c mem => step c (List.mem_cons_of_mem a mem))
      (step a List.mem_cons_self b next start first) run

theorem keyed_ofLines {lines : List Line} {entries : Entries} (inner : ∀ l ∈ lines, l.Keyed)
    (run : ofLines lines = some entries) : entries.Keyed := by
  obtain ⟨draft, folded, rfl⟩ := Option.map_eq_some_iff.1 run
  exact holds_of_foldlM_some (p := fun draft => draft.tables.Keyed)
    (fun line mem draft draft' keyed step => Draft.keyed_add keyed (inner line mem) step)
    Entries.keyed_nil folded

theorem keyed_inlineTable {pairs : List (List String × Item)} {item : Item}
    (inner : ∀ e ∈ pairs, e.2.Keyed) (run : inlineTable pairs = some item) : item.Keyed := by
  obtain ⟨entries, folded, rfl⟩ := Option.map_eq_some_iff.1 run
  exact .table .inline (holds_of_foldlM_some (p := Entries.Keyed)
    (fun e mem entries out keyed step => keyed.assign (inner e mem) step) Entries.keyed_nil folded)

/-! ## Readers -/

namespace Reader

variable {α β : Type} {p : α → Prop} {q : β → Prop}

def Yields (r : Reader α) (p : α → Prop) : Prop := ∀ text a rest, r text = some (a, rest) → p a

namespace Yields

theorem pure {a : α} (h : p a) : Yields (Pure.pure a) p := by
  intro text b rest run
  cases run
  exact h

theorem ite {c : Prop} [Decidable c] {r r' : Reader α} (yes : Yields r p) (no : Yields r' p) :
    Yields (if c then r else r') p := by
  split
  · exact yes
  · exact no

theorem bind {r : Reader α} {f : α → Reader β} (first : Yields r p)
    (next : ∀ a, p a → Yields (f a) q) : Yields (r >>= f) q := by
  intro text b rest run
  obtain ⟨⟨a, middle⟩, taken, run⟩ := Option.bind_eq_some_iff.1 run
  exact next a (first text a middle taken) middle b rest run

theorem last {r : Reader α} {f : α → Reader β} (next : ∀ a, Yields (f a) q) :
    Yields (r >>= f) q :=
  bind (p := fun _ => True) (fun _ _ _ _ => trivial) fun a _ => next a

theorem orElse {r r' : Reader α} (first : Yields r p) (second : Yields r' p) :
    Yields (r <|> r') p := by
  intro text a rest run
  have split : (r <|> r') text = (r text <|> r' text) := rfl
  rw [split] at run
  cases taken : r text with
  | none =>
    rw [taken] at run
    exact second text a rest run
  | some out =>
    rw [taken] at run
    cases run
    exact first text a rest taken

theorem lift {o : Option α} (h : ∀ a, o = some a → p a) : Yields (liftM o : Reader α) p := by
  intro text a rest run
  obtain ⟨b, given, run⟩ := Option.bind_eq_some_iff.1 run
  cases run
  exact h a given

theorem attempt {r : Reader α} (h : Yields r p) :
    Yields (Reader.attempt r) fun o => ∀ a, o = some a → p a := by
  intro text o rest run
  unfold Reader.attempt at run
  split at run
  · rename_i b rest' taken
    cases run
    rintro a ⟨⟩
    exact h text b rest taken
  · cases run
    rintro a ⟨⟩

theorem many {r : Reader α} (h : Yields r p) : Yields (Reader.many r) fun as => ∀ a ∈ as, p a := by
  have within : ∀ bound text, ∀ a ∈ (manyWithin r bound text).1, p a := by
    intro bound
    induction bound with
    | nil =>
      intro text a mem
      cases mem
    | cons _ bound ih =>
      intro text a mem
      rw [manyWithin] at mem
      split at mem
      · cases mem
      · rename_i first rest taken
        rcases List.mem_cons.1 mem with rfl | mem
        · exact h text a rest taken
        · exact ih rest a mem
  intro text as rest run
  have given : (manyWithin r text text).1 = as := congrArg Prod.fst (Option.some.inj run)
  exact given ▸ within text text

theorem separated {r : Reader α} (h : Yields r p) (separator : Char) :
    Yields (Reader.separated separator r) fun as => ∀ a ∈ as, p a := by
  refine h.bind fun first own => ?_
  refine (many (last fun _ => h)).bind fun others rest => .pure fun a mem => ?_
  rcases List.mem_cons.1 mem with rfl | mem
  · exact own
  · exact rest a mem

end Yields

end Reader

open Reader

theorem yields_integerWithin (n : Int) : Yields (liftM (integerWithin n)) Item.Keyed := by
  refine .lift fun item run => ?_
  unfold integerWithin at run
  split at run
  · cases run
    exact .integer n
  · cases run

theorem yields_integer : Yields integer Item.Keyed := by
  have radix : ∀ mark base p, Yields (radixInteger mark base p) Item.Keyed := fun _ _ _ =>
    .last fun _ => .last fun _ => yields_integerWithin _
  have decimal : Yields decimalInteger Item.Keyed :=
    .last fun _ => .last fun _ => yields_integerWithin _
  exact .orElse (radix _ _ _) (.orElse (radix _ _ _) (.orElse (radix _ _ _) decimal))

theorem yields_decimalFloat : Yields decimalFloat Item.Keyed := by
  have given : ∀ text, Yields (pure (Item.float text)) Item.Keyed := fun text => .pure (.float text)
  refine .last fun _ => .last fun _ => .last fun _ => .last fun _ => ?_
  refine .ite (.last fun _ => ?_) ?_
  · exact .ite (.last fun _ => given _) (given _)
  · exact .ite (.last fun _ => given _) (given _)

theorem yields_scalar : Yields scalar Item.Keyed := by
  have text : Yields (do return .string (← stringText)) Item.Keyed :=
    .last fun _ => .pure (.string _)
  have dateTime : Yields (do return .dateTime (← dateTime)) Item.Keyed :=
    .last fun _ => .pure (.dateTime _)
  have special : Yields specialFloat Item.Keyed :=
    .last fun _ => .last fun _ => .pure (.float _)
  have boolean : Yields boolean Item.Keyed :=
    .orElse (.last fun _ => .pure (.boolean true)) (.last fun _ => .pure (.boolean false))
  exact .orElse text (.orElse dateTime
    (.orElse yields_decimalFloat (.orElse special (.orElse yields_integer boolean))))

theorem yields_array {value : Reader Item} (h : Yields value Item.Keyed) :
    Yields (array value) Item.Keyed := by
  have element : Yields (do skipLines; let item ← value; skipLines; return item) Item.Keyed :=
    .last fun _ => h.bind fun item keyed => .last fun _ => .pure keyed
  refine .last fun _ => (Yields.attempt (element.separated ',')).bind fun items inner => ?_
  have given : Yields (pure (Item.array (items.getD []))) Item.Keyed := by
    refine .pure (.array fun i mem => ?_)
    cases items with
    | none => cases mem
    | some items => exact inner items rfl i mem
  have closed : Yields (do skipLines; char ']'; return Item.array (items.getD [])) Item.Keyed :=
    .last fun _ => .last fun _ => given
  exact .ite (.last fun _ => closed) closed

theorem yields_keyValue {value : Reader Item} (h : Yields value Item.Keyed) :
    Yields (keyValue value) fun e => e.2.Keyed :=
  .last fun _ => .last fun _ => .last fun _ => h.bind fun _ keyed => .pure keyed

theorem yields_bracedTable {value : Reader Item} (h : Yields value Item.Keyed) :
    Yields (bracedTable value) Item.Keyed := by
  have entry : Yields (do let e ← keyValue value; skipBlanks; return e) fun e => e.2.Keyed :=
    (yields_keyValue h).bind fun e keyed => .last fun _ => .pure keyed
  refine .last fun _ => (Yields.attempt (entry.separated ',')).bind fun entries inner => ?_
  refine .last fun _ => .last fun _ => .lift fun item run => ?_
  refine keyed_inlineTable (fun e mem => ?_) run
  cases entries with
  | none => cases mem
  | some entries => exact inner entries rfl e mem

theorem yields_value (depth : Nat) : Yields (value depth) Item.Keyed := by
  induction depth with
  | zero => exact yields_scalar
  | succ depth ih =>
    exact .orElse yields_scalar (.orElse (yields_array ih) (yields_bracedTable ih))

theorem yields_entry : Yields entry Line.Keyed :=
  (yields_keyValue (yields_value _)).bind fun _ keyed => .pure keyed

theorem yields_line : Yields line fun o => ∀ l, o = some l → l.Keyed := by
  have bare : Yields header Line.Keyed := .last fun _ => .last fun _ => .last fun _ => .pure trivial
  have row : Yields rowHeader Line.Keyed :=
    .last fun _ => .last fun _ => .last fun _ => .pure trivial
  have content : Yields (rowHeader <|> header <|> entry) Line.Keyed :=
    .orElse row (.orElse bare yields_entry)
  have whole : Yields (do
      skipBlanks
      let content ← attempt (rowHeader <|> header <|> entry)
      endOfLine
      return content) fun o => ∀ l, o = some l → l.Keyed :=
    .last fun _ => (Yields.attempt content).bind fun _ keyed => .last fun _ => .pure keyed
  intro text o rest run
  unfold line at run
  split at run
  · cases run
  · exact whole text o rest run

theorem yields_document : Yields document fun lines => ∀ l ∈ lines, l.Keyed := by
  refine .last fun _ => (Yields.many yields_line).bind fun lines keyed => ?_
  refine .last fun _ => .pure fun l mem => ?_
  obtain ⟨o, o_mem, rfl⟩ := List.mem_filterMap.1 mem
  exact keyed _ o_mem l rfl

theorem keyed_parse? {source : String} {entries : Entries} (run : parse? source = some entries) :
    entries.Keyed := by
  obtain ⟨⟨lines, rest⟩, taken, run⟩ := Option.bind_eq_some_iff.1 run
  exact keyed_ofLines (yields_document _ _ _ taken) run

end Toml

/-! ## Schemas -/

theorem sortedByKey_pairwise {α : Type} {entries : List (String × α)}
    (distinct : (entries.map Prod.fst).Nodup) :
    ((sortedByKey entries).map Prod.fst).Pairwise (· < ·) := by
  have sorted : (sortedByKey entries).Pairwise fun a b => decide (a.1 ≤ b.1) = true :=
    List.pairwise_mergeSort (fun a b c first second => by
        simp only [decide_eq_true_eq] at *
        exact String.le_trans first second)
      (fun a b => by
        simp only [Bool.or_eq_true, decide_eq_true_eq]
        exact String.le_total a.1 b.1) entries
  have kept : ((sortedByKey entries).map Prod.fst).Nodup :=
    ((List.mergeSort_perm entries _).map Prod.fst).nodup_iff.2 distinct
  have both := (List.pairwise_map.1 kept).and sorted
  refine List.pairwise_map.2 (both.imp fun {a b} h => ?_)
  exact String.not_le.1 fun le => h.1 (String.le_antisymm (of_decide_eq_true h.2) le)

namespace Schema

open Toml

theorem keyed_entriesOf? {item : Item} (keyed : item.Keyed) {entries : Entries}
    (run : entriesOf? item = some entries) : entries.Keyed := by
  cases keyed with
  | table kind keyed =>
    cases run
    exact keyed
  | dateTime text =>
    cases run
    refine ⟨List.nodup_singleton _, fun e mem => ?_⟩
    rw [List.mem_singleton.1 mem]
    exact .string text
  | _ => cases run

theorem forall₂_of_mapM {α β : Type} {f : α → Option β} {l : List α} {out : List β}
    (run : l.mapM f = some out) : List.Forall₂ (fun a b => f a = some b) l out := by
  induction l generalizing out with
  | nil =>
    cases run
    exact .nil
  | cons a l ih =>
    rw [List.mapM_cons] at run
    obtain ⟨b, first, run⟩ := Option.bind_eq_some_iff.1 run
    obtain ⟨rest, others, run⟩ := Option.bind_eq_some_iff.1 run
    cases run
    exact .cons first (ih others)

theorem typeTexts?_pairwise {item : Item} (keyed : item.Keyed) {texts : List (String × String)}
    (run : typeTexts? item = some texts) : (texts.map Prod.fst).Pairwise (· < ·) := by
  obtain ⟨entries, table, run⟩ := Option.bind_eq_some_iff.1 run
  obtain ⟨unsorted, converted, run⟩ := Option.bind_eq_some_iff.1 run
  cases run
  have kept : ∀ a b, typeText? a = some b → b.1 = a.1 := by
    intro a b given
    unfold typeText? at given
    split at given
    · cases given
      rfl
    · cases given
  refine sortedByKey_pairwise ?_
  rw [map_eq_of_forall₂ ((forall₂_of_mapM converted).imp kept)]
  exact (keyed_entriesOf? keyed table).distinct

theorem typeTextsOr?_pairwise {item : Option Item} (keyed : ∀ i, item = some i → i.Keyed)
    {texts : List (String × String)} (run : typeTextsOr? item = some texts) :
    (texts.map Prod.fst).Pairwise (· < ·) := by
  cases item with
  | none =>
    cases run
    exact List.Pairwise.nil
  | some item => exact typeTexts?_pairwise (keyed item rfl) run

theorem classOfParts?_pairwise {fields properties : Option Item}
    (first : ∀ i, fields = some i → i.Keyed) (second : ∀ i, properties = some i → i.Keyed)
    {d : ClassDeclaration} (run : classOfParts? fields properties = some d) :
    (d.fields.map Prod.fst).Pairwise (· < ·) ∧ (d.properties.map Prod.fst).Pairwise (· < ·) := by
  obtain ⟨fieldTexts, given, run⟩ := Option.bind_eq_some_iff.1 run
  obtain ⟨propertyTexts, given', run⟩ := Option.bind_eq_some_iff.1 run
  cases run
  exact ⟨typeTextsOr?_pairwise first given, typeTextsOr?_pairwise second given'⟩

theorem class?_pairwise {item : Item} (keyed : item.Keyed) {d : ClassDeclaration}
    (run : class? item = some d) :
    (d.fields.map Prod.fst).Pairwise (· < ·) ∧ (d.properties.map Prod.fst).Pairwise (· < ·) := by
  unfold class? at run
  split at run
  · rename_i items
    have inner : ∀ i ∈ items, i.Keyed := by
      cases keyed with
      | array inner => exact inner
    exact classOfParts?_pairwise (fun i at_zero => inner i (List.mem_of_getElem? at_zero))
      (fun i at_one => inner i (List.mem_of_getElem? at_one)) run
  · rename_i tables
    have row : ∀ (n : Nat) (i : Item), tables[n]?.map (Item.table .header) = some i → i.Keyed := by
      intro n i at_n
      obtain ⟨t, found, rfl⟩ := Option.map_eq_some_iff.1 at_n
      have within : t ∈ tables := List.mem_of_getElem? found
      exact .table .header (Entries.keyed_of_rows keyed t within)
    exact classOfParts?_pairwise (row 0) (row 1) run
  · obtain ⟨entries, table, run⟩ := Option.bind_eq_some_iff.1 run
    have inner := keyed_entriesOf? keyed table
    exact classOfParts?_pairwise (fun _ => inner.lookup) (fun _ => inner.lookup) run

theorem ordered_of_ofEntries? {document : Entries} (keyed : document.Keyed) {schema : Schema}
    (run : ofEntries? document = some schema) : schema.Ordered := by
  unfold ofEntries? at run
  split at run
  · cases run
    exact ⟨.nil, nofun, nofun⟩
  · rename_i classes found
    obtain ⟨entries, table, run⟩ := Option.bind_eq_some_iff.1 run
    obtain ⟨declared, converted, run⟩ := Option.bind_eq_some_iff.1 run
    cases run
    have inner := keyed_entriesOf? (keyed.lookup found) table
    have each := forall₂_of_mapM converted
    have read : ∀ (a : String × Item) (c : String × ClassDeclaration),
        (do return (a.1, ← class? a.2)) = some c → class? a.2 = some c.2 ∧ c.1 = a.1 := by
      intro a c given
      obtain ⟨d, read, given⟩ := Option.bind_eq_some_iff.1 given
      cases given
      exact ⟨read, rfl⟩
    have classes_ordered : ∀ c ∈ sortedByKey declared,
        (c.2.fields.map Prod.fst).Pairwise (· < ·) ∧
          (c.2.properties.map Prod.fst).Pairwise (· < ·) := by
      intro c mem
      obtain ⟨a, a_mem, given⟩ := exists_of_forall₂ each.flip (List.mem_mergeSort.1 mem)
      exact class?_pairwise (inner.inner a a_mem) (read a c given).1
    refine ⟨sortedByKey_pairwise ?_, fun c mem => (classes_ordered c mem).1,
      fun c mem => (classes_ordered c mem).2⟩
    rw [map_eq_of_forall₂ (each.imp fun a c given => (read a c given).2)]
    exact inner.distinct

/-- A schema that is read is a map of maps. -/
theorem ordered_of_ofToml {source : String} {schema : Schema} (run : ofToml source = .ok schema) :
    schema.Ordered := by
  unfold ofToml at run
  split at run
  · rename_i schema' read
    cases run
    obtain ⟨document, parsed, run⟩ := Option.bind_eq_some_iff.1 read
    exact ordered_of_ofEntries? (Toml.keyed_parse? parsed) run
  · cases run

end Schema

end ExpressionGraphs
