import ExpressionGraphs.Expr.Form
import ExpressionGraphs.Expr.Text
import ExpressionGraphs.Proofs.ExprEquality

set_option autoImplicit false

/-!
# Texts of equal expressions

Besides identities, the sign of zeros is all that equality of expressions ignores. Where the zeros
at corresponding positions have one sign, equal expressions have one form, and a text is written
from the form alone.
-/

namespace ExpressionGraphs

namespace Binary64

theorem bits_of_isZero {x : Binary64} (zero : x.isZero = true) :
    x.bits.toNat = if x.isNegative then Nat.pow 2 63 else 0 := by
  have bound := x.bits.toNat_lt
  rw [isZero, Bool.and_eq_true, decide_eq_true_eq, decide_eq_true_eq] at zero
  have exponent : x.bits.toNat / Nat.pow 2 52 % Nat.pow 2 11 = 0 := zero.1
  have fraction : x.bits.toNat % Nat.pow 2 52 = 0 := zero.2
  rw [isNegative, Nat.testBit_eq_decide_div_mod_eq]
  simp only [Nat.pow_eq, decide_eq_true_eq] at exponent fraction ⊢
  split <;> omega

theorem eq_of_beq {x y : Binary64} (equal : (x == y) = true)
    (signs : x.isZero = true → y.isZero = true → x.isNegative = y.isNegative) : x = y := by
  have same : x.bits = y.bits → x = y := by
    cases x
    cases y
    exact congrArg Binary64.mk
  simp only [beq_def, ieeeEq, Bool.and_eq_true, Bool.or_eq_true, decide_eq_true_eq] at equal
  rcases equal.2 with bits | ⟨left, right⟩
  · exact same bits
  · refine same (UInt64.toNat_inj.1 ?_)
    rw [bits_of_isZero left, bits_of_isZero right, signs left right]

end Binary64

namespace Value

def at? (v : Value) : List Nat → Option Value
  | [] => some v
  | i :: path => v.parts[i]?.bind fun part => part.at? path

def ZerosAgree (v w : Value) : Prop :=
  ∀ path x y, v.at? path = some (.float x) → w.at? path = some (.float y) →
    x.isZero = true → y.isZero = true → x.isNegative = y.isNegative

theorem at?_cons (v : Value) (i : Nat) (path : List Nat) :
    v.at? (i :: path) = v.parts[i]?.bind fun part => part.at? path := rfl

theorem ZerosAgree.refl (v : Value) : v.ZerosAgree v := by
  intro path x y left right _ _
  rw [left] at right
  cases right
  rfl

theorem ZerosAgree.part {v w a b : Value} (zeros : v.ZerosAgree w) {i : Nat}
    (left : v.parts[i]? = some a) (right : w.parts[i]? = some b) : a.ZerosAgree b := by
  intro path x y inner inner'
  refine zeros (i :: path) x y ?_ ?_
  · rw [at?_cons, left]
    exact inner
  · rw [at?_cons, right]
    exact inner'

mutual

theorem eq_of_same : {v w : Value} → same v w = true → v.ZerosAgree w → v = w
  | null, w, h, _ | bool _, w, h, _ | int _, w, h, _ | string _, w, h, _ => by
    cases w <;> simp_all [same]
  | float x, w, h, zeros => by
    cases w <;> simp only [same, Bool.false_eq_true] at h
    exact congrArg float (Binary64.eq_of_beq h (zeros [] _ _ rfl rfl))
  | array as, w, h, zeros => by
    cases w <;> simp only [same, Bool.false_eq_true] at h
    exact congrArg array (eq_of_sameItems h fun _ _ _ => zeros.part)
  | record c fs, w, h, zeros => by
    cases w <;> simp only [same, Bool.and_eq_true, decide_eq_true_eq, Bool.false_eq_true] at h
    rw [h.1, eq_of_sameFields h.2 fun _ _ _ => zeros.part]
  | boxed t v, w, h, zeros => by
    cases w <;> simp only [same, Bool.and_eq_true, decide_eq_true_eq, Bool.false_eq_true] at h
    rw [h.1, eq_of_same h.2 (zeros.part (i := 0) rfl rfl)]

theorem eq_of_sameItems : {as bs : List Value} → sameItems as bs = true →
    (∀ (i : Nat) (a b : Value), as[i]? = some a → bs[i]? = some b → a.ZerosAgree b) → as = bs
  | [], bs, h, _ => by cases bs <;> simp_all [sameItems]
  | a :: as, bs, h, zeros => by
    cases bs <;> simp only [sameItems, Bool.and_eq_true, Bool.false_eq_true] at h
    rw [eq_of_same h.1 (zeros 0 _ _ rfl rfl), eq_of_sameItems h.2 fun i => zeros (i + 1)]

theorem eq_of_sameFields : {fs gs : List (String × Value)} → sameFields fs gs = true →
    (∀ (i : Nat) (a b : Value), (fs.map Prod.snd)[i]? = some a → (gs.map Prod.snd)[i]? = some b →
      a.ZerosAgree b) → fs = gs
  | [], gs, h, _ => by cases gs <;> simp_all [sameFields]
  | (m, a) :: fs, gs, h, zeros => by
    cases gs <;>
      simp only [sameFields, Bool.and_eq_true, decide_eq_true_eq, Bool.false_eq_true] at h
    rw [h.1.1, eq_of_same h.1.2 (zeros 0 _ _ rfl rfl),
      eq_of_sameFields h.2 fun i => zeros (i + 1)]

end

end Value

namespace Kind

variable {α β : Type}

theorem shape_map (f : α → β) (kind : Kind α) : (kind.map f).shape = kind.shape := by
  rw [shape, map_map]
  rfl

theorem eq_of_shape {k l : Kind α} (shapes : k.shape = l.shape) (slots : k.slots = l.slots) :
    k = l := by
  cases k <;> cases l <;> simp only [shape, map, Kind.slots, reduceCtorEq] at shapes slots
  case lambda.lambda =>
    obtain ⟨params, body⟩ := List.append_inj' slots rfl
    rw [params, List.head_eq_of_cons_eq body]
  all_goals simp_all

theorem eq_constant_of_shape {k : Kind α} {v : Value} (h : k.shape = .constant v) :
    k = .constant v := by
  cases k <;> cases h
  rfl

end Kind

def Form.text : Form → String
  | node _ kind => (kind.attach.map fun child => child.1.text).text
termination_by form => sizeOf form
decreasing_by
  have := Kind.sizeOf_lt_of_mem_slots child.2
  simp only [node.sizeOf_spec]
  omega

theorem Form.text_node (ty : Ty) (kind : Kind Form) : (node ty kind).text = (kind.map text).text := by
  rw [text, Kind.attach_map]

namespace Expr

theorem text_form (e : Expr) : e.form.text = e.text := by
  induction e using induction with
  | step e ih =>
    rw [form_eq, Form.text_node, Kind.map_map, text_eq]
    exact congrArg Kind.text (Kind.map_congr ih)

def ZerosAgree (a b : Expr) : Prop :=
  ∀ path c d v w, a.at? path = some c → b.at? path = some d →
    c.kind = .constant v → d.kind = .constant w → v.ZerosAgree w

theorem ZerosAgree.slot {a b c d : Expr} (zeros : a.ZerosAgree b) {i : Nat}
    (left : a.kind.slots[i]? = some c) (right : b.kind.slots[i]? = some d) : c.ZerosAgree d := by
  intro path e f v w inner inner'
  refine zeros (i :: path) e f v w ?_ ?_
  · rw [at?_cons, left]
    exact inner
  · rw [at?_cons, right]
    exact inner'

theorem form_eq_of_at? {a b c d : Expr} {path : List Nat} (same : a.form = b.form)
    (left : a.at? path = some c) (right : b.at? path = some d) : c.form = d.form := by
  induction path generalizing a b with
  | nil =>
    cases left
    cases right
    exact same
  | cons i path ih =>
    rw [form_eq, form_eq] at same
    have slots := congrArg Kind.slots (Form.node.inj same).2
    rw [Kind.slots_map, Kind.slots_map] at slots
    obtain ⟨child, slot, inner⟩ := Option.bind_eq_some_iff.1 left
    obtain ⟨child', slot', inner'⟩ := Option.bind_eq_some_iff.1 right
    have children := congrArg (·[i]?) slots
    simp only [List.getElem?_map, slot, slot', Option.map_some, Option.some.injEq] at children
    exact ih children inner inner'

theorem zerosAgree_of_form_eq {a b : Expr} (same : a.form = b.form) : a.ZerosAgree b := by
  intro path c d v w left right kind kind'
  have forms := form_eq_of_at? same left right
  rw [form_eq, form_eq, kind, kind'] at forms
  have values : v = w := Kind.constant.inj (Form.node.inj forms).2
  rw [values]
  exact Value.ZerosAgree.refl w

section Equal

variable {s : Supply} {held : List Expr}

theorem kind_form_eq_of_beq {a b : Expr} (zeros : a.ZerosAgree b)
    (shapes : (a.kind.shape == b.kind.shape) = true)
    (slots : a.kind.slots.map form = b.kind.slots.map form) :
    a.kind.map form = b.kind.map form := by
  rcases Kind.eq_or_constant_of_beq shapes with same | ⟨v, w, left, right, values⟩
  · refine Kind.eq_of_shape ?_ ?_
    · rw [Kind.shape_map, Kind.shape_map, same]
    · rw [Kind.slots_map, Kind.slots_map, slots]
  · have kind := Kind.eq_constant_of_shape left
    have kind' := Kind.eq_constant_of_shape right
    rw [kind, kind', Value.eq_of_same values (zeros [] a b v w rfl rfl kind kind')]

theorem form_eq_of_beq (sound : s.Sound held) {a b : Expr} (a_mem : a ∈ nodesOf held)
    (b_mem : b ∈ nodesOf held) (equal : (a == b) = true) (zeros : a.ZerosAgree b) :
    a.form = b.form := by
  induction a using induction generalizing b with
  | step a ih =>
    rcases beq_iff.1 equal with same | ⟨types, shapes, children⟩
    · rw [sound.eq_of_sameNode a_mem b_mem same]
    · have slots : a.kind.slots.map form = b.kind.slots.map form := by
        refine List.ext_getElem (by simpa using children.length_eq) fun i left right => ?_
        rw [List.length_map] at left right
        rw [List.getElem_map, List.getElem_map]
        have slot := List.getElem_mem left
        refine ih _ slot (mem_nodesOf_of_mem_slots a_mem slot)
          (mem_nodesOf_of_mem_slots b_mem (List.getElem_mem right)) (children.get left right) ?_
        exact zeros.slot (List.getElem?_eq_getElem left) (List.getElem?_eq_getElem right)
      rw [form_eq, form_eq, types, kind_form_eq_of_beq zeros shapes slots]

/-- Equal expressions have one form just if the zeros of their constants agree, so that equality
ignores nothing else but identities. Then they have one text. -/
theorem text_eq_of_beq (reach : Reachable s held) {a b : Expr} (a_mem : a ∈ nodesOf held)
    (b_mem : b ∈ nodesOf held) (equal : (a == b) = true) :
    (a.ZerosAgree b ↔ a.form = b.form) ∧ (a.ZerosAgree b → a.text = b.text) := by
  have forms : a.ZerosAgree b → a.form = b.form := form_eq_of_beq reach.sound a_mem b_mem equal
  refine ⟨⟨forms, zerosAgree_of_form_eq⟩, fun zeros => ?_⟩
  rw [← text_form, ← text_form, forms zeros]

end Equal

end Expr

/-! ## Offsets that hold both zeros, scaled twice -/

namespace Sample

def offsets : Value := .array [.float ⟨0x8000000000000000⟩, .float ⟨0⟩]

def offset (i : Nat) : Expr := .node ⟨i⟩ (.array .float) (.constant offsets)

def scaled (i : Nat) (operand : Expr) : Expr :=
  .node ⟨i⟩ (.array .float) (.call "Scale" [operand])

def scales : List Expr := [scaled 3 (offset 1), scaled 2 (offset 0), offset 1, offset 0]

theorem reachable_scales : Reachable ⟨4⟩ scales := by
  have constants : Reachable ⟨2⟩ [offset 1, offset 0] :=
    ((Reachable.start ⟨0⟩).next (.build (.constant offsets (.array .float)))).next
      (.build (.constant offsets (.array .float)))
  have first : ∀ arg ∈ [offset 0], arg ∈ [offset 1, offset 0] := by simp
  have second : ∀ arg ∈ [offset 1], arg ∈ [scaled 2 (offset 0), offset 1, offset 0] := by simp
  exact (constants.next (.build (.call "Scale" first (.array .float)))).next
    (.build (.call "Scale" second (.array .float)))

end Sample

namespace Expr

theorem text_eq_of_beq_scales :
    Reachable ⟨4⟩ Sample.scales ∧
    (Sample.scaled 2 (Sample.offset 0)).sameNode (Sample.scaled 3 (Sample.offset 1)) = false ∧
    (Sample.scaled 2 (Sample.offset 0) == Sample.scaled 3 (Sample.offset 1)) = true ∧
    (Sample.scaled 2 (Sample.offset 0)).ZerosAgree (Sample.scaled 3 (Sample.offset 1)) ∧
    (Sample.scaled 2 (Sample.offset 0)).text = (Sample.scaled 3 (Sample.offset 1)).text := by
  have equal : (Sample.scaled 2 (Sample.offset 0) == Sample.scaled 3 (Sample.offset 1)) = true := by
    decide +kernel
  have forms : (Sample.scaled 2 (Sample.offset 0)).form =
      (Sample.scaled 3 (Sample.offset 1)).form := by
    simp [Sample.scaled, Sample.offset, form_node, Kind.map]
  have zeros := zerosAgree_of_form_eq forms
  obtain ⟨_, same⟩ := text_eq_of_beq Sample.reachable_scales
    (mem_nodesOf_of_mem (e := Sample.scaled 2 (Sample.offset 0)) (by simp [Sample.scales]))
    (mem_nodesOf_of_mem (e := Sample.scaled 3 (Sample.offset 1)) (by simp [Sample.scales])) equal
  exact ⟨Sample.reachable_scales, rfl, equal, zeros, same zeros⟩

/-- Zeros of different signs are equal and are written differently. -/
example : (Value.float ⟨0⟩ == .float ⟨0x8000000000000000⟩) = true ∧
    (Value.float ⟨0⟩).text = "0.0" ∧ (Value.float ⟨0x8000000000000000⟩).text = "-0.0" := by
  decide +kernel

end Expr

end ExpressionGraphs
