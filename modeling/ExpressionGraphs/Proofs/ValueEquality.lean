import ExpressionGraphs.Value.Shared

set_option autoImplicit false

/-!
# Equality of values

Equality of values is symmetric and transitive. It is not reflexive, for a value that holds NaN at
any depth differs from itself, and also from a copy with which it shares every record and box. All
other values equal their copies.
-/

namespace ExpressionGraphs

theorem Binary64.beq_trans {x y z : Binary64} (first : (x == y) = true)
    (second : (y == z) = true) : (x == z) = true := by
  simp only [beq_def, ieeeEq, Bool.and_eq_true, Bool.or_eq_true, decide_eq_true_eq] at *
  obtain ⟨⟨number, _⟩, left⟩ := first
  obtain ⟨⟨_, number'⟩, right⟩ := second
  refine ⟨⟨number, number'⟩, ?_⟩
  have same : ∀ {v w : Binary64}, v.bits = w.bits → v = w := fun {v w} bits => by
    cases v
    cases w
    exact congrArg Binary64.mk bits
  rcases left with bits | zeros
  · rw [same bits]
    exact right
  · rcases right with bits | zeros'
    · rw [← same bits]
      exact .inr zeros
    · exact .inr ⟨zeros.1, zeros'.2⟩

namespace Value

mutual

theorem same_symm : {a b : Value} → same a b = true → same b a = true
  | null, b, h | bool _, b, h | int _, b, h | string _, b, h => by
    cases b <;> simp_all [same]
  | float _, b, h => by
    cases b <;> simp only [same, Bool.false_eq_true] at h
    exact Binary64.beq_symm h
  | array _, b, h => by
    cases b <;> simp only [same, Bool.false_eq_true] at h
    exact sameItems_symm h
  | record _ _, b, h => by
    cases b <;> simp only [same, Bool.and_eq_true, decide_eq_true_eq, Bool.false_eq_true] at h ⊢
    exact ⟨h.1.symm, sameFields_symm h.2⟩
  | boxed _ _, b, h => by
    cases b <;> simp only [same, Bool.and_eq_true, decide_eq_true_eq, Bool.false_eq_true] at h ⊢
    exact ⟨h.1.symm, same_symm h.2⟩

theorem sameItems_symm : {as bs : List Value} → sameItems as bs = true → sameItems bs as = true
  | [], bs, h => by cases bs <;> simp_all [sameItems]
  | _ :: _, bs, h => by
    cases bs <;> simp only [sameItems, Bool.and_eq_true, Bool.false_eq_true] at h ⊢
    exact ⟨same_symm h.1, sameItems_symm h.2⟩

theorem sameFields_symm : {fs gs : List (String × Value)} → sameFields fs gs = true →
    sameFields gs fs = true
  | [], gs, h => by cases gs <;> simp_all [sameFields]
  | (_, _) :: _, gs, h => by
    cases gs <;>
      simp only [sameFields, Bool.and_eq_true, decide_eq_true_eq, Bool.false_eq_true] at h ⊢
    exact ⟨⟨h.1.1.symm, same_symm h.1.2⟩, sameFields_symm h.2⟩

end

mutual

theorem same_trans : {a b c : Value} → same a b = true → same b c = true → same a c = true
  | null, b, c, h, h' | bool _, b, c, h, h' | int _, b, c, h, h' | string _, b, c, h, h' => by
    cases b <;> simp_all [same]
  | float _, b, c, h, h' => by
    cases b <;> simp only [same, Bool.false_eq_true] at h
    cases c <;> simp only [same, Bool.false_eq_true] at h' ⊢
    exact Binary64.beq_trans h h'
  | array _, b, c, h, h' => by
    cases b <;> simp only [same, Bool.false_eq_true] at h
    cases c <;> simp only [same, Bool.false_eq_true] at h' ⊢
    exact sameItems_trans h h'
  | record _ _, b, c, h, h' => by
    cases b <;> simp only [same, Bool.and_eq_true, decide_eq_true_eq, Bool.false_eq_true] at h
    cases c <;> simp only [same, Bool.and_eq_true, decide_eq_true_eq, Bool.false_eq_true] at h' ⊢
    exact ⟨h.1.trans h'.1, sameFields_trans h.2 h'.2⟩
  | boxed _ _, b, c, h, h' => by
    cases b <;> simp only [same, Bool.and_eq_true, decide_eq_true_eq, Bool.false_eq_true] at h
    cases c <;> simp only [same, Bool.and_eq_true, decide_eq_true_eq, Bool.false_eq_true] at h' ⊢
    exact ⟨h.1.trans h'.1, same_trans h.2 h'.2⟩

theorem sameItems_trans : {as bs cs : List Value} → sameItems as bs = true →
    sameItems bs cs = true → sameItems as cs = true
  | [], bs, cs, h, h' => by cases bs <;> simp_all [sameItems]
  | _ :: _, bs, cs, h, h' => by
    cases bs <;> simp only [sameItems, Bool.and_eq_true, Bool.false_eq_true] at h
    cases cs <;> simp only [sameItems, Bool.and_eq_true, Bool.false_eq_true] at h' ⊢
    exact ⟨same_trans h.1 h'.1, sameItems_trans h.2 h'.2⟩

theorem sameFields_trans : {fs gs hs : List (String × Value)} → sameFields fs gs = true →
    sameFields gs hs = true → sameFields fs hs = true
  | [], gs, hs, h, h' => by cases gs <;> simp_all [sameFields]
  | (_, _) :: _, gs, hs, h, h' => by
    cases gs <;>
      simp only [sameFields, Bool.and_eq_true, decide_eq_true_eq, Bool.false_eq_true] at h
    cases hs <;>
      simp only [sameFields, Bool.and_eq_true, decide_eq_true_eq, Bool.false_eq_true] at h' ⊢
    exact ⟨⟨h.1.1.trans h'.1.1, same_trans h.1.2 h'.1.2⟩, sameFields_trans h.2 h'.2⟩

end

theorem beq_symm {a b : Value} (h : (a == b) = true) : (b == a) = true := same_symm h

theorem beq_trans {a b c : Value} (h : (a == b) = true) (h' : (b == c) = true) :
    (a == c) = true := same_trans h h'

/-! ## Values that equal themselves -/

def parts : Value → List Value
  | array items => items
  | record _ fields => fields.map Prod.snd
  | boxed _ value => [value]
  | null | bool _ | int _ | float _ | string _ => []

inductive OccursIn (inner : Value) : Value → Prop
  | self : OccursIn inner inner
  | within {part outer : Value} (mem : part ∈ outer.parts) (occurs : OccursIn inner part) :
    OccursIn inner outer

theorem sizeOf_lt_of_mem_parts {v part : Value} (h : part ∈ v.parts) : sizeOf part < sizeOf v := by
  cases v with
  | array items =>
    have := List.sizeOf_lt_of_mem (show part ∈ items from h)
    simp only [array.sizeOf_spec]
    omega
  | record className fields =>
    obtain ⟨⟨name, value⟩, mem, rfl⟩ := List.mem_map.1 h
    have := List.sizeOf_lt_of_mem mem
    simp only [record.sizeOf_spec, Prod.mk.sizeOf_spec] at *
    omega
  | boxed ty value =>
    rw [List.mem_singleton.1 h]
    simp only [boxed.sizeOf_spec]
    omega
  | _ => cases h

@[elab_as_elim]
theorem induction {motive : Value → Prop}
    (step : ∀ v, (∀ part ∈ v.parts, motive part) → motive v) (v : Value) : motive v :=
  step v fun part _ => induction step part
termination_by sizeOf v
decreasing_by exact sizeOf_lt_of_mem_parts ‹_›

theorem sameItems_self (items : List Value) :
    sameItems items items = items.all fun item => item == item := by
  induction items with
  | nil => simp [sameItems]
  | cons item items ih => simp [sameItems, ih, beq_def]

theorem sameFields_self (fields : List (String × Value)) :
    sameFields fields fields = (fields.map Prod.snd).all fun value => value == value := by
  induction fields with
  | nil => simp [sameFields]
  | cons field fields ih => simp [sameFields, ih, beq_def]

theorem beq_self_iff_parts (v : Value) :
    (v == v) = true ↔
      (∀ x, v = .float x → x.isNaN = false) ∧ ∀ part ∈ v.parts, (part == part) = true := by
  cases v with
  | float x => simp [parts, beq_def, same, Binary64.beq_self]
  | array items => simp [parts, beq_def (array items), same, sameItems_self]
  | record className fields =>
    simp only [parts, beq_def (record className fields), same, sameFields_self, decide_true,
      Bool.true_and, List.all_eq_true, reduceCtorEq, false_implies, implies_true, true_and]
  | boxed ty value => simp [parts, beq_def, same]
  | _ => simp [parts, beq_def, same]

theorem beq_self_iff (v : Value) :
    (v == v) = true ↔ ∀ x : Binary64, OccursIn (.float x) v → x.isNaN = false := by
  constructor
  · intro equal x occurs
    induction occurs with
    | self => exact ((beq_self_iff_parts _).1 equal).1 x rfl
    | within mem _ ih => exact ih (((beq_self_iff_parts _).1 equal).2 _ mem)
  · intro numbers
    induction v using induction with
    | step v ih =>
      refine (beq_self_iff_parts v).2 ⟨fun x float => ?_, fun part mem => ?_⟩
      · subst float
        exact numbers x .self
      · exact ih part mem fun x occurs => numbers x (.within mem occurs)

theorem beq_float_iff (x y : Binary64) :
    (float x == float y) = true ↔
      x.isNaN = false ∧ y.isNaN = false ∧ (x = y ∨ x.isZero = true ∧ y.isZero = true) := by
  have bits : x.bits = y.bits ↔ x = y := by
    cases x
    cases y
    exact (Binary64.mk.injEq _ _).to_iff.symm
  simp [beq_def, same, Binary64.beq_def, Binary64.ieeeEq, bits, and_assoc]

end Value

/-! ## A record that is held twice, once through a box -/

namespace Sample

def unknownLevel : Binary64 := ⟨0x7ff8000000000000⟩

def station : SharedValue :=
  .record ⟨0⟩ "Station" [("level", .array [.float ⟨0⟩, .float unknownLevel])]

def stations : SharedValue := .array [station, .boxed ⟨1⟩ (.named "Station") station]

end Sample

namespace Value

/-- Equality of values is a partial equivalence. Floats are compared as numbers, and the values that
equal themselves are those in which NaN occurs nowhere. The references through which records and
boxes are held do not matter: copies are equal exactly if what they are copies of equals itself,
whatever they share. -/
theorem beq_partial_equivalence :
    (∀ x y : Binary64, (float x == float y) = true ↔
      x.isNaN = false ∧ y.isNaN = false ∧ (x = y ∨ x.isZero = true ∧ y.isZero = true)) ∧
    (∀ a b : Value, (a == b) = true → (b == a) = true) ∧
    (∀ a b c : Value, (a == b) = true → (b == c) = true → (a == c) = true) ∧
    (∀ v : Value, (v == v) = true ↔ ∀ x : Binary64, OccursIn (.float x) v → x.isNaN = false) ∧
    ∀ a b : SharedValue, (a == b) = (a.content == b.content) ∧
      (a.content = b.content →
        ((a == b) = true ↔ ∀ x : Binary64, OccursIn (.float x) a.content → x.isNaN = false)) := by
  refine ⟨beq_float_iff, fun a b => beq_symm, fun a b c => beq_trans, beq_self_iff, fun a b => ?_⟩
  refine ⟨SharedValue.beq_eq a b, fun copies => ?_⟩
  rw [SharedValue.beq_eq, ← copies]
  exact beq_self_iff a.content

/-- Nothing in the two handles differs, and they are not equal. -/
theorem beq_partial_equivalence_stations : (Sample.stations == Sample.stations) = false := by
  obtain ⟨_, _, _, _, shared⟩ := beq_partial_equivalence
  refine Bool.eq_false_iff.2 fun equal => ?_
  have numbers := ((shared Sample.stations Sample.stations).2 rfl).1 equal Sample.unknownLevel
  have level : OccursIn (.float Sample.unknownLevel) Sample.station.content :=
    .within List.mem_cons_self (.within (List.mem_cons_of_mem _ List.mem_cons_self) .self)
  have occurs : OccursIn (.float Sample.unknownLevel) Sample.stations.content :=
    .within List.mem_cons_self level
  have nan : Sample.unknownLevel.isNaN = true := by decide
  rw [numbers occurs] at nan
  cases nan

end Value

end ExpressionGraphs
