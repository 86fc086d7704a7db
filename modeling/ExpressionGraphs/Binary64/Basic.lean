set_option autoImplicit false

/-!
# Double-precision numbers

A number is its 64 bits in the IEEE 754 binary64 interchange format. Two numbers are the
same datum when their bits agree; `ieeeEq` is the numerical comparison, for which NaN is
unequal to everything and the two zeros are equal.
-/

namespace ExpressionGraphs

structure Binary64 where
  bits : UInt64
  deriving DecidableEq, Repr, Inhabited

namespace Binary64

def isNegative (x : Binary64) : Bool := x.bits.toNat.testBit 63

def biasedExponent (x : Binary64) : Nat := x.bits.toNat / Nat.pow 2 52 % Nat.pow 2 11

def fraction (x : Binary64) : Nat := x.bits.toNat % Nat.pow 2 52

def isNaN (x : Binary64) : Bool := x.biasedExponent = 2047 && x.fraction ≠ 0

def isInfinite (x : Binary64) : Bool := x.biasedExponent = 2047 && x.fraction = 0

def isZero (x : Binary64) : Bool := x.biasedExponent = 0 && x.fraction = 0

def ieeeEq (x y : Binary64) : Bool :=
  !x.isNaN && !y.isNaN && (x.bits = y.bits || (x.isZero && y.isZero))

instance : BEq Binary64 := ⟨ieeeEq⟩

theorem beq_def (x y : Binary64) : (x == y) = ieeeEq x y := rfl

theorem beq_self (x : Binary64) : (x == x) = !x.isNaN := by
  simp [beq_def, ieeeEq]

theorem beq_symm {x y : Binary64} (h : (x == y) = true) : (y == x) = true := by
  simp only [beq_def, ieeeEq, Bool.and_eq_true, Bool.or_eq_true, decide_eq_true_eq] at *
  exact ⟨⟨h.1.2, h.1.1⟩, h.2.imp Eq.symm fun zeros => ⟨zeros.2, zeros.1⟩⟩

/-- The magnitude of a finite number is `significand * 2 ^ scale`. -/
def significand (x : Binary64) : Nat :=
  if x.biasedExponent = 0 then x.fraction else Nat.pow 2 52 + x.fraction

def scale (x : Binary64) : Int :=
  if x.biasedExponent = 0 then -1074 else (x.biasedExponent : Int) - 1075

end Binary64
end ExpressionGraphs
