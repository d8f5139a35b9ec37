/-!
# Binary floating-point values

A number written with a fraction or an exponent is held as the 64 bits of the nearest binary64
value.  Bits have decidable equality and determine an exact ratio of integers, so comparisons and
printed digits are computed exactly.
-/

namespace PandocHtml

/-- A binary64 value, given by its bits. -/
structure Binary64 where
  bits : UInt64
deriving DecidableEq

namespace Binary64

/-! ### Fields of the bit pattern -/

def negative (x : Binary64) : Bool := x.bits >>> 63 == 1

def biased (x : Binary64) : Nat := ((x.bits >>> 52) &&& 0x7FF).toNat

def fraction (x : Binary64) : Nat := (x.bits &&& 0xFFFFFFFFFFFFF).toNat

/-- Not a number: the largest exponent with a fraction. -/
def isNaN (x : Binary64) : Bool := x.biased == 0x7FF && x.fraction != 0

/-- An infinity: the largest exponent without a fraction. -/
def isInfinite (x : Binary64) : Bool := x.biased == 0x7FF && x.fraction == 0

def isZero (x : Binary64) : Bool := x.biased == 0 && x.fraction == 0

/-- The significand `m` of a finite value `m * 2 ^ q`. -/
def significand (x : Binary64) : Nat :=
  if x.biased == 0 then x.fraction else 0x10000000000000 + x.fraction

/-- The exponent `q` of a finite value `m * 2 ^ q`. -/
def exponent (x : Binary64) : Int :=
  if x.biased == 0 then -1074 else (x.biased : Int) - 1075

/-- The gap to the next value below is half the gap to the next value above. -/
def narrowBelow (x : Binary64) : Bool := x.fraction == 0 && x.biased > 1

/-! ### Exact comparison -/

/-- The exact value of a finite number as a signed numerator over a power of two. -/
def ratio (x : Binary64) : Int × Nat :=
  let num : Nat := x.significand * Nat.pow 2 x.exponent.toNat
  (if x.negative then -(num : Int) else num, Nat.pow 2 (-x.exponent).toNat)

/-- A finite number equals an integer exactly when its numerator is that multiple of its
denominator. -/
def eqInt (x : Binary64) (n : Int) : Bool :=
  !x.isNaN && !x.isInfinite && x.ratio.1 == n * x.ratio.2

/-- Strictly below an integer; nothing is below or above when the number is not a number. -/
def ltInt (x : Binary64) (n : Int) : Bool :=
  if x.isNaN then false
  else if x.isInfinite then x.negative
  else x.ratio.1 < n * x.ratio.2

def gtInt (x : Binary64) (n : Int) : Bool :=
  if x.isNaN then false
  else if x.isInfinite then !x.negative
  else n * x.ratio.2 < x.ratio.1

/-- The same number: equal bits, or the two zeros. -/
def same (x y : Binary64) : Bool := x == y || (x.isZero && y.isZero)

def truncate (x : Binary64) : Int := Int.tdiv x.ratio.1 x.ratio.2

/-! ### Reading decimals -/

/-- The value nearest to `mantissa * 10 ^ exp`.  Magnitudes far outside the range are decided by
their decimal length alone, so no large power is formed. -/
def ofDecimal (negative : Bool) (mantissa : Nat) (exp : Int) : Binary64 :=
  let lead : Int := exp + (Nat.toDigits 10 mantissa).length
  let magnitude : UInt64 :=
    if mantissa == 0 then 0
    else if lead > 400 then 0x7FF0000000000000
    else if lead < -400 then 0
    else (Float.ofScientific mantissa (exp < 0) exp.natAbs).toBits
  ⟨if negative then magnitude ||| 0x8000000000000000 else magnitude⟩

def infinity : Binary64 := ⟨0x7FF0000000000000⟩

def negativeInfinity : Binary64 := ⟨0xFFF0000000000000⟩

def nan : Binary64 := ⟨0x7FF8000000000000⟩

theorem same_refl (x : Binary64) : x.same x = true := by simp [same]

theorem same_comm (x y : Binary64) : x.same y = y.same x := by
  simp only [same, Bool.and_comm x.isZero, BEq.comm (a := x)]

end Binary64

end PandocHtml
