import PointSum.Number.Basic

/-!
# Binary floating-point numbers

A binary number is a sign and a magnitude, the bits below the sign read as a natural number. The magnitudes count
the non-negative numbers of the format in ascending order: from zero through the subnormal numbers and the normal
ones up to `infinity`, and beyond that every magnitude is a NaN. The finite magnitudes stand for whole multiples of
one unit, the least positive number of the format; `units` says how many.

The magnitude `infinity` would stand for the next power of two after the greatest finite number. So the rule for
overflow needs no case of its own: `nearest` rounds a quotient of units to the nearest magnitude on the grid with
`infinity` on it, the even magnitude of two equally near (`roundHalfEven`), and cuts off above.
-/

namespace PointSum.Number

set_option autoImplicit false

open scoped CorePower

/-- The natural number nearest to `num / den`, the even one of two equally near. -/
def roundHalfEven (num den : Nat) : Nat :=
  let below := num / den
  let twice := 2 * (num % den)
  if twice < den then below
  else if den < twice then below + 1
  else if below % 2 = 0 then below else below + 1

structure BinaryFormat where
  exponentBits : Nat
  fractionBits : Nat
  exponentBits_gt : 1 < exponentBits := by decide
  fractionBits_pos : 0 < fractionBits := by decide
  deriving DecidableEq, Repr

namespace BinaryFormat

def single : BinaryFormat := ⟨8, 23, by decide, by decide⟩

def double : BinaryFormat := ⟨11, 52, by decide, by decide⟩

variable (f : BinaryFormat)

/-- How many magnitudes there are. -/
def magnitudes : Nat := 2 ^ (f.exponentBits + f.fractionBits)

def infinity : Nat := (2 ^ f.exponentBits - 1) * 2 ^ f.fractionBits

/-- The exponent above which there is no finite number: all of them are below `2 ^ f.exponentLimit`. -/
def exponentLimit : Nat := 2 ^ (f.exponentBits - 1)

/-- The unit is `2 ^ -f.unitExponent`. -/
def unitExponent : Nat := f.exponentLimit - 2 + f.fractionBits

theorem infinity_lt : f.infinity < f.magnitudes := by
  unfold infinity magnitudes
  rw [Nat.pow_add]
  have hf : 0 < 2 ^ f.fractionBits := Nat.two_pow_pos _
  have he : 0 < 2 ^ f.exponentBits := Nat.two_pow_pos _
  exact Nat.mul_lt_mul_of_pos_right (by omega) hf

/-- How many units the magnitude stands for: the fraction itself below the first power of two, and the fraction with
a leading bit, scaled by the exponent, from there on. -/
def units (magnitude : Nat) : Nat :=
  let exponent := magnitude / 2 ^ f.fractionBits
  let fraction := magnitude % 2 ^ f.fractionBits
  if exponent = 0 then fraction else (2 ^ f.fractionBits + fraction) * 2 ^ (exponent - 1)

/-- The magnitude nearest to the quotient `num / den` of units, the even one of two equally near. -/
def nearest (num den : Nat) : Nat :=
  let scale := (num / den).log2 - f.fractionBits
  min (scale * 2 ^ f.fractionBits + roundHalfEven num (den * 2 ^ scale)) f.infinity

theorem nearest_lt (num den : Nat) : f.nearest num den < f.magnitudes :=
  Nat.lt_of_le_of_lt (Nat.min_le_right _ _) f.infinity_lt

end BinaryFormat

structure Binary (f : BinaryFormat) where
  negative : Bool
  /-- The bits below the sign, as a natural number. -/
  magnitude : Nat
  magnitude_lt : magnitude < f.magnitudes
  deriving DecidableEq, Repr

namespace Binary

variable {f : BinaryFormat}

/-- The number with the given bits, the sign bit on top. -/
def ofBits? (f : BinaryFormat) (bits : Nat) : Option (Binary f) :=
  if h : bits < f.magnitudes then some ⟨false, bits, h⟩
  else if h : bits - f.magnitudes < f.magnitudes then some ⟨true, bits - f.magnitudes, h⟩
  else none

def toBits (a : Binary f) : Nat :=
  if a.negative then f.magnitudes + a.magnitude else a.magnitude

/-- The zero of the sign. -/
def zero (negative : Bool) : Binary f :=
  ⟨negative, 0, Nat.two_pow_pos _⟩

def infinity (negative : Bool) : Binary f :=
  ⟨negative, f.infinity, f.infinity_lt⟩

/-- The NaN that operations give. -/
def nan : Binary f :=
  ⟨false, f.infinity + 2 ^ (f.fractionBits - 1), by
    unfold BinaryFormat.infinity BinaryFormat.magnitudes
    have hf := f.fractionBits_pos
    have hlt : 2 ^ (f.fractionBits - 1) < 2 ^ f.fractionBits := Nat.pow_lt_pow_right (by decide) (by omega)
    have he : 0 < 2 ^ f.exponentBits := Nat.two_pow_pos _
    rw [Nat.pow_add, Nat.sub_mul, Nat.one_mul]
    have : 2 ^ f.fractionBits ≤ 2 ^ f.exponentBits * 2 ^ f.fractionBits :=
      Nat.le_mul_of_pos_left _ he
    omega⟩

/-- The number nearest to the quotient `num / den` of units, with the sign. -/
def nearest (negative : Bool) (num den : Nat) : Binary f :=
  ⟨negative, f.nearest num den, f.nearest_lt num den⟩

def isNaN (a : Binary f) : Bool := f.infinity < a.magnitude

theorem nan_isNaN : (nan : Binary f).isNaN :=
  decide_eq_true (Nat.lt_add_of_pos_right (Nat.two_pow_pos _))

def isInfinite (a : Binary f) : Bool := a.magnitude == f.infinity

def isFinite (a : Binary f) : Bool := a.magnitude < f.infinity

/-- How many units a finite number is, with its sign. -/
def units (a : Binary f) : Int :=
  if a.negative then -(f.units a.magnitude : Int) else f.units a.magnitude

/-- The sum: NaN of a NaN or of opposite infinities, an infinity of one infinity, and else the number nearest to the
sum of the units. A sum of no units is negative zero only if both operands are negative. -/
def add (a b : Binary f) : Binary f :=
  if a.isNaN || b.isNaN then nan
  else if a.isInfinite then
    if b.isInfinite && a.negative != b.negative then nan else a
  else if b.isInfinite then b
  else
    let sum := a.units + b.units
    if sum = 0 then zero (a.negative && b.negative)
    else nearest (sum < 0) sum.natAbs 1

/-- Equality of values: a NaN equals nothing, and the two zeros are equal. -/
def sameValue (a b : Binary f) : Bool :=
  !a.isNaN && !b.isNaN && ((a.magnitude == 0 && b.magnitude == 0) || a == b)

end Binary

end PointSum.Number
