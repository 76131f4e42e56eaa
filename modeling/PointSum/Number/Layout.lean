import PointSum.Number.Decimal

/-!
# Texts of binary numbers

Every finite binary number is a decimal number: the unit `2 ^ -u` is `5 ^ u` times `10 ^ -u`. `shortest` leaves out
as many of its last digits as it can. From the coarsest grid of decimal numbers to the finest it looks at the two
neighbours of the number on the grid, and takes the first that reads back as the number: of two that do the nearer,
and of two equally near the greater. On the finest grid the number is its own neighbour.

A binary number is written by its shortest decimal number. The layout says how the digits are placed: `plain` puts
all digits in position and writes a whole number without a point, `literal` marks a whole number by `.0` and uses an
exponent for numbers below `10 ^ -4` and from `10 ^ 16` on.
-/

namespace PointSum.Number

set_option autoImplicit false

open scoped CorePower

/-! ## The shortest decimal number -/

/-- The decimal number, with the last digits left out up to the given place, that reads back as the magnitude. The
number `exact` counts powers of ten with exponent `-f.unitExponent`. -/
def shorten (f : BinaryFormat) (magnitude exact : Nat) : (place : Nat) → Decimal
  | 0 => ⟨exact, -(f.unitExponent : Int)⟩
  | place + 1 =>
    let step := 10 ^ (place + 1)
    let exponent : Int := (place + 1 : Nat) - (f.unitExponent : Int)
    let below : Decimal := ⟨exact / step, exponent⟩
    let above : Decimal := ⟨exact / step + 1, exponent⟩
    let belowReads := below.magnitude f == magnitude
    let aboveReads := above.magnitude f == magnitude
    if belowReads && (!aboveReads || 2 * (exact % step) < step) then below
    else if aboveReads then above
    else shorten f magnitude exact place

def shortest (f : BinaryFormat) (magnitude : Nat) : Decimal :=
  let exact := f.units magnitude * 5 ^ f.unitExponent
  shorten f magnitude exact ((decimal exact).length - 1)

/-! ## Layouts -/

structure Layout where
  markWhole : Bool
  /-- The exponents of the leading digit, from the first to before the second, that are written in position; all if
  there is no bound. -/
  positional : Option (Int × Int)
  deriving DecidableEq, Repr

/-- Digits in position, whole numbers without a point. -/
def Layout.plain : Layout := ⟨false, none⟩

/-- Whole numbers marked, and an exponent for small and large numbers. -/
def Layout.literal : Layout := ⟨true, some (-4, 16)⟩

/-- Whether a number whose leading digit counts `10 ^ lead` is written in position. -/
def Layout.isPositional (l : Layout) (lead : Int) : Bool :=
  match l.positional with
  | none => true
  | some (first, last) => first ≤ lead && lead < last

/-- The digits without the zeros at their end, and how many there were. -/
def stripZeros (ds : List Char) : List Char × Nat :=
  let kept := (ds.reverse.dropWhile (· = '0')).reverse
  (kept, ds.length - kept.length)

/-- Digits whose last one counts `10 ^ exponent`, in position. -/
def placeDigits (markWhole : Bool) (ds : List Char) (exponent : Int) : List Char :=
  if 0 ≤ exponent then
    ds ++ List.replicate exponent.toNat '0' ++ if markWhole then ['.', '0'] else []
  else
    let places := (-exponent).toNat
    if places < ds.length then ds.take (ds.length - places) ++ ['.'] ++ ds.drop (ds.length - places)
    else ['0', '.'] ++ List.replicate (places - ds.length) '0' ++ ds

/-- Digits with a point after the first one, and the exponent of the first one. -/
def scaleDigits (ds : List Char) (lead : Int) : List Char :=
  ds.take 1 ++ (if ds.length ≤ 1 then [] else '.' :: ds.drop 1) ++ ['e'] ++ signedDecimal lead

def Decimal.render (l : Layout) (d : Decimal) : List Char :=
  if d.digits = 0 then if l.markWhole then ['0', '.', '0'] else ['0']
  else
    let (ds, zeros) := stripZeros (decimal d.digits)
    let exponent := d.exponent + zeros
    let lead := exponent + ds.length - 1
    if l.isPositional lead then placeDigits l.markWhole ds exponent else scaleDigits ds lead

def Binary.render {f : BinaryFormat} (l : Layout) (a : Binary f) : List Char :=
  if a.isNaN then "NaN".toList
  else
    let sign := if a.negative then ['-'] else []
    if a.isInfinite then sign ++ "inf".toList
    else sign ++ (shortest f a.magnitude).render l

end PointSum.Number
