import PointSum.Number.Binary

/-!
# Decimal numbers

A decimal number `⟨d, k⟩` is `d * 10 ^ k`. `Decimal.toBinary` is the binary number nearest to it. The exponent may be
any integer, so `toBinary` first settles what is beyond the format on either side and forms powers of ten only for
the rest; the answer is the same as without that step.

`readLiteral` reads the decimal literals of a binary number: digits with at most one point among them and an exponent
or none, or the words for an infinity and for NaN in letters of either case, after a sign or none.
-/

namespace PointSum.Number

set_option autoImplicit false

open scoped CorePower

/-- The number `digits * 10 ^ exponent`. -/
structure Decimal where
  digits : Nat
  /-- The power of ten that the last digit counts. -/
  exponent : Int
  deriving DecidableEq, Repr

namespace Decimal

/-- The magnitude nearest to the decimal number. -/
def magnitude (f : BinaryFormat) (d : Decimal) : Nat :=
  if d.digits = 0 then 0
  else if 0 ≤ d.exponent then
    if f.exponentLimit ≤ d.digits.log2 + d.exponent.toNat then f.infinity
    else f.nearest (d.digits * 10 ^ d.exponent.toNat * 2 ^ f.unitExponent) 1
  else
    let places := (-d.exponent).toNat
    if d.digits.log2 + f.unitExponent + 2 ≤ 3 * places then 0
    else f.nearest (d.digits * 2 ^ f.unitExponent) (10 ^ places)

theorem magnitude_lt (f : BinaryFormat) (d : Decimal) : d.magnitude f < f.magnitudes := by
  unfold magnitude
  have h := f.infinity_lt
  split
  · exact Nat.two_pow_pos _
  · split
    · split
      · exact h
      · exact f.nearest_lt _ _
    · simp only
      split
      · exact Nat.two_pow_pos _
      · exact f.nearest_lt _ _

/-- The binary number nearest to the decimal number with the sign. -/
def toBinary (f : BinaryFormat) (negative : Bool) (d : Decimal) : Binary f :=
  ⟨negative, d.magnitude f, d.magnitude_lt f⟩

/-- Appends the digits of an exponent to the value read so far. A value that has reached `2 ^ 16` stays as it is:
beyond it only literals with as many digits would tell the difference. -/
def appendExponent (n : Nat) (cs : List Char) : Nat :=
  cs.foldl (fun n c => if n < 0x10000 then 10 * n + (c.toNat - 0x30) else n) n

/-- Reads the digits of an exponent, at least one. -/
def readExponentDigits (cs : List Char) : Option Nat :=
  if cs ≠ [] ∧ cs.all isDigit then some (appendExponent 0 cs) else none

/-- Reads an exponent, which may have a sign. -/
def readExponent : List Char → Option Int
  | [] => none
  | c :: cs =>
    if c = '-' then (readExponentDigits cs).map fun n => -(n : Int)
    else if c = '+' then (readExponentDigits cs).map fun n => (n : Int)
    else (readExponentDigits (c :: cs)).map fun n => (n : Int)

/-- Reads what follows the digits: nothing, or the letter `e` and an exponent. -/
def readScale : List Char → Option Int
  | [] => some 0
  | c :: cs => if c = 'e' ∨ c = 'E' then readExponent cs else none

/-- Reads an unsigned decimal number: digits with at most one point, at least one digit, and an exponent or none. -/
def read (cs : List Char) : Option Decimal :=
  let whole := cs.takeWhile isDigit
  let afterWhole := cs.dropWhile isDigit
  let fraction := if afterWhole.head? = some '.' then afterWhole.tail.takeWhile isDigit else []
  let rest := if afterWhole.head? = some '.' then afterWhole.tail.dropWhile isDigit else afterWhole
  if whole = [] ∧ fraction = [] then none
  else (readScale rest).map fun scale => ⟨ofDigits (whole ++ fraction), scale - fraction.length⟩

end Decimal

namespace Binary

/-- A capital ASCII letter by its small one. -/
def foldCase (c : Char) : Char := c.toLower

/-- Reads the word for an infinity or for NaN. -/
def readWord (f : BinaryFormat) (negative : Bool) (cs : List Char) : Option (Binary f) :=
  let word := cs.map foldCase
  if word = "inf".toList ∨ word = "infinity".toList then some (infinity negative)
  else if word = "nan".toList then some { (nan : Binary f) with negative }
  else none

/-- Reads a literal without a sign, for a number of the sign. -/
def readUnsigned (f : BinaryFormat) (negative : Bool) (cs : List Char) : Except ReadFault (Binary f) :=
  match Decimal.read cs with
  | some d => .ok (d.toBinary f negative)
  | none =>
    match readWord f negative cs with
    | some a => .ok a
    | none => .error .invalidLiteral

/-- Reads a literal. -/
def readLiteral (f : BinaryFormat) : List Char → Except ReadFault (Binary f)
  | [] => .error .emptyLiteral
  | c :: cs =>
    if c = '-' then readUnsigned f true cs
    else if c = '+' then readUnsigned f false cs
    else readUnsigned f false (c :: cs)

end Binary

end PointSum.Number
