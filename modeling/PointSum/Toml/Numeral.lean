import PointSum.Number.Decimal

/-!
# Numerals of TOML

A numeral is a number as it is written, without the underscores. `Numeral.ofWord?` looks at the form: which kind of
number the word is meant to be, where digits have to stand, and where underscores may. It does not look at every
character, so a numeral may turn out to be no number when it is read: a decimal integer with an underscore may have
any characters but spaces among its digits, and behind `0x`, `0o` or `0b` there may be nothing. `Numeral.isReadable`
says whether the numeral denotes a number that has a type: an integer of a hundred and twenty-eight bits, signed or
unsigned, or a binary number that is not beyond double precision.
-/

namespace PointSum.Toml

set_option autoImplicit false

open Number
open scoped Number.CorePower

inductive Numeral where
  /-- An integer in the base, with a sign or none. -/
  | integer (base : Nat) (written : List Char)
  /-- A number with a fraction or an exponent, an infinity, or NaN. -/
  | real (written : List Char)
  deriving DecidableEq, Repr

/-! ## Signs and digits -/

/-- The sign and the rest of a word: whether there is a sign, and what follows it. -/
def splitSign : List Char → Bool × List Char
  | [] => (false, [])
  | c :: cs => if c = '-' ∨ c = '+' then (true, cs) else (false, c :: cs)

def isDigitOf (base : Nat) (c : Char) : Bool :=
  (digitBelow? base c).isSome

def isDigitOrMark (c : Char) : Bool :=
  isDigit c || c == '_'

def withoutMarks (cs : List Char) : List Char :=
  cs.filter (· ≠ '_')

/-! ## Underscores -/

/-- Whether a digit stands behind the underscore before the part. -/
def opensByDigit (isDigit : Char → Bool) (part : List Char) : Bool :=
  part.head?.any isDigit

/-- Whether a digit stands before the underscore behind the part. -/
def closesByDigit (isDigit : Char → Bool) (part : List Char) : Bool :=
  part.getLast?.any isDigit

/-- Whether every underscore stands between digits. -/
def isGrouped (isDigit : Char → Bool) (cs : List Char) : Bool :=
  let parts := cs.splitOn '_'
  parts.tail.all (opensByDigit isDigit) && parts.dropLast.all (closesByDigit isDigit)

/-! ## Forms -/

def base? (c : Char) : Option Nat :=
  if c = 'x' then some 16 else if c = 'o' then some 8 else if c = 'b' then some 2 else none

def digitCount (cs : List Char) : Nat :=
  (withoutMarks (cs.takeWhile isDigitOrMark)).length

/-- Whether the text is an exponent behind its letter: digits, with a sign or none. -/
def isExponent (cs : List Char) : Bool :=
  let digits := (splitSign cs).2
  0 < digitCount digits && digits.dropWhile isDigitOrMark = []

/-- Whether the text is an exponent with its letter, or nothing. -/
def isScale : List Char → Bool
  | [] => true
  | c :: cs => (c = 'e' || c = 'E') && isExponent cs

/-- Whether the text is a number with a fraction, an exponent, or both, and without a needless zero in front. -/
def isReal (cs : List Char) : Bool :=
  let whole := digitCount cs
  let rest := cs.dropWhile isDigitOrMark
  0 < whole && (whole = 1 || cs.head? ≠ some '0') &&
    match rest with
    | '.' :: fraction => 0 < digitCount fraction && isScale (fraction.dropWhile isDigitOrMark)
    | _ => isScale rest

def Numeral.ofBased? (base : Nat) (digits : List Char) : Option Numeral :=
  if digits.all (fun c => isDigitOf base c || c == '_') && isGrouped (isDigitOf 16) digits then
    some (.integer base (withoutMarks digits))
  else none

/-- The decimal numeral of a word, whose part behind the sign is given too. -/
def Numeral.ofDecimal? (word unsigned : List Char) : Option Numeral :=
  let tail := unsigned.dropWhile isDigit
  if tail = [] then
    if unsigned = ['0'] ∨ (unsigned ≠ [] ∧ unsigned.head? ≠ some '0') then some (.integer 10 word) else none
  else if tail.any fun c => c == '.' || c == 'e' || c == 'E' then
    if isReal unsigned && isGrouped isDigit word then some (.real (withoutMarks word)) else none
  else if tail.head? = some '_' ∧ unsigned.head? ≠ some '0' ∧ !tail.contains ' ' then
    if isGrouped (isDigitOf 16) word then some (.integer 10 (withoutMarks word)) else none
  else none

def Numeral.ofWord? (word : List Char) : Option Numeral :=
  let (signed, unsigned) := splitSign word
  if unsigned = "inf".toList ∨ unsigned = "nan".toList then some (.real word)
  else match unsigned with
    | '0' :: c :: digits =>
      match base? c with
      | some base => if signed then none else ofBased? base digits
      | none => ofDecimal? word unsigned
    | _ => ofDecimal? word unsigned

/-! ## Reading -/

/-- The natural number that digits of the base denote. -/
def natOf? (base : Nat) (digits : List Char) : Option Nat :=
  if digits = [] then none
  else digits.foldlM (fun n c => (digitBelow? base c).map fun d => base * n + d) 0

def intOf? (base : Nat) (written : List Char) : Option Int :=
  (natOf? base (splitSign written).2).map fun n => if written.head? = some '-' then -(n : Int) else n

/-- Whether the integer fits in a hundred and twenty-eight bits, signed or unsigned. -/
def isPassableInt (n : Int) : Bool :=
  -2 ^ (127 : Nat) ≤ n && n < 2 ^ (128 : Nat)

/-- Whether the numeral denotes a number that has a type. -/
def Numeral.isReadable : Numeral → Bool
  | integer base written => (intOf? base written).any isPassableInt
  | real written =>
    match Binary.readLiteral .double written with
    | .ok x => !x.isInfinite || "inf".toList.isSuffixOf written
    | .error _ => false

end PointSum.Toml
