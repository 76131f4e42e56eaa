/-!
# Digits and faults of numbers

`digit?` gives the value of an ASCII digit, `ofDigits` the number that a list of digits denotes, and `decimal` the
digits of a number without leading zeros. The faults are the reasons why a text is no number, and the one reason why an
addition stops.
-/

namespace PointSum.Number

set_option autoImplicit false

namespace CorePower

-- Powers are those of the core library, whatever other instances are in scope.
scoped instance (priority := high) instPow {α : Type} [NatPow α] : Pow α Nat := instPowNat

end CorePower

/-! ## Digits -/

def isDigit (c : Char) : Bool :=
  0x30 ≤ c.toNat && c.toNat ≤ 0x39

def digit? (c : Char) : Option Nat :=
  if isDigit c then some (c.toNat - 0x30) else none

/-- The value of a digit of the base, which is at most sixteen; letters of either case go on from nine. -/
def digitBelow? (base : Nat) (c : Char) : Option Nat :=
  let d :=
    if isDigit c then c.toNat - 0x30
    else if 'a' ≤ c ∧ c ≤ 'f' then c.toNat - 0x57
    else if 'A' ≤ c ∧ c ≤ 'F' then c.toNat - 0x37
    else base
  if d < base then some d else none

/-- The number whose digits are those of `n` followed by the given ones. -/
def appendDigits (n : Nat) (cs : List Char) : Nat :=
  cs.foldl (fun n c => 10 * n + (c.toNat - 0x30)) n

def ofDigits (cs : List Char) : Nat :=
  appendDigits 0 cs

def decimal (n : Nat) : List Char :=
  Nat.toDigits 10 n

def signedDecimal (n : Int) : List Char :=
  if n < 0 then '-' :: decimal n.natAbs else decimal n.natAbs

/-! ## Faults -/

/-- Why a text is no number of the wanted kind. -/
inductive ReadFault where
  | emptyInteger
  /-- A character that is no digit, or a sign with no digit after it. -/
  | invalidDigit
  | tooLarge
  | tooSmall
  | emptyLiteral
  | invalidLiteral
  deriving DecidableEq, Repr

def ReadFault.message : ReadFault → String
  | emptyInteger => "cannot parse integer from empty string"
  | invalidDigit => "invalid digit found in string"
  | tooLarge => "number too large to fit in target type"
  | tooSmall => "number too small to fit in target type"
  | emptyLiteral => "cannot parse float from empty string"
  | invalidLiteral => "invalid float literal"

/-- An addition without a result: the program that asked for it stops. -/
inductive Trap where
  | addOverflow
  deriving DecidableEq, Repr

def Trap.message : Trap → String
  | addOverflow => "attempt to add with overflow"

end PointSum.Number
