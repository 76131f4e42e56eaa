import PointSum.Number.Basic

/-!
# Words

A word is an integer of a fixed number of bits, signed in two's complement or unsigned. `Word.toInt` is the integer
it stands for and `Word.ofInt?` the way back, where there is one. Words are added in two ways: `add?` adds the
integers and keeps the sum if it fits, `add` adds the bits and traps when the adder reports an overflow.
-/

namespace PointSum.Number

set_option autoImplicit false

open scoped CorePower

structure WordFormat where
  /-- Whether the top bit counts negatively. -/
  signed : Bool
  width : Nat
  width_pos : 0 < width := by decide
  deriving Repr

namespace WordFormat

theorem eq_iff {f g : WordFormat} : f = g ↔ f.signed = g.signed ∧ f.width = g.width := by
  obtain ⟨_, _, _⟩ := f
  obtain ⟨_, _, _⟩ := g
  simp

instance : DecidableEq WordFormat := fun _ _ => decidable_of_iff _ eq_iff.symm

def least (f : WordFormat) : Int :=
  if f.signed then -2 ^ (f.width - 1) else 0

def greatest (f : WordFormat) : Int :=
  if f.signed then 2 ^ (f.width - 1) - 1 else 2 ^ f.width - 1

/-- The integers that fit in the format. -/
def Holds (f : WordFormat) (n : Int) : Prop :=
  f.least ≤ n ∧ n ≤ f.greatest

instance (f : WordFormat) (n : Int) : Decidable (f.Holds n) :=
  inferInstanceAs (Decidable (_ ∧ _))

def int8 : WordFormat := ⟨true, 8, by decide⟩
def int16 : WordFormat := ⟨true, 16, by decide⟩
def int32 : WordFormat := ⟨true, 32, by decide⟩
def int64 : WordFormat := ⟨true, 64, by decide⟩
def int128 : WordFormat := ⟨true, 128, by decide⟩
def nat8 : WordFormat := ⟨false, 8, by decide⟩
def nat16 : WordFormat := ⟨false, 16, by decide⟩
def nat32 : WordFormat := ⟨false, 32, by decide⟩
def nat64 : WordFormat := ⟨false, 64, by decide⟩
def nat128 : WordFormat := ⟨false, 128, by decide⟩

end WordFormat

/-- A word of the format, by its bits. -/
structure Word (f : WordFormat) where
  bits : BitVec f.width
  deriving DecidableEq, Repr

namespace Word

variable {f : WordFormat}

def toInt (a : Word f) : Int :=
  if f.signed then a.bits.toInt else a.bits.toNat

/-- The word that stands for the integer, if it fits. -/
def ofInt? (f : WordFormat) (n : Int) : Option (Word f) :=
  if f.Holds n then some ⟨BitVec.ofInt f.width n⟩ else none

def zero : Word f := ⟨0⟩

/-- The sum, if it fits. -/
def add? (a b : Word f) : Option (Word f) :=
  ofInt? f (a.toInt + b.toInt)

/-- Whether the adder reports that the bits of the sum are not those of the integer sum. -/
def addOverflows (a b : Word f) : Bool :=
  if f.signed then a.bits.saddOverflow b.bits else a.bits.uaddOverflow b.bits

/-- The sum of the bits, where the adder reports no overflow. -/
def add (a b : Word f) : Except Trap (Word f) :=
  if a.addOverflows b then .error .addOverflow else .ok ⟨a.bits + b.bits⟩

def text (a : Word f) : List Char :=
  signedDecimal a.toInt

/-! ## Reading -/

/-- Appends digits to an integer, on the side of zero that `negative` says, and stops at the first character that is
no digit or the first digit that leads out of the format, whichever comes first. -/
def appendDigits (f : WordFormat) (negative : Bool) : Int → List Char → Except ReadFault Int
  | n, [] => .ok n
  | n, c :: cs =>
    match digit? c with
    | none => .error .invalidDigit
    | some d =>
      let next := if negative then 10 * n - d else 10 * n + d
      if f.Holds next then appendDigits f negative next cs
      else .error (if negative then .tooSmall else .tooLarge)

def readDigits (f : WordFormat) (negative : Bool) (cs : List Char) : Except ReadFault Int :=
  if cs = [] then .error .invalidDigit else appendDigits f negative 0 cs

/-- Reads an integer of the format: a plus sign, or a minus sign in a signed format, or no sign; then digits. -/
def readInt (f : WordFormat) : List Char → Except ReadFault Int
  | [] => .error .emptyInteger
  | c :: cs =>
    if c = '+' then readDigits f false cs
    else if c = '-' ∧ f.signed then readDigits f true cs
    else readDigits f false (c :: cs)

def read (f : WordFormat) (cs : List Char) : Except ReadFault (Word f) :=
  (readInt f cs).map fun n => ⟨BitVec.ofInt f.width n⟩

end Word

end PointSum.Number
