import PointSum.Number.Layout
import PointSum.Number.Word

/-!
# Scalars

A scalar is a number that can stand on an axis of a point: a word of any format, or a binary floating-point number
of any format. The class holds what points need of it: zero, the two additions, equality, its text, its literal form
and the reader.
-/

namespace PointSum

set_option autoImplicit false

open Number

/-- The numbers that can stand on an axis. -/
class Scalar (α : Type) where
  /-- The neutral element of addition. -/
  zero : α
  /-- The sum, or a trap. -/
  add : α → α → Except Trap α
  /-- The sum, if there is one. -/
  add? : α → α → Option α
  sameValue : α → α → Bool
  text : α → List Char
  /-- The literal form of the number, which shows its kind. -/
  literal : α → List Char
  read : List Char → Except ReadFault α

instance (f : WordFormat) : Scalar (Word f) where
  zero := Word.zero
  add := Word.add
  add? := Word.add?
  sameValue a b := a == b
  text := Word.text
  literal := Word.text
  read := Word.read f

instance (f : BinaryFormat) : Scalar (Binary f) where
  zero := Binary.zero false
  add a b := .ok (a.add b)
  add? a b := some (a.add b)
  sameValue := Binary.sameValue
  text := Binary.render .plain
  literal := Binary.render .literal
  read := Binary.readLiteral f

end PointSum
