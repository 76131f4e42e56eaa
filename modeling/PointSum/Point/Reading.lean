import PointSum.Point
import PointSum.Text.Characters

/-!
# Reading points

A point is written `X,Y`, between parentheses or not. Blank characters are allowed at both ends, inside the
parentheses and around the comma. The parentheses count only as a pair; a text that has one of them keeps it, and
then no coordinate can be read from it. The first comma divides the coordinates.
-/

namespace PointSum

set_option autoImplicit false

open Number

/-- Why a text is no point. Each cause keeps the text as it was given. -/
inductive PointFault where
  | noComma (raw : String)
  | coordinate (axis : Axis) (raw : String) (cause : ReadFault)
  deriving DecidableEq, Repr

/-- The sentences of a fault, the outermost first. -/
def PointFault.chain : PointFault → List String
  | noComma raw => ["expected a point as X,Y, got `" ++ raw ++ "`"]
  | coordinate axis raw cause => ["invalid " ++ axis.name ++ " coordinate in `" ++ raw ++ "`", cause.message]

def PointFault.message (e : PointFault) : String :=
  String.intercalate ": " e.chain

/-- The text inside a pair of parentheses that encloses it, or the text itself. -/
def unwrapParentheses (cs : List Char) : List Char :=
  match cs with
  | '(' :: inner => if inner.getLast? = some ')' then inner.dropLast else cs
  | _ => cs

def splitAtComma (cs : List Char) : Option (List Char × List Char) :=
  match cs.dropWhile (· ≠ ',') with
  | [] => none
  | _ :: after => some (cs.takeWhile (· ≠ ','), after)

/-- The texts of the two coordinates, without blank characters around them. -/
def coordinateTexts (cs : List Char) : Option (List Char × List Char) :=
  (splitAtComma (unwrapParentheses (Text.trim cs))).map fun (x, y) => (Text.trim x, Text.trim y)

def Point.read (α : Type) [Scalar α] (raw : String) : Except PointFault (Point α) :=
  match coordinateTexts raw.toList with
  | none => .error (.noComma raw)
  | some (xText, yText) =>
    match Scalar.read (α := α) xText with
    | .error cause => .error (.coordinate .x raw cause)
    | .ok x =>
      match Scalar.read (α := α) yText with
      | .error cause => .error (.coordinate .y raw cause)
      | .ok y => .ok ⟨x, y⟩

end PointSum
