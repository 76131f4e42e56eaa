import PointSum.Scalar
import PointSum.Text.Quoted

/-!
# Points

A point is a pair of scalars. Points are added axis by axis in two ways: `add`, also written `+`, traps where a
coordinate has no sum, `add?` reports on which axis and for which coordinates, the first axis first. `total` adds the
points of a list one after the other to the origin, and `totalOf` those that a list of references leads to.
-/

namespace PointSum

set_option autoImplicit false

open Number

inductive Axis where
  | x
  | y
  deriving DecidableEq, Repr

/-- The name of an axis in a sentence. -/
def Axis.name : Axis → String
  | x => "x"
  | y => "y"

/-- The name of an axis as a constructor. -/
def Axis.literal : Axis → String
  | x => "X"
  | y => "Y"

/-- An addition that has no sum on an axis. The operands are kept as text, so that overflows of all kinds of scalar
are one type. -/
structure Overflow where
  /-- The axis without a sum. -/
  axis : Axis
  lhs : String
  rhs : String
  deriving DecidableEq, Repr

namespace Overflow

def message (o : Overflow) : String :=
  o.axis.name ++ " coordinate overflowed adding " ++ o.lhs ++ " and " ++ o.rhs

/-- The literal form of an overflow. -/
def literal (o : Overflow) : String :=
  "Overflow \x7b axis: " ++ o.axis.literal ++ ", lhs: " ++ .ofList (Text.quote o.lhs.toList) ++
    ", rhs: " ++ .ofList (Text.quote o.rhs.toList) ++ " \x7d"

end Overflow

structure Point (α : Type) where
  x : α
  y : α
  deriving DecidableEq, Repr

namespace Point

variable {α : Type}

def ofPair (p : α × α) : Point α := ⟨p.1, p.2⟩

def toPair (p : Point α) : α × α := (p.x, p.y)

variable [Scalar α]

def origin : Point α := ⟨Scalar.zero, Scalar.zero⟩

/-- The sum, axis by axis, or a trap. -/
def add (p q : Point α) : Except Trap (Point α) := do
  let x ← Scalar.add p.x q.x
  let y ← Scalar.add p.y q.y
  return ⟨x, y⟩

/-- The sum by the operator, of points that are given away and of points that are only looked at. -/
instance : HAdd (Point α) (Point α) (Except Trap (Point α)) := ⟨add⟩

def overflow (axis : Axis) (a b : α) : Overflow :=
  ⟨axis, .ofList (Scalar.text a), .ofList (Scalar.text b)⟩

/-- The sum, axis by axis, or the first axis without one. -/
def add? (p q : Point α) : Except Overflow (Point α) :=
  match Scalar.add? p.x q.x with
  | none => .error (overflow .x p.x q.x)
  | some x =>
    match Scalar.add? p.y q.y with
    | none => .error (overflow .y p.y q.y)
    | some y => .ok ⟨x, y⟩

/-- The sum of a list of points, from the origin and from left to right, or the trap that stopped it. -/
def total (ps : List (Point α)) : Except Trap (Point α) :=
  ps.foldlM add origin

/-- The sum of points that are only looked at: each reference is followed, and the point in its place is copied. -/
def totalOf {ι : Type} (look : ι → Point α) (refs : List ι) : Except Trap (Point α) :=
  total (refs.map look)

/-- Equality of points: the same value on both axes. -/
def sameValue (p q : Point α) : Bool :=
  Scalar.sameValue p.x q.x && Scalar.sameValue p.y q.y

/-- The text of a point, `(x, y)`. -/
def text (p : Point α) : String :=
  .ofList (['('] ++ Scalar.text p.x ++ [',', ' '] ++ Scalar.text p.y ++ [')'])

def literal (p : Point α) : String :=
  "Point \x7b x: " ++ .ofList (Scalar.literal p.x) ++ ", y: " ++ .ofList (Scalar.literal p.y) ++ " \x7d"

/-- The literal form of a point, a line for each coordinate. -/
def literalLines (p : Point α) : String :=
  "Point \x7b\n    x: " ++ .ofList (Scalar.literal p.x) ++ ",\n    y: " ++ .ofList (Scalar.literal p.y) ++ ",\n\x7d"

end Point

end PointSum
