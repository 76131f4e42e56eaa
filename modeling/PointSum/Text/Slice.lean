import PointSum.Text.Quoted

/-!
# Parts of a text by places

Places in a text count bytes. The part between two places is there if both are between characters; a place inside a
character cuts it. The place where a part starts is looked at first.
-/

namespace PointSum.Text

set_option autoImplicit false

/-- A place inside a character. -/
structure Cut where
  place : Nat
  character : Char
  /-- The place where the character begins. -/
  first : Nat
  deriving DecidableEq, Repr

/-- Divides a text that begins at the place `first`, at a place from there on. -/
def divideFrom (first : Nat) : List Char → Nat → Except Cut (List Char × List Char)
  | [], _ => .ok ([], [])
  | c :: cs, place =>
    if place ≤ first then .ok ([], c :: cs)
    else if place < first + c.utf8Size then .error ⟨place, c, first⟩
    else (divideFrom (first + c.utf8Size) cs place).map fun (front, back) => (c :: front, back)

/-- Why a text has no part between two places. -/
inductive SliceFault where
  | start (cut : Cut)
  | stop (cut : Cut)
  deriving DecidableEq, Repr

/-- The part of a text from a place on. -/
def sliceFrom (cs : List Char) (start : Nat) : Except SliceFault (List Char) :=
  match divideFrom 0 cs start with
  | .ok (_, rest) => .ok rest
  | .error cut => .error (.start cut)

/-- The part of a text between two places. -/
def slice (cs : List Char) (start stop : Nat) : Except SliceFault (List Char) :=
  match sliceFrom cs start with
  | .error e => .error e
  | .ok rest =>
    match divideFrom start rest stop with
    | .ok (part, _) => .ok part
    | .error cut => .error (.stop cut)

/-- The wording of a cut. -/
def Cut.message (cut : Cut) : String :=
  "byte index " ++ toString cut.place ++ " is not a char boundary; it is inside '" ++
    .ofList (quoteChar cut.character) ++ "' (bytes " ++ toString cut.first ++ ".." ++
    toString (cut.first + cut.character.utf8Size) ++ " of string)"

def SliceFault.message : SliceFault → String
  | start cut => "start " ++ cut.message
  | stop cut => "end " ++ cut.message

end PointSum.Text
