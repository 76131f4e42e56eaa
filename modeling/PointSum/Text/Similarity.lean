import PointSum.Number.Decimal

/-!
# Similar words

`similarity` is the Jaro similarity of two words, in double precision. A character of the first word matches the
first equal character of the second word that is not matched yet and lies within a window around the same place. The
similarity is the mean of three shares: of the matched characters in the one word, in the other, and of those among
them that come in the same order. `similarTo` picks the words of a list that are more similar than seven tenths.
-/

namespace PointSum.Text

set_option autoImplicit false

open Number
open scoped Number.CorePower

/-- The characters of a word, each with whether it is matched. -/
abbrev Matching := List (Char × Bool)

/-- Matches a character with the first free equal one between the places `first` and `last`, where the list begins at
the place `here`. -/
def matchChar (c : Char) (first last : Nat) : (here : Nat) → Matching → Option Matching
  | _, [] => none
  | here, (d, taken) :: rest =>
    if first ≤ here ∧ here ≤ last ∧ c = d ∧ taken = false then some ((d, true) :: rest)
    else (matchChar c first last (here + 1) rest).map ((d, taken) :: ·)

/-- Matches the characters of a word one after the other: those that found a match, and the matching reached. -/
def matchWord (window : Nat) : (here : Nat) → List Char → Matching → List Char × Matching
  | _, [], m => ([], m)
  | here, c :: cs, m =>
    match matchChar c (here - window) (here + window) 0 m with
    | none => matchWord window (here + 1) cs m
    | some m' =>
      let (found, last) := matchWord window (here + 1) cs m'
      (c :: found, last)

def share (num den : Nat) : Binary .double :=
  Binary.nearest false (num * 2 ^ BinaryFormat.double.unitExponent) den

def third (a : Binary .double) : Binary .double :=
  Binary.nearest false (BinaryFormat.double.units a.magnitude) 3

/-- The Jaro similarity of two words, from zero to one. -/
def similarity (a b : List Char) : Binary .double :=
  if a = [] ∧ b = [] then share 1 1
  else
    let window := max a.length b.length / 2 - 1
    let (found, matching) := matchWord window 0 a (b.map fun c => (c, false))
    let matched := (matching.filter (·.2)).map (·.1)
    let moved := ((found.zip matched).filter fun p => p.1 ≠ p.2).length / 2
    let n := found.length
    if n = 0 then Binary.zero false
    else third (((share n a.length).add (share n b.length)).add (share (n - moved) n))

def similarityLimit : Binary .double :=
  share 7 10

/-- Puts a word with its similarity behind those that are no more similar. -/
def insertSimilar (entry : String × Nat) : List (String × Nat) → List (String × Nat)
  | [] => [entry]
  | e :: es => if entry.2 < e.2 then entry :: e :: es else e :: insertSimilar entry es

/-- The candidates that are similar to the word, the most similar last. -/
def similarTo (word : List Char) (candidates : List String) : List String :=
  let scored := candidates.filterMap fun c =>
    let s := similarity word c.toList
    if similarityLimit.magnitude < s.magnitude then some (c, s.magnitude) else none
  (scored.foldl (fun es e => insertSimilar e es) []).map (·.1)

end PointSum.Text
