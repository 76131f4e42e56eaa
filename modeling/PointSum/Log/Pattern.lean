/-!
# Patterns

A pattern describes the texts that the value of a field may have: characters, sets of characters, edges, repetitions,
alternatives and groups. Flags in a group change how what follows them is meant, up to the end of the group.

No value is ever compared with a pattern here, because there are no spans that have one. What decides is whether the
pattern can be used at all (`Pattern.isUsable`). It cannot if it is nested too deep, if it needs to know more of
Unicode than the code points (which letters differ only in case, which characters are words, digits or blanks, where a
word begins), or if, with the flag `u` off, it would match a part of a character.
-/

namespace PointSum.Log

set_option autoImplicit false

structure Letter where
  char : Char
  /-- Whether it is written as a byte, `\x` and two digits. -/
  asByte : Bool
  deriving DecidableEq, Repr

inductive CharSet where
  | nothing
  | letter (l : Letter)
  | range (first last : Letter)
  /-- A set with a name in colons, `[:alpha:]`, or what is not in it. -/
  | named (negated : Bool)
  /-- Digits, blanks or word characters, or what is none of them. -/
  | kind (negated : Bool)
  | bracketed (negated : Bool) (inner : CharSet)
  | union (items : List CharSet)
  /-- What two sets have in common, or where they differ. -/
  | operation (lhs rhs : CharSet)
  deriving Repr

/-- Changes of flags: for each flag, on, off, or as before. -/
structure FlagChange where
  /-- The flag `i`: letters of both cases are the same. -/
  caseless : Option Bool
  /-- The flag `u`: characters are those of Unicode. -/
  unicode : Option Bool
  /-- The flag `x`: blanks and comments mean nothing. -/
  verbose : Option Bool
  deriving DecidableEq, Repr

def FlagChange.none : FlagChange := ⟨.none, .none, .none⟩

inductive Pattern where
  | nothing
  /-- A change of flags for what follows. -/
  | flags (change : FlagChange)
  | letter (l : Letter)
  /-- Any character, perhaps without the line end. -/
  | any
  /-- The beginning or the end of the text or a line. -/
  | edge
  /-- The beginning or the end of a word, or neither. -/
  | wordEdge
  | kind (negated : Bool)
  | set (negated : Bool) (inner : CharSet)
  | repetition (p : Pattern)
  /-- A pattern in parentheses, and the flags that change for it. -/
  | group (change : FlagChange) (p : Pattern)
  | alternatives (ps : List Pattern)
  | sequence (ps : List Pattern)
  deriving Repr

/-! ## Depth -/

mutual

def CharSet.depth : CharSet → Nat
  | .nothing | .letter _ | .range _ _ | .named _ | .kind _ => 0
  | .bracketed _ inner => inner.depth + 1
  | .union items => depths items + 1
  | .operation lhs rhs => max lhs.depth rhs.depth + 1

def CharSet.depths : List CharSet → Nat
  | [] => 0
  | s :: ss => max s.depth (depths ss)

end

mutual

def Pattern.depth : Pattern → Nat
  | .nothing | .flags _ | .letter _ | .any | .edge | .wordEdge | .kind _ => 0
  | .set _ inner => inner.depth + 1
  | .repetition p => p.depth + 1
  | .group _ p => p.depth + 1
  | .alternatives ps => depths ps + 1
  | .sequence ps => depths ps + 1

def Pattern.depths : List Pattern → Nat
  | [] => 0
  | p :: ps => max p.depth (depths ps)

end

def Pattern.depthLimit : Nat := 250

/-! ## Use -/

/-- The flags that decide whether a pattern can be used. -/
structure Flags where
  caseless : Bool
  unicode : Bool
  deriving DecidableEq, Repr

namespace Flags

def initial : Flags := ⟨false, true⟩

def apply (m : Flags) (change : FlagChange) : Flags :=
  ⟨change.caseless.getD m.caseless, change.unicode.getD m.unicode⟩

/-- Whether nothing has to be known of which letters differ only in case. -/
def needsNoCases (m : Flags) : Bool :=
  !(m.caseless && m.unicode)

end Flags

/-- Whether the character can be used in a sequence: as a byte it has to be a whole character. -/
def Letter.isUsable (m : Flags) (l : Letter) : Bool :=
  m.needsNoCases && (m.unicode || !l.asByte || l.char.toNat < 0x80)

/-- Whether the character can be used in a set: without Unicode, sets hold bytes. -/
def Letter.isUsableInSet (m : Flags) (l : Letter) : Bool :=
  m.needsNoCases && (m.unicode || l.char.toNat < 0x80)

/-- Whether digits, blanks or word characters can be used: those of ASCII can. -/
def isKindUsable (m : Flags) (negated : Bool) : Bool :=
  !m.unicode && !negated

mutual

/-- Whether a set of characters can be used. What is not in a set of bytes is in part no character. -/
def CharSet.isUsable (m : Flags) : CharSet → Bool
  | .nothing => true
  | .letter l => l.isUsableInSet m
  | .range first last => first.isUsableInSet m && last.isUsableInSet m
  | .named negated => m.needsNoCases && (m.unicode || !negated)
  | .kind negated => isKindUsable m negated
  | .bracketed negated inner => (m.unicode || !negated) && inner.isUsable m
  | .union items => areUsable m items
  | .operation lhs rhs => lhs.isUsable m && rhs.isUsable m

def CharSet.areUsable (m : Flags) : List CharSet → Bool
  | [] => true
  | s :: ss => s.isUsable m && areUsable m ss

end

mutual

/-- The flags behind a pattern, if it can be used with the flags before it. -/
def Pattern.flagsAfter (m : Flags) : Pattern → Option Flags
  | .nothing => some m
  | .flags change => some (m.apply change)
  | .letter l => if l.isUsable m then some m else none
  | .any => if m.unicode then some m else none
  | .edge => some m
  | .wordEdge => if m.unicode then none else some m
  | .kind negated => if isKindUsable m negated then some m else none
  | .set negated inner => if (CharSet.bracketed negated inner).isUsable m then some m else none
  | .repetition p => p.flagsAfter m
  | .group change p => (p.flagsAfter (m.apply change)).map fun _ => m
  | .alternatives ps => flagsAfterAll m ps
  | .sequence ps => flagsAfterAll m ps

def Pattern.flagsAfterAll (m : Flags) : List Pattern → Option Flags
  | [] => some m
  | p :: ps => (p.flagsAfter m).bind fun m => flagsAfterAll m ps

end

def Pattern.isUsable (p : Pattern) : Bool :=
  p.depth ≤ depthLimit && (p.flagsAfter .initial).isSome

end PointSum.Log
