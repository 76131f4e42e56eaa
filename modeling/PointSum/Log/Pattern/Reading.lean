import PointSum.Log.Pattern
import PointSum.Number.Basic
import PointSum.Text.Characters

/-!
# Reading patterns

`Pattern.read?` reads the pattern of a text. The text comes from a field in braces, so there is no closing brace in
it, and nothing that would need one is read: no repetition with a count, no code point or property with a name.

The reader takes what stands at the front of the text and goes on with the rest. Its state is the sequence it is in
and the groups around it; sets of characters have a reader of their own, of the same form.
-/

namespace PointSum.Log

set_option autoImplicit false

open Number (isDigit digitBelow?)

/-! ## Blanks and comments -/

/-- The text without the blanks and comments at its front, inside a comment or not. A comment begins with `#` and ends
with the line. -/
def skipComments : (inComment : Bool) → List Char → List Char
  | _, [] => []
  | true, c :: cs => skipComments (c ≠ '\n') cs
  | false, c :: cs =>
    if Text.isBlank c then skipComments false cs
    else if c = '#' then skipComments true cs
    else c :: cs

def skip (verbose : Bool) (cs : List Char) : List Char :=
  if verbose then skipComments false cs else cs

/-- The first character that is no blank, and no first `#`. -/
def peekComments : (inComment : Bool) → List Char → Option Char
  | _, [] => none
  | inComment, c :: cs =>
    if Text.isBlank c then peekComments inComment cs
    else if c = '#' ∧ ¬ inComment then peekComments true cs
    else some c

/-- The next character that means something. Behind a `#` it is the first one of the comment. -/
def peek (verbose : Bool) (cs : List Char) : Option Char :=
  if verbose then peekComments false cs else cs.head?

/-! ## Characters behind a backslash -/

def readCodePoint (verbose : Bool) : (n value : Nat) → List Char → Option (Nat × List Char)
  | 0, value, cs => some (value, cs)
  | n + 1, value, cs =>
    match skip verbose cs with
    | [] => none
    | d :: rest => (digitBelow? 16 d).bind fun x => readCodePoint verbose n (16 * value + x) rest

def readLetter (verbose : Bool) (n : Nat) (cs : List Char) : Option (Pattern × List Char) :=
  (readCodePoint verbose n 0 cs).bind fun (value, rest) =>
    if value.isValidChar then some (.letter ⟨Char.ofNat value, n = 2⟩, rest) else none

def controlCharacter? (c : Char) : Option Char :=
  if c = 'a' then some '\x07'
  else if c = 'f' then some '\x0c'
  else if c = 't' then some '\t'
  else if c = 'n' then some '\n'
  else if c = 'r' then some '\r'
  else if c = 'v' then some '\x0b'
  else none

/-- Whether a backslash before the character makes it stand for itself: any of ASCII but letters, digits and angles. -/
def isEscapable (c : Char) : Bool :=
  c.toNat < 0x80 && !c.isAlphanum && c != '<' && c != '>'

def readEscape (verbose : Bool) : List Char → Option (Pattern × List Char)
  | [] => none
  | c :: rest =>
    if isEscapable c then some (.letter ⟨c, false⟩, rest)
    else if c = 'x' then readLetter verbose 2 rest
    else if c = 'u' then readLetter verbose 4 rest
    else if c = 'U' then readLetter verbose 8 rest
    else if c = 'd' ∨ c = 's' ∨ c = 'w' then some (.kind false, rest)
    else if c = 'D' ∨ c = 'S' ∨ c = 'W' then some (.kind true, rest)
    else if c = 'A' ∨ c = 'z' then some (.edge, rest)
    else if c = 'B' ∨ c = '<' ∨ c = '>' then some (.wordEdge, rest)
    else if c = 'b' then if rest.head? = some '\x7b' then none else some (.wordEdge, rest)
    else (controlCharacter? c).map fun e => (.letter ⟨e, false⟩, rest)

def readInSet (verbose : Bool) (c : Char) (rest : List Char) : Option (Pattern × List Char) :=
  if c = '\\' then readEscape verbose rest else some (.letter ⟨c, false⟩, rest)

/-! ## Sets of characters -/

/-- A set in brackets as far as it has been read. -/
structure SetLevel where
  negated : Bool
  /-- What stands before the last operator. -/
  left : Option CharSet
  /-- What has been read since, the last one first. -/
  items : List CharSet

namespace SetLevel

/-- What has been read since the last operator. -/
def right (l : SetLevel) : CharSet :=
  match l.items with
  | [] => .nothing
  | [s] => s
  | ss => .union ss.reverse

def inner (l : SetLevel) : CharSet :=
  match l.left with
  | none => l.right
  | some s => .operation s l.right

def push (l : SetLevel) (s : CharSet) : SetLevel :=
  { l with items := s :: l.items }

def operate (l : SetLevel) : SetLevel :=
  ⟨l.negated, some l.inner, []⟩

end SetLevel

/-- How many hyphens stand at the front, and the text behind them and what means nothing. -/
def readHyphens (verbose : Bool) : (inComment : Bool) → List Char → Nat × List Char
  | _, [] => (0, [])
  | inComment, c :: cs =>
    if inComment then readHyphens verbose (c ≠ '\n') cs
    else if verbose ∧ Text.isBlank c then readHyphens verbose false cs
    else if verbose ∧ c = '#' then readHyphens verbose true cs
    else if c = '-' then
      let (n, rest) := readHyphens verbose false cs
      (n + 1, rest)
    else (0, c :: cs)

/-- Reads the beginning of a set behind its bracket: whether it is negated, hyphens, and a closing bracket that comes
first, which stands for itself. -/
def SetLevel.opening (verbose : Bool) (cs : List Char) : SetLevel × List Char :=
  let (negated, cs) := match skip verbose cs with
    | '^' :: rest => (true, rest)
    | rest => (false, rest)
  let (hyphens, cs) := readHyphens verbose false cs
  let items := List.replicate hyphens (CharSet.letter ⟨'-', false⟩)
  match hyphens, cs with
  | 0, ']' :: rest => (⟨negated, none, [.letter ⟨']', false⟩]⟩, rest)
  | _, cs => (⟨negated, none, items⟩, cs)

def setNames : List String :=
  ["alnum", "alpha", "ascii", "blank", "cntrl", "digit", "graph", "lower", "print", "punct", "space", "upper", "word",
    "xdigit"]

def readSetName (cs : List Char) : Option (CharSet × List Char) :=
  let (negated, cs) := match cs with
    | '^' :: rest => (true, rest)
    | rest => (false, rest)
  match cs.dropWhile (· ≠ ':') with
  | ':' :: ']' :: rest =>
    if setNames.contains (.ofList (cs.takeWhile (· ≠ ':'))) then some (.named negated, rest) else none
  | _ => none

def CharSet.ofPattern? : Pattern → Option CharSet
  | .letter l => some (.letter l)
  | .kind negated => some (.kind negated)
  | _ => none

def CharSet.range? : Pattern → Pattern → Option CharSet
  | .letter first, .letter last => if first.char ≤ last.char then some (.range first last) else none
  | _, _ => none

/-- Reads a character or a range of a set. A hyphen makes a range unless a closing bracket or another hyphen follows. -/
def readRange (verbose : Bool) (c : Char) (rest : List Char) : Option (CharSet × List Char) := do
  let (first, cs) ← readInSet verbose c rest
  match skip verbose cs with
  | [] => none
  | '-' :: rest =>
    if peek verbose rest = some ']' ∨ peek verbose rest = some '-' then
      return (← CharSet.ofPattern? first, '-' :: rest)
    else match skip verbose rest with
      | [] => none
      | d :: rest =>
        let (last, rest) ← readInSet verbose d rest
        return (← CharSet.range? first last, rest)
  | cs => return (← CharSet.ofPattern? first, cs)

structure SetReader where
  level : SetLevel
  /-- The sets around it, the innermost first. -/
  outer : List SetLevel

namespace SetReader

/-- Closes the innermost set, which may be the whole one. -/
def close (r : SetReader) : SetLevel ⊕ SetReader :=
  match r.outer with
  | [] => .inl r.level
  | l :: ls => .inr ⟨l.push (.bracketed r.level.negated r.level.inner), ls⟩

def openInner (verbose : Bool) (r : SetReader) (cs : List Char) : SetReader × List Char :=
  let (level, rest) := SetLevel.opening verbose cs
  (⟨level, r.level :: r.outer⟩, rest)

def push (r : SetReader) (s : CharSet) : SetReader :=
  { r with level := r.level.push s }

/-- Reads what begins with a bracket: a set by its name, or in brackets. -/
def stepBracket (verbose : Bool) (r : SetReader) (rest : List Char) : SetReader × List Char :=
  match rest with
  | ':' :: cs =>
    match readSetName cs with
    | some (s, cs) => (r.push s, cs)
    | none => r.openInner verbose rest
  | _ => r.openInner verbose rest

def step (verbose : Bool) (r : SetReader) (c : Char) (rest : List Char) : Option ((SetLevel ⊕ SetReader) × List Char) :=
  if c = '[' then
    let (r, rest) := r.stepBracket verbose rest
    some (.inr r, rest)
  else if c = ']' then some (r.close, rest)
  else if (c = '&' ∨ c = '-' ∨ c = '~') ∧ rest.head? = some c then
    some (.inr { r with level := r.level.operate }, rest.tail)
  else (readRange verbose c rest).map fun (s, rest) => (.inr (r.push s), rest)

/-- Reads the whole set. Every step takes something. -/
def run (verbose : Bool) (r : SetReader) (cs : List Char) : Option (SetLevel × List Char) :=
  match skip verbose cs with
  | [] => none
  | c :: rest =>
    match r.step verbose c rest with
    | none => none
    | some (.inl level, rest) => some (level, rest)
    | some (.inr r, rest) => if rest.length < cs.length then run verbose r rest else none
termination_by cs.length

end SetReader

def readSet (verbose : Bool) (cs : List Char) : Option (Pattern × List Char) :=
  let (level, rest) := SetLevel.opening verbose cs
  (SetReader.run verbose ⟨level, []⟩ rest).map fun (level, rest) => (.set level.negated level.inner, rest)

/-! ## Groups -/

/-- What has been read of a pattern or a group. -/
structure PatternLevel where
  /-- The complete alternatives, the last one first. -/
  branches : List Pattern
  /-- The alternative that is being read, its last part first. -/
  items : List Pattern

namespace PatternLevel

def empty : PatternLevel := ⟨[], []⟩

def branch (l : PatternLevel) : Pattern :=
  match l.items with
  | [] => .nothing
  | [p] => p
  | ps => .sequence ps.reverse

def pattern (l : PatternLevel) : Pattern :=
  match l.branches with
  | [] => l.branch
  | ps => .alternatives (l.branch :: ps).reverse

def push (l : PatternLevel) (p : Pattern) : PatternLevel :=
  { l with items := p :: l.items }

def alternate (l : PatternLevel) : PatternLevel :=
  ⟨l.branch :: l.branches, []⟩

/-- Repeats the last part, which is no change of flags. -/
def repeat? (l : PatternLevel) : Option PatternLevel :=
  match l.items with
  | [] => none
  | .flags _ :: _ => none
  | p :: ps => some { l with items := .repetition p :: ps }

end PatternLevel

structure OpenGroup where
  before : PatternLevel
  change : FlagChange
  /-- Whether blanks and comments meant nothing before the group. -/
  verbose : Bool

/-- Whether the text is the name of a group: a letter or `_`, and then also digits, points and brackets. -/
def isGroupName (cs : List Char) : Bool :=
  match cs with
  | [] => false
  | c :: cs =>
    (c == '_' || Text.isAlphabetic c) &&
      cs.all fun c => c == '_' || c == '.' || c == '[' || c == ']' || Text.isAlphanumeric c

/-- Whether the text is a list of flags: letters, each at most once, and at most one hyphen, which is not the last. -/
def areFlags (cs : List Char) : Bool :=
  cs.all ("imsURux-".toList.contains ·) && cs.Nodup && cs.getLast? ≠ some '-'

/-- What a list of flags does to a flag: those behind a hyphen are turned off. -/
def flagChange? (cs : List Char) (flag : Char) : Option Bool :=
  if (cs.takeWhile (· ≠ '-')).contains flag then some true
  else if cs.contains flag then some false
  else none

def FlagChange.ofFlags (cs : List Char) : FlagChange :=
  ⟨flagChange? cs 'i', flagChange? cs 'u', flagChange? cs 'x'⟩

/-! ## Patterns -/

structure PatternReader where
  verbose : Bool
  names : List (List Char)
  level : PatternLevel
  /-- The groups that are open, the innermost first. -/
  groups : List OpenGroup

namespace PatternReader

def start : PatternReader := ⟨false, [], .empty, []⟩

def push (r : PatternReader) (p : Pattern) : PatternReader :=
  { r with level := r.level.push p }

def openGroup (r : PatternReader) (change : FlagChange) : PatternReader :=
  { r with
    verbose := change.verbose.getD r.verbose
    level := .empty
    groups := ⟨r.level, change, r.verbose⟩ :: r.groups }

def closeGroup (r : PatternReader) : Option PatternReader :=
  match r.groups with
  | [] => none
  | g :: gs =>
    some { r with verbose := g.verbose, level := g.before.push (.group g.change r.level.pattern), groups := gs }

def openNamed (r : PatternReader) (cs : List Char) : Option (PatternReader × List Char) :=
  let name := cs.takeWhile (· ≠ '>')
  match cs.dropWhile (· ≠ '>') with
  | [] => none
  | _ :: rest =>
    if isGroupName name ∧ name ∉ r.names then some ({ r with names := name :: r.names }.openGroup .none, rest) else none

/-- Reads flags: for a group behind a colon, or for what follows behind a closing parenthesis. -/
def openFlags (r : PatternReader) (cs : List Char) : Option (PatternReader × List Char) :=
  let flags := cs.takeWhile fun c => c ≠ ':' ∧ c ≠ ')'
  let change := FlagChange.ofFlags flags
  if !areFlags flags then none
  else match cs.dropWhile fun c => c ≠ ':' ∧ c ≠ ')' with
    | ':' :: rest => some (r.openGroup change, rest)
    | ')' :: rest =>
      if flags = [] then none
      else some ({ r with verbose := change.verbose.getD r.verbose }.push (.flags change), rest)
    | _ => none

def stepOpen (r : PatternReader) (cs : List Char) : Option (PatternReader × List Char) :=
  match skip r.verbose cs with
  | '?' :: 'P' :: '<' :: rest => r.openNamed rest
  | '?' :: '<' :: rest => r.openNamed rest
  | '?' :: rest => r.openFlags rest
  | rest => some (r.openGroup .none, rest)

/-- Reads what follows the sign of a repetition, which may be a question mark. -/
def stepRepeat (r : PatternReader) (rest : List Char) : Option (PatternReader × List Char) :=
  r.level.repeat?.map fun level =>
    ({ r with level }, if rest.head? = some '?' then rest.tail else rest)

def step (r : PatternReader) (c : Char) (rest : List Char) : Option (PatternReader × List Char) :=
  if c = '(' then r.stepOpen rest
  else if c = ')' then r.closeGroup.map fun r => (r, rest)
  else if c = '|' then some ({ r with level := r.level.alternate }, rest)
  else if c = '?' ∨ c = '*' ∨ c = '+' then r.stepRepeat rest
  else if c = '\x7b' then none
  else if c = '[' then (readSet r.verbose rest).map fun (p, rest) => (r.push p, rest)
  else if c = '\\' then (readEscape r.verbose rest).map fun (p, rest) => (r.push p, rest)
  else if c = '.' then some (r.push .any, rest)
  else if c = '^' ∨ c = '$' then some (r.push .edge, rest)
  else some (r.push (.letter ⟨c, false⟩), rest)

def finish (r : PatternReader) : Option Pattern :=
  match r.groups with
  | [] => some r.level.pattern
  | _ => none

def run (r : PatternReader) (cs : List Char) : Option Pattern :=
  match skip r.verbose cs with
  | [] => r.finish
  | c :: rest =>
    match r.step c rest with
    | none => none
    | some (r, rest) => if rest.length < cs.length then run r rest else none
termination_by cs.length

end PatternReader

def Pattern.read? (cs : List Char) : Option Pattern :=
  PatternReader.start.run cs

end PointSum.Log
