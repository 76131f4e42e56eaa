import PointSum.CommandLine.Stop
import PointSum.Text.Similarity
import PointSum.Text.Utf8

/-!
# Reading the command line

The words of a command line are byte strings and are read from left to right. `read` gives the addition they ask
for, or the stop that the first deciding word leads to; no word after that one is looked at.

Behind the command `add` a word that begins with a hyphen is a point like any other, unless it asks for help or two
points have been read. The first `--` is left out, and every word after it is a point. Whether a point is
well-formed text is looked at when the next one begins, when help is asked for, and at the end.
-/

namespace PointSum.CommandLine

set_option autoImplicit false

open Text (Bytes)

structure Request where
  /-- The first point, as it was written. -/
  lhs : String
  /-- The second point, as it was written. -/
  rhs : String
  deriving DecidableEq, Repr

inductive Shape where
  | escape
  /-- A word that begins with two hyphens: the name, and the value behind an equals sign. -/
  | long (name : Bytes) (value : Option Bytes)
  /-- A word that begins with one hyphen, and what follows it. -/
  | short (letters : Bytes)
  /-- Any other word. -/
  | plain
  deriving DecidableEq, Repr

def hyphen : UInt8 := 0x2D

def equalsSign : UInt8 := 0x3D

/-- The form of a word that has something behind two hyphens. -/
def Shape.ofLong (rest : Bytes) : Shape :=
  let name := rest.takeWhile (· ≠ equalsSign)
  let value := match rest.dropWhile (· ≠ equalsSign) with
    | [] => none
    | _ :: v => some v
  .long name value

def Shape.ofWord (w : Bytes) : Shape :=
  match w with
  | a :: b :: rest =>
    if a ≠ hyphen then .plain
    else if b ≠ hyphen then .short (b :: rest)
    else if rest = [] then .escape
    else .ofLong rest
  | _ => .plain

/-- A word as it is shown. -/
def shown (w : Bytes) : String :=
  .ofList (Text.decodeLossy w)

def bytesOf (name : String) : Bytes :=
  Text.encode name.toList

def Scope.command? (s : Scope) (w : Bytes) : Option (String × Scope) :=
  s.commands.find? fun c => bytesOf c.1 = w

/-- The stop of a flag without a value. -/
def Flag.stop (scope : Scope) : Flag → Stop
  | .help => .help scope
  | .version => .version

def Scope.flag? (s : Scope) (name : Bytes) : Option Flag :=
  s.flags.find? fun f => bytesOf f.name = name

/-- The flag whose name is most similar to the name. -/
def Scope.similarFlag? (s : Scope) (name : Bytes) : Option Flag :=
  match (Text.similarTo (Text.decodeLossy name) (s.flags.map Flag.name)).getLast? with
  | none => none
  | some best => s.flags.find? fun f => f.name = best

/-- The hint that a word can be passed as a value, where there are values. -/
def Scope.valueTip (s : Scope) (word : String) : Option Tip :=
  if s = .add then some (.escapeValue word) else none

/-- The stop of a long word whose name is no flag. -/
def unknownLong (scope : Scope) (name : Bytes) : Stop :=
  let word := "--" ++ shown name
  match scope.similarFlag? name with
  | some f => .unknownArgument scope word (some (.similarFlag f))
  | none => .unknownArgument scope word (scope.valueTip word)

/-- The stop of a short word: its first letter is a flag, or it is unknown. -/
def shortStop (scope : Scope) (letters : Bytes) : Stop :=
  match Text.decodeFront letters with
  | (c :: _, _) =>
    match scope.flags.find? (·.letter = c) with
    | some f => f.stop scope
    | none =>
      let word := String.ofList ['-', c]
      .unknownArgument scope word (scope.valueTip word)
  | ([], broken) =>
    let word := "-" ++ shown broken
    .unknownArgument scope word (scope.valueTip word)

/-! ## The command `add` -/

/-- Whether the last point read is not well-formed text. -/
def endsBroken (taken : List Bytes) : Bool :=
  match taken.getLast? with
  | none => false
  | some w => (Text.decode? w).isNone

inductive Meaning where
  /-- From here on every word is a point. -/
  | escape
  | operand
  | stop (s : Stop)
  deriving DecidableEq, Repr

/-- The stop that a flag of `add` leads to. A point read before it has to be well-formed text. -/
def addFlagStop (taken : List Bytes) (s : Stop) : Stop :=
  if s.isAnswer && endsBroken taken then .notText else s

def addMeaning (taken : List Bytes) (w : Bytes) : Meaning :=
  match Shape.ofWord w with
  | .escape => .escape
  | .plain => .operand
  | .long name value =>
    if (Text.decode? name).isNone then .stop (unknownLong .add name)
    else match Scope.add.flag? name, value with
      | some f, none => .stop (addFlagStop taken (f.stop .add))
      | some f, some v => .stop (.surplusValue .add f (shown v) (taken.length = 2))
      | none, _ => if taken.length < 2 then .operand else .stop (unknownLong .add name)
  | .short letters =>
    if taken.length < 2 ∧ ¬ letters.all fun b => Scope.add.flags.any fun f => bytesOf (.singleton f.letter) = [b] then
      .operand
    else .stop (addFlagStop taken (shortStop .add letters))

def takeOperand (taken : List Bytes) (w : Bytes) : Except Stop (List Bytes) :=
  if taken.length < 2 then
    if endsBroken taken then .error .notText else .ok (taken ++ [w])
  else .error (.unknownArgument .add (shown w) none)

/-- The addition of the points taken. -/
def request (taken : List Bytes) : Except Stop Request :=
  if endsBroken taken then .error .notText
  else match taken with
    | [] => .error (.operandsMissing ["LHS", "RHS"])
    | [_] => .error (.operandsMissing ["RHS"])
    | l :: r :: _ =>
      match Text.decode? l, Text.decode? r with
      | some lhs, some rhs => .ok ⟨.ofList lhs, .ofList rhs⟩
      | _, _ => .error .notText

def readEscaped : (taken : List Bytes) → List Bytes → Except Stop Request
  | taken, [] => request taken
  | taken, w :: ws =>
    match takeOperand taken w with
    | .error s => .error s
    | .ok taken' => readEscaped taken' ws

def readAdd : (taken : List Bytes) → List Bytes → Except Stop Request
  | taken, [] => request taken
  | taken, w :: ws =>
    match addMeaning taken w with
    | .stop s => .error s
    | .escape => readEscaped taken ws
    | .operand =>
      match takeOperand taken w with
      | .error s => .error s
      | .ok taken' => readAdd taken' ws

/-! ## The program -/

/-- Reads the words behind `help`: a path of commands. -/
def readHelp : (scope : Scope) → List Bytes → Stop
  | scope, [] => .help scope
  | scope, w :: ws =>
    match scope.command? w with
    | some (_, inner) => readHelp inner ws
    | none => .unknownCommand scope (shown w) none

def notCommand (w : Bytes) : Stop :=
  match Text.similarTo (Text.decodeLossy w) (Scope.program.commands.map (·.1)) with
  | [] => .unknownCommand .program (shown w) none
  | names => .unknownCommand .program (shown w) (some (.similarCommands names))

/-- The stop of the words behind a `--` in the place of a command. -/
def stopEscaped : List Bytes → Stop
  | [] => .commandMissing
  | w :: _ =>
    match Scope.program.command? w with
    | some (name, _) => .unknownArgument .program (shown w) (some (.dropEscape name))
    | none => notCommand w

def stopWord (w : Bytes) (ws : List Bytes) : Stop :=
  match Shape.ofWord w with
  | .escape => stopEscaped ws
  | .plain => notCommand w
  | .long name value =>
    match Scope.program.flag? name, value with
    | some f, none => f.stop .program
    | some f, some v => .surplusValue .program f (shown v) false
    | none, _ => unknownLong .program name
  | .short letters => shortStop .program letters

def read : List Bytes → Except Stop Request
  | [] => .error .commandMissing
  | w :: ws =>
    match (Scope.program.command? w).map Prod.snd with
    | some .add => readAdd [] ws
    | some _ => .error (readHelp .program ws)
    | none => .error (stopWord w ws)

end PointSum.CommandLine
