import PointSum.Log.Pattern.Reading
import PointSum.Log.Record
import PointSum.Number.Decimal
import PointSum.Number.Word
import PointSum.Text.Slice

/-!
# Log filters

A filter is a list of directives. A directive allows the records up to a level, of all targets or of the targets that
begin with a word, and with a field in square brackets only the records that have that field. Of the directives that
match a record the most specific decides: the one with the longest target, then the one with a field; of two
directives alike the later one. A record that no directive matches is not shown.

A filter is written as directives with commas between them: `LEVEL`, `TARGET`, `TARGET=LEVEL`, each with a scope
`[SPAN]`, `[{FIELD}]`, `[{FIELD=VALUE}]` or the like behind the target. There are no spans, so a scope that asks for
one, or for the value of a field, matches nothing; the value still has to be a truth value, a number or a pattern that
can be used. Where no filter is given, or none that can be read, the records from warnings on are shown. A directive
with blanks in front may also trap: then there is no filter, and the program ends.
-/

namespace PointSum.Log

set_option autoImplicit false

/-- The most detailed level that is shown, by its rank: zero shows nothing. -/
abbrev Threshold := Nat

/-- What the records are that a directive speaks of, and which of them it allows. -/
structure Directive where
  /-- The front of the targets; all if there is none. -/
  target : Option (List Char)
  /-- A field that the records have. -/
  field : Option (List Char)
  threshold : Threshold
  deriving DecidableEq, Repr

abbrev Filter := List Directive

/-! ## Selection -/

namespace Directive

def isAbout (d : Directive) (r : Record) : Bool :=
  (match d.target with
    | none => true
    | some t => t.isPrefixOf r.target.toList) &&
  (match d.field with
    | none => true
    | some f => r.fields.any fun name => name.toList = f)

/-- The length of the target in bytes, more by one than without a target. -/
def targetWeight (d : Directive) : Nat :=
  match d.target with
  | none => 0
  | some t => (Text.encode t).length + 1

def textLt (a b : List Char) : Bool :=
  decide (a.map Char.toNat < b.map Char.toNat)

/-- Whether a directive is at least as specific as another about the same record: a longer target, then a field, then
the name of the field. -/
def atLeastAsSpecific (d e : Directive) : Bool :=
  if d.targetWeight ≠ e.targetWeight then e.targetWeight < d.targetWeight
  else if d.field.isSome ≠ e.field.isSome then d.field.isSome
  else !textLt (d.field.getD []) (e.field.getD [])

end Directive

namespace Filter

/-- The directive that decides on a record. -/
def deciding? (fs : Filter) (r : Record) : Option Directive :=
  fs.foldl (fun best d =>
    if d.isAbout r then
      match best with
      | none => some d
      | some b => if d.atLeastAsSpecific b then some d else some b
    else best) none

def shows (fs : Filter) (r : Record) : Bool :=
  match fs.deciding? r with
  | none => false
  | some d => r.level.rank ≤ d.threshold

def select (fs : Filter) (rs : List Record) : List Record :=
  rs.filter fs.shows

end Filter

/-! ## Reading -/

def thresholdNames : List (String × Threshold) :=
  [("off", 0), ("error", 1), ("warn", 2), ("info", 3), ("debug", 4), ("trace", 5)]

/-- Reads a level: a number from zero to five, or a word in letters of either case. -/
def readThreshold (cs : List Char) : Option Threshold :=
  let number := match Number.Word.readInt .nat64 cs with
    | .ok n => if n ≤ 5 then some n.toNat else none
    | .error _ => none
  match number with
  | some n => some n
  | none => (thresholdNames.find? fun p => p.1.toList = cs.map Char.toLower).map (·.2)

def traceThreshold : Threshold := 5

/-- The directive that consists of one word. -/
def Directive.ofWord (cs : List Char) : Directive :=
  match readThreshold cs with
  | some t => ⟨none, none, t⟩
  | none => ⟨some cs, none, traceThreshold⟩

def opensDirective (c : Char) : Bool :=
  c == '-' || c == ':' || c == '_' || c == '[' || Text.isAlphanumeric c

/-- Why a directive stops the program that reads it: a part of it would begin or end inside a character. -/
structure FilterTrap where
  /-- The sign that the part goes up to, if it does not go up to the end. -/
  sign : Option Char
  fault : Text.SliceFault
  deriving DecidableEq, Repr

def FilterTrap.message (t : FilterTrap) : String := t.fault.message

inductive DirectiveFault where
  | unreadable
  | trap (t : FilterTrap)
  deriving DecidableEq, Repr

/-! ### Places

The signs of a directive are looked for without the blanks around it, but its parts are taken from the directive with
the blanks, at the places that they have without. So a blank in front moves every part, and one of several bytes may
move the end of a part into a character. That is a trap, unless the directive is unreadable before this part. -/

/-- The part behind the text before it, up to a sign. -/
def placed (directive before part : List Char) (sign : Char) : Except DirectiveFault (List Char) :=
  (Text.slice directive (Text.encode before).length (Text.encode (before ++ part)).length).mapError
    fun e => .trap ⟨some sign, e⟩

def placedRest (directive before : List Char) : Except DirectiveFault (List Char) :=
  (Text.sliceFrom directive (Text.encode before).length).mapError fun e => .trap ⟨none, e⟩

/-- Reads the level at the end: every record if nothing is left. -/
def readLevel (directive before : List Char) : Except DirectiveFault Threshold := do
  let cs ← placedRest directive before
  if cs = [] then return traceThreshold
  else match readThreshold cs with
    | some n => return n
    | none => throw .unreadable

/-! ### Fields -/

/-- The value that a field is compared with, between the first equals sign and the next one. -/
def comparedValue? (field : List Char) : Option (List Char) :=
  match field.dropWhile (· ≠ '=') with
  | [] => none
  | _ :: cs => some (cs.takeWhile (· ≠ '='))

/-- Whether a field can be compared with the text: a truth value, a number, or a pattern that can be used. -/
def isComparable (cs : List Char) : Bool :=
  cs == "true".toList || cs == "false".toList || (Number.Binary.readLiteral .double cs).isOk ||
    (Pattern.read? cs).any Pattern.isUsable

/-! ### Scopes -/

def readAfterScope (directive before cs : List Char) : Except DirectiveFault Threshold :=
  match cs with
  | [] => .ok traceThreshold
  | '=' :: _ => readLevel directive (before ++ ['='])
  | _ => .error .unreadable

def readFieldScope (directive before : List Char) (target : Option (List Char)) (inSpan : Bool) (cs : List Char) :
    Except DirectiveFault (Option Directive) := do
  let written := cs.takeWhile (· ≠ '\x7d')
  match cs.dropWhile (· ≠ '\x7d') with
  | [] => throw .unreadable
  | brace :: rest =>
    let field ← placed directive before written brace
    if field = [] || !(comparedValue? field).all isComparable then throw .unreadable
    else match rest with
      | ']' :: rest =>
        let threshold ← readAfterScope directive (before ++ written ++ [brace, ']']) rest
        return if inSpan || (comparedValue? field).isSome then none else some ⟨target, some field, threshold⟩
      | _ => throw .unreadable

/-- Reads a scope behind its opening bracket, and the level behind it. A scope that asks for a span or for the value
of a field gives no directive. -/
def readScope (directive before : List Char) (target : Option (List Char)) (cs : List Char) :
    Except DirectiveFault (Option Directive) := do
  let span := cs.takeWhile fun c => c ≠ ']' ∧ c ≠ '\x7b'
  match cs.dropWhile fun c => c ≠ ']' ∧ c ≠ '\x7b' with
  | [] => throw .unreadable
  | c :: rest =>
    let _ ← placed directive before span c
    if c = ']' then
      let _ ← readAfterScope directive (before ++ span ++ [c]) rest
      return none
    else readFieldScope directive (before ++ span ++ [c]) target (span ≠ []) rest

def readDirective (directive : List Char) : Except DirectiveFault (Option Directive) := do
  let cs := Text.trim directive
  let word := cs.takeWhile fun c => c ≠ '=' ∧ c ≠ '['
  if !cs.head?.any opensDirective then throw .unreadable
  else match cs.dropWhile fun c => c ≠ '=' ∧ c ≠ '[' with
    | [] => return some (.ofWord directive)
    | c :: rest =>
      let target ← placed directive [] word c
      if c = '=' then
        let threshold ← readLevel directive (word ++ [c])
        return some ⟨some target, none, threshold⟩
      else readScope directive (word ++ [c]) (if word = [] then none else some target) rest

def directiveTexts (cs : List Char) : List (List Char) :=
  (cs.splitOn ',').filter (· ≠ [])

/-- Reads a filter, up to the first directive that is not read. Where no directive is written the filter shows
errors. -/
def Filter.read (cs : List Char) : Except DirectiveFault Filter :=
  match directiveTexts cs with
  | [] => .ok [⟨none, none, Level.error.rank⟩]
  | texts => (texts.mapM readDirective).map fun ds => ds.filterMap id

def Filter.warnings : Filter := [⟨none, none, Level.warn.rank⟩]

/-- The filter of a setting that may be missing, no text, or no filter. -/
def Filter.ofSetting (setting : Option Text.Bytes) : Except FilterTrap Filter :=
  match setting.bind Text.decode? with
  | none => .ok warnings
  | some cs =>
    match read cs with
    | .ok fs => .ok fs
    | .error .unreadable => .ok warnings
    | .error (.trap t) => .error t

end PointSum.Log
