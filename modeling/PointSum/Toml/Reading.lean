import PointSum.Toml.Document
import PointSum.Toml.Scanner

/-!
# Reading TOML

`Reader` reads the tokens of a document one by one. Its state is the document so far, the constructs that are open,
the innermost first, and the place, which says what the next token may be. A document is read whole or not at all:
`read?` gives the tree of a document in which every token stands where it may.

Arrays and inline tables may be nested up to a depth of eighty, and a key has up to eighty parts. Inside braces line
ends may stand wherever blanks may, but not inside a key.
-/

namespace PointSum.Toml

set_option autoImplicit false

inductive Construct where
  /-- A key at the beginning of a line, whose value is being read. -/
  | entry (path : Path)
  /-- An array with the items read so far, the last one first. -/
  | array (items : List Value)
  /-- A table in braces, before a key. -/
  | braces (table : Table Value)
  /-- A table in braces and a key in it, whose value is being read. -/
  | pair (table : Table Value) (path : Path)

inductive KeyUse where
  /-- It gets a value. -/
  | value
  /-- It is the header of a table. -/
  | table
  /-- It is the header of an element of an array of tables. -/
  | element
  deriving DecidableEq, Repr

inductive Place where
  | line
  | lineEnd
  /-- The second bracket or the key of a header. -/
  | header
  | keyPart (use : KeyUse) (path : Path)
  | keyEnd (use : KeyUse) (path : Path)
  /-- The equals sign behind a key in braces and a line end. -/
  | equals (path : Path)
  /-- The second closing bracket of a header. -/
  | headerEnd (path : Path)
  | value
  /-- An item of an array, or its end. -/
  | item
  /-- A key of a table in braces, or its end. -/
  | brace
  /-- More of a value without quotes. -/
  | word (read : List Char)
  /-- What follows an item of an array or a pair of a table in braces. -/
  | separator
  deriving DecidableEq, Repr

structure Reader where
  document : Document
  /-- The open constructs, the innermost first. -/
  stack : List Construct
  place : Place

def Token.key? : Token → Option String
  | .word cs => if cs.all fun c => c.isAlphanum || c == '_' || c == '-' then some (.ofList cs) else none
  | .text cs multiline => if multiline then none else some (.ofList cs)
  | _ => none

/-- How deep arrays and inline tables may be nested. -/
def depthLimit : Nat := 80

/-- How many parts a key may have. -/
def pathLimit : Nat := 80

namespace Reader

def start : Reader := ⟨.empty, [], .line⟩

/-- Completes a value: it goes to the innermost construct. -/
def complete (r : Reader) (v : Value) : Option Reader :=
  match r.stack with
  | .entry path :: stack => (r.document.assign path v).map fun d => ⟨d, stack, .lineEnd⟩
  | .array items :: stack => some { r with stack := .array (v :: items) :: stack, place := .separator }
  | .pair table path :: stack =>
    (table.assign path v).map fun t => { r with stack := .braces t :: stack, place := .separator }
  | _ => none

/-- Closes the innermost construct, which becomes a value. -/
def close (r : Reader) : Option Reader :=
  match r.stack with
  | .array items :: stack => complete { r with stack } (.array items.reverse)
  | .braces table :: stack => complete { r with stack } (.table table)
  | _ => none

def push (r : Reader) (c : Construct) (place : Place) : Option Reader :=
  if r.stack.length ≤ depthLimit then some { r with stack := c :: r.stack, place } else none

def stepValue (r : Reader) : Token → Option Reader
  | .word cs => some { r with place := .word cs }
  | .text cs _ => r.complete (.text (.ofList cs))
  | .openBracket => r.push (.array []) .item
  | .openBrace => r.push (.braces (.empty .inline)) .brace
  | _ => none

def stepKey (r : Reader) (use : KeyUse) (path : Path) (t : Token) : Option Reader :=
  if path.length < pathLimit then t.key?.map fun k => { r with place := .keyEnd use (path ++ [k]) } else none

def inBraces (r : Reader) : Bool :=
  match r.stack with
  | .braces _ :: _ => true
  | .pair _ _ :: _ => true
  | _ => false

def stepEquals (r : Reader) (path : Path) : Option Reader :=
  match r.stack with
  | [] => some { r with stack := [.entry path], place := .value }
  | .braces table :: stack => some { r with stack := .pair table path :: stack, place := .value }
  | _ => none

def stepKeyEnd (r : Reader) (use : KeyUse) (path : Path) : Token → Option Reader
  | .blank => some r
  | .newline => if use = .value ∧ r.inBraces then some { r with place := .equals path } else none
  | .dot => some { r with place := .keyPart use path }
  | .equals => if use = .value then r.stepEquals path else none
  | .closeBracket =>
    match use with
    | .value => none
    | .table => (r.document.openTable path).map fun document => { r with document, place := .lineEnd }
    | .element => some { r with place := .headerEnd path }
  | _ => none

/-- A token behind an item of an array or a pair of a table in braces, or behind a whole line. -/
def stepAfter (r : Reader) (t : Token) : Option Reader :=
  match r.place, t with
  | .lineEnd, .blank => some r
  | .lineEnd, .newline => some { r with place := .line }
  | .separator, .blank => some r
  | .separator, .newline => some r
  | .separator, .comma =>
    match r.stack with
    | .array _ :: _ => some { r with place := .item }
    | .braces _ :: _ => some { r with place := .brace }
    | _ => none
  | .separator, .closeBracket =>
    match r.stack with
    | .array _ :: _ => r.close
    | _ => none
  | .separator, .closeBrace =>
    match r.stack with
    | .braces _ :: _ => r.close
    | _ => none
  | _, _ => none

def completeWord (r : Reader) (read : List Char) : Option Reader :=
  (Value.ofWord? read).bind r.complete

def step (r : Reader) (t : Token) : Option Reader :=
  match r.place with
  | .line =>
    match t with
    | .blank | .newline => some r
    | .openBracket => some { r with place := .header }
    | _ => r.stepKey .value [] t
  | .header =>
    match t with
    | .openBracket => some { r with place := .keyPart .element [] }
    | .blank => some { r with place := .keyPart .table [] }
    | _ => r.stepKey .table [] t
  | .keyPart use path => if t = .blank then some r else r.stepKey use path t
  | .keyEnd use path => r.stepKeyEnd use path t
  | .equals path =>
    match t with
    | .blank | .newline => some r
    | .equals => r.stepEquals path
    | _ => none
  | .headerEnd path =>
    if t = .closeBracket then
      (r.document.openElement path).map fun document => { r with document, place := .lineEnd }
    else none
  | .value => if t = .blank ∨ (t = .newline ∧ r.inBraces) then some r else r.stepValue t
  | .item =>
    match t with
    | .blank | .newline => some r
    | .closeBracket => r.close
    | _ => r.stepValue t
  | .brace =>
    match t with
    | .blank | .newline => some r
    | .closeBrace => r.close
    | _ => r.stepKey .value [] t
  | .word read =>
    match t with
    | .word cs => some { r with place := .word (read ++ cs) }
    | .dot => some { r with place := .word (read ++ ['.']) }
    | _ => (r.completeWord read).bind (·.stepAfter t)
  | .lineEnd | .separator => r.stepAfter t

/-- The document at the end of its tokens. -/
def finish (r : Reader) : Option Document :=
  match r.place with
  | .line | .lineEnd => some r.document
  | .word read => (r.completeWord read).bind fun r => if r.place = .lineEnd then some r.document else none
  | _ => none

def steps (r : Reader) (ts : List Token) : Option Reader :=
  ts.foldlM step r

end Reader

def read? (document : List Char) : Option (Table Value) := do
  let ts ← tokens? document
  let r ← Reader.start.steps ts
  let d ← r.finish
  return d.root

end PointSum.Toml
