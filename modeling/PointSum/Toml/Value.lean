import PointSum.Toml.Moment
import PointSum.Toml.Numeral

/-!
# Values of TOML

A value is a text, a number, a truth value, a date or time, an array, a table, or an array of tables that headers
filled. A table remembers how it came to be, because that decides what may still be added to it.

`ofWord?` reads the values that are written without quotes or brackets.
-/

namespace PointSum.Toml

set_option autoImplicit false

inductive Origin where
  /-- By a header of its own, or as the root. -/
  | declared
  /-- By the header of a table inside it. -/
  | implied
  /-- By a dotted key. -/
  | dotted
  /-- By braces. Nothing can be added to it. -/
  | inline
  deriving DecidableEq, Repr

structure Table (α : Type) where
  origin : Origin
  entries : List (String × α)
  deriving DecidableEq, Repr

namespace Table

variable {α : Type}

def empty (origin : Origin) : Table α := ⟨origin, []⟩

def get? (t : Table α) (key : String) : Option α := t.entries.lookup key

def putEntry (key : String) (value : α) : List (String × α) → List (String × α)
  | [] => [(key, value)]
  | (k, v) :: es => if k = key then (key, value) :: es else (k, v) :: putEntry key value es

def put (t : Table α) (key : String) (value : α) : Table α :=
  { t with entries := putEntry key value t.entries }

end Table

inductive Value where
  | text (s : String)
  | number (n : Numeral)
  | boolean (b : Bool)
  | moment (written : String)
  | array (items : List Value)
  | table (t : Table Value)
  /-- An array of tables that headers filled. -/
  | tables (elements : List (Table Value))

def Value.ofWord? (cs : List Char) : Option Value :=
  if cs = "true".toList then some (.boolean true)
  else if cs = "false".toList then some (.boolean false)
  else match Numeral.ofWord? cs with
    | some n => some (.number n)
    | none => if isMoment cs then some (.moment (.ofList cs)) else none

end PointSum.Toml
