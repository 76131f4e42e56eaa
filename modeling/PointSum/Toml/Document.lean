import PointSum.Toml.Value

/-!
# Documents of TOML

A document is a tree of tables and a cursor, the path of the header that the next keys belong to. A key or a header
may add to tables that exist, but never change what was written: `assign` refuses a key that has a value and a dotted
key that leads into a table with a header of its own or with braces; a table that was only implied becomes one that
dotted keys made. `openTable` refuses a header for anything but a new table or one that is still only implied;
`openElement` adds an element to an array of tables that headers fill.
-/

namespace PointSum.Toml

set_option autoImplicit false

abbrev Path := List String

namespace Table

/-- Changes the table at the end of a path. Tables that are missing on the way are made, by a dotted key or by a
header. An array of tables stands for its last element. A dotted key does not lead into a table that was declared,
and takes over one that was implied; nothing leads into a table with braces or into any other value. -/
def alter (byKey : Bool) (change : Table Value → Option (Table Value)) : Path → Table Value → Option (Table Value)
  | [], t => change t
  | k :: ks, t =>
    match t.get? k with
    | none =>
      (alter byKey change ks (empty (if byKey then .dotted else .implied))).map fun c => t.put k (.table c)
    | some (.table c) =>
      if c.origin = .inline ∨ (byKey ∧ c.origin = .declared) then none
      else (alter byKey change ks (if byKey then { c with origin := .dotted } else c)).map fun c => t.put k (.table c)
    | some (.tables es) =>
      match es.getLast? with
      | none => none
      | some c => (alter byKey change ks c).map fun c => t.put k (.tables (es.dropLast ++ [c]))
    | some _ => none

/-- Adds a key with its value. The table that a dotted key leads to is one that dotted keys made. -/
def assignHere (isDotted : Bool) (key : String) (value : Value) (t : Table Value) : Option (Table Value) :=
  if decide (t.origin = .dotted) ≠ isDotted then none
  else match t.get? key with
    | some _ => none
    | none => some (t.put key value)

def assign (path : Path) (value : Value) (t : Table Value) : Option (Table Value) :=
  match path.getLast? with
  | none => none
  | some key => alter true (assignHere (path.dropLast ≠ []) key value) path.dropLast t

def declareHere (key : String) (t : Table Value) : Option (Table Value) :=
  match t.get? key with
  | none => some (t.put key (.table (empty .declared)))
  | some (.table c) => if c.origin = .implied then some (t.put key (.table { c with origin := .declared })) else none
  | some _ => none

def appendHere (key : String) (t : Table Value) : Option (Table Value) :=
  match t.get? key with
  | none => some (t.put key (.tables [empty .declared]))
  | some (.tables es) => some (t.put key (.tables (es ++ [empty .declared])))
  | some _ => none

end Table

structure Document where
  root : Table Value
  /-- The path of the last header. -/
  cursor : Path

namespace Document

def empty : Document := ⟨Table.empty .declared, []⟩

def assign (d : Document) (path : Path) (value : Value) : Option Document :=
  (Table.alter false (Table.assign path value) d.cursor d.root).map fun root => { d with root }

/-- Changes the table above a header's last part, and sets the cursor there. -/
def atHeader (change : String → Table Value → Option (Table Value)) (d : Document) (path : Path) : Option Document :=
  match path.getLast? with
  | none => none
  | some key => (Table.alter false (change key) path.dropLast d.root).map fun root => ⟨root, path⟩

def openTable (d : Document) (path : Path) : Option Document :=
  d.atHeader Table.declareHere path

def openElement (d : Document) (path : Path) : Option Document :=
  d.atHeader Table.appendHere path

end Document

end PointSum.Toml
