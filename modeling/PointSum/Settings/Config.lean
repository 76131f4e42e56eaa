import PointSum.Text.Utf8
import PointSum.Toml.Reading

/-!
# The configuration file

The configuration has one section, `app`, with one setting, `numeric`. The file is a TOML document. The section is a
table, an array whose first item is the setting, or a date or time, which has no setting in it. All else in the file
is passed over, but not unseen: a numeral that cannot be read makes the file unreadable wherever it is passed over.
Only what follows the first item of the section written as an array is not looked at.
-/

namespace PointSum.Settings

set_option autoImplicit false

open Toml (Value Table)

structure Section where
  numeric : Option String
  deriving DecidableEq, Repr

structure Config where
  app : Option Section
  deriving DecidableEq, Repr

/-- What is found in the place of the configuration file. -/
inductive ConfigFile where
  | missing
  | directory
  | file (contents : Text.Bytes)
  deriving DecidableEq, Repr

/-- Why there is no configuration. -/
inductive ConfigFault where
  | isDirectory
  | notText
  /-- The text is no document, or a setting has the wrong type. -/
  | malformed
  deriving DecidableEq, Repr

mutual

/-- Whether a value can be passed over. -/
def isPassable : Value → Bool
  | .number n => n.isReadable
  | .array items => areItemsPassable items
  | .table ⟨_, entries⟩ => areEntriesPassable entries
  | .tables elements => areElementsPassable elements
  | .text _ => true
  | .boolean _ => true
  | .moment _ => true

def areItemsPassable : List Value → Bool
  | [] => true
  | v :: vs => isPassable v && areItemsPassable vs

def areEntriesPassable : List (String × Value) → Bool
  | [] => true
  | (_, v) :: es => isPassable v && areEntriesPassable es

def areElementsPassable : List (Table Value) → Bool
  | [] => true
  | ⟨_, es⟩ :: ts => areEntriesPassable es && areElementsPassable ts

end

/-- Whether everything in a table but one key can be passed over. -/
def arePassableBeside (key : String) (t : Table Value) : Bool :=
  areEntriesPassable (t.entries.filter (·.1 ≠ key))

def textOf? : Value → Option String
  | .text s => some s
  | _ => none

/-- The section of a table. -/
def Section.ofTable? (t : Table Value) : Option Section :=
  if arePassableBeside "numeric" t then
    match t.get? "numeric" with
    | none => some ⟨none⟩
    | some v => (textOf? v).map fun s => ⟨some s⟩
  else none

def Section.ofValue? : Value → Option Section
  | .table t => ofTable? t
  | .array (v :: _) => (textOf? v).map fun s => ⟨some s⟩
  | .moment _ => some ⟨none⟩
  | _ => none

def Config.ofTable? (root : Table Value) : Option Config :=
  if arePassableBeside "app" root then
    match root.get? "app" with
    | none => some ⟨none⟩
    | some v => (Section.ofValue? v).map fun s => ⟨some s⟩
  else none

def Config.read (cs : List Char) : Except ConfigFault Config :=
  match (Toml.read? cs).bind Config.ofTable? with
  | some c => .ok c
  | none => .error .malformed

/-- The configuration in the place of the file; none if there is nothing. -/
def ConfigFile.load : ConfigFile → Except ConfigFault (Option Config)
  | missing => .ok none
  | directory => .error .isDirectory
  | file contents =>
    match Text.decode? contents with
    | none => .error .notText
    | some cs => (Config.read cs).map some

end PointSum.Settings
