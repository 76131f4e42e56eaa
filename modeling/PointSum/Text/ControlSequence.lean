import PointSum.Text.Utf8

/-!
# Control sequences

A terminal takes some sequences of bytes for commands. They begin with the control character ESC; the bytes behind it
say which kind of sequence it is and where it ends. `strip` leaves out of a text all control sequences, and all control
characters but the blank ones (tab, line feed, form feed and carriage return), so that only what shows is left. A
sequence that does not end takes the rest of the text with it.

A blank control character shows even inside a sequence, unless the sequence holds a string, and so does the text that
follows it. What then becomes of the sequence is the `Interruption`.
-/

namespace PointSum.Text

set_option autoImplicit false

/-- The control sequence that is open. -/
inductive Sequence where
  | none
  | escape
  | intermediate
  /-- A control sequence: parameters up to a final byte. -/
  | control
  | device
  | deviceParameter
  | deviceIntermediate
  /-- The string of a device, of an application or of a message, which a byte ends. -/
  | string
  /-- A command to the operating system, which the bell ends. -/
  | command
  deriving DecidableEq, Repr

/-- What becomes of a sequence that a blank control character has interrupted. -/
inductive Interruption where
  | ends
  /-- It is open again at the next byte that does not show, if no character of several bytes came before. -/
  | lasts
  deriving DecidableEq, Repr

def isBlankControl (b : UInt8) : Bool :=
  b == 0x09 || b == 0x0A || b == 0x0C || b == 0x0D

def isLead (b : UInt8) : Bool :=
  0xC2 ≤ b && b ≤ 0xF4

def isContinuation (b : UInt8) : Bool :=
  0x80 ≤ b && b ≤ 0xBF

namespace Sequence

/-- The kind of sequence that the byte behind ESC opens. -/
def ofOpening (b : UInt8) : Sequence :=
  if b < 0x20 then escape
  else if b < 0x30 then intermediate
  else if b == 0x50 then device
  else if b == 0x5B then control
  else if b == 0x5D then command
  else if b == 0x58 || b == 0x5E || b == 0x5F then string
  else if b < 0x7F then none
  else escape

def ofDeviceHead (inHead parameter : Sequence) (b : UInt8) : Sequence :=
  if 0x20 ≤ b && b < 0x30 then deviceIntermediate
  else if 0x30 ≤ b && b < 0x40 then parameter
  else if 0x40 ≤ b && b < 0x7F then string
  else inHead

/-- The sequence that is open after one more byte. ESC opens a sequence anywhere, and CAN and SUB end any. -/
def next (s : Sequence) (b : UInt8) : Sequence :=
  if b == 0x1B then escape
  else if b == 0x18 || b == 0x1A then none
  else match s with
    | none => none
    | escape => ofOpening b
    | intermediate => if 0x30 ≤ b && b < 0x7F then none else intermediate
    | control => if 0x40 ≤ b && b < 0x7F then none else control
    | device => ofDeviceHead device deviceParameter b
    | deviceParameter => ofDeviceHead deviceParameter (if b < 0x3C then deviceParameter else string) b
    | deviceIntermediate => ofDeviceHead deviceIntermediate string b
    | string => if b == 0x9C then none else string
    | command => if b == 0x07 then none else command

def shows (s : Sequence) (b : UInt8) : Bool :=
  match s with
  | none => (0x20 ≤ b && b < 0x7F) || isLead b || isBlankControl b
  | escape | intermediate | control => isBlankControl b
  | _ => false

end Sequence

/-- The state of stripping: the sequence that is open, and whether the byte before showed. -/
structure Stripper where
  /-- The sequence that is open, or that was when a blank control character interrupted it. -/
  sequence : Sequence
  showing : Bool
  deriving DecidableEq, Repr

namespace Stripper

def start : Stripper := ⟨.none, false⟩

/-- Reads a byte: the next state, and whether the byte shows. Behind a byte that shows, text shows whatever sequence
was interrupted. -/
def step (i : Interruption) (s : Stripper) (b : UInt8) : Stripper × Bool :=
  if s.showing && (Sequence.none.shows b || isContinuation b) then
    (⟨if isLead b then .none else s.sequence, true⟩, true)
  else if s.sequence.shows b then
    (⟨if i = .ends || isLead b then .none else s.sequence, true⟩, true)
  else (⟨s.sequence.next b, false⟩, false)

def strip (i : Interruption) : Stripper → Bytes → Bytes
  | _, [] => []
  | s, b :: bs =>
    if (s.step i b).2 then b :: strip i (s.step i b).1 bs else strip i (s.step i b).1 bs

end Stripper

/-- The text without control sequences and control characters. -/
def strip (i : Interruption) (text : String) : String :=
  .ofList (decodeLossy (Stripper.start.strip i (encode text.toList)))

end PointSum.Text
