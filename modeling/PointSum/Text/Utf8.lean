/-!
# UTF-8

A byte string is read as a sequence of pieces: a well-formed character, or a run of bytes that is none. A broken
run is as long as the bytes still look like the beginning of one character, so `F0 9F 98` before a blank is one run
of three bytes and `ED A0 80` three runs of one. `decode?` gives the text of a byte string without broken runs,
`decodeLossy` puts U+FFFD in place of each broken run, and `encode` is the way back.
-/

namespace PointSum.Text

set_option autoImplicit false

abbrev Bytes := List UInt8

def encode (cs : List Char) : Bytes :=
  cs.flatMap String.utf8EncodeChar

inductive Piece where
  | character (c : Char)
  /-- Bytes that are the beginning of a character at most. -/
  | broken (bytes : Bytes)
  deriving DecidableEq, Repr

/-- A character of several bytes of which the first ones have been read. -/
structure Opened where
  /-- The bytes read, the last one first. -/
  read : Bytes
  value : Nat
  missing : Nat
  least : UInt8
  greatest : UInt8
  deriving DecidableEq, Repr

/-- What a byte opens that may begin a character of several bytes. The narrower ranges for the second byte leave
out overlong forms, surrogates and values above U+10FFFF. -/
def Opened.ofLead? (b : UInt8) : Option Opened :=
  if 0xC2 ≤ b && b ≤ 0xDF then some ⟨[b], b.toNat - 0xC0, 1, 0x80, 0xBF⟩
  else if b == 0xE0 then some ⟨[b], 0, 2, 0xA0, 0xBF⟩
  else if b == 0xED then some ⟨[b], 0xD, 2, 0x80, 0x9F⟩
  else if 0xE1 ≤ b && b ≤ 0xEF then some ⟨[b], b.toNat - 0xE0, 2, 0x80, 0xBF⟩
  else if b == 0xF0 then some ⟨[b], 0, 3, 0x90, 0xBF⟩
  else if b == 0xF4 then some ⟨[b], 4, 3, 0x80, 0x8F⟩
  else if 0xF1 ≤ b && b ≤ 0xF3 then some ⟨[b], b.toNat - 0xF0, 3, 0x80, 0xBF⟩
  else none

def Opened.push (o : Opened) (b : UInt8) : Opened :=
  ⟨b :: o.read, o.value * 64 + (b.toNat - 0x80), o.missing - 1, 0x80, 0xBF⟩

/-- Reads a byte where a character may begin: the piece it completes, and the character it opens. -/
def beginByte (b : UInt8) : List Piece × Option Opened :=
  if b < 0x80 then ([.character (Char.ofNat b.toNat)], none)
  else match Opened.ofLead? b with
    | some o => ([], some o)
    | none => ([.broken [b]], none)

/-- Reads a byte, with a character open or not: the pieces it completes, and the character then open. -/
def nextByte : Option Opened → UInt8 → List Piece × Option Opened
  | none, b => beginByte b
  | some o, b =>
    if o.least ≤ b && b ≤ o.greatest then
      if (o.push b).missing = 0 then ([.character (Char.ofNat (o.push b).value)], none)
      else ([], some (o.push b))
    else
      let (pieces, opened) := beginByte b
      (.broken o.read.reverse :: pieces, opened)

def piecesFrom : Option Opened → Bytes → List Piece
  | none, [] => []
  | some o, [] => [.broken o.read.reverse]
  | opened, b :: bs => (nextByte opened b).1 ++ piecesFrom (nextByte opened b).2 bs

def pieces (bs : Bytes) : List Piece :=
  piecesFrom none bs

def Piece.character? : Piece → Option Char
  | .character c => some c
  | .broken _ => none

def decode? (bs : Bytes) : Option (List Char) :=
  (pieces bs).mapM Piece.character?

/-- The text of a byte string, with U+FFFD for each broken run. -/
def decodeLossy (bs : Bytes) : List Char :=
  (pieces bs).map fun p => p.character?.getD '\uFFFD'

/-- The text of the longest well-formed front, and the bytes after it. -/
def decodeFront (bs : Bytes) : List Char × Bytes :=
  let front := (pieces bs).takeWhile (·.character?.isSome) |>.filterMap Piece.character?
  (front, bs.drop (encode front).length)

end PointSum.Text
