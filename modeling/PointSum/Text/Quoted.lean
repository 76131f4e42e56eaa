import PointSum.Text.Characters
import PointSum.Text.Utf8

/-!
# Quoted and disarmed text

`quote` writes a text between double quotes on one line of printable characters: the quote, the backslash, tab,
line feed, carriage return and NUL have escapes of two characters, and any other character that does not print or
that joins the one before it is written by its code point, `\u{301}`. `quoteBytes` does the same for a byte string,
with `\xFF` for a byte that belongs to no character.

A terminal obeys some characters instead of showing them. `disarm` writes those in a form that only shows: bell,
backspace, form feed, escape and delete as `\x07` and the like, and the control characters U+0080 to U+009F by
their code point. Every other character stays, line feeds too.
-/

namespace PointSum.Text

set_option autoImplicit false

def hexDigit (n : Nat) : Char :=
  if n < 10 then Char.ofNat (0x30 + n) else Char.ofNat (0x57 + n)

def hexDigits (n : Nat) : List Char :=
  Nat.toDigits 16 n

/-- A byte in hexadecimal, two capital letters or digits. -/
def hexByte (b : UInt8) : List Char :=
  [(hexDigit (b.toNat / 16)).toUpper, (hexDigit (b.toNat % 16)).toUpper]

/-- A character by its code point, as in `\u{301}`. -/
def codePoint (c : Char) : List Char :=
  ['\\', 'u', '\x7b'] ++ hexDigits c.toNat ++ ['\x7d']

def quoteChar (c : Char) : List Char :=
  if c = '\x00' then ['\\', '0']
  else if c = '\t' then ['\\', 't']
  else if c = '\n' then ['\\', 'n']
  else if c = '\r' then ['\\', 'r']
  else if c = '"' then ['\\', '"']
  else if c = '\\' then ['\\', '\\']
  else if isCombining c || !isPrintable c then codePoint c
  else [c]

def quotePiece : Piece → List Char
  | .character c => quoteChar c
  | .broken bytes => bytes.flatMap fun b => ['\\', 'x'] ++ hexByte b

def quote (cs : List Char) : List Char :=
  ['"'] ++ cs.flatMap quoteChar ++ ['"']

def quoteBytes (bs : Bytes) : List Char :=
  ['"'] ++ (pieces bs).flatMap quotePiece ++ ['"']

/-! ## Text that is safe on a terminal -/

/-- Whether a terminal may take the character for a command. -/
def isCommandChar (c : Char) : Bool :=
  c == '\x07' || c == '\x08' || c == '\x0c' || c == '\x1b' || c == '\x7f' || (0x80 ≤ c.toNat && c.toNat ≤ 0x9F)

/-- A form of the character that a terminal only shows. -/
def disarmChar (c : Char) : List Char :=
  if !isCommandChar c then [c]
  else if c.toNat < 0x80 then ['\\', 'x', hexDigit (c.toNat / 16), hexDigit (c.toNat % 16)]
  else codePoint c

def disarm (cs : List Char) : List Char :=
  cs.flatMap disarmChar

end PointSum.Text
