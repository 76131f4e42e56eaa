import PointSum.Number.Basic
import PointSum.Toml.Token

/-!
# Scanning TOML

The scanner reads a document character by character. Its state says what the next character belongs to; a step gives
the tokens that the character completes and the next state, or nothing if the character cannot stand there. Because
the scanner is a fold, scanning two texts one after the other is scanning the first and going on with the second.

A carriage return is allowed only before a line feed (`returnsPaired`), and the scanner relies on that.
-/

namespace PointSum.Toml

set_option autoImplicit false

open Number (digitBelow?)

inductive Quote where
  /-- Double quotes: text with escapes. -/
  | basic
  /-- Single quotes: text as it stands. -/
  | literal
  deriving DecidableEq, Repr

def Quote.mark : Quote → Char
  | basic => '"'
  | literal => '\''

/-- What the next character belongs to. The characters read of a word or a text come last first. -/
inductive Scanner where
  | outside
  /-- A word and the blanks behind it, which more of the word may follow. -/
  | word (read blanks : List Char)
  | comment
  | opened (quote : Quote)
  | openedTwice (quote : Quote)
  | line (quote : Quote) (read : List Char)
  /-- A text on several lines after its third quotation mark. -/
  | blockOpened (quote : Quote)
  /-- A text on several lines, with some quotation marks last. -/
  | block (quote : Quote) (read : List Char) (marks : Nat)
  | escape (multiline : Bool) (read : List Char)
  /-- An escape by code point with some digits missing. -/
  | code (multiline : Bool) (read : List Char) (missing value : Nat)
  /-- The blanks between a backslash and the end of its line. -/
  | joining (read : List Char)
  /-- The blanks and line ends after a backslash at the end of a line. -/
  | joined (read : List Char)
  deriving DecidableEq, Repr

def isSpacing (c : Char) : Bool :=
  c == ' ' || c == '\t'

/-- Whether the character can stand in a word: no blank, no line end, no punctuation, and no beginning of a comment. -/
def isWordChar (c : Char) : Bool :=
  !isSpacing c && c != '\r' && c != '\n' && c != '#' && (Token.ofPunctuation? c).isNone

/-- Whether the character can stand in a word where blanks or nothing come before it: no quotation mark. -/
def isWordStart (c : Char) : Bool :=
  isWordChar c && c != '"' && c != '\''

/-- Whether the character can stand in a comment or a text: no control character but the tab. -/
def isTextChar (c : Char) : Bool :=
  c == '\t' || (0x20 ≤ c.toNat && c != '\x7f')

def escaped? (c : Char) : Option Char :=
  if c = 'b' then some '\x08'
  else if c = 't' then some '\t'
  else if c = 'n' then some '\n'
  else if c = 'f' then some '\x0c'
  else if c = 'r' then some '\r'
  else if c = 'e' then some '\x1b'
  else if c = '"' then some '"'
  else if c = '\\' then some '\\'
  else none

def codeLength? (c : Char) : Option Nat :=
  if c = 'x' then some 2 else if c = 'u' then some 4 else if c = 'U' then some 8 else none

namespace Scanner

def resume (multiline : Bool) (read : List Char) : Scanner :=
  if multiline then .block .basic read 0 else .line .basic read

/-- The outcome of a step: the tokens completed and the next state. -/
abbrev Outcome := Option (List Token × Scanner)

def Outcome.after (tokens : List Token) (o : Outcome) : Outcome :=
  o.map fun (ts, s) => (tokens ++ ts, s)

def stepOutside (c : Char) : Outcome :=
  if isSpacing c ∨ c = '\r' then some ([.blank], .outside)
  else if c = '\n' then some ([.newline], .outside)
  else if c = '#' then some ([], .comment)
  else if c = '"' then some ([], .opened .basic)
  else if c = '\'' then some ([], .opened .literal)
  else if isWordStart c then some ([], .word [c] [])
  else (Token.ofPunctuation? c).map fun t => ([t], .outside)

def stepWord (read blanks : List Char) (c : Char) : Outcome :=
  if isSpacing c then some ([], .word read (c :: blanks))
  else if isWordStart c ∨ (blanks = [] ∧ isWordChar c) then some ([], .word (c :: blanks ++ read) [])
  else (stepOutside c).after (.word read.reverse :: blanks.map fun _ => .blank)

def stepLine (q : Quote) (read : List Char) (c : Char) : Outcome :=
  if c = q.mark then some ([.text read.reverse false], .outside)
  else if c = '\\' ∧ q = .basic then some ([], .escape false read)
  else if isTextChar c then some ([], .line q (c :: read))
  else none

/-- The text on several lines whose last quotation marks have been read: three of them close it. -/
def blockToken (q : Quote) (read : List Char) (marks : Nat) : Token :=
  .text (read.reverse ++ List.replicate (marks - 3) q.mark) true

def stepBlock (q : Quote) (read : List Char) (marks : Nat) (c : Char) : Outcome :=
  if c = q.mark then
    if marks = 4 then some ([blockToken q read 5], .outside) else some ([], .block q read (marks + 1))
  else if 3 ≤ marks then (stepOutside c).after [blockToken q read marks]
  else
    let read := List.replicate marks q.mark ++ read
    if c = '\\' ∧ q = .basic then some ([], .escape true read)
    else if isTextChar c ∨ c = '\n' ∨ c = '\r' then some ([], .block q (c :: read) 0)
    else none

def stepEscape (multiline : Bool) (read : List Char) (c : Char) : Outcome :=
  match escaped? c, codeLength? c with
  | some e, _ => some ([], resume multiline (e :: read))
  | none, some n => some ([], .code multiline read n 0)
  | none, none =>
    if multiline ∧ (isSpacing c ∨ c = '\r') then some ([], .joining read)
    else if multiline ∧ c = '\n' then some ([], .joined read)
    else none

def stepCode (multiline : Bool) (read : List Char) (missing value : Nat) (c : Char) : Outcome :=
  (digitBelow? 16 c).bind fun d =>
    let value := 16 * value + d
    if 1 < missing then some ([], .code multiline read (missing - 1) value)
    else if value.isValidChar then some ([], resume multiline (Char.ofNat value :: read))
    else none

def step (s : Scanner) (c : Char) : Outcome :=
  match s with
  | outside => stepOutside c
  | word read blanks => stepWord read blanks c
  | comment =>
    if c = '\n' then some ([.newline], outside)
    else if isTextChar c ∨ c = '\r' then some ([], comment)
    else none
  | opened q => if c = q.mark then some ([], openedTwice q) else stepLine q [] c
  | openedTwice q => if c = q.mark then some ([], blockOpened q) else (stepOutside c).after [.text [] false]
  | line q read => stepLine q read c
  | blockOpened q =>
    if c = '\n' then some ([], block q [] 0)
    else if c = '\r' then some ([], blockOpened q)
    else stepBlock q [] 0 c
  | block q read marks => stepBlock q read marks c
  | escape multiline read => stepEscape multiline read c
  | code multiline read missing value => stepCode multiline read missing value c
  | joining read =>
    if isSpacing c ∨ c = '\r' then some ([], joining read)
    else if c = '\n' then some ([], joined read)
    else none
  | joined read =>
    if isSpacing c ∨ c = '\r' ∨ c = '\n' then some ([], joined read) else stepBlock .basic read 0 c

/-- The tokens that the end of the document completes. -/
def finish : Scanner → Option (List Token)
  | outside => some []
  | word read blanks => some (.word read.reverse :: blanks.map fun _ => .blank)
  | comment => some []
  | openedTwice _ => some [.text [] false]
  | block q read marks => if 3 ≤ marks then some [blockToken q read marks] else none
  | _ => none

def scan : Scanner → List Char → Option (List Token)
  | s, [] => s.finish
  | s, c :: cs =>
    match s.step c with
    | none => none
    | some (ts, s') => (scan s' cs).map (ts ++ ·)

end Scanner

/-- Whether every carriage return stands before a line feed. -/
def returnsPaired : List Char → Bool
  | [] => true
  | [c] => c ≠ '\r'
  | c :: d :: cs => (c ≠ '\r' || d = '\n') && returnsPaired (d :: cs)

/-- The mark that some editors put at the front of a document. -/
def byteOrderMark : Char := '\uFEFF'

def withoutMark : List Char → List Char
  | [] => []
  | c :: cs => if c = byteOrderMark then cs else c :: cs

def tokens? (document : List Char) : Option (List Token) :=
  if returnsPaired document then Scanner.scan .outside (withoutMark document) else none

end PointSum.Toml
