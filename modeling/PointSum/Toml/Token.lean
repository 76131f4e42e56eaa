/-!
# Tokens of TOML

A document is a sequence of tokens: blanks, line ends, punctuation, words without quotes, and quoted text. Comments
leave no token. A word is a run of any other characters, quotation marks among them if they do not come first. What
only blanks divide is one word with the blanks in it, as a date with a time behind it is, unless the part behind the
blanks begins with a quotation mark. A number with a point is two words with the point between them, as it is in a
dotted key.
-/

namespace PointSum.Toml

set_option autoImplicit false

/-- A token of a document. -/
inductive Token where
  /-- A space or a tab. -/
  | blank
  | newline
  | equals
  | dot
  | comma
  | openBracket
  | closeBracket
  | openBrace
  | closeBrace
  /-- A run of characters without quotes. -/
  | word (characters : List Char)
  /-- The text between quotes, and whether it may be written on several lines. -/
  | text (characters : List Char) (multiline : Bool)
  deriving DecidableEq, Repr

/-- The token of a punctuation character. -/
def Token.ofPunctuation? (c : Char) : Option Token :=
  if c = '=' then some .equals
  else if c = '.' then some .dot
  else if c = ',' then some .comma
  else if c = '[' then some .openBracket
  else if c = ']' then some .closeBracket
  else if c = '\x7b' then some .openBrace
  else if c = '\x7d' then some .closeBrace
  else none

end PointSum.Toml
