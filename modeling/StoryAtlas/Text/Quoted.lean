import StoryAtlas.Text.Hex
import StoryAtlas.Text.Printable

/-!
# Quoted texts

Messages show names and arguments between quotes. A quoted text is unambiguous: the quote, the
backslash and everything that is not printable are written as escapes.
-/

namespace StoryAtlas.Text

/-- Single quotes, unless the text holds a single quote and no double quote. -/
def quoteFor (cs : List Char) : Char :=
  if cs.contains '\'' && !cs.contains '"' then '"' else '\''

/-- One character between two `quote`s. Characters that are not printable are written with the
shortest of the escapes of two, four and eight hexadecimal digits. -/
def escapeFor (quote c : Char) : List Char :=
  if c = quote ∨ c = '\\' then ['\\', c]
  else if c = '\t' then ['\\', 't']
  else if c = '\n' then ['\\', 'n']
  else if c = '\r' then ['\\', 'r']
  else if isPrintable c then [c]
  else if c.toNat ≤ 0xFF then '\\' :: 'x' :: hex 2 c.toNat
  else if c.toNat ≤ 0xFFFF then '\\' :: 'u' :: hex 4 c.toNat
  else '\\' :: 'U' :: hex 8 c.toNat

/-- The text between quotes. -/
def quotedChars (cs : List Char) : List Char :=
  quoteFor cs :: cs.flatMap (escapeFor (quoteFor cs)) ++ [quoteFor cs]

/-- The text between quotes. -/
def quoted (s : String) : String :=
  String.ofList (quotedChars s.toList)

end StoryAtlas.Text
