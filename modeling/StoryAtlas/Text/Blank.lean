/-!
# Blank characters

Story lines, request lines and configured names are trimmed by the Unicode notion of white space:
the ASCII blanks, the four information separators, NEL, and the space characters beyond ASCII.
-/

namespace StoryAtlas.Text

/-- White space in the Unicode sense, the information separators U+001C to U+001F included. -/
def isBlank (c : Char) : Bool :=
  let n := c.toNat
  (9 ≤ n && n ≤ 13) || (28 ≤ n && n ≤ 32) || n == 0x85 || n == 0xA0 || n == 0x1680 ||
    (0x2000 ≤ n && n ≤ 0x200A) || n == 0x2028 || n == 0x2029 || n == 0x202F || n == 0x205F ||
    n == 0x3000

/-- Drops the blanks in front. -/
def skipBlanks (cs : List Char) : List Char :=
  cs.dropWhile isBlank

/-- Drops the blanks at both ends. -/
def trimBlanks (cs : List Char) : List Char :=
  (skipBlanks (skipBlanks cs).reverse).reverse

/-- `trimBlanks` on strings. -/
def trim (s : String) : String :=
  String.ofList (trimBlanks s.toList)

/-- A text with nothing but blanks. -/
def isBlankText (s : String) : Bool :=
  s.toList.all isBlank

end StoryAtlas.Text
