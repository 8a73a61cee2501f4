import StoryAtlas.Config.Setting
import StoryAtlas.Text.Hex
import StoryAtlas.Timestamp

/-!
# Scalars of TOML

Each reader takes the characters from the current position and answers with what it read and the
characters that follow, or with nothing where the text is not TOML.
-/

namespace StoryAtlas.Toml

open StoryAtlas.Number StoryAtlas.Text

/-- Blanks within a line. -/
def isBlank (c : Char) : Bool :=
  c == ' ' || c == '\t'

/-- Blanks and line feeds. -/
def isBlankOrNewline (c : Char) : Bool :=
  isBlank c || c == '\n'

/-- Drops the blanks in front. -/
def skipBlanks (cs : List Char) : List Char :=
  cs.dropWhile isBlank

/-- A control character that must not stand in comments and strings of one line. -/
def isControl (c : Char) : Bool :=
  (c.toNat < 0x20 && c != '\t') || c.toNat == 0x7F

/-- A control character that must not stand in strings of several lines. -/
def isControlInLines (c : Char) : Bool :=
  isControl c && c != '\n'

/-- Drops a comment up to the end of its line. -/
def skipComment : List Char → Option (List Char)
  | '#' :: cs =>
    if (cs.takeWhile (· != '\n')).any isControl then none else some (cs.dropWhile (· != '\n'))
  | cs => some cs

/-- Drops blanks, line feeds and comments, which take at least one character each. -/
def skipFiller : Nat → List Char → Option (List Char)
  | 0, cs => some cs
  | fuel + 1, cs =>
    match skipComment (cs.dropWhile isBlankOrNewline) with
    | none => none
    | some rest => if rest.length = cs.length then some rest else skipFiller fuel rest

/-- A character by its code point, which must not be half of a surrogate pair. -/
def scalar? (n : Nat) : Option Char :=
  if n < 0xD800 ∨ (0xE000 ≤ n ∧ n < 0x110000) then some (Char.ofNat n) else none

/-- The character that a one-letter escape stands for. -/
def simpleEscape? (c : Char) : Option Char :=
  match c with
  | 'b' => some (Char.ofNat 8)
  | 't' => some '\t'
  | 'n' => some '\n'
  | 'f' => some (Char.ofNat 12)
  | 'r' => some '\r'
  | '"' => some '"'
  | '\\' => some '\\'
  | _ => none

/-- Reads a code point of a fixed number of hexadecimal digits. -/
def readCodePoint? (width : Nat) (cs : List Char) : Option (List Char × List Char) :=
  match readHex? width 0 cs with
  | none => none
  | some (n, rest) => (scalar? n).map fun c => ([c], rest)

/-- A backslash at the end of a line takes the line end and the blanks behind it away. The escape
starts with the blank or line feed at the head. -/
def skipLineEnd (cs : List Char) : Option (List Char) :=
  match skipBlanks cs with
  | [] => some []
  | '\n' :: rest => some (rest.dropWhile isBlankOrNewline)
  | _ => none

/-- Reads what follows a backslash. -/
def readEscape? (multiline : Bool) : List Char → Option (List Char × List Char)
  | [] => none
  | c :: cs =>
    if multiline && isBlankOrNewline c then (skipLineEnd (c :: cs)).map fun rest => ([], rest)
    else if c = 'u' then readCodePoint? 4 cs
    else if c = 'U' then readCodePoint? 8 cs
    else (simpleEscape? c).map fun d => ([d], cs)

/-- Reads a basic string behind its opening quotes; `found` holds the characters so far, the last
first. -/
def readBasic? (multiline : Bool) : Nat → List Char → List Char → Option (List Char × List Char)
  | 0, _, _ => none
  | _ + 1, _, [] => none
  | fuel + 1, found, c :: cs =>
    if c = '"' then
      if !multiline then some (found.reverse, cs)
      else
        match cs with
        | '"' :: '"' :: rest => some (found.reverse, rest)
        | _ => readBasic? multiline fuel (c :: found) cs
    else if c = '\\' then
      match readEscape? multiline cs with
      | none => none
      | some (d, rest) => readBasic? multiline fuel (d.reverse ++ found) rest
    else if (if multiline then isControlInLines c else isControl c) then none
    else readBasic? multiline fuel (c :: found) cs

/-- Reads a literal string of one line behind its opening quote. -/
def readLiteral? (cs : List Char) : Option (List Char × List Char) :=
  match cs.dropWhile (· != '\'') with
  | [] => none
  | _ :: rest =>
    let body := cs.takeWhile (· != '\'')
    if body.any isControl then none else some (body, rest)

/-- Reads a literal string of several lines behind its opening quotes; `found` holds the characters
so far, the last first. -/
def readLiteralLines? : List Char → List Char → Option (List Char × List Char)
  | _, [] => none
  | found, '\'' :: '\'' :: '\'' :: rest => some (found.reverse, rest)
  | found, c :: cs => if isControlInLines c then none else readLiteralLines? (c :: found) cs

/-- Up to two more quotes behind the closing ones belong to the string. -/
def extraQuotes (quote : Char) : List Char × List Char → List Char × List Char
  | (body, c :: d :: rest) =>
    if c = quote then
      if d = quote then (body ++ [c, d], rest) else (body ++ [c], d :: rest)
    else (body, c :: d :: rest)
  | (body, [c]) => if c = quote then (body ++ [c], []) else (body, [c])
  | (body, []) => (body, [])

/-- Drops one line feed in front. -/
def skipNewline : List Char → List Char
  | '\n' :: cs => cs
  | cs => cs

/-- Reads a string that starts with a quote. -/
def readString? : List Char → Option (List Char × List Char)
  | '"' :: '"' :: '"' :: cs =>
    let body := skipNewline cs
    (readBasic? true (body.length + 1) [] body).map (extraQuotes '"')
  | '"' :: cs => readBasic? false (cs.length + 1) [] cs
  | '\'' :: '\'' :: '\'' :: cs => (readLiteralLines? [] (skipNewline cs)).map (extraQuotes '\'')
  | '\'' :: cs => readLiteral? cs
  | _ => none

/-- Reads a string of one line, as in a key. -/
def readLineString? : List Char → Option (List Char × List Char)
  | '"' :: cs => readBasic? false (cs.length + 1) [] cs
  | '\'' :: cs => readLiteral? cs
  | _ => none

/-- A character of a key without quotes. -/
def isBareKeyChar (c : Char) : Bool :=
  c.isAlphanum || c == '-' || c == '_'

/-- Reads one part of a key. -/
def readKeyPart? (cs : List Char) : Option (String × List Char) :=
  if (cs.takeWhile isBareKeyChar).isEmpty then
    (readLineString? cs).map fun found => (String.ofList found.1, found.2)
  else some (String.ofList (cs.takeWhile isBareKeyChar), cs.dropWhile isBareKeyChar)

/-- Reads the parts of a dotted key, with the blanks behind it. -/
def readKey? : Nat → List Char → Option (List String × List Char)
  | 0, _ => none
  | fuel + 1, cs =>
    match readKeyPart? cs with
    | none => none
    | some (part, rest) =>
      match skipBlanks rest with
      | '.' :: rest => (readKey? fuel (skipBlanks rest)).map fun found => (part :: found.1, found.2)
      | rest => some ([part], rest)

/-- The digit `c` and the digits of the same class behind it, with at most one underscore before
each, which is dropped. -/
def digitsFrom (isDigit : Char → Bool) (c : Char) : List Char → List Char × List Char
  | '_' :: d :: cs =>
    if isDigit d then
      let (found, rest) := digitsFrom isDigit d cs
      (c :: found, rest)
    else ([c], '_' :: d :: cs)
  | d :: cs =>
    if isDigit d then
      let (found, rest) := digitsFrom isDigit d cs
      (c :: found, rest)
    else ([c], d :: cs)
  | [] => ([c], [])

/-- Reads digits of one class with single underscores between them, at least one; the underscores
are dropped. -/
def readDigits? (isDigit : Char → Bool) : List Char → Option (List Char × List Char)
  | [] => none
  | c :: cs => if isDigit c then some (digitsFrom isDigit c cs) else none

/-- The value of digits in a base up to sixteen. -/
def valueOf (base : Nat) (digits : List Char) : Nat :=
  digits.foldl (fun n c => base * n + (hexValue? c).getD 0) 0

/-- Reads a whole number by its digits in a base. -/
def readInBase? (base : Nat) (isDigit : Char → Bool) (cs : List Char) :
    Option (Setting × List Char) :=
  (readDigits? isDigit cs).map fun found => (.int (valueOf base found.1), found.2)

/-- Reads a number with a base mark. -/
def readBased? : List Char → Option (Setting × List Char)
  | '0' :: 'x' :: cs => readInBase? 16 (fun c => (hexValue? c).isSome) cs
  | '0' :: 'b' :: cs => readInBase? 2 (fun c => c == '0' || c == '1') cs
  | '0' :: 'o' :: cs => readInBase? 8 (fun c => '0' ≤ c && c ≤ '7') cs
  | _ => none

/-- Reads a sign, which may be missing. -/
def readSign : List Char → Bool × List Char
  | '-' :: cs => (true, cs)
  | '+' :: cs => (false, cs)
  | cs => (false, cs)

/-- The integral part of a decimal number. -/
def readWhole? : List Char → Option (List Char × List Char)
  | '0' :: cs => some (['0'], cs)
  | cs => readDigits? Char.isDigit cs

/-- The digits of a fraction; none where there is no fraction. -/
def readFraction (cs : List Char) : List Char × List Char :=
  match cs with
  | '.' :: rest => (readDigits? Char.isDigit rest).getD ([], cs)
  | _ => ([], cs)

/-- An exponent; nothing where there is none. -/
def readExponent (cs : List Char) : Option Int × List Char :=
  match cs with
  | c :: rest =>
    if c = 'e' ∨ c = 'E' then
      match readDigits? Char.isDigit (readSign rest).2 with
      | some (digits, rest') =>
        let n : Int := valueOf 10 digits
        (some (if (readSign rest).1 then -n else n), rest')
      | none => (none, cs)
    else (none, cs)
  | [] => (none, cs)

/-- Reads a decimal number, whole or with a fraction or an exponent. -/
def readDecimal? (cs : List Char) : Option (Setting × List Char) :=
  let (negative, unsigned) := readSign cs
  match readWhole? unsigned with
  | none => none
  | some (whole, rest) =>
    let (fraction, rest) := readFraction rest
    let (exponent, rest) := readExponent rest
    if fraction = [] ∧ exponent = none then
      let n : Int := valueOf 10 whole
      some (.int (if negative then -n else n), rest)
    else
      some (.real (Binary64.ofDecimal negative (valueOf 10 (whole ++ fraction))
        (exponent.getD 0 - fraction.length)), rest)

/-- Reads a number that is infinite or not a number. -/
def readSpecial? (cs : List Char) : Option (Setting × List Char) :=
  let (negative, unsigned) := readSign cs
  match unsigned with
  | 'i' :: 'n' :: 'f' :: rest => some (.real (.infinity negative), rest)
  | 'n' :: 'a' :: 'n' :: rest => some (.real .nan, rest)
  | _ => none

/-- Reads a number of a fixed count of digits between two bounds. -/
def readBounded? (width low high : Nat) (cs : List Char) : Option (Nat × List Char) :=
  let digits := cs.take width
  if digits.length = width ∧ digits.all Char.isDigit then
    let n := valueOf 10 digits
    if low ≤ n ∧ n ≤ high then some (n, cs.drop width) else none
  else none

/-- Drops a fixed character. -/
def expect? (c : Char) : List Char → Option (List Char)
  | [] => none
  | d :: cs => if d = c then some cs else none

/-- Drops the fraction of a second. -/
def skipSecondFraction (cs : List Char) : List Char :=
  match cs with
  | '.' :: c :: rest => if c.isDigit then rest.dropWhile Char.isDigit else cs
  | _ => cs

/-- Drops a time of day. -/
def skipTime? (cs : List Char) : Option (List Char) := do
  let (_, cs) ← readBounded? 2 0 23 cs
  let cs ← expect? ':' cs
  let (_, cs) ← readBounded? 2 0 59 cs
  let cs ← expect? ':' cs
  let (_, cs) ← readBounded? 2 0 59 cs
  return skipSecondFraction cs

/-- Drops an offset of a number of hours and minutes. -/
def skipHoursAndMinutes? (cs : List Char) : Option (List Char) := do
  let (_, cs) ← readBounded? 2 0 23 cs
  let cs ← expect? ':' cs
  let (_, cs) ← readBounded? 2 0 59 cs
  return cs

/-- Drops a time offset, which may be missing. -/
def skipOffset (cs : List Char) : List Char :=
  match cs with
  | c :: rest =>
    if c = 'Z' ∨ c = 'z' then rest
    else if c = '+' ∨ c = '-' then (skipHoursAndMinutes? rest).getD cs
    else cs
  | [] => cs

/-- Drops the time of day behind a date, which may be missing. -/
def skipTimeOfDate (cs : List Char) : List Char :=
  match cs with
  | c :: rest =>
    if c = 'T' ∨ c = 't' ∨ c = ' ' then ((skipTime? rest).map skipOffset).getD cs else cs
  | [] => cs

/-- Reads the digits of a date. -/
def readDate? (cs : List Char) : Option (Calendar.Date × List Char) := do
  let (year, cs) ← readBounded? 4 0 9999 cs
  let cs ← expect? '-' cs
  let (month, cs) ← readBounded? 2 1 12 cs
  let cs ← expect? '-' cs
  let (day, cs) ← readBounded? 2 1 31 cs
  return (⟨year, month, day⟩, cs)

/-- The date is a day of the calendar. -/
def isDay (date : Calendar.Date) : Bool :=
  1 ≤ date.year && date.day ≤ (Calendar.monthLengths date.year).getD (date.month - 1) 0

/-- What was read on the way from `cs` to `rest`. -/
def momentBetween (cs rest : List Char) : Setting :=
  .moment (String.ofList (cs.take (cs.length - rest.length)))

/-- Reads a date, a time or a number. Something that looks like a date has to be one. -/
def readNumber? (cs : List Char) : Option (Setting × List Char) :=
  match readDate? cs with
  | some (date, rest) =>
    let rest := skipTimeOfDate rest
    if isDay date then some (momentBetween cs rest, rest) else none
  | none =>
    match skipTime? cs with
    | some rest => some (momentBetween cs rest, rest)
    | none => ((readBased? cs).or (readDecimal? cs)).or (readSpecial? cs)

end StoryAtlas.Toml
