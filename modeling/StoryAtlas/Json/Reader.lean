import StoryAtlas.Json.Limits
import StoryAtlas.Json.Raw
import StoryAtlas.Text.Hex

/-!
# Reading JSON

The reader accepts the JSON grammar and, as numbers, also `NaN`, `Infinity` and `-Infinity`. Blanks
are the space, the tab and the two line-end characters. A number is floating-point exactly if it has
a fraction or an exponent. If a key occurs twice in an object, its last value counts. What exceeds a
limit is refused as soon as it is met, whatever follows it. Of any two steps of the reader, one
consumes a character, so that twice the length of the text bounds the number of steps.
-/

namespace StoryAtlas.Json

open StoryAtlas.Text StoryAtlas.Number

/-- Why a text is not read: it is no JSON, or what it spells is refused. -/
inductive ReadError where
  | notJson
  | refused (refusal : Refusal)
  deriving DecidableEq, Repr, Inhabited

/-- The blanks between tokens. -/
def isGap (c : Char) : Bool :=
  c == ' ' || c == '\t' || c == '\n' || c == '\r'

/-- Drops the blanks in front. -/
def skipGap (cs : List Char) : List Char :=
  cs.dropWhile isGap

/-- The character that a one-letter escape stands for. -/
def simpleEscape? (c : Char) : Option Char :=
  match c with
  | '"' => some '"'
  | '\\' => some '\\'
  | '/' => some '/'
  | 'b' => some (Char.ofNat 8)
  | 'f' => some (Char.ofNat 12)
  | 'n' => some '\n'
  | 'r' => some '\r'
  | 't' => some '\t'
  | _ => none

/-- Reads the second half of a surrogate pair. -/
def lowSurrogate? : List Char → Option (Nat × List Char)
  | '\\' :: 'u' :: cs =>
    match readHex? 4 0 cs with
    | some (unit, rest) => if 0xDC00 ≤ unit ∧ unit ≤ 0xDFFF then some (unit, rest) else none
    | none => none
  | _ => none

/-- The code point that a code unit begins, with the other half of its pair where it has one. -/
def joinUnits (unit : Nat) (rest : List Char) : Nat × List Char :=
  if 0xD800 ≤ unit ∧ unit ≤ 0xDBFF then
    match lowSurrogate? rest with
    | some (low, rest) => (0x10000 + (unit - 0xD800) * 0x400 + (low - 0xDC00), rest)
    | none => (unit, rest)
  else (unit, rest)

/-- Reads what follows a backslash. -/
def readEscape? : List Char → Option (Nat × List Char)
  | 'u' :: cs => (readHex? 4 0 cs).map fun found => joinUnits found.1 found.2
  | c :: cs => (simpleEscape? c).map fun d => (d.toNat, cs)
  | [] => none

/-- Reads a string behind its opening quote; `found` holds the code points so far, the last
first. -/
def readChars? : Nat → Points → List Char → Option (Points × List Char)
  | 0, _, _ => none
  | _ + 1, _, [] => none
  | fuel + 1, found, c :: cs =>
    if c = '"' then some (found.reverse, cs)
    else if c = '\\' then
      match readEscape? cs with
      | none => none
      | some (point, rest) => readChars? fuel (point :: found) rest
    else if c.toNat < 0x20 then none
    else readChars? fuel (c.toNat :: found) cs

/-- Reads a non-empty run of digits. -/
def readDigits? (cs : List Char) : Option (List Char × List Char) :=
  if (cs.takeWhile Char.isDigit).isEmpty then none
  else some (cs.takeWhile Char.isDigit, cs.dropWhile Char.isDigit)

/-- The integral part of a number: no zeros in front. -/
def readWhole? : List Char → Option (List Char × List Char)
  | '0' :: cs => some (['0'], cs)
  | cs => readDigits? cs

/-- The digits of a fraction, with what follows them; none where there is no fraction. -/
def readFraction (cs : List Char) : List Char × List Char :=
  match cs with
  | '.' :: rest => (readDigits? rest).getD ([], cs)
  | _ => ([], cs)

/-- The sign of an exponent. -/
def readSign : List Char → Bool × List Char
  | '-' :: cs => (true, cs)
  | '+' :: cs => (false, cs)
  | cs => (false, cs)

/-- An exponent, with what follows it; nothing where there is no exponent. -/
def readExponent (cs : List Char) : Option Int × List Char :=
  match cs with
  | c :: rest =>
    if c = 'e' ∨ c = 'E' then
      match readDigits? (readSign rest).2 with
      | some (digits, rest') =>
        let n : Int := Nat.ofDigitChars 10 digits 0
        (some (if (readSign rest).1 then -n else n), rest')
      | none => (none, cs)
    else (none, cs)
  | [] => (none, cs)

/-- The value of a number by its parts. Only whole numbers are limited in their digits. -/
def numberOf (digits : Nat) (negative : Bool) (whole fraction : List Char)
    (exponent : Option Int) : Except ReadError RawJson :=
  if fraction = [] ∧ exponent = none then
    let n : Int := Nat.ofDigitChars 10 whole 0
    if digits < whole.length then .error (.refused .longNumber)
    else .ok (.int (if negative then -n else n))
  else
    .ok (.float (Binary64.ofDecimal negative (Nat.ofDigitChars 10 (whole ++ fraction) 0)
      (exponent.getD 0 - fraction.length)))

/-- Reads a number without its sign. -/
def readUnsigned (digits : Nat) (negative : Bool) (cs : List Char) :
    Except ReadError (RawJson × List Char) :=
  match readWhole? cs with
  | none => .error .notJson
  | some (whole, rest) =>
    let (fraction, rest) := readFraction rest
    let (exponent, rest) := readExponent rest
    (numberOf digits negative whole fraction exponent).map fun value => (value, rest)

/-- Reads a word, a number or a negative number. -/
def readScalar (digits : Nat) : List Char → Except ReadError (RawJson × List Char)
  | 'n' :: 'u' :: 'l' :: 'l' :: rest => .ok (.null, rest)
  | 't' :: 'r' :: 'u' :: 'e' :: rest => .ok (.bool true, rest)
  | 'f' :: 'a' :: 'l' :: 's' :: 'e' :: rest => .ok (.bool false, rest)
  | 'N' :: 'a' :: 'N' :: rest => .ok (.float .nan, rest)
  | 'I' :: 'n' :: 'f' :: 'i' :: 'n' :: 'i' :: 't' :: 'y' :: rest =>
    .ok (.float (.infinity false), rest)
  | '-' :: 'I' :: 'n' :: 'f' :: 'i' :: 'n' :: 'i' :: 't' :: 'y' :: rest =>
    .ok (.float (.infinity true), rest)
  | '-' :: rest => readUnsigned digits true rest
  | cs => readUnsigned digits false cs

mutual

/-- Reads a value that starts with the first character; `depth` is the number of brackets that may
still be opened within each other. -/
def readValue (digits : Nat) : Nat → Nat → List Char → Except ReadError (RawJson × List Char)
  | 0, _, _ => .error .notJson
  | fuel + 1, depth, cs =>
    match cs with
    | '"' :: rest =>
      match readChars? fuel [] rest with
      | none => .error .notJson
      | some (points, rest) => .ok (.str points, rest)
    | '[' :: rest =>
      match depth with
      | 0 => .error (.refused .tooDeep)
      | depth + 1 =>
        match skipGap rest with
        | ']' :: rest => .ok (.arr [], rest)
        | rest => (readItems digits fuel depth rest).map fun found => (.arr found.1, found.2)
    | '{' :: rest =>
      match depth with
      | 0 => .error (.refused .tooDeep)
      | depth + 1 =>
        match skipGap rest with
        | '}' :: rest => .ok (.obj [], rest)
        | rest => readFields digits fuel depth [] rest
    | cs => readScalar digits cs

/-- Reads array items up to the closing bracket. -/
def readItems (digits : Nat) :
    Nat → Nat → List Char → Except ReadError (List RawJson × List Char)
  | 0, _, _ => .error .notJson
  | fuel + 1, depth, cs =>
    match readValue digits fuel depth cs with
    | .error e => .error e
    | .ok (item, rest) =>
      match skipGap rest with
      | ']' :: rest => .ok ([item], rest)
      | ',' :: rest =>
        (readItems digits fuel depth (skipGap rest)).map fun found =>
          (item :: found.1, found.2)
      | _ => .error .notJson

/-- Reads object fields up to the closing brace; `fields` are those read so far. -/
def readFields (digits : Nat) :
    Nat → Nat → RawFields → List Char → Except ReadError (RawJson × List Char)
  | 0, _, _, _ => .error .notJson
  | fuel + 1, depth, fields, cs =>
    match cs with
    | '"' :: rest =>
      match readChars? fuel [] rest with
      | none => .error .notJson
      | some (key, rest) =>
        match skipGap rest with
        | ':' :: rest =>
          match readValue digits fuel depth (skipGap rest) with
          | .error e => .error e
          | .ok (value, rest) =>
            match skipGap rest with
            | '}' :: rest => .ok (.obj (fields.put key value), rest)
            | ',' :: rest =>
              readFields digits fuel depth (fields.put key value) (skipGap rest)
            | _ => .error .notJson
        | _ => .error .notJson
    | _ => .error .notJson

end

/-- Reads a whole text as one value with blanks around it. -/
def parseChars (bounds : Bounds) (cs : List Char) : Except ReadError RawJson :=
  match readValue bounds.digits (2 * (cs.length + 1)) bounds.depth (skipGap cs) with
  | .error e => .error e
  | .ok (value, rest) => if (skipGap rest).isEmpty then .ok value else .error .notJson

/-- Reads a text as one value. -/
def parse (bounds : Bounds) (s : String) : Except ReadError Json :=
  match parseChars bounds s.toList with
  | .error e => .error e
  | .ok value =>
    match value.toJson? with
    | some value => .ok value
    | none => .error (.refused .halfPair)

/-- Reads a text within bounds that no text of its length exceeds. -/
def decode? (s : String) : Option Json :=
  (parse ⟨s.length, s.length⟩ s).toOption

end StoryAtlas.Json
