import StoryAtlas.Text.Blank
import StoryAtlas.Text.Digit

/-!
# Whole numbers as they are typed

A whole number may have blanks around it, a sign in front, digits of any script, and single
underscores between its digits. The information separators do not count as blanks here.
-/

namespace StoryAtlas.Number

open StoryAtlas.Text

/-- A blank around a number. -/
def isPadding (c : Char) : Bool :=
  isBlank c && !(28 ≤ c.toNat && c.toNat ≤ 31)

/-- Drops the blanks at both ends. -/
def trimPadding (cs : List Char) : List Char :=
  ((cs.dropWhile isPadding).reverse.dropWhile isPadding).reverse

/-- The value of digits behind the number `acc`; `afterDigit` says that a digit comes right before,
which an underscore and the end of the number need. -/
def digitsValue? (acc : Nat) (afterDigit : Bool) : List Char → Option Nat
  | [] => if afterDigit then some acc else none
  | c :: cs =>
    match digitValue? c with
    | some d => digitsValue? (10 * acc + d) true cs
    | none => if c = '_' && afterDigit then digitsValue? acc false cs else none

/-- The whole number that a text stands for. -/
def wholeOf? (s : String) : Option Int :=
  match trimPadding s.toList with
  | '-' :: cs => (digitsValue? 0 false cs).map fun n => -(n : Int)
  | '+' :: cs => (digitsValue? 0 false cs).map Int.ofNat
  | cs => (digitsValue? 0 false cs).map Int.ofNat

end StoryAtlas.Number
