/-!
# Hexadecimal numbers of fixed width

Escapes write a code point with a fixed number of lower-case hexadecimal digits and accept either
case when they are read.
-/

namespace StoryAtlas.Text

/-- The last `width` hexadecimal digits of a number, in lower case. -/
def hex : Nat → Nat → List Char
  | 0, _ => []
  | width + 1, n => (n / Nat.pow 16 width % 16).digitChar :: hex width n

/-- The value of a hexadecimal digit. -/
def hexValue? (c : Char) : Option Nat :=
  if '0' ≤ c ∧ c ≤ '9' then some (c.toNat - 48)
  else if 'a' ≤ c ∧ c ≤ 'f' then some (c.toNat - 87)
  else if 'A' ≤ c ∧ c ≤ 'F' then some (c.toNat - 55)
  else none

/-- Reads exactly `width` hexadecimal digits behind the number `acc`. -/
def readHex? : Nat → Nat → List Char → Option (Nat × List Char)
  | 0, acc, cs => some (acc, cs)
  | _ + 1, _, [] => none
  | width + 1, acc, c :: cs =>
    match hexValue? c with
    | none => none
    | some v => readHex? width (16 * acc + v) cs

@[simp] theorem length_hex (width n : Nat) : (hex width n).length = width := by
  induction width with
  | zero => rfl
  | succ width ih => simp [hex, ih]

theorem hexValue?_digitChar {n : Nat} (h : n < 16) : hexValue? n.digitChar = some n := by
  rcases n with _ | _ | _ | _ | _ | _ | _ | _ | _ | _ | _ | _ | _ | _ | _ | _ | n
  all_goals first | rfl | omega

/-- Digits written with a fixed width read back as the number modulo what the width can hold. -/
theorem readHex?_hex_append (width acc n : Nat) (rest : List Char) :
    readHex? width acc (hex width n ++ rest) =
      some (Nat.pow 16 width * acc + n % Nat.pow 16 width, rest) := by
  induction width generalizing acc with
  | zero => simp [hex, readHex?, Nat.mod_one]
  | succ width ih =>
    have hdigit : n / Nat.pow 16 width % 16 < 16 := Nat.mod_lt _ (by decide)
    simp only [hex, List.cons_append, readHex?, hexValue?_digitChar hdigit, ih]
    have hpow : Nat.pow 16 (width + 1) = Nat.pow 16 width * 16 := rfl
    rw [hpow, Nat.mod_mul, Nat.mul_add, Nat.mul_assoc]
    simp only [Option.some.injEq, Prod.mk.injEq, and_true]
    omega

end StoryAtlas.Text
