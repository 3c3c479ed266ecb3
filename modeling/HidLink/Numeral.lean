/-
Writing a number out: the fewest digits that denote it, in base ten or sixteen, with
the letters of base sixteen in either case.
-/
import HidLink.Text

namespace HidLink

/-- The base a number is written in. -/
inductive Radix where
  | decimal
  | hexadecimal
  deriving DecidableEq, Repr

namespace Radix

def base : Radix → Nat
  | decimal => 10
  | hexadecimal => 16

end Radix

/-- The digits of `n` without padding; zero is one digit. -/
def numeral (radix : Radix) (upperCase : Bool) (n : Nat) : Text :=
  (Nat.toDigits radix.base n).map fun c => (if upperCase then c.toUpper else c).toUInt8

theorem numeral_ne_nil (radix : Radix) (upperCase : Bool) (n : Nat) :
    numeral radix upperCase n ≠ [] := by
  cases radix <;> simp [numeral, Nat.toDigits_ne_nil]

end HidLink
