/-
Written numbers read back.

A numeral is the numeral of the number without its last digit, and that digit behind
it.  Both facts below are inductions over this: every byte of a numeral is a digit, and
adding the digits up from the left, whatever they are taken to count as long as it is
what they were written for, gives the number again.
-/
import Mathlib.Data.Nat.Init
import HidLink.Numeral

namespace HidLink

/-- How a digit is written. -/
def digitByte (upperCase : Bool) (d : Nat) : UInt8 :=
  (if upperCase then d.digitChar.toUpper else d.digitChar).toUInt8

theorem Radix.one_lt_base (radix : Radix) : 1 < radix.base := by
  cases radix <;> decide

variable {radix : Radix} {upperCase : Bool}

theorem numeral_of_lt {n : Nat} (h : n < radix.base) :
    numeral radix upperCase n = [digitByte upperCase n] := by
  rw [numeral, Nat.toDigits_of_lt_base h]
  rfl

theorem numeral_of_base_le {n : Nat} (h : radix.base ≤ n) :
    numeral radix upperCase n =
      numeral radix upperCase (n / radix.base) ++ [digitByte upperCase (n % radix.base)] := by
  have hbase := radix.one_lt_base
  rw [numeral, Nat.toDigits_of_base_le hbase h, List.map_append]
  rfl

theorem forall_mem_numeral {P : UInt8 → Prop} (h : ∀ d < radix.base, P (digitByte upperCase d))
    (n : Nat) : ∀ c ∈ numeral radix upperCase n, P c := by
  have hbase := radix.one_lt_base
  induction n using Nat.strong_induction_on with
  | _ n ih =>
      intro c hc
      by_cases hn : n < radix.base
      · rw [numeral_of_lt hn, List.mem_singleton] at hc
        rw [hc]
        exact h n hn
      · rw [numeral_of_base_le (by omega), List.mem_append, List.mem_singleton] at hc
        rcases hc with hc | rfl
        · exact ih (n / radix.base) (Nat.div_lt_self (by omega) hbase) c hc
        · exact h _ (Nat.mod_lt n (by omega))

/-- **Adding up the digits of a numeral gives the number it was written for.** -/
theorem foldl_numeral {value : UInt8 → Nat} (h : ∀ d < radix.base, value (digitByte upperCase d) = d)
    (n : Nat) :
    (numeral radix upperCase n).foldl (fun sum c => radix.base * sum + value c) 0 = n := by
  have hbase := radix.one_lt_base
  induction n using Nat.strong_induction_on with
  | _ n ih =>
      by_cases hn : n < radix.base
      · rw [numeral_of_lt hn, List.foldl_cons, List.foldl_nil, h n hn, Nat.mul_zero, Nat.zero_add]
      · rw [numeral_of_base_le (by omega), List.foldl_append,
          ih (n / radix.base) (Nat.div_lt_self (by omega) hbase), List.foldl_cons, List.foldl_nil,
          h _ (Nat.mod_lt n (by omega)), Nat.div_add_mod]

end HidLink
