/-
Numbers of any length, read into a word.

What digits stand for is a natural number, and neither their count nor the zeros they open
with matter to that.  A reader with 64 bits to keep the number in could go wrong in three
ways: it could wrap around, drop digits, or stay at the largest word.  None of this
happens, because the word is only ever given a number it can hold.  The bound is then a bound
on the number itself, also where it is the largest word there is.

What is read ends at the first zero byte.  That is the one exception to a text being read
as a whole: with a zero byte in it the text is taken for what stands in front, and whatever
stands behind is not looked at.
-/
import Mathlib.Data.Nat.Digits.Defs
import HidLink.Proofs.Decimal

namespace HidLink

/-! ### Zero bytes -/

/-- Whatever stands behind a zero byte is cut off with it. -/
theorem Text.upToZero_append_zero (t rest : Text) : (t ++ 0 :: rest).upToZero = t.upToZero := by
  unfold Text.upToZero
  induction t with
  | nil => simp
  | cons c t ih =>
      rw [List.cons_append, List.takeWhile_cons, List.takeWhile_cons, ih]

namespace Decimal

/-! ### The number in base ten -/

/-- The number that digits stand for in base ten, the one that counts most in front. -/
def number (digits : Text) : Nat := Nat.ofDigits 10 (digits.map value).reverse

/-- Building the number up from the front gives each digit the power of its place. -/
theorem numberFrom_zero (digits : Text) : numberFrom 0 digits = number digits := by
  have hstep : (fun n c => 10 * n + value c) = fun n c => value c + 10 * n := by
    funext n c
    exact Nat.add_comm _ _
  unfold numberFrom number
  rw [Nat.ofDigits_eq_foldr, List.foldr_reverse, List.foldl_map, hstep]
  simp only [Nat.cast_id]

theorem denotes_iff {t : Text} {n : Nat} :
    Denotes t n ↔ t ≠ [] ∧ (∀ c ∈ t, Text.isDigit c = true) ∧ number t = n := by
  rw [← numberFrom_zero]
  exact ⟨fun h => ⟨h.ne_nil, h.isDigit, h.number_eq⟩, fun ⟨hne, hdigits, hn⟩ => ⟨hne, hdigits, hn⟩⟩

/-! ### The bound -/

/-- The word overflows on the way exactly when the number in the end has no place in it. -/
theorem accumulate?_eq_none_iff {digits : Text} :
    accumulate? 0 digits = none ↔ UInt64.size ≤ number digits := by
  rw [← Nat.not_lt, ← numberFrom_zero]
  constructor
  · intro hnone hfits
    have hword := UInt64.toNat_ofNat_of_lt' hfits
    have hsome : accumulate? 0 digits = some (UInt64.ofNat (numberFrom 0 digits)) :=
      accumulate?_eq_some_iff.2 hword.symm
    rw [hnone] at hsome
    cases hsome
  · intro htoo
    rw [Option.eq_none_iff_forall_ne_some]
    intro m hm
    have hnumber : numberFrom 0 digits = m.toNat := accumulate?_eq_some_iff.1 hm
    exact htoo (hnumber ▸ m.toNat_lt_size)

theorem toNat_eq_number {t : Text} {max n : UInt64} (h : parse? t max = some n) :
    n.toNat = number t.upToZero :=
  (denotes_iff.1 (parse?_eq_some_iff.1 h).1).2.2.symm

/-- A number within the bound fits the word, as the bound does. -/
theorem exists_parse?_iff {t : Text} {max : UInt64} :
    (∃ n, parse? t max = some n) ↔
      t.upToZero ≠ [] ∧ (∀ c ∈ t.upToZero, Text.isDigit c = true) ∧
        number t.upToZero ≤ max.toNat := by
  constructor
  · rintro ⟨n, hn⟩
    obtain ⟨hdenotes, hle⟩ := parse?_eq_some_iff.1 hn
    rw [← toNat_eq_number hn]
    exact ⟨hdenotes.ne_nil, hdenotes.isDigit, UInt64.le_iff_toNat_le.1 hle⟩
  · rintro ⟨hne, hdigits, hle⟩
    have hfits : number t.upToZero < UInt64.size := Nat.lt_of_le_of_lt hle max.toNat_lt_size
    have hword := UInt64.toNat_ofNat_of_lt' hfits
    refine ⟨UInt64.ofNat (number t.upToZero), parse?_eq_some_iff.2 ⟨?_, ?_⟩⟩
    · exact denotes_iff.2 ⟨hne, hdigits, hword.symm⟩
    · rw [UInt64.le_iff_toNat_le, hword]
      exact hle

/--
**A text is read exactly when it is a number of at most `max`, and read as that number.**

The number is the natural one.  There is no length or count of leading zeros from which on
it would be taken for another, and the digits in front overflow the word exactly when the
number they denote does.
-/
theorem reads_number_up_to_max (t : Text) (max : UInt64) :
    ((∃ n, parse? t max = some n) ↔
      t.upToZero ≠ [] ∧ (∀ c ∈ t.upToZero, Text.isDigit c = true) ∧
        number t.upToZero ≤ max.toNat) ∧
    (∀ n, parse? t max = some n → n.toNat = number t.upToZero) ∧
    (accumulate? 0 (t.takeWhile Text.isDigit) = none ↔
      UInt64.size ≤ number (t.takeWhile Text.isDigit)) :=
  ⟨exists_parse?_iff, fun _ => toNat_eq_number, accumulate?_eq_none_iff⟩

/--
At the largest bound the largest word is read, behind more zeros than a word has digits, and
the next number is refused.
-/
theorem reads_number_up_to_max_at_last_word :
    (∃ n, parse? (List.replicate 40 48 ++ ascii "18446744073709551615") 0xFFFFFFFFFFFFFFFF
        = some n ∧ n.toNat = 18446744073709551615) ∧
    (¬∃ n, parse? (ascii "18446744073709551616") 0xFFFFFFFFFFFFFFFF = some n) := by
  refine ⟨?_, ?_⟩
  · obtain ⟨hread, hvalue, -⟩ := reads_number_up_to_max
      (List.replicate 40 48 ++ ascii "18446744073709551615") 0xFFFFFFFFFFFFFFFF
    obtain ⟨n, hn⟩ := hread.2 (by decide +kernel)
    refine ⟨n, hn, (hvalue n hn).trans ?_⟩
    decide +kernel
  · obtain ⟨hread, -⟩ :=
      reads_number_up_to_max (ascii "18446744073709551616") 0xFFFFFFFFFFFFFFFF
    rw [hread]
    decide +kernel

/-! ### Texts read as a whole -/

/-- Texts with the same bytes in front of their first zero bytes are read alike. -/
theorem parse?_congr {s t : Text} (h : s.upToZero = t.upToZero) (max : UInt64) :
    parse? s max = parse? t max := by
  refine Option.ext fun n => ?_
  rw [parse?_eq_some_iff, parse?_eq_some_iff, h]

/--
**A text that is read is read as a whole exactly when it has no zero byte.**

Without one all of it is digits, and the number is the one that all of them denote.  With
one it cannot be, and any text that is read gives the same number with a zero byte and
whatever else behind it.
-/
theorem read_as_whole_iff (t : Text) (max n : UInt64) (h : parse? t max = some n) :
    (((∀ c ∈ t, Text.isDigit c = true) ∧ number t = n.toNat) ↔ 0 ∉ t) ∧
    (∀ rest, parse? (t ++ 0 :: rest) max = some n) := by
  refine ⟨⟨?_, ?_⟩, ?_⟩
  · rintro ⟨hdigits, -⟩ hzero
    exact absurd (hdigits 0 hzero) (by decide)
  · intro hzero
    have hwhole : t.upToZero = t := Text.upToZero_of_notMem hzero
    obtain ⟨-, hdigits, hnumber⟩ := denotes_iff.1 (parse?_eq_some_iff.1 h).1
    rw [hwhole] at hdigits hnumber
    exact ⟨hdigits, hnumber⟩
  · intro rest
    rw [parse?_congr (Text.upToZero_append_zero t rest), h]

/-- All of the text counts in front of a zero byte, and none of it behind. -/
theorem read_as_whole_iff_ended_twice :
    (∀ c ∈ ascii "0120", Text.isDigit c = true) ∧ number (ascii "0120") = 120 ∧
    parse? (ascii "0120" ++ 0 :: ascii "9-") 0xFF = some 120 := by
  have hparse : parse? (ascii "0120") 0xFF = some 120 := by decide +kernel
  obtain ⟨hwhole, hbehind⟩ := read_as_whole_iff (ascii "0120") 0xFF 120 hparse
  obtain ⟨hdigits, hnumber⟩ := hwhole.2 (by decide)
  exact ⟨hdigits, hnumber, hbehind (ascii "9-")⟩

/-- A text that is read need not be digits throughout: a zero byte ends the number early. -/
theorem read_in_front_of_zero :
    parse? (ascii "12" ++ 0 :: ascii "x") 0xFF = some 12 ∧
    ¬((∀ c ∈ ascii "12" ++ 0 :: ascii "x", Text.isDigit c = true) ∧
      number (ascii "12" ++ 0 :: ascii "x") = 12) := by
  refine ⟨by decide +kernel, ?_⟩
  rintro ⟨hdigits, -⟩
  have hzero : Text.isDigit 0 = true := hdigits 0 (by decide)
  cases hzero

end Decimal

end HidLink
