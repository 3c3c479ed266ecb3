/-
Which texts are decimal numbers, and what number they denote.

A number may be as long as it likes and open with any number of zeros, so it is a natural
number first and has to fit a word only then.  Reading builds it up in a word.  That the
word never overflows on the way to a number that fits is because a number is at least
what its first digits denote; so the digit at which reading gives up is one at which the
number has become too large already.
-/
import Mathlib.Data.List.TakeWhile
import HidLink.Decimal
import HidLink.Proofs.Numeral

namespace HidLink

/-- The text up to its first zero byte.  A text without one is taken as a whole. -/
def Text.upToZero (t : Text) : Text := t.takeWhile (· != 0)

theorem Text.upToZero_of_notMem {t : Text} (h : 0 ∉ t) : t.upToZero = t := by
  rw [Text.upToZero, List.takeWhile_eq_self_iff]
  intro c hc
  rw [bne_iff_ne]
  rintro rfl
  exact h hc

namespace Decimal

/-- What digits denote behind the number `n`. -/
def numberFrom (n : Nat) (digits : Text) : Nat := digits.foldl (fun n c => 10 * n + value c) n

/-- The text is a decimal number: one digit or more and nothing else. -/
structure Denotes (t : Text) (n : Nat) : Prop where
  ne_nil : t ≠ []
  isDigit : ∀ c ∈ t, Text.isDigit c = true
  number_eq : numberFrom 0 t = n

/-- No zero byte is a digit, so a number is never cut short. -/
theorem Denotes.upToZero_eq {t : Text} {n : Nat} (h : Denotes t n) : t.upToZero = t :=
  Text.upToZero_of_notMem fun hmem => absurd (h.isDigit 0 hmem) (by decide)

/-! ### Building the number up -/

theorem le_numberFrom (digits : Text) : ∀ n : Nat, n ≤ numberFrom n digits := by
  induction digits with
  | nil => intro n; exact Nat.le_refl n
  | cons c rest ih =>
      intro n
      calc n ≤ 10 * n + value c := by omega
        _ ≤ numberFrom n (c :: rest) := ih _

theorem shiftIn?_eq_some_iff {n m : UInt64} {d : Nat} :
    shiftIn? n d = some m ↔ m.toNat = 10 * n.toNat + d := by
  unfold shiftIn?
  by_cases h : 10 * n.toNat + d < UInt64.size
  · rw [if_pos h, Option.some.injEq, ← UInt64.toNat_inj, UInt64.toNat_ofNat_of_lt' h]
    exact eq_comm
  · rw [if_neg h]
    refine iff_of_false (by simp) ?_
    intro heq
    exact h (heq ▸ m.toNat_lt_size)

/-- The word holds the number that the digits denote, if it can. -/
theorem accumulate?_eq_some_iff {digits : Text} :
    ∀ {n m : UInt64}, accumulate? n digits = some m ↔ numberFrom n.toNat digits = m.toNat := by
  induction digits with
  | nil =>
      intro n m
      show some n = some m ↔ _
      rw [Option.some.injEq, ← UInt64.toNat_inj]
      rfl
  | cons c rest ih =>
      intro n m
      rw [accumulate?_cons, Option.bind_eq_some_iff]
      constructor
      · rintro ⟨next, hnext, hrest⟩
        rw [← ih.1 hrest, shiftIn?_eq_some_iff.1 hnext]
        rfl
      · intro hnumber
        have hle : 10 * n.toNat + value c ≤ m.toNat := hnumber ▸ le_numberFrom rest _
        have hfits : 10 * n.toNat + value c < UInt64.size :=
          Nat.lt_of_le_of_lt hle m.toNat_lt_size
        have hnext := UInt64.toNat_ofNat_of_lt' hfits
        exact ⟨_, shiftIn?_eq_some_iff.2 hnext, ih.2 (by rw [hnext]; exact hnumber)⟩

/-! ### Where the digits end -/

theorem upToZero_of_isOver {t : Text} (h : isOver (t.dropWhile Text.isDigit) = true) :
    t.upToZero = t.takeWhile Text.isDigit := by
  induction t with
  | nil => rfl
  | cons c rest ih =>
      by_cases hc : Text.isDigit c = true
      · have hne : (c != 0) = true := by
          rw [bne_iff_ne]
          rintro rfl
          cases hc
        rw [List.dropWhile_cons_of_pos hc] at h
        rw [Text.upToZero, List.takeWhile_cons, if_pos hne, List.takeWhile_cons_of_pos hc]
        exact congrArg (c :: ·) (ih h)
      · rw [List.dropWhile_cons_of_neg hc, isOver, beq_iff_eq] at h
        subst h
        rfl

theorem isOver_of_isDigit {t : Text} (h : ∀ c ∈ t.upToZero, Text.isDigit c = true) :
    isOver (t.dropWhile Text.isDigit) = true := by
  induction t with
  | nil => rfl
  | cons c rest ih =>
      by_cases hzero : c = 0
      · subst hzero
        rfl
      · have hne : (c != 0) = true := bne_iff_ne.2 hzero
        rw [Text.upToZero, List.takeWhile_cons, if_pos hne, List.forall_mem_cons] at h
        rw [List.dropWhile_cons_of_pos h.1]
        exact ih h.2

/--
**A text is read as the number it denotes, if that is at most `max`.**

The number is never cut down to a word: a text that denotes a larger one is refused.
-/
theorem parse?_eq_some_iff {t : Text} {max n : UInt64} :
    parse? t max = some n ↔ Denotes t.upToZero n.toNat ∧ n ≤ max := by
  simp only [parse?]
  constructor
  · intro h
    split at h
    · cases h
    · rename_i hne
      split at h
      · cases h
      · rename_i m hm
        split at h
        · rename_i hover
          cases h
          rw [upToZero_of_isOver hover.1]
          exact ⟨⟨hne, fun c hc => List.mem_takeWhile_imp hc, accumulate?_eq_some_iff.1 hm⟩, hover.2⟩
        · cases h
  · rintro ⟨hdenotes, hle⟩
    have hover := isOver_of_isDigit hdenotes.isDigit
    have hdigits := upToZero_of_isOver hover
    rw [hdigits] at hdenotes
    have hm : accumulate? 0 (t.takeWhile Text.isDigit) = some n :=
      accumulate?_eq_some_iff.2 hdenotes.number_eq
    rw [if_neg hdenotes.ne_nil, hm]
    exact if_pos ⟨hover, hle⟩

/-! ### Written numbers -/

/-- **A number that was written in base ten denotes itself.** -/
theorem denotes_numeral (upperCase : Bool) (n : Nat) : Denotes (numeral .decimal upperCase n) n where
  ne_nil := numeral_ne_nil .decimal upperCase n
  isDigit := forall_mem_numeral (by cases upperCase <;> decide) n
  number_eq := @foldl_numeral .decimal upperCase value (by cases upperCase <;> decide) n

end Decimal

end HidLink
