/-
Which texts are hex, and for what bytes.

A text spells bytes if it is, without its blanks, two digits for each of them.  Reading
accepts exactly these texts, so a text spells one byte string at most; which texts can be
read is seen from their digits alone, and how many bytes come of it from their number.

Writing is one of the spellings: the one in capitals without blanks.
-/
import HidLink.Hex
import HidLink.Proofs.Numeral

namespace HidLink

/-- The text with its blanks left out. -/
def Text.unblanked (t : Text) : Text := t.filter fun c => !Text.isBlank c

namespace Hex

/-! ### One digit -/

/-- A digit of base sixteen, in either case. -/
def IsDigit (c : UInt8) : Prop :=
  (48 ≤ c ∧ c ≤ 57) ∨ (97 ≤ c ∧ c ≤ 102) ∨ (65 ≤ c ∧ c ≤ 70)

instance (c : UInt8) : Decidable (IsDigit c) := inferInstanceAs (Decidable (_ ∨ _))

/-- What a digit counts, which its case has no part in. -/
def value (c : UInt8) : Nat :=
  if c ≤ 57 then c.toNat - 48 else if c ≤ 70 then c.toNat - 55 else c.toNat - 87

theorem digit?_eq_some_iff {c : UInt8} {d : Fin 16} :
    digit? c = some d ↔ IsDigit c ∧ value c = d.val := by
  unfold digit? IsDigit value
  simp only [UInt8.le_iff_toNat_le, UInt8.reduceToNat]
  split
  · rw [Option.some.injEq, Fin.ext_iff, Fin.val_ofNat, if_pos (by omega)]
    omega
  · split
    · rw [Option.some.injEq, Fin.ext_iff, Fin.val_ofNat, if_neg (by omega), if_neg (by omega)]
      omega
    · split
      · rw [Option.some.injEq, Fin.ext_iff, Fin.val_ofNat, if_neg (by omega), if_pos (by omega)]
        omega
      · refine iff_of_false (by simp) ?_
        omega

theorem value_lt {c : UInt8} (h : IsDigit c) : value c < 16 := by
  unfold IsDigit at h
  unfold value
  simp only [UInt8.le_iff_toNat_le, UInt8.reduceToNat] at h ⊢
  split
  · omega
  · split
    · omega
    · omega

theorem digit?_of_isDigit {c : UInt8} (h : IsDigit c) : ∃ d, digit? c = some d :=
  ⟨⟨value c, value_lt h⟩, digit?_eq_some_iff.2 ⟨h, rfl⟩⟩

/-- No digit is taken for a blank. -/
theorem isBlank_eq_false_of_isDigit {c : UInt8} (h : IsDigit c) : Text.isBlank c = false := by
  unfold IsDigit at h
  unfold Text.isBlank
  grind

theorem unblanked_eq_self {t : Text} (h : ∀ c ∈ t, IsDigit c) : t.unblanked = t := by
  rw [Text.unblanked, List.filter_eq_self]
  intro c hc
  rw [isBlank_eq_false_of_isDigit (h c hc), Bool.not_false]

/-! ### Two digits to a byte -/

/-- Digits, two to each byte, the high half first. -/
inductive Pairs : Text → List UInt8 → Prop where
  | nil : Pairs [] []
  | cons {high low b : UInt8} {digits : Text} {bytes : List UInt8} (hhigh : IsDigit high)
      (hlow : IsDigit low) (hb : b.toNat = 16 * value high + value low)
      (hrest : Pairs digits bytes) : Pairs (high :: low :: digits) (b :: bytes)

/-- The text spells these bytes, with blanks wherever it likes. -/
def Spells (t : Text) (bytes : List UInt8) : Prop := Pairs t.unblanked bytes

theorem Pairs.length_eq {digits : Text} {bytes : List UInt8} (h : Pairs digits bytes) :
    digits.length = 2 * bytes.length := by
  induction h with
  | nil => rfl
  | cons hhigh hlow hb hrest ih => simp only [List.length_cons, ih]; omega

theorem Pairs.isDigit {digits : Text} {bytes : List UInt8} (h : Pairs digits bytes) :
    ∀ c ∈ digits, IsDigit c := by
  induction h with
  | nil => simp
  | cons hhigh hlow hb hrest ih =>
      intro c hc
      rcases List.mem_cons.1 hc with rfl | hc
      · exact hhigh
      rcases List.mem_cons.1 hc with rfl | hc
      · exact hlow
      · exact ih c hc

/-- Any digits are those of some bytes, if there is an even number of them. -/
theorem exists_pairs (n : Nat) :
    ∀ digits : Text, digits.length = 2 * n → (∀ c ∈ digits, IsDigit c) →
      ∃ bytes, bytes.length = n ∧ Pairs digits bytes := by
  induction n with
  | zero =>
      intro digits hlength _
      obtain rfl : digits = [] := List.length_eq_zero_iff.1 hlength
      exact ⟨[], rfl, .nil⟩
  | succ n ih =>
      intro digits hlength hdigits
      match digits, hlength, hdigits with
      | high :: low :: rest, hlength, hdigits =>
          have hhigh : IsDigit high := hdigits high (by simp)
          have hlow : IsDigit low := hdigits low (by simp)
          have hlt : 16 * value high + value low < 256 := by
            have := value_lt hhigh
            have := value_lt hlow
            omega
          obtain ⟨bytes, hbytes, hpairs⟩ :=
            ih rest (by simp only [List.length_cons] at hlength; omega)
              (fun c hc => hdigits c (by simp [hc]))
          refine ⟨UInt8.ofNat (16 * value high + value low) :: bytes, by simp [hbytes], ?_⟩
          exact .cons hhigh hlow (UInt8.toNat_ofNat_of_lt' hlt) hpairs

/-! ### Reading -/

/-- The digits that are read are those of the text without its blanks, and all of them. -/
theorem digits?_eq_some_iff {t : Text} :
    ∀ {digits : List (Fin 16)},
      digits? t = some digits ↔ t.unblanked.map digit? = digits.map some := by
  induction t with
  | nil =>
      intro digits
      rw [digits?, Option.some.injEq]
      exact ⟨fun h => h ▸ rfl, fun h => (List.map_eq_nil_iff.1 h.symm).symm⟩
  | cons c rest ih =>
      intro digits
      rw [digits?]
      by_cases hblank : Text.isBlank c = true
      · rw [if_pos hblank, ih, Text.unblanked, Text.unblanked,
          List.filter_cons_of_neg (by simp [hblank])]
      · rw [if_neg hblank, Text.unblanked, List.filter_cons_of_pos (by simp [hblank]),
          List.map_cons]
        cases hc : digit? c with
        | none => cases digits <;> simp
        | some d =>
            cases digits with
            | nil => simp
            | cons e digits =>
                simp only [Option.map_eq_some_iff, ih, List.map_cons, List.cons.injEq,
                  Option.some.injEq, Text.unblanked]
                refine ⟨?_, fun ⟨hd, hrest⟩ => ⟨digits, hrest, hd, rfl⟩⟩
                rintro ⟨_, hrest, rfl, rfl⟩
                exact ⟨rfl, hrest⟩

theorem toNat_joinHalves (high low : Fin 16) :
    (joinHalves high low).toNat = 16 * high.val + low.val :=
  UInt8.toNat_ofNat_of_lt' (by have := high.isLt; have := low.isLt; show _ < 256; omega)

theorem pairs_of_pairs? {halves : List (Fin 16)} :
    ∀ {digits : Text} {bytes : List UInt8}, digits.map digit? = halves.map some →
      pairs? halves = some bytes → Pairs digits bytes := by
  induction halves using pairs?.induct with
  | case1 =>
      intro digits bytes hdigits hbytes
      obtain rfl : digits = [] := List.map_eq_nil_iff.1 hdigits
      cases hbytes
      exact .nil
  | case2 =>
      intro digits bytes hdigits hbytes
      cases hbytes
  | case3 high low rest ih =>
      intro digits bytes hdigits hbytes
      obtain ⟨later, hlater, rfl⟩ := Option.map_eq_some_iff.1 hbytes
      obtain ⟨h, digits, rfl, hh, hdigits⟩ := List.map_eq_cons_iff.1 hdigits
      obtain ⟨l, digits, rfl, hl, hdigits⟩ := List.map_eq_cons_iff.1 hdigits
      obtain ⟨hhigh, hhv⟩ := digit?_eq_some_iff.1 hh
      obtain ⟨hlow, hlv⟩ := digit?_eq_some_iff.1 hl
      refine .cons hhigh hlow ?_ (ih hdigits hlater)
      rw [toNat_joinHalves, hhv, hlv]

/-- The byte that two digits count is put together from the halves they are read as. -/
theorem joinHalves_of_digits {high low b : UInt8} {h l : Fin 16} (hh : digit? high = some h)
    (hl : digit? low = some l) (hb : b.toNat = 16 * value high + value low) :
    joinHalves h l = b := by
  rw [← UInt8.toNat_inj, toNat_joinHalves, hb, (digit?_eq_some_iff.1 hh).2,
    (digit?_eq_some_iff.1 hl).2]

theorem Pairs.exists_halves {digits : Text} {bytes : List UInt8} (h : Pairs digits bytes) :
    ∃ halves, digits.map digit? = halves.map some ∧ pairs? halves = some bytes := by
  induction h with
  | nil => exact ⟨[], rfl, rfl⟩
  | @cons high low b digits bytes hhigh hlow hb hrest ih =>
      obtain ⟨halves, hdigits, hbytes⟩ := ih
      obtain ⟨h, hh⟩ := digit?_of_isDigit hhigh
      obtain ⟨l, hl⟩ := digit?_of_isDigit hlow
      refine ⟨h :: l :: halves, by simp [hh, hl, hdigits], ?_⟩
      rw [pairs?, hbytes, Option.map_some, joinHalves_of_digits hh hl hb]

/-- **A text is read as the bytes it spells, and refused if it spells none.** -/
theorem parse?_eq_some_iff {t : Text} {bytes : List UInt8} :
    parse? t = some bytes ↔ Spells t bytes := by
  unfold parse?
  constructor
  · intro h
    split at h
    · cases h
    · rename_i halves hhalves
      split at h
      · exact pairs_of_pairs? (digits?_eq_some_iff.1 hhalves) h
      · cases h
  · intro h
    obtain ⟨halves, hdigits, hbytes⟩ := Pairs.exists_halves h
    have heven : halves.length % 2 = 0 := by
      have hlength := congrArg List.length hdigits
      rw [List.length_map, List.length_map, Pairs.length_eq h] at hlength
      omega
    rw [digits?_eq_some_iff.2 hdigits]
    show (if halves.length % 2 = 0 then pairs? halves else none) = some bytes
    rw [if_pos heven, hbytes]

theorem Spells.unique {t : Text} {xs ys : List UInt8} (hx : Spells t xs) (hy : Spells t ys) :
    xs = ys :=
  Option.some.inj ((parse?_eq_some_iff.2 hx).symm.trans (parse?_eq_some_iff.2 hy))

/-- What the digits of a text count, all of them together. -/
def number (t : Text) : Nat := t.unblanked.foldl (fun n c => 16 * n + value c) 0

theorem Spells.number_eq {t : Text} {b : UInt8} (h : Spells t [b]) : number t = b.toNat := by
  unfold Spells at h
  unfold number
  cases hdigits : t.unblanked with
  | nil =>
      rw [hdigits] at h
      cases h
  | cons high rest =>
      rw [hdigits] at h
      cases h with
      | cons hhigh hlow hb hrest =>
          cases hrest
          rw [hb, List.foldl_cons, List.foldl_cons, List.foldl_nil, Nat.mul_zero, Nat.zero_add]

/-! ### Texts by their number of digits -/

/-- Without its blanks the text is `n` digits and nothing else. -/
def HasDigits (n : Nat) (t : Text) : Prop :=
  t.unblanked.length = n ∧ ∀ c ∈ t.unblanked, IsDigit c

instance (n : Nat) (t : Text) : Decidable (HasDigits n t) := inferInstanceAs (Decidable (_ ∧ _))

/-- A text can be read as `n` bytes exactly when it has twice as many digits. -/
theorem exists_spells_iff {t : Text} {n : Nat} :
    (∃ bytes, bytes.length = n ∧ Spells t bytes) ↔ HasDigits (2 * n) t := by
  refine ⟨?_, fun h => exists_pairs n _ h.1 h.2⟩
  rintro ⟨bytes, rfl, h⟩
  exact ⟨h.length_eq, h.isDigit⟩

/-! ### Writing -/

/-- A digit as it is written: decimal, or a capital. -/
def IsCapital (c : UInt8) : Prop := (48 ≤ c ∧ c ≤ 57) ∨ (65 ≤ c ∧ c ≤ 70)

instance (c : UInt8) : Decidable (IsCapital c) := inferInstanceAs (Decidable (_ ∨ _))

theorem isCapital_digit (d : Fin 16) : IsCapital (digit d) := by
  revert d
  decide

/-- Digits of numerals count what they were written for, in either base and case. -/
theorem value_digitByte {radix : Radix} {upperCase : Bool} :
    ∀ d < radix.base, value (digitByte upperCase d) = d := by
  cases radix <;> cases upperCase <;> decide

/-- No two numbers are written alike. -/
theorem numeral_inj {radix : Radix} {upperCase : Bool} {m n : Nat}
    (h : numeral radix upperCase m = numeral radix upperCase n) : m = n := by
  rw [← foldl_numeral value_digitByte m, h, foldl_numeral value_digitByte]

theorem value_digit (d : Fin 16) : value (digit d) = d.val :=
  (digit?_eq_some_iff.1 (digit?_digit d)).2

theorem isCapital_of_mem_render {bytes : List UInt8} : ∀ c ∈ render bytes, IsCapital c := by
  intro c hc
  obtain ⟨b, -, hb⟩ := List.mem_flatMap.1 hc
  simp only [List.mem_cons, List.not_mem_nil, or_false] at hb
  rcases hb with rfl | rfl
  · exact isCapital_digit _
  · exact isCapital_digit _

theorem pairs_render (bytes : List UInt8) : Pairs (render bytes) bytes := by
  induction bytes with
  | nil => exact .nil
  | cons b rest ih =>
      refine .cons (digit?_eq_some_iff.1 (digit?_digit _)).1
        (digit?_eq_some_iff.1 (digit?_digit _)).1 ?_ ih
      rw [value_digit, value_digit, ← toNat_joinHalves, joinHalves_halves]

theorem unblanked_render (bytes : List UInt8) : (render bytes).unblanked = render bytes :=
  unblanked_eq_self (pairs_render bytes).isDigit

/-- **What is written spells the bytes it was written for.** -/
theorem spells_render (bytes : List UInt8) : Spells (render bytes) bytes := by
  rw [Spells, unblanked_render]
  exact pairs_render bytes

end Hex

end HidLink
