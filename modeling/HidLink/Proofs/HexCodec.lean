/-
Hex text and bytes, in both directions.

Reading looks at the digits of a text alone.  Blanks are gone before the digits are paired,
so they make no difference wherever they stand, and any other byte refuses the whole text
wherever it stands.  What is left is a condition on the digits, that there is an even
number of them, and each byte can be told from its two digits by where they stand.

Every text that is read has one spelling that is written, and writing after reading finds
it: the same digits in capitals, without the blanks.

What is written is also what a stream makes of the bytes as numbers, each in a field of two
places.  The field's width is used up by every number and has to be set anew, while the
base, the case and the fill are set once.
-/
import HidLink.Proofs.Buffer
import HidLink.Proofs.Hex
import HidLink.Proofs.Stream

namespace HidLink

/-! ### Blanks -/

namespace Text

theorem unblanked_append (s t : Text) : (s ++ t).unblanked = s.unblanked ++ t.unblanked :=
  List.filter_append ..

theorem unblanked_of_blanks {t : Text} (h : ∀ c ∈ t, isBlank c = true) : t.unblanked = [] := by
  rw [unblanked, List.filter_eq_nil_iff]
  intro c hc
  simp [h c hc]

theorem unblanked_insert (before after : Text) {blanks : Text}
    (h : ∀ c ∈ blanks, isBlank c = true) :
    (before ++ blanks ++ after).unblanked = (before ++ after).unblanked := by
  rw [unblanked_append, unblanked_append, unblanked_append, unblanked_of_blanks h,
    List.append_nil]

theorem mem_unblanked {t : Text} {c : UInt8} (hc : c ∈ t) (h : isBlank c = false) :
    c ∈ t.unblanked :=
  List.mem_filter.2 ⟨hc, by rw [h]; rfl⟩

end Text

namespace Hex

/-! ### Reading -/

/-- Texts with the same digits are read alike. -/
theorem parse?_congr {s t : Text} (h : s.unblanked = t.unblanked) : parse? s = parse? t := by
  refine Option.ext fun bytes => ?_
  rw [parse?_eq_some_iff, parse?_eq_some_iff, Spells, h]
  rfl

theorem exists_parse?_iff {t : Text} :
    (∃ bytes, parse? t = some bytes) ↔
      (∀ c ∈ t.unblanked, IsDigit c) ∧ t.unblanked.length % 2 = 0 := by
  constructor
  · intro h
    obtain ⟨bytes, hbytes⟩ := h
    have hpairs : Pairs t.unblanked bytes := parse?_eq_some_iff.1 hbytes
    refine ⟨hpairs.isDigit, ?_⟩
    rw [hpairs.length_eq, Nat.mul_mod_right]
  · intro h
    obtain ⟨hdigits, heven⟩ := h
    obtain ⟨bytes, -, hspells⟩ := exists_spells_iff.2
      (show HasDigits (2 * (t.unblanked.length / 2)) t from ⟨by omega, hdigits⟩)
    exact ⟨bytes, parse?_eq_some_iff.2 hspells⟩

/-- A byte comes from the two digits at twice its position. -/
theorem Pairs.exists_digits {digits : Text} {bytes : List UInt8} (h : Pairs digits bytes) :
    ∀ (i : Nat) (hi : i < bytes.length),
      ∃ high low, digits[2 * i]? = some high ∧ digits[2 * i + 1]? = some low ∧
        bytes[i].toNat = 16 * value high + value low := by
  induction h with
  | nil =>
      intro i hi
      exact absurd hi (Nat.not_lt_zero i)
  | @cons high low b digits bytes hhigh hlow hb hrest ih =>
      intro i hi
      cases i with
      | zero => exact ⟨high, low, rfl, rfl, hb⟩
      | succ i => exact ih i (Nat.lt_of_succ_lt_succ hi)

theorem Pairs.append {s t : Text} {xs ys : List UInt8} (hs : Pairs s xs) (ht : Pairs t ys) :
    Pairs (s ++ t) (xs ++ ys) := by
  induction hs with
  | nil => exact ht
  | cons hhigh hlow hb hrest ih => exact .cons hhigh hlow hb ih

theorem parse?_append {s t : Text} {xs ys : List UInt8} (hs : parse? s = some xs)
    (ht : parse? t = some ys) : parse? (s ++ t) = some (xs ++ ys) := by
  rw [parse?_eq_some_iff, Spells] at hs ht ⊢
  rw [Text.unblanked_append]
  exact hs.append ht

/-- One byte that is neither a digit nor a blank is enough to refuse a text. -/
theorem parse?_eq_none_of_mem {t : Text} {c : UInt8} (hc : c ∈ t)
    (hblank : Text.isBlank c = false) (hdigit : ¬IsDigit c) : parse? t = none := by
  cases hparse : parse? t with
  | none => rfl
  | some bytes =>
      have hpairs : Pairs t.unblanked bytes := parse?_eq_some_iff.1 hparse
      exact absurd (hpairs.isDigit c (Text.mem_unblanked hc hblank)) hdigit

theorem isBlank_eq_false_of_foreign {c : UInt8} (h : c = 0 ∨ 0x80 ≤ c) :
    Text.isBlank c = false := by
  unfold Text.isBlank
  grind

theorem not_isDigit_of_foreign {c : UInt8} (h : c = 0 ∨ 0x80 ≤ c) : ¬IsDigit c := by
  unfold IsDigit
  grind

/--
**A text is read exactly when its digits are an even number of digits and nothing else.**

The bytes that are read come from the digits two by two.  Blanks make no difference, a zero
byte or one that is not ASCII refuses the text wherever it stands, and texts that can be
read can be read one behind the other.
-/
theorem reads_digits_two_by_two :
    (∀ t, (∃ bytes, parse? t = some bytes) ↔
      (∀ c ∈ t.unblanked, IsDigit c) ∧ t.unblanked.length % 2 = 0) ∧
    (∀ t bytes, parse? t = some bytes →
      bytes.length = t.unblanked.length / 2 ∧
      ∀ (i : Nat) (hi : i < bytes.length),
        ∃ high low, t.unblanked[2 * i]? = some high ∧ t.unblanked[2 * i + 1]? = some low ∧
          bytes[i].toNat = 16 * value high + value low) ∧
    (∀ before blanks after : Text, (∀ c ∈ blanks, Text.isBlank c = true) →
      parse? (before ++ blanks ++ after) = parse? (before ++ after)) ∧
    (∀ s t : Text, s.unblanked = t.unblanked → parse? s = parse? t) ∧
    (∀ (t : Text) (c : UInt8), c ∈ t → c = 0 ∨ 0x80 ≤ c → parse? t = none) ∧
    (∀ s t xs ys, parse? s = some xs → parse? t = some ys →
      parse? (s ++ t) = some (xs ++ ys)) := by
  refine ⟨fun t => exists_parse?_iff, ?_, ?_, fun s t => parse?_congr, ?_,
    fun s t xs ys => parse?_append⟩
  · intro t bytes h
    have hpairs : Pairs t.unblanked bytes := parse?_eq_some_iff.1 h
    refine ⟨?_, hpairs.exists_digits⟩
    rw [hpairs.length_eq, Nat.mul_div_cancel_left _ Nat.two_pos]
  · intro before blanks after hblanks
    exact parse?_congr (Text.unblanked_insert before after hblanks)
  · intro t c hc hforeign
    have hblank := isBlank_eq_false_of_foreign hforeign
    exact parse?_eq_none_of_mem hc hblank (not_isDigit_of_foreign hforeign)

/-- Blanks of several kinds, both cases, a zero byte, and a text behind another. -/
theorem reads_digits_two_by_two_spelled_freely :
    parse? (ascii "0a\tB 1\n") = some [0x0A, 0xB1] ∧
    parse? (ascii "0a\tB 1\n") = parse? (ascii "0aB1") ∧
    parse? (ascii "0aB1" ++ [0]) = none ∧
    parse? (ascii "0a\tB 1\n" ++ ascii "fF") = some [0x0A, 0xB1, 0xFF] := by
  obtain ⟨-, -, -, hblanks, hforeign, happend⟩ := reads_digits_two_by_two
  have hparse : parse? (ascii "0a\tB 1\n") = some [0x0A, 0xB1] := by decide +kernel
  refine ⟨hparse, hblanks _ _ (by decide), hforeign _ 0 (by decide) (Or.inl rfl), ?_⟩
  exact happend _ _ _ [0xFF] hparse (by decide +kernel)

/-! ### Writing -/

/-- The capital for a small letter that is a digit; any other byte stays as it is. -/
def capital (c : UInt8) : UInt8 := if 97 ≤ c ∧ c ≤ 102 then c - 32 else c

/-- Writing a digit that was read gives its capital. -/
theorem digit_of_digit? {c : UInt8} {d : Fin 16} (h : digit? c = some d) : digit d = capital c := by
  obtain ⟨hdigit, hvalue⟩ := digit?_eq_some_iff.1 h
  unfold IsDigit at hdigit
  unfold value at hvalue
  simp only [UInt8.le_iff_toNat_le, UInt8.reduceToNat] at hdigit hvalue
  rw [digit, capital, ← hvalue]
  simp only [UInt8.le_iff_toNat_le, UInt8.reduceToNat]
  rcases hdigit with hdecimal | hsmall | hcapital
  · rw [if_pos hdecimal.2, if_pos (by omega), if_neg (by omega), ← UInt8.toNat_inj,
      UInt8.toNat_ofNat']
    omega
  · have hle : (32 : UInt8) ≤ c := by
      simp only [UInt8.le_iff_toNat_le, UInt8.reduceToNat]
      omega
    rw [if_neg (show ¬c.toNat ≤ 57 by omega), if_neg (show ¬c.toNat ≤ 70 by omega),
      if_neg (by omega), if_pos hsmall, ← UInt8.toNat_inj, UInt8.toNat_ofNat',
      UInt8.toNat_sub_of_le _ _ hle]
    simp only [UInt8.reduceToNat]
    omega
  · rw [if_neg (show ¬c.toNat ≤ 57 by omega), if_pos hcapital.2, if_neg (by omega),
      if_neg (by omega), ← UInt8.toNat_inj, UInt8.toNat_ofNat']
    omega

/-- Bytes are written with the digits they were read from, in capitals. -/
theorem Pairs.render_eq {digits : Text} {bytes : List UInt8} (h : Pairs digits bytes) :
    render bytes = digits.map capital := by
  induction h with
  | nil => rfl
  | @cons high low b digits bytes hhigh hlow hb hrest ih =>
      obtain ⟨h, hh⟩ := digit?_of_isDigit hhigh
      obtain ⟨l, hl⟩ := digit?_of_isDigit hlow
      obtain rfl : joinHalves h l = b := joinHalves_of_digits hh hl hb
      rw [render_cons, highHalf_joinHalves, lowHalf_joinHalves, digit_of_digit? hh,
        digit_of_digit? hl, ih, List.map_cons, List.map_cons]

theorem isDigit_of_isCapital {c : UInt8} (h : IsCapital c) : IsDigit c := by
  rcases h with hdecimal | hcapital
  · exact Or.inl hdecimal
  · exact Or.inr (Or.inr hcapital)

theorem capital_of_isCapital {c : UInt8} (h : IsCapital c) : capital c = c := by
  have hsmall : ¬(97 ≤ c ∧ c ≤ 102) := by
    unfold IsCapital at h
    grind
  rw [capital, if_neg hsmall]

/-- In capitals and without blanks, bytes are spelled in one way only. -/
theorem Spells.eq_render {t : Text} {bytes : List UInt8} (h : Spells t bytes)
    (hcapital : ∀ c ∈ t, IsCapital c) : t = render bytes := by
  have hdigits : t.unblanked = t :=
    unblanked_eq_self fun c hc => isDigit_of_isCapital (hcapital c hc)
  have hcapitals : t.map capital = t :=
    (List.map_congr_left fun c hc => capital_of_isCapital (hcapital c hc)).trans (List.map_id' t)
  have hpairs : Pairs t.unblanked bytes := h
  rw [hpairs.render_eq, hdigits, hcapitals]

theorem parse?_render (bytes : List UInt8) : parse? (render bytes) = some bytes :=
  parse?_eq_some_iff.2 (spells_render bytes)

theorem render_inj {xs ys : List UInt8} (h : render xs = render ys) : xs = ys := by
  have hparse := congrArg parse? h
  rw [parse?_render, parse?_render] at hparse
  exact Option.some.inj hparse

/-- The text in the one spelling that is written, if it can be read. -/
def canonical (t : Text) : Option Text := (parse? t).map render

theorem canonical_of_canonical {t u : Text} (h : canonical t = some u) :
    canonical u = some u := by
  obtain ⟨bytes, -, rfl⟩ := Option.map_eq_some_iff.1 h
  rw [canonical, parse?_render, Option.map_some]

end Hex

/-! ### Writing on a stream -/

/-- A format in which a byte is written with capitals, and zeros in front fill its field. -/
structure Format.Hexadecimal (f : Format) : Prop where
  radix_eq : f.radix = .hexadecimal
  upperCase_eq : f.upperCase = true
  fill_eq : f.fill = 48

namespace Hex

/-- The message that writes bytes in hex: two places for each, with zeros in front. -/
def renderMessage (bytes : List UInt8) : List Item :=
  .upperCase true :: .radix .hexadecimal :: .fill 48 ::
    bytes.flatMap fun b => [.width 2, .number b.toNat]

theorem digitByte_eq_digit (d : Fin 16) : digitByte true d.val = digit d := by
  revert d
  decide

/-- A byte in a field of two places is its two digits. -/
theorem field_numeral (b : UInt8) :
    List.replicate (2 - (numeral .hexadecimal true b.toNat).length) 48
        ++ numeral .hexadecimal true b.toNat
      = [digit (highHalf b), digit (lowHalf b)] := by
  have hb := b.toNat_lt
  have hlow : digitByte true (b.toNat % 16) = digit (lowHalf b) := digitByte_eq_digit (lowHalf b)
  have hhigh : digitByte true (b.toNat / 16) = digit (highHalf b) :=
    digitByte_eq_digit (highHalf b)
  by_cases hsmall : b.toNat < 16
  · have hnumeral : numeral .hexadecimal true b.toNat = [digitByte true b.toNat] :=
      numeral_of_lt hsmall
    rw [Nat.mod_eq_of_lt hsmall] at hlow
    rw [Nat.div_eq_of_lt hsmall] at hhigh
    rw [hnumeral, ← hlow, ← hhigh]
    rfl
  · have hlead : numeral .hexadecimal true (b.toNat / 16) = [digitByte true (b.toNat / 16)] :=
      numeral_of_lt (show b.toNat / 16 < 16 by omega)
    have hnumeral : numeral .hexadecimal true b.toNat =
        numeral .hexadecimal true (b.toNat / 16) ++ [digitByte true (b.toNat % 16)] :=
      numeral_of_base_le (Nat.le_of_not_lt hsmall)
    rw [hnumeral, hlead, hlow, hhigh]
    rfl

theorem put_field {s : Stream} (h : s.format.Hexadecimal) (b : UInt8) :
    (s.put (.width 2)).put (.number b.toNat) =
      { format := { s.format with width := 0 }
        written := s.written ++ [digit (highHalf b), digit (lowHalf b)] } := by
  simp only [Stream.put, Stream.insert, h.radix_eq, h.upperCase_eq, h.fill_eq]
  rw [List.append_assoc, field_numeral]

/-- The base, the case and the fill are still set when the next byte comes, but not the width. -/
theorem emit_fields (bytes : List UInt8) :
    ∀ s : Stream, s.format.Hexadecimal →
      (s.emit (bytes.flatMap fun b => [.width 2, .number b.toNat])).written
        = s.written ++ render bytes := by
  induction bytes with
  | nil =>
      intro s _
      exact (List.append_nil s.written).symm
  | cons b rest ih =>
      intro s h
      rw [List.flatMap_cons, Stream.emit_append, Stream.emit_cons, Stream.emit_cons,
        Stream.emit_nil, put_field h, ih]
      · rw [render_cons, List.append_assoc]
        rfl
      · exact ⟨h.radix_eq, h.upperCase_eq, h.fill_eq⟩

/-- **On any stream the message writes the bytes in hex, however it found the format.** -/
theorem written_renderMessage (bytes : List UInt8) (s : Stream) :
    (s.emit (renderMessage bytes)).written = s.written ++ render bytes := by
  rw [renderMessage, Stream.emit_cons, Stream.emit_cons, Stream.emit_cons]
  exact emit_fields bytes _ ⟨rfl, rfl, rfl⟩

end Hex

theorem Buffer.Holds.hex_eq {data : Buffer} {bytes : List UInt8} (h : data.Holds bytes) :
    data.hex = .ok (Hex.render bytes) := by
  obtain ⟨v, hv, rfl⟩ := h.exists_first
  rw [hex, hv]
  rfl

namespace Hex

/--
**Reading undoes writing, and writing undoes reading but for case and blanks.**

What is written is the same whether the bytes are in memory or sent to a stream one by one,
and it has two capitals for every byte.
-/
theorem render_and_parse :
    (∀ bytes : List UInt8,
      (render bytes).length = 2 * bytes.length ∧ (∀ c ∈ render bytes, IsCapital c) ∧
      parse? (render bytes) = some bytes) ∧
    (∀ (data : Buffer) (bytes : List UInt8), data.Holds bytes → data.hex = .ok (render bytes)) ∧
    (∀ (bytes : List UInt8) (s : Stream),
      (s.emit (renderMessage bytes)).written = s.written ++ render bytes) ∧
    (∀ t bytes, parse? t = some bytes → render bytes = t.unblanked.map capital) ∧
    (∀ xs ys : List UInt8, render xs = render ys → xs = ys) ∧
    (∀ xs ys : List UInt8, render (xs ++ ys) = render xs ++ render ys) ∧
    (∀ t u, canonical t = some u → canonical u = some u) := by
  refine ⟨?_, fun data bytes hholds => hholds.hex_eq, written_renderMessage, ?_,
    fun xs ys => render_inj, render_append, fun t u => canonical_of_canonical⟩
  · intro bytes
    exact ⟨length_render bytes, isCapital_of_mem_render, parse?_render bytes⟩
  · intro t bytes h
    have hpairs : Pairs t.unblanked bytes := parse?_eq_some_iff.1 h
    exact hpairs.render_eq

/-- A byte below sixteen, which is written with a zero in front, and one with both letters. -/
theorem render_and_parse_small_and_letters :
    (Buffer.ofBytes [0x0A, 0xBF]).hex = .ok (ascii "0ABF") ∧
    render [0x0A, 0xBF] = (ascii " 0a bF").unblanked.map capital ∧
    canonical (ascii " 0a bF") = some (ascii "0ABF") ∧
    canonical (ascii "0ABF") = some (ascii "0ABF") := by
  obtain ⟨-, hhex, -, hrender, -, -, hcanonical⟩ := render_and_parse
  have hparse : parse? (ascii " 0a bF") = some [0x0A, 0xBF] := by decide +kernel
  have hfirst : canonical (ascii " 0a bF") = some (ascii "0ABF") := by decide +kernel
  exact ⟨hhex _ _ (Buffer.holds_ofBytes _), hrender _ _ hparse, hfirst, hcanonical _ _ hfirst⟩

end Hex

end HidLink
