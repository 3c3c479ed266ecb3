/-
Where blanks may stand in hex text.

The two digits of a byte make a group, and blanks can keep groups apart.  A text that is read
falls into such groups, one for each byte, with nothing left over but blanks.  Its groups need
not be whole, though.  Blanks are gone before digits are paired, so the next digit completes
a group however far behind it stands, and digits that were spaced out one by one are read as
if they had been written in pairs.

The two layouts differ in what may stand inside a group, and that is the parameter of
`Grouped`: nothing at all for groups that are kept together, blanks for texts that are read.
-/
import HidLink.Proofs.HexCodec

namespace HidLink

namespace Text

/-- Blanks and nothing else, possibly none. -/
def AllBlank (t : Text) : Prop := ∀ c ∈ t, isBlank c = true

instance (t : Text) : Decidable t.AllBlank := List.decidableBAll _ t

theorem allBlank_nil : AllBlank [] := by simp [AllBlank]

theorem allBlank_of_unblanked_eq_nil {t : Text} (h : t.unblanked = []) : t.AllBlank := by
  intro c hc
  by_cases hblank : isBlank c = true
  · exact hblank
  · have hmem : c ∈ t.unblanked := mem_unblanked hc (by simpa using hblank)
    rw [h] at hmem
    simp at hmem

/-- The blanks in front of the first byte that is none. -/
theorem exists_of_unblanked_eq_cons {t digits : Text} {c : UInt8} (h : t.unblanked = c :: digits) :
    ∃ before behind : Text, t = before ++ c :: behind ∧ before.AllBlank ∧
      behind.unblanked = digits := by
  obtain ⟨before, behind, ht, hbefore, -, hbehind⟩ := List.filter_eq_cons_iff.1 h
  refine ⟨before, behind, ht, ?_, hbehind⟩
  intro d hd
  simpa using hbefore d hd

theorem unblanked_cons (c : UInt8) (t : Text) :
    unblanked (c :: t) = unblanked [c] ++ t.unblanked :=
  unblanked_append [c] t

/-- The byte that keeps others apart. -/
abbrev space : UInt8 := 32

theorem unblanked_intersperse (t : Text) :
    unblanked (t.intersperse space) = t.unblanked := by
  induction t with
  | nil => rfl
  | cons c rest ih =>
      cases rest with
      | nil => rfl
      | cons d rest =>
          have hspace : unblanked [space] = [] := rfl
          rw [List.intersperse_cons_cons, unblanked_cons, unblanked_cons space, hspace,
            List.nil_append, ih, ← unblanked_cons]

end Text

namespace Hex

theorem unblanked_cons_of_isDigit {c : UInt8} (h : IsDigit c) (t : Text) :
    Text.unblanked (c :: t) = c :: t.unblanked :=
  List.filter_cons_of_pos (by simp [isBlank_eq_false_of_isDigit h])

/-! ### Groups of two digits -/

/--
The text is a group of two digits for each byte, with blanks before, between and behind the
groups.  The two digits of a group have a text in `gap` between them.
-/
inductive Grouped (gap : Text → Prop) : Text → List UInt8 → Prop where
  | nil {behind : Text} (hbehind : behind.AllBlank) : Grouped gap behind []
  | cons {before within behind : Text} {high low b : UInt8} {bytes : List UInt8}
      (hbefore : before.AllBlank) (hhigh : IsDigit high) (hwithin : gap within)
      (hlow : IsDigit low) (hb : b.toNat = 16 * value high + value low)
      (hbehind : Grouped gap behind bytes) :
      Grouped gap (before ++ high :: (within ++ low :: behind)) (b :: bytes)

/-- What may stand inside the groups can be allowed to be more. -/
theorem Grouped.mono {gap gap' : Text → Prop} (hgap : ∀ t, gap t → gap' t) {t : Text}
    {bytes : List UInt8} (h : Grouped gap t bytes) : Grouped gap' t bytes := by
  induction h with
  | nil hbehind => exact .nil hbehind
  | cons hbefore hhigh hwithin hlow hb hbehind ih =>
      exact .cons hbefore hhigh (hgap _ hwithin) hlow hb ih

/-- Without blanks the groups are the pairs of digits that are read. -/
theorem Grouped.spells {t : Text} {bytes : List UInt8} (h : Grouped Text.AllBlank t bytes) :
    Spells t bytes := by
  unfold Spells
  induction h with
  | nil hbehind =>
      rw [Text.unblanked_of_blanks hbehind]
      exact .nil
  | cons hbefore hhigh hwithin hlow hb hbehind ih =>
      rw [Text.unblanked_append, Text.unblanked_of_blanks hbefore, List.nil_append,
        unblanked_cons_of_isDigit hhigh, Text.unblanked_append,
        Text.unblanked_of_blanks hwithin, List.nil_append, unblanked_cons_of_isDigit hlow]
      exact .cons hhigh hlow hb ih

/-- Each digit of a pair is found behind some blanks, the second one inside the group. -/
theorem Pairs.grouped {digits : Text} {bytes : List UInt8} (h : Pairs digits bytes) :
    ∀ {t : Text}, t.unblanked = digits → Grouped Text.AllBlank t bytes := by
  induction h with
  | nil =>
      intro t ht
      exact .nil (Text.allBlank_of_unblanked_eq_nil ht)
  | cons hhigh hlow hb hrest ih =>
      intro t ht
      obtain ⟨before, rest, rfl, hbefore, hrest⟩ := Text.exists_of_unblanked_eq_cons ht
      obtain ⟨within, behind, rfl, hwithin, hbehind⟩ := Text.exists_of_unblanked_eq_cons hrest
      exact .cons hbefore hhigh hwithin hlow hb (ih hbehind)

theorem parse?_eq_some_iff_grouped {t : Text} {bytes : List UInt8} :
    parse? t = some bytes ↔ Grouped Text.AllBlank t bytes := by
  rw [parse?_eq_some_iff]
  exact ⟨fun h => Pairs.grouped h rfl, Grouped.spells⟩

/-! ### Groups kept together -/

/-- In groups that are kept together the first digit has the second one right behind it. -/
theorem Grouped.isDigit_second {first second : UInt8} {rest : Text} {bytes : List UInt8}
    (hfirst : IsDigit first) (h : Grouped (· = []) (first :: second :: rest) bytes) :
    IsDigit second := by
  -- The first byte is no blank, so it can only open a group, and the next one has to close it.
  have hnot : Text.isBlank first = false := isBlank_eq_false_of_isDigit hfirst
  generalize ht : first :: second :: rest = t at h
  cases h with
  | nil hbehind =>
      have hblank : Text.isBlank first = true := hbehind first (by simp [← ht])
      simp [hnot] at hblank
  | @cons before within behind high low b bytes hbefore hhigh hwithin hlow hb hbehind =>
      subst hwithin
      cases before with
      | nil =>
          have hsecond : second = low := by simpa using (List.cons.inj (List.cons.inj ht).2).1
          rw [hsecond]
          exact hlow
      | cons d before =>
          have hd : first = d := (List.cons.inj ht).1
          have hblank : Text.isBlank first = true := hbefore first (by simp [hd])
          simp [hnot] at hblank

/-- **Groups need not be kept together**: a blank may part the two digits of a byte. -/
theorem split_group_is_read :
    parse? (ascii "1 2") = some [0x12] ∧
    ¬∃ bytes, Grouped (· = []) (ascii "1 2") bytes := by
  refine ⟨by decide +kernel, ?_⟩
  rintro ⟨bytes, h⟩
  have hsecond : IsDigit Text.space := Grouped.isDigit_second (by decide) h
  exact absurd hsecond (by decide)

theorem exists_parse?_intersperse {n : Nat} {digits : Text} (hlength : digits.length = 2 * n)
    (hdigits : ∀ c ∈ digits, IsDigit c) :
    ∃ bytes, bytes.length = n ∧ parse? (digits.intersperse Text.space) = some bytes := by
  obtain ⟨bytes, hbytes, hpairs⟩ := exists_pairs n digits hlength hdigits
  refine ⟨bytes, hbytes, parse?_eq_some_iff.2 ?_⟩
  rw [Spells, Text.unblanked_intersperse, unblanked_eq_self hdigits]
  exact hpairs

/--
**A text is read exactly when it falls into groups of two digits, with blanks anywhere.**

Blanks may also stand inside a group.  So digits that are spaced out one by one are read as
half as many bytes, and a text whose groups are kept together is only one layout among those
that are read.
-/
theorem reads_groups_across_blanks :
    (∀ t bytes, parse? t = some bytes ↔ Grouped Text.AllBlank t bytes) ∧
    (∀ (n : Nat) (digits : Text), digits.length = 2 * n → (∀ c ∈ digits, IsDigit c) →
      ∃ bytes, bytes.length = n ∧ parse? (digits.intersperse Text.space) = some bytes) ∧
    (∀ t bytes, Grouped (· = []) t bytes → parse? t = some bytes) := by
  refine ⟨fun t bytes => parse?_eq_some_iff_grouped, ?_, ?_⟩
  · intro n digits
    exact exists_parse?_intersperse
  · intro t bytes h
    refine parse?_eq_some_iff_grouped.2 (h.mono ?_)
    rintro _ rfl
    exact Text.allBlank_nil

/-- A channel id in eight digits with spaces between them is four bytes all the same. -/
theorem reads_groups_across_blanks_spaced_out :
    (∃ bytes, bytes.length = 4 ∧ parse? (ascii "0 a 1 B 2 c 3 D") = some bytes) ∧
    Grouped Text.AllBlank (ascii "0 a 1 B 2 c 3 D") [0x0A, 0x1B, 0x2C, 0x3D] ∧
    parse? (ascii " 0a\t1B") = some [0x0A, 0x1B] := by
  obtain ⟨hread, hspaced, htogether⟩ := reads_groups_across_blanks
  have hlast : Grouped (· = []) ([9] ++ 49 :: ([] ++ 66 :: [])) [0x1B] :=
    .cons (by decide) (by decide) rfl (by decide) (by decide) (.nil Text.allBlank_nil)
  have hboth : Grouped (· = []) ([32] ++ 48 :: ([] ++ 97 :: ([9] ++ 49 :: ([] ++ 66 :: []))))
      [0x0A, 0x1B] :=
    .cons (by decide) (by decide) rfl (by decide) (by decide) hlast
  exact ⟨hspaced 4 (ascii "0a1B2c3D") (by decide) (by decide +kernel),
    (hread _ _).1 (by decide +kernel), htogether _ _ hboth⟩

end Hex

end HidLink
