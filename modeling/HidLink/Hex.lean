/-
Hexadecimal text: two digits a byte, high half first.

Writing always uses capitals.  Reading takes either case and drops every blank before
it pairs the digits, so blanks may stand anywhere, also between the two digits of one
byte; any other byte that is no digit refuses the whole text, and so does a digit
that is left without a partner.
-/
import HidLink.Text

namespace HidLink.Hex

/-! ### One digit -/

/-- The capital digit for a half byte. -/
def digit (d : Fin 16) : UInt8 :=
  if d.val < 10 then UInt8.ofNat (48 + d.val) else UInt8.ofNat (55 + d.val)

/-- What a digit of either case stands for. -/
def digit? (c : UInt8) : Option (Fin 16) :=
  if 48 ≤ c ∧ c ≤ 57 then some (Fin.ofNat 16 (c.toNat - 48))
  else if 97 ≤ c ∧ c ≤ 102 then some (Fin.ofNat 16 (c.toNat - 87))
  else if 65 ≤ c ∧ c ≤ 70 then some (Fin.ofNat 16 (c.toNat - 55))
  else none

theorem digit?_digit (d : Fin 16) : digit? (digit d) = some d := by
  revert d; decide

/-! ### One byte -/

def highHalf (b : UInt8) : Fin 16 :=
  ⟨b.toNat / 16, by have := b.toNat_lt; omega⟩

def lowHalf (b : UInt8) : Fin 16 :=
  ⟨b.toNat % 16, by omega⟩

def joinHalves (high low : Fin 16) : UInt8 :=
  UInt8.ofNat (16 * high.val + low.val)

theorem joinHalves_halves (b : UInt8) : joinHalves (highHalf b) (lowHalf b) = b := by
  simp [joinHalves, highHalf, lowHalf, Nat.div_add_mod]

theorem highHalf_joinHalves (h l : Fin 16) : highHalf (joinHalves h l) = h := by
  have := h.isLt; have := l.isLt
  ext; simp [joinHalves, highHalf, UInt8.toNat_ofNat']; omega

theorem lowHalf_joinHalves (h l : Fin 16) : lowHalf (joinHalves h l) = l := by
  have := h.isLt; have := l.isLt
  ext; simp [joinHalves, lowHalf, UInt8.toNat_ofNat']

/-! ### Whole texts -/

/-- Bytes as text, in capitals and without blanks. -/
def render (bytes : List UInt8) : Text :=
  bytes.flatMap fun b => [digit (highHalf b), digit (lowHalf b)]

/-- The digits of a text in order, or nothing if a byte is neither digit nor blank. -/
def digits? : Text → Option (List (Fin 16))
  | [] => some []
  | c :: rest =>
      if Text.isBlank c then digits? rest
      else
        match digit? c with
        | none => none
        | some d => (digits? rest).map (d :: ·)

/-- Reads digits two by two.  Nothing comes of a digit whose partner is not there. -/
def pairs? : List (Fin 16) → Option (List UInt8)
  | [] => some []
  | [_] => none
  | high :: low :: rest => (pairs? rest).map (joinHalves high low :: ·)

/-- The bytes a text stands for.  Digits are paired only once their number is known to be even. -/
def parse? (text : Text) : Option (List UInt8) :=
  match digits? text with
  | none => none
  | some digits => if digits.length % 2 = 0 then pairs? digits else none

@[simp] theorem render_nil : render [] = [] := rfl

theorem render_cons (b : UInt8) (rest : List UInt8) :
    render (b :: rest) = digit (highHalf b) :: digit (lowHalf b) :: render rest := rfl

theorem render_append (a b : List UInt8) : render (a ++ b) = render a ++ render b :=
  List.flatMap_append ..

theorem length_render (bytes : List UInt8) : (render bytes).length = 2 * bytes.length := by
  induction bytes with
  | nil => rfl
  | cons b rest ih => simp only [render_cons, List.length_cons, ih]; omega

end HidLink.Hex
