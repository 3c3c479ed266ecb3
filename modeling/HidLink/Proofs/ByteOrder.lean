/-
Storing a word and loading it again.

A word of `n` bytes has as many values as there are strings of `n` bytes, and the
digits in base 256 match them one to one.  So storing and loading undo each other in
both directions, whichever end of the word a machine keeps first, as long as the same
machine does both.  Bringing a word into big-endian order in between makes the machine
irrelevant: what is written, and what is read, is the same on either.
-/
import Mathlib.Data.UInt
import HidLink.ByteOrder

namespace HidLink.ByteOrder

/-! ### Digits and their value -/

theorem value_lt (bytes : List UInt8) : value bytes < 256 ^ bytes.length := by
  induction bytes with
  | nil => simp [value]
  | cons b rest ih =>
      have hb := b.toNat_lt
      rw [value, List.length_cons, pow_succ]
      omega

theorem digits_value (bytes : List UInt8) : digits bytes.length (value bytes) = bytes := by
  induction bytes with
  | nil => rfl
  | cons b rest ih =>
      have hb := b.toNat_lt
      have hdiv : (b.toNat + 256 * value rest) / 256 = value rest := by omega
      have hmod : UInt8.ofNat (b.toNat + 256 * value rest) = b := by
        rw [← UInt8.toNat_inj, UInt8.toNat_ofNat']
        omega
      rw [value, List.length_cons, digits, hdiv, hmod, ih]

theorem value_digits (n v : Nat) : value (digits n v) = v % 256 ^ n := by
  induction n generalizing v with
  | zero => rw [pow_zero, Nat.mod_one]; rfl
  | succ n ih =>
      have hbyte : (UInt8.ofNat v).toNat = v % 256 := UInt8.toNat_ofNat'
      rw [digits, value, ih, hbyte, pow_succ, Nat.mul_comm (256 ^ n) 256, Nat.mod_mul]

theorem pow_bits (n : Nat) : 2 ^ (8 * n) = 256 ^ n := by
  rw [pow_mul]
  rfl

theorem digits_ofNat_value {n : Nat} {bytes : List UInt8} (h : bytes.length = n) :
    digits n (BitVec.ofNat (8 * n) (value bytes)).toNat = bytes := by
  have hlt : value bytes < 2 ^ (8 * n) := by
    rw [pow_bits, ← h]
    exact value_lt bytes
  rw [BitVec.toNat_ofNat, Nat.mod_eq_of_lt hlt, ← h, digits_value]

/-! ### Storing and loading undo each other -/

theorem load_store {n : Nat} (host : ByteOrder) (v : Word n) : load host (store host v) = v := by
  have hlt : v.toNat < 256 ^ n := by
    rw [← pow_bits]
    exact v.isLt
  have hvalue : value (digits n v.toNat) = v.toNat := by
    rw [value_digits, Nat.mod_eq_of_lt hlt]
  rcases host with _ | _
  · show BitVec.ofNat _ (value (digits n v.toNat)) = v
    rw [hvalue, BitVec.ofNat_toNat, BitVec.setWidth_eq]
  · show BitVec.ofNat _ (value (digits n v.toNat).reverse.reverse) = v
    rw [List.reverse_reverse, hvalue, BitVec.ofNat_toNat, BitVec.setWidth_eq]

/-- Bytes that were loaded as a word are what the word is stored as. -/
theorem store_load {n : Nat} (host : ByteOrder) (bytes : Vector UInt8 n) :
    store host (load host bytes) = bytes := by
  apply Vector.toList_inj.1
  rcases host with _ | _
  · exact digits_ofNat_value (by simp)
  · show (digits n (BitVec.ofNat _ (value bytes.toList.reverse)).toNat).reverse = bytes.toList
    rw [digits_ofNat_value (by simp), List.reverse_reverse]

/-! ### Big-endian words are the same on every machine -/

/-- Writing comes out the same on both machines: the most significant byte first. -/
theorem writeBigEndian_eq {n : Nat} (host : ByteOrder) (v : Word n) :
    writeBigEndian host v = store big v := by
  rcases host with _ | _
  · apply Vector.toList_inj.1
    exact digits_ofNat_value (by rw [List.length_reverse, length_digits])
  · rfl

theorem readBigEndian_eq {n : Nat} (host : ByteOrder) (bytes : Vector UInt8 n) :
    readBigEndian host bytes = load big bytes := by
  rcases host with _ | _
  · show BitVec.ofNat _ (value (digits n (BitVec.ofNat _ (value bytes.toList)).toNat).reverse)
      = load big bytes
    rw [digits_ofNat_value (by simp)]
    rfl
  · rfl

end HidLink.ByteOrder
