/-
What a big-endian word is, worked out.

That writing and reading undo each other says little about the bytes in between: a pair that
agreed on any other order would pass as well.  Here the bytes are told from the number and
the number from the bytes, by where they stand.  The byte in front counts most, and each
further one counts 256 times less.

The machine drops out of both.  A little-endian one swaps the bytes of a word and then lays
them out the wrong way round, a big-endian one does neither, and the two come to the same.
-/
import Mathlib.Algebra.BigOperators.Fin
import HidLink.Packet.Init
import HidLink.Proofs.ByteOrder

namespace HidLink.ByteOrder

/-! ### Bytes by their place -/

/-- A digit is what is left of the number once it is divided down to its place. -/
theorem getElem?_digits {n : Nat} : ∀ {v i : Nat}, i < n →
    (digits n v)[i]? = some (UInt8.ofNat (v / 256 ^ i)) := by
  induction n with
  | zero =>
      intro v i hi
      exact absurd hi (Nat.not_lt_zero i)
  | succ n ih =>
      intro v i hi
      cases i with
      | zero => rw [digits, List.getElem?_cons_zero, pow_zero, Nat.div_one]
      | succ i =>
          rw [digits, List.getElem?_cons_succ, ih (Nat.lt_of_succ_lt_succ hi),
            Nat.div_div_eq_div_mul, pow_succ']

theorem getElem_store_big {n : Nat} (v : Word n) (i : Fin n) :
    (store big v)[i] = UInt8.ofNat (v.toNat / 256 ^ (n - 1 - i)) := by
  have hplace : n - 1 - i.val < n := by omega
  have hbyte : (store big v).toList[i.val]? = some (UInt8.ofNat (v.toNat / 256 ^ (n - 1 - i))) := by
    show (digits n v.toNat).reverse[i.val]? = _
    rw [List.getElem?_reverse (by rw [length_digits]; exact i.isLt), length_digits,
      getElem?_digits hplace]
  rw [Vector.getElem?_toList, Vector.getElem?_eq_getElem i.isLt] at hbyte
  exact Option.some.inj hbyte

/-! ### The number by its bytes -/

theorem value_ofFn {n : Nat} (byte : Fin n → UInt8) :
    value (List.ofFn byte) = ∑ i, (byte i).toNat * 256 ^ i.val := by
  induction n with
  | zero => rfl
  | succ n ih =>
      have hrest : 256 * value (List.ofFn fun i : Fin n => byte i.succ) =
          ∑ i : Fin n, (byte i.succ).toNat * 256 ^ i.succ.val := by
        rw [ih, Finset.mul_sum]
        refine Finset.sum_congr rfl fun i _ => ?_
        rw [Fin.val_succ, pow_succ']
        exact Nat.mul_left_comm ..
      rw [List.ofFn_succ, value, hrest, Fin.sum_univ_succ, Fin.val_zero, pow_zero, Nat.mul_one]

/-- The last byte has the lowest place, so the bytes are counted from behind. -/
theorem toList_reverse {n : Nat} (bytes : Vector UInt8 n) :
    bytes.toList.reverse = List.ofFn fun i : Fin n => bytes[i.rev] := by
  refine List.ext_getElem (by simp) fun i hi hi' => ?_
  rw [List.getElem_reverse, List.getElem_ofFn, Vector.getElem_toList]
  simp only [Vector.length_toList, Fin.getElem_fin, Fin.val_rev, Nat.sub_sub, Nat.add_comm 1]

theorem toNat_load_big {n : Nat} (bytes : Vector UInt8 n) :
    (load big bytes).toNat = ∑ i : Fin n, bytes[i].toNat * 256 ^ (n - 1 - i) := by
  have hlt : value bytes.toList.reverse < 2 ^ (8 * n) := by
    have hbound := value_lt bytes.toList.reverse
    rwa [List.length_reverse, Vector.length_toList, ← pow_bits] at hbound
  calc (load big bytes).toNat
      = value bytes.toList.reverse := Nat.mod_eq_of_lt hlt
    _ = ∑ i : Fin n, bytes[i.rev].toNat * 256 ^ i.val := by rw [toList_reverse, value_ofFn]
    _ = ∑ i : Fin n, bytes[i].toNat * 256 ^ i.rev.val := by
        rw [← Equiv.sum_comp Fin.revPerm]
        simp only [Fin.revPerm_apply, Fin.rev_rev]
    _ = ∑ i : Fin n, bytes[i].toNat * 256 ^ (n - 1 - i) := by
        refine Finset.sum_congr rfl fun i _ => ?_
        rw [Fin.val_rev, Nat.sub_sub, Nat.add_comm 1]

/-! ### Swapping bytes -/

theorem swapBytes_swapBytes {n : Nat} (v : Word n) : swapBytes (swapBytes v) = v := by
  rw [swapBytes, swapBytes, digits_ofNat_value (by rw [List.length_reverse, length_digits]),
    List.reverse_reverse]
  exact load_store little v

/-- A single byte has no order. -/
theorem swapBytes_byte (v : Word 1) : swapBytes v = v := load_store little v

theorem toBigEndian_toBigEndian {n : Nat} (host : ByteOrder) (v : Word n) :
    toBigEndian host (toBigEndian host v) = v := by
  cases host with
  | little => exact swapBytes_swapBytes v
  | big => rfl

theorem toBigEndian_byte (host : ByteOrder) (v : Word 1) : toBigEndian host v = v := by
  cases host with
  | little => exact swapBytes_byte v
  | big => rfl

/-! ### Big-endian words -/

/--
**A word is written with its most significant byte first and read accordingly, on any machine.**

So what one machine has written any other reads back, and no bytes are lost on being read.
Bringing a word into big-endian order and back again is undone either way round, and does
nothing to a single byte.  The length field of an init packet is a word of two bytes that is
written and read like this.
-/
theorem big_endian_on_every_machine :
    (∀ (n : Nat) (host : ByteOrder) (v : Word n) (i : Fin n),
      (writeBigEndian host v)[i].toNat = v.toNat / 256 ^ (n - 1 - i) % 256) ∧
    (∀ (n : Nat) (v : Word n), writeBigEndian little v = writeBigEndian big v) ∧
    (∀ (n : Nat) (host : ByteOrder) (bytes : Vector UInt8 n),
      (readBigEndian host bytes).toNat = ∑ i : Fin n, bytes[i].toNat * 256 ^ (n - 1 - i)) ∧
    (∀ (n : Nat) (writer reader : ByteOrder) (v : Word n),
      readBigEndian reader (writeBigEndian writer v) = v) ∧
    (∀ (n : Nat) (writer reader : ByteOrder) (bytes : Vector UInt8 n),
      writeBigEndian writer (readBigEndian reader bytes) = bytes) ∧
    (∀ (n : Nat) (host : ByteOrder) (v : Word n),
      fromBigEndian host (toBigEndian host v) = v ∧
      toBigEndian host (fromBigEndian host v) = v) ∧
    (∀ (host : ByteOrder) (v : Word 1), toBigEndian host v = v) ∧
    (∀ (host : ByteOrder) (size : UInt16) (bytes : Vector UInt8 2),
      writeBigEndian host size.toBitVec = InitPacket.sizeBytes size ∧
      UInt16.ofBitVec (readBigEndian host bytes) = InitPacket.sizeOfBytes bytes) := by
  refine ⟨?_, ?_, ?_, ?_, ?_, ?_, toBigEndian_byte, ?_⟩
  · intro n host v i
    rw [writeBigEndian_eq, getElem_store_big, UInt8.toNat_ofNat']
  · intro n v
    exact writeBigEndian_eq little v
  · intro n host bytes
    rw [readBigEndian_eq, toNat_load_big]
  · intro n writer reader v
    rw [writeBigEndian_eq, readBigEndian_eq, load_store]
  · intro n writer reader bytes
    rw [writeBigEndian_eq, readBigEndian_eq, store_load]
  · intro n host v
    exact ⟨toBigEndian_toBigEndian host v, toBigEndian_toBigEndian host v⟩
  · intro host size bytes
    refine ⟨writeBigEndian_eq host _, ?_⟩
    rw [readBigEndian_eq, InitPacket.sizeOfBytes]

example : writeBigEndian little (0x12345678 : Word 4) = #v[0x12, 0x34, 0x56, 0x78] := by decide

end HidLink.ByteOrder
