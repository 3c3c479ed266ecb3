/-
Words in memory, and the big-endian form they have on the wire.

A machine lays the bytes of a word out least or most significant first, and copying
a word to the wire copies that layout.  So a word is first brought into big-endian
order, which on a little-endian machine reverses its bytes and on a big-endian one
leaves it alone, and then stored as the machine stores any word.  Both machines end
up writing the same bytes, the most significant first.
-/

namespace HidLink

/-- A word of `n` bytes. -/
abbrev Word (n : Nat) := BitVec (8 * n)

/-- Which byte of a word a machine keeps first. -/
inductive ByteOrder where
  | little
  | big
  deriving DecidableEq, Repr

namespace ByteOrder

/-! ### Base 256 -/

/-- The first `n` digits of `v` in base 256, least significant first. -/
def digits : Nat → Nat → List UInt8
  | 0, _ => []
  | n + 1, v => UInt8.ofNat v :: digits n (v / 256)

/-- The number whose digits in base 256 these are, least significant first. -/
def value : List UInt8 → Nat
  | [] => 0
  | b :: rest => b.toNat + 256 * value rest

@[simp] theorem length_digits (n v : Nat) : (digits n v).length = n := by
  induction n generalizing v with
  | zero => rfl
  | succ n ih => simp [digits, ih]

/-! ### Storing and loading -/

/-- The bytes of a word as a machine of this order keeps them. -/
def store {n : Nat} : ByteOrder → Word n → Vector UInt8 n
  | little, v => ⟨(digits n v.toNat).toArray, by simp⟩
  | big, v => ⟨(digits n v.toNat).reverse.toArray, by simp⟩

/-- The word a machine of this order finds in these bytes. -/
def load {n : Nat} : ByteOrder → Vector UInt8 n → Word n
  | little, bytes => BitVec.ofNat _ (value bytes.toList)
  | big, bytes => BitVec.ofNat _ (value bytes.toList.reverse)

/-- The word with its bytes in the opposite order. -/
def swapBytes {n : Nat} (v : Word n) : Word n :=
  BitVec.ofNat _ (value (digits n v.toNat).reverse)

/-! ### Big-endian words -/

/-- The word that lies in the memory of this machine as `v` lies in big-endian order. -/
def toBigEndian {n : Nat} : ByteOrder → Word n → Word n
  | little, v => swapBytes v
  | big, v => v

/-- Undoes `toBigEndian`; swapping bytes twice changes nothing, so it is the same step. -/
def fromBigEndian {n : Nat} (host : ByteOrder) (v : Word n) : Word n :=
  toBigEndian host v

/-- Writes a word in big-endian order on a machine of either order. -/
def writeBigEndian {n : Nat} (host : ByteOrder) (v : Word n) : Vector UInt8 n :=
  store host (toBigEndian host v)

/-- Reads a word in big-endian order on a machine of either order. -/
def readBigEndian {n : Nat} (host : ByteOrder) (bytes : Vector UInt8 n) : Word n :=
  fromBigEndian host (load host bytes)

end ByteOrder

end HidLink
