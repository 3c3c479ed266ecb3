/-
The language of command lines.

There are three kinds of command lines that ask for something, and what each of them asks
for can be told from the texts alone: the mode, so many arguments behind it, and what
each of those spells.  Reading the arguments finds exactly that.  The order in which they
are looked at has no part in it, since it only settles which complaint is made when
something is wrong; nor have the words that numbers are kept in, since a text that denotes
a number too large for its word asks for nothing.
-/
import HidLink.Dump
import HidLink.Proofs.Decimal
import HidLink.Proofs.Hex

namespace HidLink.Dump

/-! ### What each argument spells -/

theorem channelId?_eq_some_iff {t : Text} {cid : ChannelId} :
    channelId? t = some cid ↔ Hex.Spells t cid.toList := by
  rw [← Hex.parse?_eq_some_iff]
  unfold channelId?
  constructor
  · intro h
    split at h
    · cases h
    · rename_i bytes hbytes
      split at h
      · cases h
        exact hbytes
      · cases h
  · intro h
    rw [h]
    show (if hlength : cid.toList.length = 4 then _ else none) = _
    rw [dif_pos Vector.length_toList]
    rfl

theorem oneByte?_eq_some_iff {t : Text} {b : UInt8} :
    oneByte? t = some b ↔ Hex.Spells t [b] := by
  rw [← Hex.parse?_eq_some_iff]
  unfold oneByte?
  constructor
  · intro h
    split at h
    · rename_i c hc
      cases h
      exact hc
    · cases h
  · intro h
    rw [h]

theorem payload?_eq_some_iff {rest : List Text} {bytes : List UInt8} :
    payload? rest = some bytes ↔ Hex.Spells (rest.head?.getD []) bytes :=
  Hex.parse?_eq_some_iff

/-- A number that is read as a length fits the word it is kept in. -/
theorem denotes_toUInt16 {t : Text} {n : UInt64} (h : Decimal.parse? t 0xFFFF = some n) :
    Decimal.Denotes t.upToZero n.toUInt16.toNat := by
  obtain ⟨hdenotes, hle⟩ := Decimal.parse?_eq_some_iff.1 h
  have hlt : n.toNat < 2 ^ 16 := Nat.lt_succ_of_le (UInt64.le_iff_toNat_le.1 hle)
  rw [UInt64.toNat_toUInt16, Nat.mod_eq_of_lt hlt]
  exact hdenotes

theorem denotes_toUInt8 {t : Text} {n : UInt64} (h : Decimal.parse? t 0xFF = some n) :
    Decimal.Denotes t.upToZero n.toUInt8.toNat := by
  obtain ⟨hdenotes, hle⟩ := Decimal.parse?_eq_some_iff.1 h
  have hlt : n.toNat < 2 ^ 8 := Nat.lt_succ_of_le (UInt64.le_iff_toNat_le.1 hle)
  rw [UInt64.toNat_toUInt8, Nat.mod_eq_of_lt hlt]
  exact hdenotes

theorem parse?_of_denotes_size {t : Text} {n : UInt16} (h : Decimal.Denotes t.upToZero n.toNat) :
    Decimal.parse? t 0xFFFF = some n.toUInt64 := by
  refine Decimal.parse?_eq_some_iff.2 ⟨h, UInt64.le_iff_toNat_le.2 ?_⟩
  exact Nat.le_of_lt_succ n.toNat_lt

theorem parse?_of_denotes_sequence {t : Text} {n : UInt8}
    (h : Decimal.Denotes t.upToZero n.toNat) : Decimal.parse? t 0xFF = some n.toUInt64 := by
  refine Decimal.parse?_eq_some_iff.2 ⟨h, UInt64.le_iff_toNat_le.2 ?_⟩
  exact Nat.le_of_lt_succ n.toNat_lt

/-! ### What the arguments ask for -/

/--
The arguments ask for this job.  An argument that may be left out counts as empty then,
and any that stand behind those named here are ignored.
-/
inductive Asks : List Text → Job → Prop where
  | decode {frame : Text} {rest : List Text} {bytes : List UInt8}
      (hframe : Hex.Spells frame bytes) :
      Asks (ascii "decode" :: frame :: rest) (.decode bytes)
  | init {channel command size : Text} {rest : List Text} {cid : ChannelId} {code : UInt8}
      {n : UInt16} {payload : List UInt8} (hchannel : Hex.Spells channel cid.toList)
      (hcommand : Hex.Spells command [code]) (hsize : Decimal.Denotes size.upToZero n.toNat)
      (hpayload : Hex.Spells (rest.head?.getD []) payload) :
      Asks (ascii "init" :: channel :: command :: size :: rest) (.buildInit cid code n payload)
  | cont {channel sequence : Text} {rest : List Text} {cid : ChannelId} {n : UInt8}
      {payload : List UInt8} (hchannel : Hex.Spells channel cid.toList)
      (hsequence : Decimal.Denotes sequence.upToZero n.toNat)
      (hpayload : Hex.Spells (rest.head?.getD []) payload) :
      Asks (ascii "cont" :: channel :: sequence :: rest) (.buildCont cid n payload)

theorem asks_of_readInit {channel : Text} {cid : ChannelId}
    (hchannel : Hex.Spells channel cid.toList) {rest : List Text} {job : Job}
    (h : readInit cid rest = .ok job) : Asks (ascii "init" :: channel :: rest) job := by
  unfold readInit at h
  split at h
  · split at h
    · cases h
    · rename_i code hcode
      split at h
      · cases h
      · rename_i payload hpayload
        split at h
        · cases h
        · rename_i n hn
          cases h
          exact .init hchannel (oneByte?_eq_some_iff.1 hcode) (denotes_toUInt16 hn)
            (payload?_eq_some_iff.1 hpayload)
  · cases h

theorem asks_of_readCont {channel : Text} {cid : ChannelId}
    (hchannel : Hex.Spells channel cid.toList) {rest : List Text} {job : Job}
    (h : readCont cid rest = .ok job) : Asks (ascii "cont" :: channel :: rest) job := by
  unfold readCont at h
  split at h
  · split at h
    · cases h
    · rename_i payload hpayload
      split at h
      · cases h
      · rename_i n hn
        cases h
        exact .cont hchannel (denotes_toUInt8 hn) (payload?_eq_some_iff.1 hpayload)
  · cases h

theorem asks_of_readArguments {arguments : List Text} {job : Job}
    (h : readArguments arguments = .ok job) : Asks arguments job := by
  unfold readArguments at h
  split at h
  · rename_i mode subject rest
    by_cases hdecode : mode = ascii "decode"
    · rw [if_pos hdecode] at h
      split at h
      · cases h
      · rename_i bytes hbytes
        cases h
        rw [hdecode]
        exact .decode (Hex.parse?_eq_some_iff.1 hbytes)
    · rw [if_neg hdecode] at h
      split at h
      · cases h
      · rename_i cid hcid
        have hchannel := channelId?_eq_some_iff.1 hcid
        by_cases hinit : mode = ascii "init"
        · rw [if_pos hinit] at h
          rw [hinit]
          exact asks_of_readInit hchannel h
        · rw [if_neg hinit] at h
          by_cases hcont : mode = ascii "cont"
          · rw [if_pos hcont] at h
            rw [hcont]
            exact asks_of_readCont hchannel h
          · rw [if_neg hcont] at h
            cases h
  · cases h

/-- **Arguments are understood exactly when they ask for something, and as what they ask for.** -/
theorem readArguments_eq_ok_iff {arguments : List Text} {job : Job} :
    readArguments arguments = .ok job ↔ Asks arguments job := by
  refine ⟨asks_of_readArguments, ?_⟩
  intro h
  cases h with
  | decode hframe =>
      rw [readArguments, if_pos rfl, Hex.parse?_eq_some_iff.2 hframe]
  | init hchannel hcommand hsize hpayload =>
      rw [readArguments, if_neg (by decide), channelId?_eq_some_iff.2 hchannel]
      show (if _ then readInit _ _ else _) = _
      rw [if_pos rfl, readInit, oneByte?_eq_some_iff.2 hcommand, payload?_eq_some_iff.2 hpayload,
        parse?_of_denotes_size hsize]
      exact congrArg (fun n => Except.ok (Job.buildInit _ _ n _)) (UInt16.toUInt16_toUInt64 _)
  | cont hchannel hsequence hpayload =>
      rw [readArguments, if_neg (by decide), channelId?_eq_some_iff.2 hchannel]
      show (if _ then _ else if _ then readCont _ _ else _) = _
      rw [if_neg (by decide), if_pos rfl, readCont, payload?_eq_some_iff.2 hpayload,
        parse?_of_denotes_sequence hsequence]
      exact congrArg (fun n => Except.ok (Job.buildCont _ n _)) (UInt8.toUInt8_toUInt64 _)

/-- Arguments ask for one job at most. -/
theorem Asks.unique {arguments : List Text} {job job' : Job} (h : Asks arguments job)
    (h' : Asks arguments job') : job = job' :=
  Except.ok.inj ((readArguments_eq_ok_iff.2 h).symm.trans (readArguments_eq_ok_iff.2 h'))

end HidLink.Dump
