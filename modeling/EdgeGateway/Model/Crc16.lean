import Mathlib.Logic.Function.Iterate
import Mathlib.Tactic

/-!
# CRC16-Modbus

The checksum of `protocol/crc16.cpp`, shared by the UART frames and the Modbus RTU frames.
-/

namespace EdgeGateway

/-- One pass of the inner loop over the bits. -/
def crcShift (crc : UInt16) : UInt16 :=
  if crc &&& 0x0001 ≠ 0 then (crc >>> 1) ^^^ 0xA001 else crc >>> 1

/-- One pass of the outer loop: a byte is added to the low half and shifted through. -/
def crcByte (crc : UInt16) (byte : UInt8) : UInt16 :=
  crcShift^[8] (crc ^^^ byte.toUInt16)

def crc16Modbus (data : List UInt8) : UInt16 :=
  data.foldl crcByte 0xFFFF

/-- The two bytes of a checksum as they are sent, low byte first. -/
def crcBytes (crc : UInt16) : List UInt8 :=
  [crc.toUInt8, (crc >>> 8).toUInt8]

lemma crcBytes_word (lo hi : UInt8) :
    crcBytes (lo.toUInt16 ||| hi.toUInt16 <<< 8) = [lo, hi] := by
  have hlow : (lo.toUInt16 ||| hi.toUInt16 <<< 8).toUInt8 = lo := by
    apply UInt8.toBitVec_inj.mp
    apply BitVec.eq_of_getLsbD_eq
    intro i h
    simp
  have hhigh : ((lo.toUInt16 ||| hi.toUInt16 <<< 8) >>> 8).toUInt8 = hi := by
    apply UInt8.toBitVec_inj.mp
    apply BitVec.eq_of_getLsbD_eq
    intro i h
    have h8 : 8 + i < 16 := by omega
    have h16 : i < 16 := by omega
    simp [h, h8, h16]
  simp only [crcBytes, hlow, hhigh]

lemma word_crcBytes (crc : UInt16) :
    crc.toUInt8.toUInt16 ||| (crc >>> 8).toUInt8.toUInt16 <<< 8 = crc := by
  apply UInt16.toNat_inj.mp
  have h : crc.toNat < 65536 := crc.toNat_lt
  have hlow : crc.toNat % 2 ^ 8 < 2 ^ 8 := Nat.mod_lt _ (by decide)
  have h8 : UInt16.toNat 8 % 16 = 8 := rfl
  simp only [UInt16.toNat_or, UInt8.toNat_toUInt16, UInt16.toNat_toUInt8, UInt16.toNat_shiftLeft,
    UInt16.toNat_shiftRight, h8]
  have hhigh : (crc.toNat >>> 8 % 2 ^ 8) <<< 8 % 2 ^ 16 = (crc.toNat / 256) <<< 8 := by
    simp only [Nat.shiftRight_eq_div_pow, Nat.shiftLeft_eq]
    omega
  rw [hhigh, Nat.or_comm, ← Nat.shiftLeft_add_eq_or_of_lt hlow, Nat.shiftLeft_eq]
  omega

end EdgeGateway
