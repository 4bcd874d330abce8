import EdgeGateway.Lib.ReflectedRemainder
import EdgeGateway.Proofs.Corruption

/-!
# The checksum as a remainder

What `crc16Modbus` computes with shifts is the remainder of a division of polynomials, and the two bytes behind
the data that take the checksum to zero are the checksum itself.
-/

namespace EdgeGateway
open Polynomial ShiftRegister

noncomputable def crcPolynomial : (ZMod 2)[X] :=
  X ^ 16 + X ^ 15 + X ^ 2 + 1

/-- The bits that are divided: those of the data in the order of transmission with 16 zeros behind them, and the
preset added to the first 16. -/
def crcDividend (data : List UInt8) : List Bool :=
  addFront (List.replicate 16 true) (wireBits data ++ List.replicate 16 false)

/-- The feedback word `0xA001` holds the coefficients below the degree, the lowest bit the highest of them. -/
lemma generator_crcFeedback : generator crcFeedback = crcPolynomial := by
  have hbits : crcFeedback = ofBits ([true] ++ List.replicate 12 false ++ [true, false, true]) := by decide
  rw [generator, hbits, reflected_ofBits _ rfl, message_append, message_append, message_replicate_false]
  simp only [message, List.length_cons, List.length_replicate, List.length_nil, bit_true, bit_false, C_0, C_1,
    crcPolynomial]
  ring

lemma ofBits_ones : ofBits (List.replicate 16 true) = 0xFFFF#16 := by
  decide

/-- The checksum is the remainder of its data, and of all pairs of bytes behind the data only the two of the
checksum give zero. -/
theorem crc16Modbus_is_remainder (data : List UInt8) :
    (crc16Modbus data).toBitVec = reflectedWord 16 (message (crcDividend data) %ₘ crcPolynomial) ∧
    ∀ lo hi, crc16Modbus (data ++ [lo, hi]) = 0 ↔
      lo = (crc16Modbus data).toUInt8 ∧ hi = (crc16Modbus data >>> 8).toUInt8 := by
  constructor
  · rw [crc16Modbus_toBitVec, ← ofBits_ones, feed_eq_remainder crcFeedback (by decide) _ _ (by simp),
      generator_crcFeedback]
    rfl
  · intro lo hi
    have hword : crc16Modbus (data ++ [lo, hi]) = 0 ↔
        (crc16Modbus data).toBitVec = ofBits (wireBits [lo, hi]) := by
      rw [← UInt16.toBitVec_inj, crc16Modbus_toBitVec, wireBits_append, feed_append, ← crc16Modbus_toBitVec]
      exact feed_eq_zero_iff _ crcFeedback_top _ _ (by simp)
    have hbytes : [lo, hi] = crcBytes (crc16Modbus data) ↔
        lo = (crc16Modbus data).toUInt8 ∧ hi = (crc16Modbus data >>> 8).toUInt8 := by
      rw [crcBytes, List.cons.injEq, List.cons.injEq, and_iff_left rfl]
    rw [hword, ← hbytes]
    constructor
    · intro heq
      rw [← crcBytes_word lo hi, ofBits_crcBytes, UInt16.toBitVec_inj] at heq
      rw [heq, crcBytes_word]
    · intro heq
      rw [heq, ofBits_crcBytes]

/-- The data of the frame in `protocol.md` that ends in `4D 58`. -/
example : crc16Modbus [0x0B, 0x01, 0x10, 0x00, 0xFD, 0x02, 0x60, 0x01, 0x2C, 0x0E, 0x74, 0x00, 0x00, 0x01] =
    0x584D := by
  decide +kernel

end EdgeGateway
