import EdgeGateway.Lib.ShiftRegister
import EdgeGateway.Model.ModbusRtu
import EdgeGateway.Proofs.FrameScan
import Mathlib.Data.List.GetD

/-!
# Corrupted frames

`crc16Modbus` reads the bits of its input, the lowest of each byte first, into a shift register
preset to ones. A list of bytes followed by its checksum, low byte first, leaves the register zero.
So two accepted frames of one length differ by a pattern that leaves a zero register zero, and the
short bursts, the odd patterns and the pairs of errors do not.
-/

namespace EdgeGateway
open ShiftRegister

/-- The feedback word of the checksum. -/
def crcFeedback : BitVec 16 := 0xA001#16

/-- The bits of a byte in the order of transmission. -/
def byteBits (byte : UInt8) : List Bool :=
  (List.range 8).map (fun i => byte.toBitVec.getLsbD i)

def wireBits (data : List UInt8) : List Bool :=
  data.flatMap byteBits

@[simp] lemma length_byteBits (byte : UInt8) : (byteBits byte).length = 8 := by
  simp [byteBits]

@[simp] lemma length_wireBits (data : List UInt8) : (wireBits data).length = 8 * data.length := by
  induction data with
  | nil => rfl
  | cons byte data ih =>
    rw [wireBits, List.flatMap_cons, List.length_append, length_byteBits, List.length_cons]
    rw [wireBits] at ih
    omega

@[simp] lemma wireBits_append (x y : List UInt8) : wireBits (x ++ y) = wireBits x ++ wireBits y := by
  simp [wireBits]

lemma getD_byteBits (byte : UInt8) (i : Nat) : (byteBits byte).getD i false = byte.toBitVec.getLsbD i := by
  unfold byteBits
  rw [List.getD_eq_getElem?_getD, List.getElem?_map]
  by_cases h : i < 8
  · simp [h]
  · rw [List.getElem?_eq_none (by simpa using h), BitVec.getLsbD_of_ge _ _ (by omega)]
    rfl

lemma crcShift_toBitVec (crc : UInt16) : (crcShift crc).toBitVec = shift crcFeedback crc.toBitVec := by
  have hlow : (crc &&& 0x0001 ≠ 0) ↔ crc.toBitVec.getLsbD 0 = true := by
    have hbit : (crc &&& 0x0001).toBitVec = (BitVec.ofBool (crc.toBitVec.getLsbD 0)).setWidth 16 := by
      rw [UInt16.toBitVec_and]
      exact BitVec.and_one_eq_setWidth_ofBool_getLsbD
    rw [ne_eq, ← UInt16.toBitVec_inj, hbit]
    cases crc.toBitVec.getLsbD 0 <;> decide
  unfold crcShift shift
  by_cases h : crc.toBitVec.getLsbD 0 = true
  · rw [if_pos (hlow.mpr h), if_pos h]
    simp [crcFeedback]
  · rw [if_neg (fun hc => h (hlow.mp hc)), if_neg h]
    simp

lemma iterate_crcShift_toBitVec (n : Nat) (crc : UInt16) :
    (crcShift^[n] crc).toBitVec = (shift crcFeedback)^[n] crc.toBitVec := by
  induction n generalizing crc with
  | zero => rfl
  | succ n ih => rw [Function.iterate_succ_apply, ih, crcShift_toBitVec, ← Function.iterate_succ_apply]

lemma ofBits_byteBits (byte : UInt8) : (ofBits (byteBits byte) : BitVec 16) = byte.toUInt16.toBitVec := by
  apply BitVec.eq_of_getLsbD_eq
  intro i hi
  rw [getLsbD_ofBits _ hi, getD_byteBits, UInt8.toBitVec_toUInt16, BitVec.getLsbD_setWidth]
  simp [hi]

lemma crcByte_toBitVec (crc : UInt16) (byte : UInt8) :
    (crcByte crc byte).toBitVec = feed crcFeedback crc.toBitVec (byteBits byte) := by
  rw [feed_eq_iterate _ _ _ (by simp), length_byteBits, ofBits_byteBits, crcByte,
    iterate_crcShift_toBitVec, UInt16.toBitVec_xor]

lemma foldl_crcByte_toBitVec (crc : UInt16) (data : List UInt8) :
    (data.foldl crcByte crc).toBitVec = feed crcFeedback crc.toBitVec (wireBits data) := by
  induction data generalizing crc with
  | nil => rfl
  | cons byte data ih =>
    rw [List.foldl_cons, ih, crcByte_toBitVec, wireBits, wireBits, List.flatMap_cons, feed_append]

/-- The checksum is the register that the bits leave. -/
theorem crc16Modbus_toBitVec (data : List UInt8) :
    (crc16Modbus data).toBitVec = feed crcFeedback 0xFFFF#16 (wireBits data) :=
  foldl_crcByte_toBitVec 0xFFFF data

lemma ofBits_crcBytes (crc : UInt16) : ofBits (wireBits (crcBytes crc)) = crc.toBitVec := by
  apply BitVec.eq_of_getLsbD_eq
  intro i hi
  rw [getLsbD_ofBits _ hi]
  simp only [crcBytes, wireBits, List.flatMap_cons, List.flatMap_nil, List.append_nil]
  by_cases hlow : i < 8
  · rw [List.getD_append _ _ _ _ (by simpa using hlow), getD_byteBits]
    simp [hlow]
  · rw [List.getD_append_right _ _ _ _ (by simp; omega), getD_byteBits, length_byteBits]
    have hhigh : i - 8 < 8 := by omega
    simp [hhigh, show 8 + (i - 8) = i by omega]

/-- The feedback word has its top bit set, so a bit that falls out can be read off the result. -/
lemma crcFeedback_top : crcFeedback.getLsbD (16 - 1) = true := by
  decide

/-- Data followed by its checksum leaves the register zero. -/
theorem feed_codeword (data : List UInt8) :
    feed crcFeedback 0xFFFF#16 (wireBits (data ++ crcBytes (crc16Modbus data))) = 0#16 := by
  rw [wireBits_append, feed_append, ← crc16Modbus_toBitVec,
    feed_eq_zero_iff _ crcFeedback_top _ _ (by simp [crcBytes]), ofBits_crcBytes]

/-! ### The guarantee -/

/-- The bits in which two byte lists differ, in the order of transmission. -/
def flippedBits (d d' : List UInt8) : List Bool :=
  List.zipWith xor (wireBits d) (wireBits d')

/-- The error patterns a checksum of 16 bits is meant for. -/
def Detectable (e : List Bool) : Prop :=
  (true ∈ e ∧ ∃ i, ∀ k, e[k]? = some true → i ≤ k ∧ k < i + 16) ∨ Odd (e.count true) ∨ e.count true = 2

/-- The register does not come back to one within 2080 shifts, the bits of the longest frame. -/
lemma iterate_shift_one_ne (k : Nat) (hk : 0 < k) (hlt : k < 2080) :
    (shift crcFeedback)^[k] 1#16 ≠ 1#16 := by
  have hrun : avoids crcFeedback 1#16 2080 (shift crcFeedback 1#16) = true := by decide +kernel
  obtain ⟨k, rfl⟩ := Nat.exists_eq_succ_of_ne_zero hk.ne'
  rw [Function.iterate_succ_apply]
  exact iterate_ne_of_avoids _ _ _ _ hrun k (by omega)

/-- A detectable pattern within the longest frame does not leave a zero register zero. -/
theorem feed_detectable_ne_zero (e : List Bool) (hlen : e.length ≤ 2080) (h : Detectable e) :
    feed crcFeedback 0#16 e ≠ 0#16 := by
  obtain ⟨hne, i, hin⟩ | hodd | htwo := h
  · exact feed_burst_ne_zero crcFeedback crcFeedback_top e i hne hin
  · exact feed_odd_ne_zero crcFeedback (by decide) (by decide) e hodd
  · exact feed_two_ne_zero crcFeedback crcFeedback_top e htwo
      (fun k hk hlt => iterate_shift_one_ne k hk (by omega))

/-- Two frames of one length whose data are both followed by their checksums. -/
lemma not_detectable_of_codewords (x x' : List UInt8) (hlen : x.length = x'.length)
    (hle : x.length ≤ 258) :
    ¬Detectable (flippedBits (x ++ crcBytes (crc16Modbus x)) (x' ++ crcBytes (crc16Modbus x'))) := by
  intro h
  apply feed_detectable_ne_zero _ _ h
  · exact feed_difference _ _ _ _ (by simp [crcBytes, hlen]) (by rw [feed_codeword, feed_codeword])
  · simp only [flippedBits, List.length_zipWith, length_wireBits, List.length_append, crcBytes,
      List.length_cons, List.length_nil]
    omega

/-- Bytes in front that two lists share add no flipped bits. -/
lemma flippedBits_append (p x x' : List UInt8) :
    flippedBits (p ++ x) (p ++ x') = List.replicate (8 * p.length) false ++ flippedBits x x' := by
  have hself : ∀ bits : List Bool, List.zipWith xor bits bits = List.replicate bits.length false := by
    intro bits
    rw [List.zipWith_self]
    simp
  unfold flippedBits
  rw [wireBits_append, wireBits_append, List.zipWith_append rfl, hself, length_wireBits]

lemma detectable_of_replicate_append (n : Nat) (e : List Bool)
    (h : Detectable (List.replicate n false ++ e)) : Detectable e := by
  have hcount : (List.replicate n false ++ e).count true = e.count true := by
    rw [List.count_append, List.count_replicate]
    simp
  unfold Detectable at h
  rw [hcount] at h
  refine h.imp_left ?_
  rintro ⟨hne, i, hin⟩
  refine ⟨by simpa using hne, i - n, fun k hk => ?_⟩
  have hshift := hin (n + k) (by rw [List.getElem?_append_right (by simp)]; simpa using hk)
  omega

/-- An accepted frame that is hit by a short burst, an odd number of errors or two errors is not
accepted as any frame, and a Modbus response so hit is a checksum error whatever was asked. -/
theorem corruption_detected :
    (∀ (d d' : List UInt8) (fr : Frame), parseCompleteFrame d = some fr → d'.length = d.length →
      Detectable (flippedBits d d') → parseCompleteFrame d' = none) ∧
    (∀ (d d' : List UInt8) (request : Modbus.ReadRequest), 5 ≤ d.length → d.length ≤ 260 →
      Modbus.hasValidCrc d = true → d'.length = d.length → Detectable (flippedBits d d') →
      (Modbus.parseReadResponse d' request).status = .crcError) := by
  constructor
  · intro d d' fr hd hlen hdet
    rw [Option.eq_none_iff_forall_ne_some]
    intro fr' hd'
    obtain ⟨f, rfl, -⟩ := (parseCompleteFrame_eq_some_iff d fr).mp hd
    obtain ⟨f', rfl, -⟩ := (parseCompleteFrame_eq_some_iff d' fr').mp hd'
    have hshape : ∀ g : WireFrame, g.encode = [0xAA, 0x55] ++ (g.body ++ crcBytes (crc16Modbus g.body)) :=
      fun _ => rfl
    rw [hshape f, hshape f', flippedBits_append] at hdet
    have hle := f.payload_le
    rw [WireFrame.length_encode, WireFrame.length_encode] at hlen
    refine not_detectable_of_codewords _ _ ?_ ?_ (detectable_of_replicate_append _ _ hdet)
    · simp only [WireFrame.body, List.length_cons]
      omega
    · simp only [WireFrame.body, List.length_cons]
      omega
  · intro d d' request hmin hmax hd hlen hdet
    have hbad : Modbus.hasValidCrc d' = false := by
      rw [← Bool.not_eq_true, Modbus.hasValidCrc_iff]
      rintro ⟨-, x', rfl⟩
      obtain ⟨-, x, rfl⟩ := (Modbus.hasValidCrc_iff d).mp hd
      simp only [List.length_append, crcBytes, List.length_cons, List.length_nil] at hlen hmax
      exact not_detectable_of_codewords x x' (by omega) (by omega) hdet
    rw [Modbus.parseReadResponse, dif_neg (by omega), hbad]
    rfl

/-- One flipped payload bit of a frame, and one of a Modbus response. -/
theorem corruption_detected_single_bit :
    parseCompleteFrame [0xAA, 0x55, 0x00, 0x01, 0x11, 0x71, 0x9C] = none ∧
      ∀ request, (Modbus.parseReadResponse [0x01, 0x83, 0x02, 0xC0, 0xF0] request).status = .crcError :=
  ⟨corruption_detected.1 [0xAA, 0x55, 0x00, 0x01, 0x10, 0x71, 0x9C] _ ⟨0x01, 0x10, [], 0x9C71⟩
    (by decide +kernel) rfl (Or.inr (Or.inl (by decide +kernel))),
  fun request => corruption_detected.2 [0x01, 0x83, 0x02, 0xC0, 0xF1] _ request
    (by decide) (by decide) (by decide +kernel) rfl (Or.inr (Or.inl (by decide +kernel)))⟩

end EdgeGateway
