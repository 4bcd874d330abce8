import EdgeGateway.Proofs.Readings

/-!
# The grammar of Modbus responses

`parse_read_response` accepts exactly the normal and the exception responses to its request. A second
version of it, in which every byte is fetched with a check, shows that it stays inside the frame.
-/

namespace EdgeGateway.Modbus

/-- What a slave answers to a request that it refuses. -/
def exceptionBody (slaveId : UInt8) (function : FunctionCode) (code : UInt8) : List UInt8 :=
  [slaveId, function.code ||| 0x80, code]

def exceptionFrame (slaveId : UInt8) (function : FunctionCode) (code : UInt8) : List UInt8 :=
  exceptionBody slaveId function code ++ crcBytes (crc16Modbus (exceptionBody slaveId function code))

/-! ### Accepted frames -/

lemma u16Be_word (high low : UInt8) : u16Be (high.toUInt16 <<< 8 ||| low.toUInt16) = [high, low] := by
  have hbytes := crcBytes_word low high
  rw [crcBytes, UInt16.or_comm, List.cons.injEq, List.cons.injEq] at hbytes
  rw [u16Be, hbytes.1, hbytes.2.1]

/-- Bytes in pairs are registers. -/
lemma exists_registers (n : Nat) (bytes : List UInt8) (h : bytes.length = n * 2) :
    ∃ registers : List UInt16, registers.length = n ∧ registers.flatMap u16Be = bytes := by
  induction n generalizing bytes with
  | zero => exact ⟨[], rfl, (List.length_eq_zero_iff.mp (by omega)).symm⟩
  | succ n ih =>
    match bytes with
    | [] => simp at h
    | [_] => simp at h; omega
    | high :: low :: rest =>
      obtain ⟨registers, hlength, hrest⟩ := ih rest (by simp at h; omega)
      refine ⟨(high.toUInt16 <<< 8 ||| low.toUInt16) :: registers, by rw [List.length_cons, hlength], ?_⟩
      rw [List.flatMap_cons, u16Be_word, hrest]
      rfl

section

variable {frame : List UInt8} {request : ReadRequest}

/-- A frame with a checksum of its own, byte by byte from the front. -/
lemma exists_body (hsize : ¬frame.length < 5) (hcrc : hasValidCrc frame = true) :
    ∃ first second third rest, frame = first :: second :: third :: rest ++
      crcBytes (crc16Modbus (first :: second :: third :: rest)) := by
  obtain ⟨-, data, heq⟩ := (hasValidCrc_iff frame).mp hcrc
  have hlength : frame.length = data.length + 2 := by
    rw [heq, List.length_append]
    rfl
  match data with
  | [] => simp at hlength; omega
  | [_] => simp at hlength; omega
  | [_, _] => simp at hlength; omega
  | first :: second :: third :: rest => exact ⟨first, second, third, rest, heq⟩

/-- Only the normal and the exception responses are accepted. -/
lemma accepted_shape {response : ReadResponse} (hparse : parseReadResponse frame request = response)
    (h : response.status = .ok ∨ response.status = .exceptionResponse) :
    (∃ registers, registers.length = request.registerCount.toNat ∧ 2 * request.registerCount.toNat ≤ 255 ∧
      frame = normalResponse request.slaveId request.function registers) ∨
    ∃ code, frame = exceptionFrame request.slaveId request.function code := by
  unfold parseReadResponse at hparse
  dsimp only at hparse
  split_ifs at hparse with hsize hcrc haddress hexception hfive hfunction hcount
  all_goals subst hparse
  all_goals simp only [reduceCtorEq, or_self, or_true] at h
  · -- an exception: five bytes, of which the last two are the checksum
    obtain ⟨first, second, third, rest, rfl⟩ := exists_body hsize (by simpa using hcrc)
    obtain rfl : first = request.slaveId := not_not.mp haddress
    obtain rfl : second = request.function.code ||| 0x80 := hexception
    obtain rfl : rest = [] := by
      simp [crcBytes] at hfive
      exact hfive
    exact .inr ⟨third, rfl⟩
  · -- a normal response: as many register bytes as were asked for
    obtain ⟨first, second, third, rest, rfl⟩ := exists_body hsize (by simpa using hcrc)
    obtain rfl : first = request.slaveId := not_not.mp haddress
    obtain rfl : second = request.function.code := not_not.mp hfunction
    obtain ⟨hbytes, hlength⟩ := not_or.mp hcount
    have hthird : third.toNat = request.registerCount.toNat * 2 := not_not.mp hbytes
    have hrest : rest.length = request.registerCount.toNat * 2 := by
      rw [not_not] at hlength
      simp [crcBytes] at hlength
      omega
    have hbyte := third.toNat_lt
    obtain ⟨registers, hasked, rfl⟩ := exists_registers _ rest hrest
    have hofNat : UInt8.ofNat (registers.length * 2) = third := by
      rw [hasked, ← hthird, UInt8.ofNat_toNat]
    refine .inl ⟨registers, hasked, by omega, ?_⟩
    rw [normalResponse, responseBody, hofNat]
    rfl

lemma parseReadResponse_exceptionFrame (request : ReadRequest) (code : UInt8) :
    parseReadResponse (exceptionFrame request.slaveId request.function code) request =
      { status := .exceptionResponse
        exceptionCode := code
        error := ascii "Modbus slave exception code=" ++ decimal code.toNat } := by
  have hcrc : hasValidCrc (exceptionFrame request.slaveId request.function code) = true :=
    (hasValidCrc_iff _).mpr ⟨by simp [exceptionFrame, exceptionBody, crcBytes], _, rfl⟩
  have hlength : (exceptionFrame request.slaveId request.function code).length = 5 := rfl
  have hfirst : (exceptionFrame request.slaveId request.function code)[0] = request.slaveId := rfl
  have hsecond : (exceptionFrame request.slaveId request.function code)[1] = request.function.code ||| 0x80 := rfl
  have hthird : (exceptionFrame request.slaveId request.function code)[2] = code := rfl
  unfold parseReadResponse
  rw [dif_neg (by omega), hcrc, Bool.not_true, if_neg Bool.false_ne_true]
  dsimp only
  rw [if_neg (not_not.mpr hfirst), if_pos hsecond, if_neg (not_not.mpr hlength), hthird]

/-- Nothing is left of the registers of a refused frame. -/
lemma registers_of_refused (h : (parseReadResponse frame request).status ≠ .ok) :
    (parseReadResponse frame request).registers = [] := by
  unfold parseReadResponse at h ⊢
  dsimp only at h ⊢
  split_ifs at h ⊢ <;> first | rfl | exact absurd rfl h

end

/-! ### Checked reads -/

namespace Checked

variable (frame : List UInt8)

/-- The loop of `crc16_modbus(data, length)`. As everywhere in this section, a byte is fetched with
`frame[i]?` and the result is `none` where the source would read past the end of the vector. -/
def crcLoop (length i : Nat) (crc : UInt16) : Option UInt16 :=
  if i < length then do
    let byte ← frame[i]?
    crcLoop length (i + 1) (crcByte crc byte)
  else
    some crc
termination_by length - i

def hasValidCrc : Option Bool :=
  if frame.length < 4 then
    some false
  else do
    let payloadSize := frame.length - 2
    let expected ← crcLoop frame payloadSize 0 0xFFFF
    let low ← frame[payloadSize]?
    let high ← frame[payloadSize + 1]?
    some (expected == low.toUInt16 ||| high.toUInt16 <<< 8)

def readU16Be (offset : Nat) : Option UInt16 := do
  let high ← frame[offset]?
  let low ← frame[offset + 1]?
  some (high.toUInt16 <<< 8 ||| low.toUInt16)

def readRegisters (offset last : Nat) : Option (List UInt16) :=
  if offset < last then do
    let register ← readU16Be frame offset
    let registers ← readRegisters (offset + 2) last
    some (register :: registers)
  else
    some []
termination_by last - offset

/-- The part of `parse_read_response` after the check of the function code. -/
def parseRegisters (request : ReadRequest) : Option ReadResponse := do
  let count ← frame[2]?
  let byteCount := count.toNat
  let expectedByteCount := request.registerCount.toNat * 2
  if byteCount ≠ expectedByteCount ∨ frame.length ≠ byteCount + 5 then
    some { status := .lengthError, error := ascii "Modbus register byte count is invalid" }
  else
    let registers ← readRegisters frame 3 (3 + byteCount)
    some { status := .ok, registers := registers }

/-- The part of `parse_read_response` for an exception. -/
def parseException : Option ReadResponse :=
  if frame.length ≠ 5 then
    some { status := .lengthError, error := ascii "Modbus exception response length is invalid" }
  else do
    let code ← frame[2]?
    some
      { status := .exceptionResponse
        exceptionCode := code
        error := ascii "Modbus slave exception code=" ++ decimal code.toNat }

/-- The part of `parse_read_response` after the check of the checksum. -/
def parseBody (request : ReadRequest) : Option ReadResponse := do
  let slaveId ← frame[0]?
  if slaveId ≠ request.slaveId then
    some { status := .addressMismatch, error := ascii "Modbus slave address mismatch" }
  else
    let function ← frame[1]?
    if function = request.function.code ||| 0x80 then
      parseException frame
    else if function ≠ request.function.code then
      some { status := .functionMismatch, error := ascii "Modbus function code mismatch" }
    else
      parseRegisters frame request

def parseReadResponse (request : ReadRequest) : Option ReadResponse :=
  if frame.length < 5 then
    some { error := ascii "Modbus response is too short" }
  else do
    let valid ← hasValidCrc frame
    if !valid then
      some { status := .crcError, error := ascii "Modbus response CRC mismatch" }
    else
      parseBody frame request

variable {frame}

lemma crcLoop_eq {length i : Nat} (hlength : length ≤ frame.length) (hi : i ≤ length) (crc : UInt16) :
    crcLoop frame length i crc = some (((frame.take length).drop i).foldl crcByte crc) := by
  induction hrest : length - i generalizing i crc with
  | zero =>
    have hdone : ¬i < length := by omega
    have hnil : (frame.take length).drop i = [] := List.drop_eq_nil_of_le (by rw [List.length_take]; omega)
    rw [crcLoop, if_neg hdone, hnil]
    rfl
  | succ n ih =>
    have hmore : i < length := by omega
    have hbyte : i < (frame.take length).length := by rw [List.length_take]; omega
    rw [crcLoop, if_pos hmore, List.drop_eq_getElem_cons hbyte, List.foldl_cons, List.getElem_take,
      List.getElem?_eq_getElem (by omega)]
    exact ih (by omega) _ (by omega)

lemma hasValidCrc_eq : hasValidCrc frame = some (Modbus.hasValidCrc frame) := by
  unfold hasValidCrc Modbus.hasValidCrc
  by_cases hsize : frame.length < 4
  · rw [if_pos hsize, dif_pos hsize]
  · have h0 : frame.length - 2 < frame.length := by omega
    have h1 : frame.length - 2 + 1 < frame.length := by omega
    rw [if_neg hsize, dif_neg hsize]
    dsimp only
    rw [crcLoop_eq (by omega) (by omega), List.getElem?_eq_getElem h0, List.getElem?_eq_getElem h1]
    rfl

lemma readU16Be_eq {offset : Nat} (h : offset + 1 < frame.length) :
    readU16Be frame offset = some (EdgeGateway.readU16Be frame offset h) := by
  unfold readU16Be
  rw [List.getElem?_eq_getElem (by omega), List.getElem?_eq_getElem h]
  rfl

lemma readRegisters_eq (offset last : Nat) (h : last + 1 < frame.length) :
    readRegisters frame offset last = some (Modbus.readRegisters frame offset last h) := by
  induction hrest : last - offset using Nat.strongRecOn generalizing offset with
  | _ n ih =>
    rw [readRegisters, Modbus.readRegisters]
    by_cases hlt : offset < last
    · rw [if_pos hlt, dif_pos hlt, readU16Be_eq (by omega), ih (last - (offset + 2)) (by omega) _ rfl]
      rfl
    · rw [if_neg hlt, dif_neg hlt]

/-- Every read of the parser is inside the frame. -/
lemma parseReadResponse_eq (request : ReadRequest) :
    parseReadResponse frame request = some (Modbus.parseReadResponse frame request) := by
  unfold parseReadResponse Modbus.parseReadResponse
  by_cases hshort : frame.length < 5
  · rw [if_pos hshort, dif_pos hshort]
  rw [if_neg hshort, dif_neg hshort, hasValidCrc_eq]
  cases Modbus.hasValidCrc frame with
  | false => rfl
  | true =>
    change parseBody frame request = _
    unfold parseBody parseException parseRegisters
    rw [List.getElem?_eq_getElem (by omega : 0 < frame.length), List.getElem?_eq_getElem (by omega : 1 < frame.length),
      List.getElem?_eq_getElem (by omega : 2 < frame.length)]
    simp only [Bool.not_true, Bool.false_eq_true, if_false, Option.bind_eq_bind, Option.bind_some]
    split_ifs with haddress hexception hfive hfunction hcount
    · rfl
    · rfl
    · rfl
    · rfl
    · rfl
    · rw [readRegisters_eq 3 _ (by omega)]
      rfl

end Checked

/-- The decoder accepts exactly the responses to its request, gives back what the slave encoded and reads
nothing beyond the end of the frame. -/
theorem parseReadResponse_iff_grammar (request : ReadRequest) (frame : List UInt8) :
    (∀ registers, (parseReadResponse frame request).status = .ok ∧
        (parseReadResponse frame request).registers = registers ↔
      registers.length = request.registerCount.toNat ∧ 2 * request.registerCount.toNat ≤ 255 ∧
        frame = normalResponse request.slaveId request.function registers) ∧
    (∀ code, (parseReadResponse frame request).status = .exceptionResponse ∧
        (parseReadResponse frame request).exceptionCode = code ↔
      frame = exceptionFrame request.slaveId request.function code) ∧
    ((parseReadResponse frame request).status ≠ .ok → (parseReadResponse frame request).registers = []) ∧
    Checked.parseReadResponse frame request = some (parseReadResponse frame request) := by
  refine ⟨fun registers => ⟨?_, ?_⟩, fun code => ⟨?_, ?_⟩, registers_of_refused, Checked.parseReadResponse_eq request⟩
  · rintro ⟨hok, hregisters⟩
    obtain ⟨registers', hcount, hbound, rfl⟩ | ⟨code, rfl⟩ := accepted_shape rfl (.inl hok)
    · rw [parseReadResponse_normalResponse hcount (by omega)] at hregisters
      subst hregisters
      exact ⟨hcount, hbound, rfl⟩
    · rw [parseReadResponse_exceptionFrame] at hok
      cases hok
  · rintro ⟨hcount, hbound, rfl⟩
    rw [parseReadResponse_normalResponse hcount (by omega)]
    exact ⟨rfl, rfl⟩
  · rintro ⟨hexception, hcode⟩
    obtain ⟨registers, hcount, hbound, rfl⟩ | ⟨code', rfl⟩ := accepted_shape rfl (.inr hexception)
    · rw [parseReadResponse_normalResponse hcount (by omega)] at hexception
      cases hexception
    · rw [parseReadResponse_exceptionFrame] at hcode
      subst hcode
      rfl
  · rintro rfl
    rw [parseReadResponse_exceptionFrame]
    exact ⟨rfl, rfl⟩

end EdgeGateway.Modbus
