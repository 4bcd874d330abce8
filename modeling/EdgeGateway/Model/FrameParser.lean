import EdgeGateway.Model.ByteRingBuffer
import EdgeGateway.Model.Crc16

/-!
# The UART frame parser

`Frame` and `FrameParser` of `protocol/frame_parser.cpp`. Reads of the ring buffer can throw, so the
drain loop runs in `Except`. The error counters count up to the length of the input and are natural
numbers.
-/

namespace EdgeGateway

structure Frame where
  cmd : UInt8
  deviceId : UInt8
  payload : List UInt8
  crc : UInt16
deriving DecidableEq, Repr

def kHeader1 : UInt8 := 0xAA
def kHeader2 : UInt8 := 0x55
def kMaxPayloadLength : UInt8 := 64
def kFixedFieldSize : Nat := 2 + 1 + 1 + 1 + 2
def kMinFrameSize : Nat := kFixedFieldSize
def kBufferCapacity : Nat := 256

/-- The frame a complete window of bytes stands for. Every index below is checked against the size
of the window. -/
def parseCompleteFrame (data : List UInt8) : Option Frame :=
  if hmin : data.length < kMinFrameSize then
    none
  else
    have hseven : 7 ≤ data.length := Nat.not_lt.mp hmin
    if data[0] ≠ kHeader1 ∨ data[1] ≠ kHeader2 then
      none
    else
      let payloadLength := data[2]
      if payloadLength > kMaxPayloadLength then
        none
      else if hsize : data.length ≠ kFixedFieldSize + payloadLength.toNat then
        none
      else
        let payloadStart := 5
        let payloadEnd := payloadStart + payloadLength.toNat
        have hend : payloadEnd + 1 < data.length := by
          have : kFixedFieldSize = 7 := rfl
          omega
        let crcLow := data[payloadEnd]
        let crcHigh := data[payloadEnd + 1]
        let frame : Frame :=
          { cmd := data[3]
            deviceId := data[4]
            payload := (data.take payloadEnd).drop payloadStart
            crc := crcLow.toUInt16 ||| crcHigh.toUInt16 <<< 8 }
        let calculatedCrc := crc16Modbus ((data.drop 2).take (1 + 1 + 1 + payloadLength.toNat))
        if calculatedCrc ≠ frame.crc then none else some frame

structure FrameParser where
  buffer : ByteRingBuffer kBufferCapacity
  crcErrorCount : Nat
  lengthErrorCount : Nat
  overflowByteCount : Nat

namespace FrameParser

/-- A parser as constructed. -/
def fresh : FrameParser :=
  ⟨ByteRingBuffer.empty (by decide), 0, 0, 0⟩

/-- The parser after `buffer_.consume(count)`. -/
def consume (p : FrameParser) (count : Nat) : FrameParser :=
  { p with buffer := p.buffer.consume count }

def drainBuffer (p : FrameParser) (frames : List Frame) :
    Except String (FrameParser × List Frame) :=
  if _hempty : p.buffer.isEmpty then
    .ok (p, frames)
  else do
    if (← p.buffer.byteAt 0) ≠ kHeader1 then
      (p.consume 1).drainBuffer frames
    else if p.buffer.size < 2 then
      return (p, frames)
    else if (← p.buffer.byteAt 1) ≠ kHeader2 then
      (p.consume 1).drainBuffer frames
    else if p.buffer.size < 3 then
      return (p, frames)
    else
      let payloadLength ← p.buffer.byteAt 2
      if payloadLength > kMaxPayloadLength then
        drainBuffer { p.consume 1 with lengthErrorCount := p.lengthErrorCount + 1 } frames
      else
        let frameSize := kFixedFieldSize + payloadLength.toNat
        if p.buffer.size < frameSize then
          return (p, frames)
        else
          let rawFrame ← p.buffer.copy 0 frameSize
          match parseCompleteFrame rawFrame with
          | some frame => (p.consume frameSize).drainBuffer (frames ++ [frame])
          | none => drainBuffer { p.consume 1 with crcErrorCount := p.crcErrorCount + 1 } frames
termination_by p.buffer.size
decreasing_by
  all_goals
    have hpos : p.buffer.size ≠ 0 := by simpa [ByteRingBuffer.isEmpty] using _hempty
    simp only [consume, ByteRingBuffer.size_consume, kFixedFieldSize]
    omega

/-- One pass of the loop of `feed`. A full buffer loses its oldest byte. -/
def feedByte (p : FrameParser) (frames : List Frame) (byte : UInt8) :
    Except String (FrameParser × List Frame) :=
  match p.buffer.push byte with
  | (true, buffer) => drainBuffer { p with buffer := buffer } frames
  | (false, buffer) =>
    drainBuffer
      { p with
        buffer := ((buffer.consume 1).push byte).2
        overflowByteCount := p.overflowByteCount + 1 }
      frames

def feedFrom (p : FrameParser) (frames : List Frame) :
    List UInt8 → Except String (FrameParser × List Frame)
  | [] => .ok (p, frames)
  | byte :: rest => do
    let (p', frames') ← p.feedByte frames byte
    p'.feedFrom frames' rest

def feed (p : FrameParser) (data : List UInt8) : Except String (FrameParser × List Frame) :=
  p.feedFrom [] data

def parseStream (data : List UInt8) : Except String (List Frame) := do
  let (_, frames) ← fresh.feed data
  return frames

def takeCrcErrorCount (p : FrameParser) : Nat × FrameParser :=
  (p.crcErrorCount, { p with crcErrorCount := 0 })

def takeLengthErrorCount (p : FrameParser) : Nat × FrameParser :=
  (p.lengthErrorCount, { p with lengthErrorCount := 0 })

def takeOverflowByteCount (p : FrameParser) : Nat × FrameParser :=
  (p.overflowByteCount, { p with overflowByteCount := 0 })

def bufferedByteCount (p : FrameParser) : Nat :=
  p.buffer.size

def reset (p : FrameParser) : FrameParser :=
  ⟨p.buffer.clear, 0, 0, 0⟩

end FrameParser

end EdgeGateway
