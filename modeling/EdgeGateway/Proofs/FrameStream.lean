import EdgeGateway.Proofs.FrameScan

/-!
# The streaming parser

The parser pushes one byte at a time into its ring buffer and drains it after each. Draining is the
scan of what the buffer holds (`drainBuffer_spec`), and between two bytes the buffer holds nothing
that can be decided, at most 70 bytes. So no byte is ever refused, and feeding is scanning.
-/

namespace EdgeGateway
open Scanning

/-- The frames of an outcome as the parser hands them out. -/
def framesOf (o : Outcome UInt8 WireFrame FrameError) : List Frame :=
  o.values.map WireFrame.toFrame

@[simp] lemma framesOf_andThen (o o' : Outcome UInt8 WireFrame FrameError) :
    framesOf (o.andThen o') = framesOf o ++ framesOf o' := by
  simp [framesOf]

lemma framesOf_scanFrom (pos pos' : Nat) (s : List UInt8) :
    framesOf (frameScanner.scanFrom pos s) = framesOf (frameScanner.scanFrom pos' s) := by
  rw [framesOf, framesOf, (frameScanner.scanFrom_values pos pos' s).1]

/-- `p'` is `p` after a scan with outcome `o`: the errors are counted and the pending bytes are
what the buffer holds. -/
structure Advances (p p' : FrameParser) (o : Outcome UInt8 WireFrame FrameError) : Prop where
  contents : p'.buffer.contents = o.pending
  crc : p'.crcErrorCount = p.crcErrorCount + o.errors.count .crc
  length : p'.lengthErrorCount = p.lengthErrorCount + o.errors.count .length
  overflow : p'.overflowByteCount = p.overflowByteCount

lemma Advances.trans {p p' p'' : FrameParser} {o o' : Outcome UInt8 WireFrame FrameError}
    (h : Advances p p' o) (h' : Advances p' p'' o') : Advances p p'' (o.andThen o') where
  contents := h'.contents
  crc := by rw [h'.crc, h.crc, Outcome.andThen, List.count_append, Nat.add_assoc]
  length := by rw [h'.length, h.length, Outcome.andThen, List.count_append, Nat.add_assoc]
  overflow := h'.overflow.trans h.overflow

/-- Only the errors and the pending bytes of an outcome matter to the parser's state. -/
lemma Advances.congr {p p' : FrameParser} {o o' : Outcome UInt8 WireFrame FrameError}
    (h : Advances p p' o) (he : o.errors = o'.errors) (hp : o.pending = o'.pending) :
    Advances p p' o' :=
  ⟨h.contents.trans hp, he ▸ h.crc, he ▸ h.length, h.overflow⟩

namespace FrameParser

lemma contents_consume (p : FrameParser) (count : Nat) :
    (p.consume count).buffer.contents = p.buffer.contents.drop count :=
  ByteRingBuffer.contents_consume (by decide) p.buffer count

/-- The parser after it dropped a byte, with or without an error. -/
def dropByte (p : FrameParser) (e : Option FrameError) : FrameParser :=
  { p.consume 1 with
    crcErrorCount := p.crcErrorCount + e.toList.count .crc
    lengthErrorCount := p.lengthErrorCount + e.toList.count .length }

/-- One pass of the drain loop does what the receiver decides at the front of the buffer. -/
theorem drainBuffer_step (p : FrameParser) (frames : List Frame) :
    p.drainBuffer frames =
      match frameVerdict p.buffer.contents with
      | .need => .ok (p, frames)
      | .drop e => (p.dropByte e).drainBuffer frames
      | .emit f n => (p.consume n).drainBuffer (frames ++ [f.toFrame]) := by
  have hcap : kBufferCapacity < 2 ^ 63 := by decide
  have hsize : p.buffer.contents.length = p.buffer.size := p.buffer.length_contents
  rw [drainBuffer]
  rcases stream_cases p.buffer.contents with hs | ⟨b, t, hb, hs⟩ | hs | ⟨b, t, hb, hs⟩ | hs | ⟨len, t, hs⟩
  · have hzero : p.buffer.isEmpty = true := by simp [ByteRingBuffer.isEmpty, ← hsize, hs]
    rw [dif_pos hzero, hs]
    rfl
  all_goals
    rw [hs] at hsize
    simp only [List.length_cons, List.length_nil] at hsize
    have hne : ¬p.buffer.isEmpty = true := by
      simp only [ByteRingBuffer.isEmpty, beq_iff_eq]
      omega
    rw [dif_neg hne, p.buffer.byteAt_ok hcap (show p.buffer.contents[0]? = some _ by rw [hs]; rfl)]
    simp only [bind, Except.bind]
  · rw [if_pos (show b ≠ kHeader1 from hb), hs, frameVerdict_noise b t hb]
    rfl
  · rw [if_neg (by decide), if_pos (by omega), hs]
    rfl
  all_goals
    rw [if_neg (by decide), if_neg (by omega),
      p.buffer.byteAt_ok hcap (show p.buffer.contents[1]? = some _ by rw [hs]; rfl)]
    simp only
  · rw [if_pos (show b ≠ kHeader2 from hb), hs, frameVerdict_half b t hb]
    rfl
  · rw [if_neg (by decide), if_pos (by omega), hs]
    rfl
  · have hcopy : ¬t.length + 3 < 7 + len.toNat →
        p.buffer.copy 0 (7 + len.toNat) = .ok ((0xAA :: 0x55 :: len :: t).take (7 + len.toNat)) := by
      intro hlong
      have := len.toNat_lt
      rw [p.buffer.copy_eq hcap, hs, if_pos (by simp only [List.length_cons]; omega),
        List.drop_zero]
    have hfix : kFixedFieldSize + len.toNat = 7 + len.toNat := rfl
    rw [if_neg (by decide), if_neg (by omega),
      p.buffer.byteAt_ok hcap (show p.buffer.contents[2]? = some _ by rw [hs]; rfl)]
    simp only [hfix, ← hsize]
    rw [hs, frameVerdict_header]
    by_cases hmax : len > 64
    · rw [if_pos hmax, if_pos (show len > kMaxPayloadLength from hmax)]
      rfl
    · rw [if_neg hmax, if_neg (show ¬len > kMaxPayloadLength from hmax)]
      by_cases hshort : t.length + 3 < 7 + len.toNat
      · rw [if_pos hshort, if_pos (by omega)]
        rfl
      · rw [if_neg hshort, if_neg (by omega), hcopy hshort]
        simp only [parseCompleteFrame_eq_map]
        cases frameOf ((0xAA :: 0x55 :: len :: t).take (7 + len.toNat)) with
        | none => rfl
        | some f => rfl

/-- Draining is scanning what the buffer holds. No read of the buffer throws. -/
theorem drainBuffer_spec (p : FrameParser) (frames : List Frame) :
    ∃ p', p.drainBuffer frames =
        .ok (p', frames ++ framesOf (frameScanner.scanFrom 0 p.buffer.contents)) ∧
      Advances p p' (frameScanner.scanFrom 0 p.buffer.contents) := by
  induction hn : p.buffer.size using Nat.strong_induction_on generalizing p frames with
  | _ n ih =>
    have hsize : p.buffer.contents.length = n := by rw [p.buffer.length_contents, hn]
    rw [drainBuffer_step]
    cases hv : frameVerdict p.buffer.contents with
    | need =>
      rw [frameScanner.scanFrom_need hv]
      exact ⟨p, by simp [framesOf, Outcome.values], ⟨rfl, rfl, rfl, rfl⟩⟩
    | drop e =>
      have hpos := List.length_pos_iff.mpr (frameScanner.ne_nil_of_ne_need (s := p.buffer.contents)
        (by rw [show frameScanner.verdict _ = _ from hv]; simp))
      obtain ⟨p', hrun, hadv⟩ := ih (n - 1) (by omega) (p.dropByte e) frames
        (by simp [dropByte, consume, hn])
      have hrest : (p.dropByte e).buffer.contents = p.buffer.contents.tail := by
        rw [← List.drop_one]
        exact p.contents_consume 1
      have hfirst : Advances p (p.dropByte e) ⟨[], e.toList, 1, p.buffer.contents.tail⟩ :=
        ⟨hrest, rfl, rfl, rfl⟩
      rw [hrest] at hrun hadv
      obtain ⟨-, herrs, hpend⟩ := frameScanner.scanFrom_values 0 1 p.buffer.contents.tail
      refine ⟨p', ?_, ?_⟩
      · simp only [hrun]
        rw [frameScanner.scanFrom_drop hv, framesOf_andThen, framesOf_scanFrom 0 (0 + 1)]
        rfl
      · rw [frameScanner.scanFrom_drop hv]
        exact hfirst.trans (hadv.congr herrs hpend)
    | emit f m =>
      obtain ⟨hm, hle, -⟩ := frameVerdict_emit hv
      obtain ⟨p', hrun, hadv⟩ := ih (n - m) (by omega) (p.consume m) (frames ++ [f.toFrame])
        (by simp [consume, hn])
      have hrest := p.contents_consume m
      have hfirst : Advances p (p.consume m) ⟨[(0, f)], [], m, p.buffer.contents.drop m⟩ :=
        ⟨hrest, rfl, rfl, rfl⟩
      rw [hrest] at hrun hadv
      obtain ⟨-, herrs, hpend⟩ := frameScanner.scanFrom_values 0 (0 + m) (p.buffer.contents.drop m)
      refine ⟨p', ?_, ?_⟩
      · simp only [hrun]
        rw [frameScanner.scanFrom_emit hv, framesOf_andThen, framesOf_scanFrom 0 (0 + m),
          List.append_assoc]
        rfl
      · rw [frameScanner.scanFrom_emit hv]
        exact hfirst.trans (hadv.congr herrs hpend)

/-- Nothing of what the buffer holds can be decided yet. -/
def Drained (p : FrameParser) : Prop :=
  frameVerdict p.buffer.contents = .need

end FrameParser

/-- The start of a frame of at most 64 payload bytes, without its last byte. Nothing at all is one
too. -/
structure StrictFramePrefix (s : List UInt8) : Prop where
  first : ∀ b, s[0]? = some b → b = kHeader1
  second : ∀ b, s[1]? = some b → b = kHeader2
  third : ∀ len, s[2]? = some len → len ≤ kMaxPayloadLength ∧ s.length < kFixedFieldSize + len.toNat

/-- What cannot be decided yet is the start of a frame. -/
lemma strictFramePrefix_of_need {s : List UInt8} (h : frameVerdict s = .need) :
    StrictFramePrefix s := by
  rcases stream_cases s with rfl | ⟨b, t, hb, rfl⟩ | rfl | ⟨b, t, hb, rfl⟩ | rfl | ⟨len, t, rfl⟩
  · exact ⟨by simp, by simp, by simp⟩
  · simp [frameVerdict_noise b t hb] at h
  · exact ⟨by simp [kHeader1], by simp, by simp⟩
  · simp [frameVerdict_half b t hb] at h
  · exact ⟨by simp [kHeader1], by simp [kHeader2], by simp⟩
  · refine ⟨by simp [kHeader1], by simp [kHeader2], ?_⟩
    intro len' hlen'
    have heq : len = len' := by simpa using hlen'
    subst heq
    rw [frameVerdict_header] at h
    split at h
    · cases h
    rename_i hmax
    split at h
    · rename_i hshort
      refine ⟨UInt8.not_lt.mp hmax, ?_⟩
      have hfix : kFixedFieldSize = 7 := rfl
      simp only [List.length_cons]
      omega
    · split at h <;> cases h

lemma StrictFramePrefix.length_le {s : List UInt8} (h : StrictFramePrefix s) : s.length ≤ 70 := by
  by_contra hlong
  have hget : s[2]? = some s[2] := List.getElem?_eq_getElem (by omega)
  obtain ⟨hmax, hlt⟩ := h.third _ hget
  have hle : s[2].toNat ≤ 64 := UInt8.le_iff_toNat_le.mp hmax
  have hfix : kFixedFieldSize = 7 := rfl
  omega

lemma length_le_of_need {s : List UInt8} (h : frameVerdict s = .need) : s.length ≤ 70 :=
  (strictFramePrefix_of_need h).length_le

lemma Advances.drained {p p' : FrameParser} {pos : Nat} {s : List UInt8}
    (h : Advances p p' (frameScanner.scanFrom pos s)) : p'.Drained := by
  unfold FrameParser.Drained
  rw [h.contents]
  exact frameScanner.verdict_pending pos s

namespace FrameParser

/-- A drained buffer takes one more byte, so nothing is discarded. -/
lemma feedByte_spec (p : FrameParser) (hp : p.Drained) (frames : List Frame) (byte : UInt8) :
    ∃ p', p.feedByte frames byte =
        .ok (p', frames ++ framesOf (frameScanner.scanFrom 0 (p.buffer.contents ++ [byte]))) ∧
      Advances p p' (frameScanner.scanFrom 0 (p.buffer.contents ++ [byte])) := by
  have hroom : p.buffer.size < kBufferCapacity := by
    have := length_le_of_need hp
    rw [p.buffer.length_contents] at this
    unfold kBufferCapacity
    omega
  obtain ⟨htrue, hcontents⟩ := (p.buffer.push_spec (by decide) byte).1 hroom
  obtain ⟨p', hrun, hadv⟩ := drainBuffer_spec { p with buffer := (p.buffer.push byte).2 } frames
  rw [hcontents] at hrun hadv
  refine ⟨p', ?_, ⟨hadv.contents, hadv.crc, hadv.length, hadv.overflow⟩⟩
  have hpair : p.buffer.push byte = (true, (p.buffer.push byte).2) := Prod.ext htrue rfl
  unfold feedByte
  rw [hpair]
  exact hrun

lemma feedFrom_spec (p : FrameParser) (hp : p.Drained) (frames : List Frame) (data : List UInt8) :
    ∃ p', p.feedFrom frames data =
        .ok (p', frames ++ framesOf (frameScanner.scanFrom 0 (p.buffer.contents ++ data))) ∧
      Advances p p' (frameScanner.scanFrom 0 (p.buffer.contents ++ data)) := by
  induction data generalizing p frames with
  | nil =>
    rw [List.append_nil, frameScanner.scanFrom_need hp]
    exact ⟨p, by simp [feedFrom, framesOf, Outcome.values], ⟨rfl, rfl, rfl, rfl⟩⟩
  | cons byte rest ih =>
    obtain ⟨p₁, hrun₁, hadv₁⟩ := p.feedByte_spec hp frames byte
    obtain ⟨p₂, hrun₂, hadv₂⟩ := ih p₁ hadv₁.drained
      (frames ++ framesOf (frameScanner.scanFrom 0 (p.buffer.contents ++ [byte])))
    have hsplit : p.buffer.contents ++ byte :: rest = p.buffer.contents ++ [byte] ++ rest := by simp
    obtain ⟨-, herrs, hpend⟩ := frameScanner.scanFrom_values 0
      (frameScanner.scanFrom 0 (p.buffer.contents ++ [byte])).position (p₁.buffer.contents ++ rest)
    rw [hsplit, frameScanner.scanFrom_append, ← hadv₁.contents]
    refine ⟨p₂, ?_, hadv₁.trans (hadv₂.congr herrs hpend)⟩
    rw [feedFrom, hrun₁]
    simp only [bind, Except.bind, hrun₂, framesOf_andThen, List.append_assoc]
    rw [framesOf_scanFrom 0 (frameScanner.scanFrom 0 (p.buffer.contents ++ [byte])).position
      (p₁.buffer.contents ++ rest)]

/-- Feeding a drained parser is scanning what it holds followed by the new bytes. -/
theorem feed_spec (p : FrameParser) (hp : p.Drained) (data : List UInt8) :
    ∃ p', p.feed data =
        .ok (p', framesOf (frameScanner.scanFrom 0 (p.buffer.contents ++ data))) ∧
      Advances p p' (frameScanner.scanFrom 0 (p.buffer.contents ++ data)) := by
  simpa [feed] using p.feedFrom_spec hp [] data

/-- The states a parser can get into, whatever is called in whatever order. -/
inductive Reachable : FrameParser → Prop where
  | fresh : Reachable fresh
  | feed {p p' : FrameParser} {data : List UInt8} {frames : List Frame} :
      Reachable p → p.feed data = .ok (p', frames) → Reachable p'
  | reset {p : FrameParser} : Reachable p → Reachable p.reset
  | takeCrcErrorCount {p : FrameParser} : Reachable p → Reachable p.takeCrcErrorCount.2
  | takeLengthErrorCount {p : FrameParser} : Reachable p → Reachable p.takeLengthErrorCount.2
  | takeOverflowByteCount {p : FrameParser} : Reachable p → Reachable p.takeOverflowByteCount.2

lemma drained_fresh : fresh.Drained := by
  unfold Drained fresh
  rw [ByteRingBuffer.contents_empty]
  rfl

lemma drained_reset (p : FrameParser) : p.reset.Drained := by
  unfold Drained reset
  rw [ByteRingBuffer.contents_clear]
  rfl

theorem Reachable.drained {p : FrameParser} (h : Reachable p) : p.Drained := by
  induction h with
  | fresh => exact drained_fresh
  | @feed p p' data frames _ hfeed ih =>
    obtain ⟨q, hrun, hadv⟩ := p.feed_spec ih data
    rw [hfeed] at hrun
    cases hrun
    exact hadv.drained
  | @reset p _ _ => exact p.drained_reset
  | takeCrcErrorCount _ ih => exact ih
  | takeLengthErrorCount _ ih => exact ih
  | takeOverflowByteCount _ ih => exact ih

end FrameParser

/-! ### No byte is refused -/

namespace FrameParser

lemma Reachable.overflowByteCount_eq {p : FrameParser} (h : Reachable p) :
    p.overflowByteCount = 0 := by
  induction h with
  | fresh => rfl
  | @feed p p' data frames hreach hfeed ih =>
    obtain ⟨q, hrun, hadv⟩ := p.feed_spec hreach.drained data
    rw [hfeed] at hrun
    cases hrun
    rw [hadv.overflow, ih]
  | reset _ _ => rfl
  | takeCrcErrorCount _ ih => exact ih
  | takeLengthErrorCount _ ih => exact ih
  | takeOverflowByteCount _ _ => rfl

lemma Reachable.push_eq {p : FrameParser} (h : Reachable p) (byte : UInt8) :
    ∃ buffer, p.buffer.push byte = (true, buffer) := by
  have hlen := length_le_of_need h.drained
  rw [p.buffer.length_contents] at hlen
  have hroom : p.buffer.size < kBufferCapacity := by
    unfold kBufferCapacity
    omega
  obtain ⟨htrue, -⟩ := (p.buffer.push_spec (by decide) byte).1 hroom
  exact ⟨(p.buffer.push byte).2, Prod.ext htrue rfl⟩

lemma feedFrom_append (p : FrameParser) (frames : List Frame) (data rest : List UInt8)
    {p' : FrameParser} {frames' : List Frame} (h : p.feedFrom frames data = .ok (p', frames')) :
    p.feedFrom frames (data ++ rest) = p'.feedFrom frames' rest := by
  induction data generalizing p frames with
  | nil =>
    cases h
    rfl
  | cons byte data ih =>
    rw [feedFrom] at h
    rw [List.cons_append, feedFrom]
    cases hbyte : p.feedByte frames byte with
    | error e =>
      rw [hbyte] at h
      cases h
    | ok pair =>
      rw [hbyte] at h
      exact ih pair.1 pair.2 h

/-- Between calls the buffer of a parser holds the start of a frame and nothing else, so it has room
for every byte of every call: no push is refused, no byte is lost to an overflow, and no read of the
drain loop is out of range. -/
theorem buffer_never_overflows (p : FrameParser) (hp : p.Reachable) :
    StrictFramePrefix p.buffer.contents ∧ p.bufferedByteCount ≤ 70 ∧ p.overflowByteCount = 0 ∧
    (∀ data, ∃ p' frames, p.feed data = .ok (p', frames)) ∧
    ∀ before byte after, ∃ q frames buffer q' frames',
      p.feed before = .ok (q, frames) ∧
      q.buffer.push byte = (true, buffer) ∧
      drainBuffer { q with buffer := buffer } frames = .ok (q', frames') ∧
      q'.overflowByteCount = 0 ∧
      p.feed (before ++ byte :: after) = q'.feedFrom frames' after := by
  have hfeed : ∀ data, ∃ p' frames, p.feed data = .ok (p', frames) := by
    intro data
    obtain ⟨p', hrun, -⟩ := p.feed_spec hp.drained data
    exact ⟨p', _, hrun⟩
  have hshape := strictFramePrefix_of_need hp.drained
  refine ⟨hshape, ?_, hp.overflowByteCount_eq, hfeed, ?_⟩
  · rw [bufferedByteCount, ← p.buffer.length_contents]
    exact hshape.length_le
  intro before byte after
  obtain ⟨q, frames, hbefore⟩ := hfeed before
  have hq : q.Reachable := .feed hp hbefore
  obtain ⟨buffer, hpush⟩ := hq.push_eq byte
  obtain ⟨q', hbyte, hadv⟩ := q.feedByte_spec hq.drained frames byte
  have hdrain : drainBuffer { q with buffer := buffer } frames = q.feedByte frames byte := by
    rw [feedByte, hpush]
  refine ⟨q, frames, buffer, q', _, hbefore, hpush, hdrain.trans hbyte, ?_, ?_⟩
  · rw [hadv.overflow, hq.overflowByteCount_eq]
  · rw [feed, feedFrom_append p [] before (byte :: after) hbefore, feedFrom, hbyte]
    rfl

/-- A parser that was fed the header of a frame and then asked for its counts. -/
theorem buffer_never_overflows_header :
    ∃ p frames, fresh.feed [0xAA, 0x55, 0x02] = .ok (p, frames) ∧
      StrictFramePrefix p.takeOverflowByteCount.2.buffer.contents ∧
      p.takeOverflowByteCount.2.bufferedByteCount ≤ 70 := by
  obtain ⟨p, hrun, -⟩ := fresh.feed_spec drained_fresh [0xAA, 0x55, 0x02]
  obtain ⟨hshape, hlen, -⟩ := buffer_never_overflows p.takeOverflowByteCount.2
    (.takeOverflowByteCount (.feed .fresh hrun))
  exact ⟨p, _, hrun, hshape, hlen⟩

end FrameParser

/-! ### Any cutting of the stream -/

inductive StreamCall where
  | feed (chunk : List UInt8)
  | takeCrcErrorCount
  | takeLengthErrorCount

/-- A parser in use: the frames it returned so far and the counts taken from it. -/
structure StreamRun where
  parser : FrameParser
  frames : List Frame
  crcTaken : Nat
  lengthTaken : Nat

namespace StreamRun

def start : StreamRun :=
  ⟨FrameParser.fresh, [], 0, 0⟩

def call (r : StreamRun) : StreamCall → Except String StreamRun
  | .feed chunk => do
    let (parser, frames) ← r.parser.feed chunk
    return { r with parser := parser, frames := r.frames ++ frames }
  | .takeCrcErrorCount =>
    .ok { r with
      parser := r.parser.takeCrcErrorCount.2
      crcTaken := r.crcTaken + r.parser.takeCrcErrorCount.1 }
  | .takeLengthErrorCount =>
    .ok { r with
      parser := r.parser.takeLengthErrorCount.2
      lengthTaken := r.lengthTaken + r.parser.takeLengthErrorCount.1 }

def calls (r : StreamRun) : List StreamCall → Except String StreamRun
  | [] => .ok r
  | c :: rest => do
    let r' ← r.call c
    r'.calls rest

/-- The bytes that a sequence of calls feeds. -/
def bytes (cs : List StreamCall) : List UInt8 :=
  cs.flatMap (fun
    | .feed chunk => chunk
    | _ => [])

/-- The run agrees with the scan of the stream `s`. -/
structure Tracks (r : StreamRun) (s : List UInt8) : Prop where
  frames : r.frames = framesOf (frameScanner.scan s)
  crc : r.crcTaken + r.parser.crcErrorCount = (frameScanner.scan s).errors.count .crc
  length : r.lengthTaken + r.parser.lengthErrorCount = (frameScanner.scan s).errors.count .length
  pending : r.parser.buffer.contents = (frameScanner.scan s).pending

lemma tracks_start : start.Tracks [] := by
  have hscan : frameScanner.scan [] = ⟨[], [], 0, []⟩ := frameScanner.scanFrom_need rfl
  refine ⟨?_, ?_, ?_, ?_⟩ <;> rw [hscan]
  · rfl
  · rfl
  · rfl
  · exact ByteRingBuffer.contents_empty _

lemma Tracks.drained {r : StreamRun} {s : List UInt8} (h : r.Tracks s) : r.parser.Drained := by
  unfold FrameParser.Drained
  rw [h.pending]
  exact frameScanner.verdict_pending 0 s

lemma Tracks.feed {r : StreamRun} {s : List UInt8} (h : r.Tracks s) (chunk : List UInt8) :
    ∃ r', r.call (.feed chunk) = .ok r' ∧ r'.Tracks (s ++ chunk) := by
  obtain ⟨p', hrun, hadv⟩ := r.parser.feed_spec h.drained chunk
  obtain ⟨-, herrs, hpend⟩ := frameScanner.scanFrom_values 0
    (frameScanner.scanFrom 0 s).position (r.parser.buffer.contents ++ chunk)
  have hscan : frameScanner.scan (s ++ chunk) = (frameScanner.scan s).andThen
      (frameScanner.scanFrom (frameScanner.scanFrom 0 s).position (r.parser.buffer.contents ++ chunk)) := by
    rw [h.pending]
    exact frameScanner.scanFrom_append 0 s chunk
  have hadv := hadv.congr herrs hpend
  refine ⟨_, by rw [call, hrun]; rfl, ⟨?_, ?_, ?_, ?_⟩⟩ <;> rw [hscan]
  · rw [framesOf_andThen, ← h.frames, framesOf_scanFrom 0 (frameScanner.scanFrom 0 s).position]
  · rw [Outcome.andThen, List.count_append, ← h.crc, hadv.crc, Nat.add_assoc]
  · rw [Outcome.andThen, List.count_append, ← h.length, hadv.length, Nat.add_assoc]
  · exact hadv.contents

lemma Tracks.call {r : StreamRun} {s : List UInt8} (h : r.Tracks s) (c : StreamCall) :
    ∃ r', r.call c = .ok r' ∧ r'.Tracks (s ++ bytes [c]) := by
  cases c with
  | feed chunk => simpa [bytes] using h.feed chunk
  | takeCrcErrorCount =>
    rw [show bytes [.takeCrcErrorCount] = [] from rfl, List.append_nil]
    exact ⟨_, rfl, h.frames, h.crc, h.length, h.pending⟩
  | takeLengthErrorCount =>
    rw [show bytes [.takeLengthErrorCount] = [] from rfl, List.append_nil]
    exact ⟨_, rfl, h.frames, h.crc, h.length, h.pending⟩

lemma Tracks.calls {r : StreamRun} {s : List UInt8} (h : r.Tracks s) (cs : List StreamCall) :
    ∃ r', r.calls cs = .ok r' ∧ r'.Tracks (s ++ bytes cs) := by
  induction cs generalizing r s with
  | nil => exact ⟨r, rfl, by simpa [bytes] using h⟩
  | cons c cs ih =>
    obtain ⟨r₁, hrun₁, h₁⟩ := h.call c
    obtain ⟨r₂, hrun₂, h₂⟩ := ih h₁
    refine ⟨r₂, ?_, ?_⟩
    · rw [StreamRun.calls, hrun₁]
      exact hrun₂
    · simpa [bytes] using h₂

end StreamRun

/-- However a stream is cut into chunks, and wherever the error counts are taken in between, a fresh
parser returns the frames of the scan of the whole stream, counts its errors and is left holding
its pending bytes. -/
theorem feed_chunks_eq_scan (cs : List StreamCall) :
    ∃ r, StreamRun.start.calls cs = .ok r ∧
      r.frames = (frameScanner.scan (StreamRun.bytes cs)).values.map WireFrame.toFrame ∧
      r.crcTaken + r.parser.crcErrorCount =
        (frameScanner.scan (StreamRun.bytes cs)).errors.count .crc ∧
      r.lengthTaken + r.parser.lengthErrorCount =
        (frameScanner.scan (StreamRun.bytes cs)).errors.count .length ∧
      r.parser.buffer.contents = (frameScanner.scan (StreamRun.bytes cs)).pending := by
  obtain ⟨r, hrun, h⟩ := StreamRun.tracks_start.calls cs
  rw [List.nil_append] at h
  exact ⟨r, hrun, h.frames, h.crc, h.length, h.pending⟩

/-! ### Resynchronisation -/

/-- Before a boundary with 70 bytes behind it every decision can be taken. -/
lemma frameVerdict_ne_need {y b : List UInt8} (hy : y ≠ []) (hb : 70 ≤ b.length) :
    frameVerdict (y ++ b) ≠ .need := by
  intro h
  have hlen := length_le_of_need h
  have hpos := List.length_pos_iff.mpr hy
  rw [List.length_append] at hlen
  omega

/-- If no valid frame reaches across the first byte of a frame, and 70 bytes of it and of what
follows have arrived, then the parser emits it, whatever came before. The tokens of the scan carry
their positions: this one is at the position of the frame, those before it at smaller ones. -/
theorem feed_resynchronises (p : FrameParser) (hp : p.Reachable) (g : List UInt8) (f : WireFrame)
    (t : List UInt8) (hlen : 70 ≤ f.encode.length + t.length)
    (hwindow : ∀ (a b : List UInt8) (f' : WireFrame),
      p.buffer.contents ++ g ++ f.encode ++ t = a ++ f'.encode ++ b →
      a.length < p.buffer.contents.length + g.length →
      ¬p.buffer.contents.length + g.length < a.length + f'.encode.length) :
    ∃ p' before after,
      p.feed (g ++ f.encode ++ t) =
        .ok (p', (before ++ (p.buffer.contents.length + g.length, f) :: after).map
          (fun located => located.2.toFrame)) ∧
      (frameScanner.scan (p.buffer.contents ++ g ++ f.encode ++ t)).tokens =
        before ++ (p.buffer.contents.length + g.length, f) :: after ∧
      ∀ located ∈ before, located.1 < p.buffer.contents.length + g.length := by
  obtain ⟨p', hrun, -⟩ := p.feed_spec hp.drained (g ++ f.encode ++ t)
  have hstay : ∀ x y, p.buffer.contents ++ g = x ++ y → y ≠ [] →
      frameScanner.StaysWithin y (f.encode ++ t) := by
    intro x y hxy hy
    refine ⟨frameVerdict_ne_need hy (by rw [List.length_append]; exact hlen), ?_⟩
    intro f' n hv
    obtain ⟨hn, hle, htake⟩ := frameVerdict_emit hv
    have hlenxy := congrArg List.length hxy
    simp only [List.length_append] at hlenxy
    have hpos := List.length_pos_iff.mpr hy
    have hno := hwindow x ((y ++ (f.encode ++ t)).drop n) f' (by
      rw [List.append_assoc, hxy, ← htake, List.append_assoc, List.append_assoc,
        List.take_append_drop]) (by omega)
    rw [WireFrame.length_encode] at hno
    omega
  obtain ⟨before, errs, hbefore, hscan⟩ :=
    frameScanner.scanFrom_boundary 0 (p.buffer.contents ++ g) (f.encode ++ t) hstay
  have hframe : frameScanner.verdict (f.encode ++ t) = .emit f f.encode.length := frameVerdict_encode f t
  rw [frameScanner.scanFrom_emit hframe, Nat.zero_add, List.length_append] at hscan
  rw [Nat.zero_add, List.length_append] at hbefore
  have hwhole : p.buffer.contents ++ g ++ f.encode ++ t = p.buffer.contents ++ g ++ (f.encode ++ t) := by
    rw [List.append_assoc (p.buffer.contents ++ g)]
  have htokens : (frameScanner.scan (p.buffer.contents ++ g ++ f.encode ++ t)).tokens = before ++
      (p.buffer.contents.length + g.length, f) :: (frameScanner.scanFrom
        (p.buffer.contents.length + g.length + f.encode.length) ((f.encode ++ t).drop f.encode.length)).tokens := by
    rw [hwhole, Scanner.scan, hscan]
    simp [Outcome.andThen]
  refine ⟨p', before, _, ?_, htokens, hbefore⟩
  rw [hrun, ← htokens, hwhole, List.append_assoc g, ← List.append_assoc]
  simp only [framesOf, Outcome.values, List.map_map, Scanner.scan]
  rfl

/-- A frame with a full payload right after a byte that looks like the start of a header. -/
theorem feed_resynchronises_after_half_header :
    let f : WireFrame := ⟨0x01, 0x10, List.replicate 64 0, by decide⟩
    ∃ p' before after,
      FrameParser.fresh.feed ([0xAA] ++ f.encode ++ []) =
        .ok (p', (before ++ (0 + 1, f) :: after).map (fun located => located.2.toFrame)) := by
  intro f
  have hempty : FrameParser.fresh.buffer.contents = [] := ByteRingBuffer.contents_empty _
  obtain ⟨p', before, after, hrun, -, -⟩ := feed_resynchronises FrameParser.fresh .fresh [0xAA] f []
    (by rw [f.length_encode]; decide) (by
      intro a b f' heq ha
      rw [hempty] at heq ha
      have hnil : a = [] := List.length_eq_zero_iff.mp (by simpa using ha)
      subst hnil
      -- a frame at position 0 would need `55` where the frame's own `AA` stands
      simp [WireFrame.encode] at heq)
  rw [hempty] at hrun
  exact ⟨p', before, after, hrun⟩

end EdgeGateway
