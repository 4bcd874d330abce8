import EdgeGateway.Lib.Scanner
import EdgeGateway.Model.FrameParser

/-!
# Frames on the wire

`WireFrame` is a frame as a sender builds it and `WireFrame.encode` its bytes. `frameScanner` says
what a receiver that sees the whole stream would do. `parseCompleteFrame` accepts exactly the
encodings of wire frames.
-/

namespace EdgeGateway
open Scanning

/-- A frame with its payload bound. Its checksum is not free: it is computed from the rest. -/
structure WireFrame where
  cmd : UInt8
  deviceId : UInt8
  payload : List UInt8
  payload_le : payload.length ≤ 64
deriving DecidableEq

namespace WireFrame

/-- The bytes under the checksum, `len` to the end of the payload. -/
def body (f : WireFrame) : List UInt8 :=
  UInt8.ofNat f.payload.length :: f.cmd :: f.deviceId :: f.payload

def encode (f : WireFrame) : List UInt8 :=
  0xAA :: 0x55 :: (f.body ++ crcBytes (crc16Modbus f.body))

/-- The frame as the parser hands it out. -/
def toFrame (f : WireFrame) : Frame :=
  ⟨f.cmd, f.deviceId, f.payload, crc16Modbus f.body⟩

lemma encode_ne_nil (f : WireFrame) : f.encode ≠ [] :=
  List.cons_ne_nil _ _

@[simp] lemma length_encode (f : WireFrame) : f.encode.length = 7 + f.payload.length := by
  simp only [encode, body, crcBytes, List.length_cons, List.length_append, List.length_nil]
  omega

lemma toNat_length (f : WireFrame) : (UInt8.ofNat f.payload.length).toNat = f.payload.length := by
  have := f.payload_le
  rw [UInt8.toNat_ofNat']
  omega

theorem encode_injective : Function.Injective encode := by
  intro f g h
  have hlen : f.payload.length = g.payload.length := by
    have := congrArg List.length h
    simpa using this
  obtain ⟨c, d, p, hp⟩ := f
  obtain ⟨c', d', p', hp'⟩ := g
  simp only [encode, body, List.cons_append, List.cons.injEq, true_and] at h
  obtain ⟨-, rfl, rfl, hrest⟩ := h
  obtain ⟨rfl, -⟩ := List.append_inj hrest hlen
  rfl

end WireFrame

/-- A list of seven bytes and more, taken apart the way a frame is laid out. -/
lemma exists_frame_layout (w : List UInt8) (n : Nat) (h : w.length = 7 + n) :
    ∃ h1 h2 len cmd dev payload lo hi, payload.length = n ∧
      w = h1 :: h2 :: len :: cmd :: dev :: (payload ++ [lo, hi]) := by
  rcases w with _ | ⟨h1, _ | ⟨h2, _ | ⟨len, _ | ⟨cmd, _ | ⟨dev, rest⟩⟩⟩⟩⟩ <;>
    simp only [List.length_cons, List.length_nil] at h
  iterate 5 omega
  have hrest : rest.length = n + 2 := by omega
  have htail : (rest.drop n).length = 2 := by simp [hrest]
  obtain ⟨lo, hi, hlohi⟩ := List.length_eq_two.mp htail
  refine ⟨h1, h2, len, cmd, dev, rest.take n, lo, hi, by simp [hrest], ?_⟩
  rw [← hlohi, List.take_append_drop]

/-- `parseCompleteFrame` on a window laid out as a frame. -/
lemma parseCompleteFrame_layout (h1 h2 len cmd dev lo hi : UInt8) (payload : List UInt8) :
    parseCompleteFrame (h1 :: h2 :: len :: cmd :: dev :: (payload ++ [lo, hi])) =
      if h1 = kHeader1 ∧ h2 = kHeader2 ∧ len ≤ kMaxPayloadLength ∧ payload.length = len.toNat ∧
          crc16Modbus (len :: cmd :: dev :: payload) = lo.toUInt16 ||| hi.toUInt16 <<< 8 then
        some ⟨cmd, dev, payload, lo.toUInt16 ||| hi.toUInt16 <<< 8⟩
      else none := by
  have hlen : (h1 :: h2 :: len :: cmd :: dev :: (payload ++ [lo, hi])).length = payload.length + 7 := by
    simp
  unfold parseCompleteFrame
  rw [dif_neg (by rw [hlen]; simp [kMinFrameSize, kFixedFieldSize])]
  simp only [List.getElem_cons_zero, List.getElem_cons_succ]
  by_cases hh : h1 = kHeader1 ∧ h2 = kHeader2
  · obtain ⟨rfl, rfl⟩ := hh
    simp only [ne_eq, not_true_eq_false, or_self, if_false, true_and]
    by_cases hmax : len ≤ kMaxPayloadLength
    · have hgt : ¬len > kMaxPayloadLength := UInt8.not_lt.mpr hmax
      simp only [hgt, if_false, hmax, true_and]
      by_cases hsize : payload.length = len.toNat
      · rw [dif_neg (by rw [hlen]; simp only [kFixedFieldSize, not_not]; omega)]
        have hpay : (List.take (5 + len.toNat)
            (kHeader1 :: kHeader2 :: len :: cmd :: dev :: (payload ++ [lo, hi]))).drop 5 = payload := by
          rw [Nat.add_comm]
          simp [← hsize]
        have hbody : List.take (1 + 1 + 1 + len.toNat)
            (List.drop 2 (kHeader1 :: kHeader2 :: len :: cmd :: dev :: (payload ++ [lo, hi]))) =
            len :: cmd :: dev :: payload := by
          rw [Nat.add_comm]
          simp [← hsize]
        have hlo : (kHeader1 :: kHeader2 :: len :: cmd :: dev :: (payload ++ [lo, hi]))[5 + len.toNat]? =
            some lo := by
          rw [Nat.add_comm]
          simp [← hsize]
        have hhi : (kHeader2 :: len :: cmd :: dev :: (payload ++ [lo, hi]))[5 + len.toNat]? =
            some hi := by
          rw [show 5 + len.toNat = (payload.length + 1) + 4 by omega]
          simp
        rw [List.getElem?_eq_some_iff] at hlo hhi
        obtain ⟨_, hlo⟩ := hlo
        obtain ⟨_, hhi⟩ := hhi
        simp only [hlo, hhi, hpay, hbody, hsize, true_and, ite_not]
      · have hsz : payload.length + 7 ≠ kFixedFieldSize + len.toNat := by
          simp only [kFixedFieldSize]
          omega
        simp [hlen, hsz, hsize]
    · have hgt : len > kMaxPayloadLength := UInt8.not_le.mp hmax
      simp [hgt, hmax]
  · rw [if_pos (by tauto), if_neg (by tauto)]

/-- The parser accepts exactly the encodings. -/
theorem parseCompleteFrame_eq_some_iff (w : List UInt8) (fr : Frame) :
    parseCompleteFrame w = some fr ↔ ∃ f : WireFrame, w = f.encode ∧ fr = f.toFrame := by
  constructor
  · intro h
    have hlen : 7 ≤ w.length := by
      by_contra hlt
      rw [parseCompleteFrame, dif_pos (by simp only [kMinFrameSize, kFixedFieldSize]; omega)] at h
      cases h
    obtain ⟨h1, h2, len, cmd, dev, payload, lo, hi, -, rfl⟩ :=
      exists_frame_layout w (w.length - 7) (by omega)
    rw [parseCompleteFrame_layout] at h
    split at h
    case isFalse => cases h
    case isTrue hc =>
      obtain ⟨rfl, rfl, hmax, hsize, hcrc⟩ := hc
      have hle : payload.length ≤ 64 := by
        rw [hsize]
        exact UInt8.le_iff_toNat_le.mp hmax
      have hofNat : UInt8.ofNat payload.length = len := by rw [hsize, UInt8.ofNat_toNat]
      refine ⟨⟨cmd, dev, payload, hle⟩, ?_, ?_⟩
      · simp only [WireFrame.encode, WireFrame.body, hofNat, hcrc, crcBytes_word, kHeader1, kHeader2,
          List.cons_append]
      · simp only [WireFrame.toFrame, WireFrame.body, hofNat, hcrc]
        exact (Option.some.inj h).symm
  · rintro ⟨f, rfl, rfl⟩
    simp only [WireFrame.encode, WireFrame.body, crcBytes, List.cons_append]
    rw [parseCompleteFrame_layout, if_pos]
    · simp only [word_crcBytes, WireFrame.toFrame, WireFrame.body]
    · refine ⟨rfl, rfl, ?_, f.toNat_length.symm, ?_⟩
      · rw [UInt8.le_iff_toNat_le, f.toNat_length]
        exact f.payload_le
      · rw [word_crcBytes]

open Classical in
/-- The frame whose encoding a window is, if it is one. -/
noncomputable def frameOf (w : List UInt8) : Option WireFrame :=
  if h : ∃ f : WireFrame, w = f.encode then some h.choose else none

lemma frameOf_eq_some_iff (w : List UInt8) (f : WireFrame) : frameOf w = some f ↔ w = f.encode := by
  unfold frameOf
  by_cases h : ∃ f : WireFrame, w = f.encode
  · rw [dif_pos h, Option.some.injEq]
    constructor
    · rintro rfl
      exact h.choose_spec
    · intro hf
      exact WireFrame.encode_injective (h.choose_spec.symm.trans hf)
  · rw [dif_neg h]
    simp only [reduceCtorEq, false_iff]
    exact fun hf => h ⟨f, hf⟩

lemma parseCompleteFrame_eq_map (w : List UInt8) :
    parseCompleteFrame w = (frameOf w).map WireFrame.toFrame := by
  apply Option.ext
  intro fr
  rw [parseCompleteFrame_eq_some_iff, Option.map_eq_some_iff]
  simp only [frameOf_eq_some_iff, eq_comm]

inductive FrameError where
  | crc
  | length
deriving DecidableEq

/-- The decision at the front of the stream: a byte that starts no header is dropped, a length over
the bound is an error, a window of `7 + len` bytes is a frame or a checksum error. -/
noncomputable def frameVerdict (s : List UInt8) : Verdict WireFrame FrameError :=
  match s with
  | [] => .need
  | b0 :: s1 =>
    if b0 ≠ 0xAA then .drop none
    else
      match s1 with
      | [] => .need
      | b1 :: s2 =>
        if b1 ≠ 0x55 then .drop none
        else
          match s2 with
          | [] => .need
          | len :: _ =>
            if len > 64 then .drop (some .length)
            else if s.length < 7 + len.toNat then .need
            else
              match frameOf (s.take (7 + len.toNat)) with
              | some f => .emit f (7 + len.toNat)
              | none => .drop (some .crc)

lemma frameVerdict_noise (b : UInt8) (s : List UInt8) (h : b ≠ 0xAA) :
    frameVerdict (b :: s) = .drop none := by
  simp [frameVerdict, h]

lemma frameVerdict_half (b : UInt8) (s : List UInt8) (h : b ≠ 0x55) :
    frameVerdict (0xAA :: b :: s) = .drop none := by
  simp [frameVerdict, h]

lemma frameVerdict_header (len : UInt8) (s : List UInt8) :
    frameVerdict (0xAA :: 0x55 :: len :: s) =
      if len > 64 then .drop (some .length)
      else if s.length + 3 < 7 + len.toNat then .need
      else
        match frameOf ((0xAA :: 0x55 :: len :: s).take (7 + len.toNat)) with
        | some f => .emit f (7 + len.toNat)
        | none => .drop (some .crc) := by
  simp [frameVerdict]

/-- The three shapes of a stream that starts with a header, and the two that do not. -/
lemma stream_cases (s : List UInt8) :
    s = [] ∨ (∃ b t, b ≠ 0xAA ∧ s = b :: t) ∨ s = [0xAA] ∨ (∃ b t, b ≠ 0x55 ∧ s = 0xAA :: b :: t) ∨
      s = [0xAA, 0x55] ∨ ∃ len t, s = 0xAA :: 0x55 :: len :: t := by
  rcases s with _ | ⟨b0, _ | ⟨b1, _ | ⟨len, t⟩⟩⟩
  · exact Or.inl rfl
  all_goals by_cases h0 : b0 = 0xAA
  all_goals try (right; left; exact ⟨_, _, h0, rfl⟩)
  all_goals subst h0
  · exact Or.inr (Or.inr (Or.inl rfl))
  all_goals by_cases h1 : b1 = 0x55
  all_goals try (right; right; right; left; exact ⟨_, _, h1, rfl⟩)
  all_goals subst h1
  · exact Or.inr (Or.inr (Or.inr (Or.inr (Or.inl rfl))))
  · exact Or.inr (Or.inr (Or.inr (Or.inr (Or.inr ⟨_, _, rfl⟩))))

lemma frameVerdict_emit {s : List UInt8} {f : WireFrame} {n : Nat} (h : frameVerdict s = .emit f n) :
    n = 7 + f.payload.length ∧ n ≤ s.length ∧ s.take n = f.encode := by
  rcases stream_cases s with rfl | ⟨b, t, hb, rfl⟩ | rfl | ⟨b, t, hb, rfl⟩ | rfl | ⟨len, t, rfl⟩
  · cases h
  · simp [frameVerdict_noise b t hb] at h
  · simp [frameVerdict] at h
  · simp [frameVerdict_half b t hb] at h
  · simp [frameVerdict] at h
  · rw [frameVerdict_header] at h
    split at h
    · cases h
    split at h
    · cases h
    · rename_i hlen
      split at h
      · rename_i f' hf
        obtain ⟨rfl, rfl⟩ : f' = f ∧ 7 + len.toNat = n := by simpa using h
        have hf := (frameOf_eq_some_iff _ _).mp hf
        have hle : 7 + len.toNat ≤ (0xAA :: 0x55 :: len :: t).length := by
          simp only [List.length_cons]
          omega
        have hsize := congrArg List.length hf
        rw [List.length_take, WireFrame.length_encode, min_eq_left hle] at hsize
        exact ⟨hsize, hle, hf⟩
      · cases h

/-- What a receiver does with a stream of bytes. -/
noncomputable def frameScanner : Scanner UInt8 WireFrame FrameError where
  verdict := frameVerdict
  verdict_nil := rfl
  emit_size h := by
    obtain ⟨hn, hle, -⟩ := frameVerdict_emit h
    omega
  stable s t h := by
    rcases stream_cases s with rfl | ⟨b, u, hb, rfl⟩ | rfl | ⟨b, u, hb, rfl⟩ | rfl | ⟨len, u, rfl⟩
    · exact (h rfl).elim
    · rw [List.cons_append, frameVerdict_noise _ _ hb, frameVerdict_noise _ _ hb]
    · exact (h (by simp [frameVerdict])).elim
    · rw [List.cons_append, List.cons_append, frameVerdict_half _ _ hb, frameVerdict_half _ _ hb]
    · exact (h (by simp [frameVerdict])).elim
    · rw [frameVerdict_header] at h
      simp only [List.cons_append]
      rw [frameVerdict_header, frameVerdict_header]
      split
      · rfl
      · rename_i hlen
        rw [if_neg hlen] at h
        have hsize : ¬u.length + 3 < 7 + len.toNat := fun hlt => h (if_pos hlt)
        have hsize' : ¬(u ++ t).length + 3 < 7 + len.toNat := by
          rw [List.length_append]
          omega
        have htake : (0xAA :: 0x55 :: len :: (u ++ t)).take (7 + len.toNat) =
            (0xAA :: 0x55 :: len :: u).take (7 + len.toNat) := by
          rw [← List.cons_append, ← List.cons_append, ← List.cons_append, List.take_append_of_le_length]
          simp only [List.length_cons]
          omega
        rw [if_neg hsize, if_neg hsize', htake]

/-- The whole encoding of a frame at the front is decided to be that frame. -/
lemma frameVerdict_encode (f : WireFrame) (t : List UInt8) :
    frameVerdict (f.encode ++ t) = .emit f f.encode.length := by
  have hlen := f.toNat_length
  have hle := f.payload_le
  have htake : (f.encode ++ t).take f.encode.length = f.encode := List.take_left' rfl
  have hshape : f.encode ++ t = 0xAA :: 0x55 :: UInt8.ofNat f.payload.length ::
      (f.cmd :: f.deviceId :: (f.payload ++ crcBytes (crc16Modbus f.body) ++ t)) := by
    simp [WireFrame.encode, WireFrame.body]
  have hsize : 7 + (UInt8.ofNat f.payload.length).toNat = f.encode.length := by
    rw [hlen, f.length_encode]
  have hmax : ¬UInt8.ofNat f.payload.length > 64 := by
    rw [gt_iff_lt, UInt8.lt_iff_toNat_lt, hlen]
    exact Nat.not_lt.mpr hle
  have hlong : ¬(f.cmd :: f.deviceId :: (f.payload ++ crcBytes (crc16Modbus f.body) ++ t)).length + 3 <
      f.encode.length := by
    simp only [List.length_cons, List.length_append, f.length_encode, crcBytes]
    omega
  rw [hshape, frameVerdict_header, if_neg hmax, hsize, if_neg hlong, ← hshape, htake,
    (frameOf_eq_some_iff _ f).mpr rfl]

end EdgeGateway
