import EdgeGateway.Lib.ShiftRegister
import Mathlib.Algebra.Polynomial.Div
import Mathlib.Data.List.GetD

/-!
# Shift registers and polynomial division

A message is a polynomial over the field with two elements, its first bit the highest coefficient, and so is a
register that shifts right, its lowest bit the highest coefficient. A shift with feedback multiplies the register
by `X` and takes the generator away when the product reaches its degree. So a message that is read into a
register leaves the remainder of a division by the generator.
-/

namespace ShiftRegister
open Polynomial

variable {w : Nat}

/-- A bit as an element of the field. -/
def bit (b : Bool) : ZMod 2 :=
  if b then 1 else 0

@[simp] lemma bit_false : bit false = 0 := rfl

@[simp] lemma bit_true : bit true = 1 := rfl

lemma bit_xor (a b : Bool) : bit (xor a b) = bit a + bit b := by
  cases a <;> cases b <;> decide

/-- A message, its first bit the highest coefficient. -/
noncomputable def message : List Bool → (ZMod 2)[X]
  | [] => 0
  | b :: bits => C (bit b) * X ^ bits.length + message bits

/-- A word, its lowest bit the highest coefficient. -/
noncomputable def reflected (s : BitVec w) : (ZMod 2)[X] :=
  ∑ k ∈ Finset.range w, C (bit (s.getLsbD (w - 1 - k))) * X ^ k

/-- The word whose reflection has the coefficients of a polynomial below `w`. -/
noncomputable def reflectedWord (w : Nat) (p : (ZMod 2)[X]) : BitVec w :=
  ofBits ((List.range w).map (fun i => decide (p.coeff (w - 1 - i) = 1)))

/-- The polynomial of a feedback word, with the coefficient that falls out of the register. -/
noncomputable def generator (feedback : BitVec w) : (ZMod 2)[X] :=
  X ^ w + reflected feedback

/-! ### Messages -/

lemma message_append (x y : List Bool) : message (x ++ y) = message x * X ^ y.length + message y := by
  induction x with
  | nil => simp [message]
  | cons b x ih =>
    rw [List.cons_append, message, message, ih, List.length_append]
    ring

lemma message_replicate_false (n : Nat) : message (List.replicate n false) = 0 := by
  induction n with
  | zero => rfl
  | succ n ih => simp [List.replicate_succ, message, ih]

lemma message_zipWith_xor (x y : List Bool) (h : x.length = y.length) :
    message (List.zipWith xor x y) = message x + message y := by
  induction x generalizing y with
  | nil =>
    cases y with
    | nil => simp [message]
    | cons b y => cases h
  | cons a x ih =>
    cases y with
    | nil => cases h
    | cons b y =>
      have hlength : x.length = y.length := by simpa using h
      rw [List.zipWith_cons_cons, message, message, message, ih y hlength, bit_xor, C_add,
        List.length_zipWith, ← hlength, Nat.min_self]
      ring

lemma coeff_message (bits : List Bool) (k : Nat) :
    (message bits).coeff k = if k < bits.length then bit (bits.getD (bits.length - 1 - k) false) else 0 := by
  induction bits with
  | nil => simp [message]
  | cons b bits ih =>
    rw [message, coeff_add, coeff_C_mul_X_pow, ih, List.length_cons]
    by_cases htop : k = bits.length
    · subst htop
      simp
    · by_cases hk : k < bits.length
      · have hindex : bits.length + 1 - 1 - k = bits.length - 1 - k + 1 := by omega
        rw [if_neg htop, if_pos hk, if_pos (by omega), hindex, List.getD_cons_succ, zero_add]
      · rw [if_neg htop, if_neg hk, if_neg (by omega), zero_add]

/-- The bits of a message with `front` added to the first of them. -/
def addFront (front bits : List Bool) : List Bool :=
  List.zipWith xor front (bits.take front.length) ++ bits.drop front.length

lemma message_addFront (front bits : List Bool) (h : front.length ≤ bits.length) :
    message (addFront front bits) = message front * X ^ (bits.length - front.length) + message bits := by
  have hfront : front.length = (bits.take front.length).length := by rw [List.length_take, min_eq_left h]
  have hsplit : message bits =
      message (bits.take front.length) * X ^ (bits.length - front.length) + message (bits.drop front.length) := by
    rw [← List.length_drop, ← message_append, List.take_append_drop]
  rw [addFront, message_append, message_zipWith_xor _ _ hfront, List.length_drop, hsplit]
  ring

/-! ### Words -/

lemma coeff_reflected (s : BitVec w) (k : Nat) :
    (reflected s).coeff k = if k < w then bit (s.getLsbD (w - 1 - k)) else 0 := by
  simp [reflected, finsetSum_coeff]

lemma degree_reflected_lt (s : BitVec w) : (reflected s).degree < w := by
  apply (degree_lt_iff_coeff_zero _ _).mpr
  intro k hk
  rw [coeff_reflected, if_neg (by omega)]

lemma reflected_xor (s t : BitVec w) : reflected (s ^^^ t) = reflected s + reflected t := by
  ext k
  rw [coeff_add, coeff_reflected, coeff_reflected, coeff_reflected, BitVec.getLsbD_xor, bit_xor]
  split
  · rfl
  · rw [add_zero]

/-- A word that is put together from bits is the message of these bits. -/
lemma reflected_ofBits (bits : List Bool) (h : bits.length = w) :
    reflected (ofBits bits : BitVec w) = message bits := by
  ext k
  rw [coeff_reflected, coeff_message, h]
  by_cases hk : k < w
  · rw [if_pos hk, if_pos hk, getLsbD_ofBits _ (by omega)]
  · rw [if_neg hk, if_neg hk]

lemma reflected_ofBool (hw : 0 < w) (b : Bool) :
    reflected ((BitVec.ofBool b).setWidth w) = C (bit b) * X ^ (w - 1) := by
  ext k
  rw [coeff_reflected, coeff_C_mul_X_pow]
  by_cases hk : k = w - 1
  · subst hk
    simp [hw]
  · rw [if_neg hk]
    split
    · rw [BitVec.getLsbD_setWidth, BitVec.getLsbD_of_ge _ _ (by omega), Bool.and_false, bit_false]
    · rfl

lemma reflectedWord_reflected (s : BitVec w) : reflectedWord w (reflected s) = s := by
  apply BitVec.eq_of_getLsbD_eq
  intro i hi
  have hindex : w - 1 - (w - 1 - i) = i := by omega
  rw [reflectedWord, getLsbD_ofBits _ hi, List.getD_eq_getElem?_getD, List.getElem?_map,
    List.getElem?_range hi, Option.map_some, Option.getD_some, coeff_reflected, if_pos (by omega), hindex]
  cases s.getLsbD i <;> decide

/-! ### Division -/

variable (feedback : BitVec w)

lemma monic_generator : (generator feedback).Monic :=
  monic_X_pow_add (degree_reflected_lt feedback)

lemma degree_generator : (generator feedback).degree = w := by
  rw [generator, degree_add_eq_left_of_degree_lt, degree_X_pow]
  rw [degree_X_pow]
  exact degree_reflected_lt feedback

/-- Without the feedback a shift multiplies by `X` and loses the coefficient that reaches the degree. -/
lemma X_mul_reflected (s : BitVec w) :
    X * reflected s = reflected (s >>> 1) + C (bit (s.getLsbD 0)) * X ^ w := by
  ext k
  rw [coeff_add, coeff_C_mul_X_pow, coeff_reflected, BitVec.getLsbD_ushiftRight]
  cases k with
  | zero =>
    rw [coeff_X_mul_zero, BitVec.getLsbD_of_ge s _ (by omega), bit_false, ite_self, zero_add]
    split
    · rw [BitVec.getLsbD_of_ge s 0 (by omega), bit_false]
    · rfl
  | succ k =>
    rw [coeff_X_mul, coeff_reflected]
    by_cases htop : k + 1 = w
    · have hlow : w - 1 - k = 0 := by omega
      rw [if_pos (by omega), if_neg (by omega), if_pos htop, hlow, zero_add]
    · rw [if_neg htop, add_zero]
      by_cases hk : k + 1 < w
      · have hindex : 1 + (w - 1 - (k + 1)) = w - 1 - k := by omega
        rw [if_pos (by omega), if_pos hk, hindex]
      · rw [if_neg (by omega), if_neg hk]

/-- A shift multiplies by `X` and reduces by the generator. -/
lemma reflected_shift (s : BitVec w) :
    X * reflected s = generator feedback * C (bit (s.getLsbD 0)) + reflected (shift feedback s) := by
  rw [X_mul_reflected]
  unfold shift generator
  cases s.getLsbD 0 with
  | false => simp
  | true =>
    rw [if_pos rfl, reflected_xor, bit_true, C_1]
    have htwice : reflected feedback + reflected feedback = 0 := CharTwo.add_self_eq_zero _
    linear_combination -htwice

/-- What is read into a register is divided by the generator, step by step. -/
lemma exists_quotient (hw : 0 < w) (s : BitVec w) (bits : List Bool) :
    ∃ q, reflected (feed feedback s bits) + generator feedback * q =
      reflected s * X ^ bits.length + message bits * X ^ w := by
  induction bits generalizing s with
  | nil => exact ⟨0, by simp [feed, message]⟩
  | cons b bits ih =>
    obtain ⟨q, hq⟩ := ih (shift feedback (s ^^^ (BitVec.ofBool b).setWidth w))
    have hstep := reflected_shift feedback (s ^^^ (BitVec.ofBool b).setWidth w)
    rw [reflected_xor, reflected_ofBool hw] at hstep
    refine ⟨q + C (bit ((s ^^^ (BitVec.ofBool b).setWidth w).getLsbD 0)) * X ^ bits.length, ?_⟩
    have hpower : (X : (ZMod 2)[X]) * X ^ (w - 1) = X ^ w := by
      rw [← pow_succ', Nat.sub_add_cancel hw]
    rw [feed_cons, mul_add, ← add_assoc, hq, message, List.length_cons]
    linear_combination X ^ bits.length * C (bit b) * hpower - X ^ bits.length * hstep

/-- The register holds the remainder of the message behind what the register held before. -/
theorem reflected_feed (hw : 0 < w) (s : BitVec w) (bits : List Bool) :
    reflected (feed feedback s bits) =
      (reflected s * X ^ bits.length + message bits * X ^ w) %ₘ generator feedback := by
  obtain ⟨q, hq⟩ := exists_quotient feedback hw s bits
  refine ((div_modByMonic_unique q _ (monic_generator feedback) ⟨hq, ?_⟩).2).symm
  rw [degree_generator]
  exact degree_reflected_lt _

/-- A register with a preset leaves the remainder of the message with `w` zeros behind it and the preset added
in front. -/
theorem feed_eq_remainder (hw : 0 < w) (preset bits : List Bool) (h : preset.length = w) :
    feed feedback (ofBits preset) bits =
      reflectedWord w (message (addFront preset (bits ++ List.replicate w false)) %ₘ generator feedback) := by
  have hlength : (bits ++ List.replicate w false).length = bits.length + w := by simp
  have hmessage : message (addFront preset (bits ++ List.replicate w false)) =
      reflected (ofBits preset : BitVec w) * X ^ bits.length + message bits * X ^ w := by
    rw [message_addFront _ _ (by omega), hlength, h, Nat.add_sub_cancel, reflected_ofBits _ h, message_append,
      message_replicate_false, List.length_replicate, add_zero]
  rw [hmessage, ← reflected_feed feedback hw, reflectedWord_reflected]

end ShiftRegister
