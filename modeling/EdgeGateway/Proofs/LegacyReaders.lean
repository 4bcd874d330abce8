import EdgeGateway.Model.Migration
import EdgeGateway.Proofs.CacheBackends

/-!
# Two readers of the legacy file

`load_all` of the file cache reads bytes, and `load_legacy_messages` of the migration script reads
characters. In UTF-8 the bytes of a tab or a line end stand for these characters only, so that on a file
without carriage returns both see the same lines and the same first tabs.
-/

namespace EdgeGateway
open CallTree

/-! ### Bytes and characters -/

/-- An ASCII byte stands for its own character only. -/
lemma toNat_of_mem_utf8EncodeChar {c : Char} {byte : UInt8} (hascii : byte.toNat < 128)
    (hmem : byte ∈ String.utf8EncodeChar c) : c.toNat = byte.toNat := by
  have hcontinued : ∀ k, 128 ≤ k → k < 256 → byte ≠ UInt8.ofNat k := by
    intro k hlow hhigh heq
    rw [heq, UInt8.toNat_ofNat_of_lt' hhigh] at hascii
    omega
  unfold String.utf8EncodeChar at hmem
  dsimp only at hmem
  split at hmem
  · rename_i hsmall
    rw [List.mem_singleton] at hmem
    have hsize : c.val.toNat < UInt8.size := Nat.lt_of_le_of_lt hsmall (by decide)
    rw [hmem, UInt8.toNat_ofNat_of_lt' hsize]
    rfl
  · exfalso
    split at hmem
    · simp only [List.mem_cons, List.not_mem_nil, or_false] at hmem
      rcases hmem with h | h
      · exact hcontinued _ (by omega) (by omega) h
      · exact hcontinued _ (by omega) (by omega) h
    · split at hmem
      · simp only [List.mem_cons, List.not_mem_nil, or_false] at hmem
        rcases hmem with h | h | h
        · exact hcontinued _ (by omega) (by omega) h
        · exact hcontinued _ (by omega) (by omega) h
        · exact hcontinued _ (by omega) (by omega) h
      · simp only [List.mem_cons, List.not_mem_nil, or_false] at hmem
        rcases hmem with h | h | h | h
        · exact hcontinued _ (by omega) (by omega) h
        · exact hcontinued _ (by omega) (by omega) h
        · exact hcontinued _ (by omega) (by omega) h
        · exact hcontinued _ (by omega) (by omega) h

lemma mem_utf8EncodeChar_iff {c d : Char} {byte : UInt8} (hbyte : String.utf8EncodeChar d = [byte])
    (hascii : byte.toNat < 128) : byte ∈ String.utf8EncodeChar c ↔ c = d := by
  constructor
  · intro hmem
    have hc := toNat_of_mem_utf8EncodeChar hascii hmem
    have hd := toNat_of_mem_utf8EncodeChar hascii (hbyte ▸ List.mem_singleton_self byte)
    exact Char.toNat_inj.mp (hc.trans hd.symm)
  · rintro rfl
    rw [hbyte]
    exact List.mem_singleton_self byte

lemma mem_utf8_iff {s : PyStr} {d : Char} {byte : UInt8} (hbyte : String.utf8EncodeChar d = [byte])
    (hascii : byte.toNat < 128) : byte ∈ utf8 s ↔ d ∈ s := by
  unfold utf8
  rw [List.mem_flatMap]
  constructor
  · rintro ⟨c, hc, hmem⟩
    rw [(mem_utf8EncodeChar_iff hbyte hascii).mp hmem] at hc
    exact hc
  · exact fun hd => ⟨d, hd, (mem_utf8EncodeChar_iff hbyte hascii).mpr rfl⟩

@[simp] lemma utf8_nil : utf8 [] = [] := rfl

@[simp] lemma utf8_cons (c : Char) (s : PyStr) : utf8 (c :: s) = String.utf8EncodeChar c ++ utf8 s := rfl

lemma utf8_append (s t : PyStr) : utf8 (s ++ t) = utf8 s ++ utf8 t := List.flatMap_append

lemma utf8_eq_nil_iff (s : PyStr) : utf8 s = [] ↔ s = [] := by
  constructor
  · intro h
    cases s with
    | nil => rfl
    | cons c s => exact absurd (List.append_eq_nil_iff.mp h).1 String.utf8EncodeChar_ne_nil
  · rintro rfl
    rfl

lemma newline_mem_utf8EncodeChar (c : Char) : newline ∈ String.utf8EncodeChar c ↔ c = '\n' :=
  mem_utf8EncodeChar_iff rfl (by decide)

lemma mem_utf8_tab (s : PyStr) : tab ∈ utf8 s ↔ '\t' ∈ s :=
  mem_utf8_iff rfl (by decide)

lemma mem_utf8_carriageReturn (s : PyStr) : carriageReturn ∈ utf8 s ↔ '\r' ∈ s :=
  mem_utf8_iff rfl (by decide)

/-! ### Lines -/

lemma universalNewlines_eq_self {s : PyStr} (h : '\r' ∉ s) : universalNewlines s = s := by
  induction s with
  | nil => rfl
  | cons c s ih =>
    rw [List.mem_cons, not_or] at h
    have hc : c ≠ '\r' := Ne.symm h.1
    rw [universalNewlines, if_neg hc, ih h.2]
    exact fun _ hreturn => absurd hreturn hc

/-- Bytes in front of a file belong to its first line. -/
lemma getlines_front {bytes : Text} (hbytes : bytes ≠ []) (hline : newline ∉ bytes) (rest : Text) :
    getlines (bytes ++ rest) = match getlines rest with
      | [] => [bytes]
      | line :: lines => (bytes ++ line) :: lines := by
  induction bytes with
  | nil => exact absurd rfl hbytes
  | cons byte bytes ih =>
    rw [List.mem_cons, not_or] at hline
    rw [List.cons_append, getlines, if_neg (Ne.symm hline.1)]
    cases bytes with
    | nil => rfl
    | cons byte' bytes =>
      rw [ih (List.cons_ne_nil _ _) hline.2]
      cases getlines rest with
      | nil => rfl
      | cons line lines => rfl

lemma rstrip_cons {c : Char} (hreturn : c ≠ '\r') (hline : c ≠ '\n') (line : PyStr) :
    rstrip (c :: line) = c :: rstrip line := by
  unfold rstrip
  induction line using List.reverseRecOn with
  | nil => simp [List.rdropWhile_singleton, hreturn, hline]
  | append_singleton line d ih =>
    rw [← List.cons_append, List.rdropWhile_concat, List.rdropWhile_concat, ih]
    split
    · rfl
    · rfl

/-- Both readers see the same lines. -/
theorem getlines_utf8 {s : PyStr} (h : '\r' ∉ s) :
    getlines (utf8 s) = (fileLines s).map (fun rawLine => utf8 (rstrip rawLine)) := by
  induction s with
  | nil => rfl
  | cons c s ih =>
    rw [List.mem_cons, not_or] at h
    have hrest := ih h.2
    by_cases hc : c = '\n'
    · subst hc
      rw [fileLines, if_pos rfl, List.map_cons, ← hrest]
      exact getlines_append [] (utf8 s) List.not_mem_nil
    · have hline : newline ∉ String.utf8EncodeChar c := by
        rw [newline_mem_utf8EncodeChar]
        exact hc
      rw [utf8_cons, getlines_front String.utf8EncodeChar_ne_nil hline, hrest, fileLines, if_neg hc]
      cases fileLines s with
      | nil =>
        rw [List.map_nil, List.map_singleton, rstrip_cons (Ne.symm h.1) hc, utf8_cons]
        simp [rstrip]
      | cons line lines =>
        rw [List.map_cons, List.map_cons, rstrip_cons (Ne.symm h.1) hc, utf8_cons]

/-! ### Messages -/

def encodeMessage (message : PyStr × PyStr) : CachedMessage :=
  ⟨utf8 message.1, utf8 message.2⟩

lemma partitionTab_cases (line : PyStr) :
    partitionTab line = (line, false, []) ∧ parseLine (utf8 line) = none ∨
    ∃ topic payload, partitionTab line = (topic, true, payload) ∧
      parseLine (utf8 line) = some (encodeMessage (topic, payload)) := by
  by_cases htab : '\t' ∈ line
  · obtain ⟨topic, payload, rfl, hfirst⟩ := List.eq_append_cons_of_mem htab
    refine .inr ⟨topic, payload, ?_, ?_⟩
    · have hindex : (topic ++ '\t' :: payload).idxOf '\t' = topic.length := by
        rw [List.idxOf_append_of_notMem hfirst, List.idxOf_cons_self, Nat.add_zero]
      have hdrop : (topic ++ '\t' :: payload).drop (topic.length + 1) = payload := by
        rw [List.drop_append, List.drop_of_length_le (Nat.le_succ _)]
        simp
      rw [partitionTab, if_pos htab, hindex, List.take_left, hdrop]
    · have hnot : tab ∉ utf8 topic := by
        rw [mem_utf8_tab]
        exact hfirst
      rw [utf8_append, utf8_cons]
      exact parseLine_append (utf8 topic) (utf8 payload) hnot
  · refine .inl ⟨?_, ?_⟩
    · rw [partitionTab, if_neg htab]
    · rw [parseLine, if_neg]
      rw [mem_utf8_tab]
      exact htab

/-- A line that is neither blank nor malformed. -/
def ProperLine (line : Text) : Prop :=
  ∃ m, parseLine line = some m ∧ m.topic ≠ [] ∧ m.payload ≠ []

/-- What the script makes of one line. -/
lemma rawLine_cases (rawLine : PyStr) :
    (utf8 (rstrip rawLine) = [] ∧
      ∀ n lines, loadLegacyMessages n (rawLine :: lines) = loadLegacyMessages (n + 1) lines) ∨
    (utf8 (rstrip rawLine) ≠ [] ∧ ¬ProperLine (utf8 (rstrip rawLine)) ∧
      ∀ n lines, loadLegacyMessages n (rawLine :: lines) = .error (ascii "malformed cache line: " ++ decimal n)) ∨
    ∃ message, parseLine (utf8 (rstrip rawLine)) = some (encodeMessage message) ∧
      ProperLine (utf8 (rstrip rawLine)) ∧
      ∀ n lines, loadLegacyMessages n (rawLine :: lines) =
        (loadLegacyMessages (n + 1) lines).map (fun messages => message :: messages) := by
  by_cases hblank : rstrip rawLine = []
  · refine .inl ⟨(utf8_eq_nil_iff _).mpr hblank, fun n lines => ?_⟩
    rw [loadLegacyMessages, if_pos hblank]
  · have hnonempty : utf8 (rstrip rawLine) ≠ [] := mt (utf8_eq_nil_iff _).mp hblank
    refine .inr ?_
    rcases partitionTab_cases (rstrip rawLine) with ⟨hnone, hparse⟩ | ⟨topic, payload, hpartition, hparse⟩
    · refine .inl ⟨hnonempty, ?_, fun n lines => ?_⟩
      · rintro ⟨m, hm, -⟩
        rw [hparse] at hm
        cases hm
      · rw [loadLegacyMessages, if_neg hblank, hnone]
        rfl
    · by_cases hempty : (topic.isEmpty || payload.isEmpty) = true
      · refine .inl ⟨hnonempty, ?_, fun n lines => ?_⟩
        · rintro ⟨m, hm, htopic, hpayload⟩
          rw [hparse] at hm
          cases hm
          rw [Bool.or_eq_true, List.isEmpty_iff, List.isEmpty_iff] at hempty
          rcases hempty with rfl | rfl
          · exact htopic rfl
          · exact hpayload rfl
        · rw [loadLegacyMessages, if_neg hblank, hpartition]
          dsimp only
          rw [Bool.not_true, Bool.false_or, if_pos hempty]
      · refine .inr ⟨(topic, payload), hparse, ?_, fun n lines => ?_⟩
        · rw [Bool.or_eq_true, List.isEmpty_iff, List.isEmpty_iff, not_or] at hempty
          refine ⟨_, hparse, ?_, ?_⟩
          · exact mt (utf8_eq_nil_iff _).mp hempty.1
          · exact mt (utf8_eq_nil_iff _).mp hempty.2
        · rw [loadLegacyMessages, if_neg hblank, hpartition]
          dsimp only
          rw [Bool.not_true, Bool.false_or, if_neg hempty]
          cases loadLegacyMessages (n + 1) lines with
          | error error => rfl
          | ok messages => rfl

/-- What the script makes of the lines, compared with the reader of the file cache. -/
lemma loadLegacyMessages_cases (n : Nat) (lines : List PyStr) :
    (∃ message, loadLegacyMessages n lines = .error message ∧
      ∃ rawLine ∈ lines, utf8 (rstrip rawLine) ≠ [] ∧ ¬ProperLine (utf8 (rstrip rawLine))) ∨
    ∃ messages, loadLegacyMessages n lines = .ok messages ∧
      (lines.map (fun rawLine => utf8 (rstrip rawLine))).filterMap parseLine = messages.map encodeMessage ∧
      ∀ rawLine ∈ lines, utf8 (rstrip rawLine) = [] ∨ ProperLine (utf8 (rstrip rawLine)) := by
  induction lines generalizing n with
  | nil => exact .inr ⟨[], rfl, rfl, nofun⟩
  | cons rawLine lines ih =>
    rcases rawLine_cases rawLine with ⟨hblank, hload⟩ | ⟨hne, hbad, hload⟩ | ⟨message, hparse, hproper, hload⟩
    · rw [hload]
      rcases ih (n + 1) with ⟨message, hrest, bad, hmem, hwhy⟩ | ⟨messages, hrest, hmap, hall⟩
      · exact .inl ⟨message, hrest, bad, List.mem_cons_of_mem _ hmem, hwhy⟩
      · refine .inr ⟨messages, hrest, ?_, List.forall_mem_cons.mpr ⟨.inl hblank, hall⟩⟩
        rw [List.map_cons, hblank]
        exact hmap
    · exact .inl ⟨_, hload n lines, rawLine, List.mem_cons_self, hne, hbad⟩
    · rw [hload]
      rcases ih (n + 1) with ⟨error, hrest, bad, hmem, hwhy⟩ | ⟨messages, hrest, hmap, hall⟩
      · rw [hrest]
        exact .inl ⟨error, rfl, bad, List.mem_cons_of_mem _ hmem, hwhy⟩
      · rw [hrest]
        refine .inr ⟨_, rfl, ?_, List.forall_mem_cons.mpr ⟨.inr hproper, hall⟩⟩
        rw [List.map_cons, List.filterMap_cons, hparse, hmap]
        rfl

lemma run_parseLines_eq_filterMap (lines : List Text) (d : Disk) :
    (FileCache.parseLines lines).run (E := fileSignature) Disk.answer d = (lines.filterMap parseLine, d) := by
  induction lines with
  | nil => rfl
  | cons line lines ih =>
    rw [FileCache.parseLines]
    cases hparse : parseLine line with
    | none =>
      rw [Prog.run_bind, List.filterMap_cons, hparse]
      exact ih
    | some m =>
      rw [Prog.run_bind, ih, List.filterMap_cons, hparse]
      rfl

lemma run_loadAll (content : Text) (temporary : Option Text) :
    (FileCache.loadAll.run (E := fileSignature) Disk.answer ⟨some content, temporary⟩).1 =
      (getlines content).filterMap parseLine := by
  unfold FileCache.loadAll
  rw [Prog.run_bind, Prog.run_perform]
  change ((Prog.perform (E := fileSignature) .readLines >>= FileCache.parseLines).run Disk.answer _).1 = _
  rw [Prog.run_bind, run_parseLines_eq_filterMap]
  rfl

/-- What `load_all` of the file cache returns for a file. -/
def legacyMessages (content : Text) : List CachedMessage :=
  (FileCache.loadAll.run (E := fileSignature) Disk.answer ⟨some content, none⟩).1

lemma legacyMessages_eq (content : Text) : legacyMessages content = (getlines content).filterMap parseLine :=
  run_loadAll content none

end EdgeGateway
