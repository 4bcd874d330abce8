import EdgeGateway.Proofs.FileRewrites

/-!
# Appends that are cut short

Any series of appends to an empty cache file, each of which can fail or be interrupted after a part of its
line is in the file. A line that was cut short is completed by the next append, so that what becomes of a
message depends on how the file ended before it.
-/

namespace EdgeGateway
open CallTree

/-- The file is empty or ends with a newline. -/
def Terminated (content : Text) : Prop :=
  content = [] ∨ ∃ lines, content = lines ++ [newline]

/-! ### Lines of a terminated file -/

lemma getlines_ne_nil {content : Text} (h : content ≠ []) : getlines content ≠ [] := by
  cases content with
  | nil => exact absurd rfl h
  | cons byte rest =>
    rw [getlines]
    split
    · exact List.cons_ne_nil _ _
    · split
      · exact List.cons_ne_nil _ _
      · exact List.cons_ne_nil _ _

lemma getlines_append_of_newline (content rest : Text) :
    getlines (content ++ newline :: rest) = getlines (content ++ [newline]) ++ getlines rest := by
  induction content with
  | nil => simp [getlines]
  | cons byte content ih =>
    rw [List.cons_append, List.cons_append, getlines, getlines, ih]
    by_cases hbyte : byte = newline
    · rw [if_pos hbyte, if_pos hbyte, List.cons_append]
    · rw [if_neg hbyte, if_neg hbyte]
      have hsome := getlines_ne_nil (List.append_ne_nil_of_right_ne_nil content (List.cons_ne_nil newline []))
      cases hlines : getlines (content ++ [newline]) with
      | nil => exact absurd hlines hsome
      | cons line lines => rfl

lemma Terminated.getlines_append {content : Text} (h : Terminated content) (rest : Text) :
    getlines (content ++ rest) = getlines content ++ getlines rest := by
  rcases h with rfl | ⟨lines, rfl⟩
  · rfl
  · rw [List.append_assoc]
    exact getlines_append_of_newline lines rest

/-- Every file is whole lines and the beginning of another one. -/
lemma exists_whole_lines (content : Text) :
    ∃ whole tail, content = whole ++ tail ∧ Terminated whole ∧ newline ∉ tail := by
  induction content using List.reverseRecOn with
  | nil => exact ⟨[], [], rfl, .inl rfl, List.not_mem_nil⟩
  | append_singleton content byte ih =>
    by_cases hbyte : byte = newline
    · subst hbyte
      exact ⟨content ++ [newline], [], (List.append_nil _).symm, .inr ⟨content, rfl⟩, List.not_mem_nil⟩
    · obtain ⟨whole, tail, rfl, hwhole, htail⟩ := ih
      refine ⟨whole, tail ++ [byte], List.append_assoc _ _ _, hwhole, ?_⟩
      simp [htail, Ne.symm hbyte]

lemma terminated_append_line (content : Text) (m : CachedMessage) : Terminated (content ++ m.line) :=
  .inr ⟨content ++ (m.topic ++ tab :: m.payload), by simp [m.line_eq]⟩

lemma not_terminated_of_tail {whole tail : Text} (hnil : tail ≠ []) (htail : newline ∉ tail) :
    ¬Terminated (whole ++ tail) := by
  rintro (hempty | ⟨lines, heq⟩)
  · exact hnil (List.append_eq_nil_iff.mp hempty).2
  · have hlast := congrArg List.getLast? heq
    rw [List.getLast?_append_of_ne_nil _ hnil, List.getLast?_concat] at hlast
    exact htail (List.mem_of_getLast? hlast)

/-- The line of a message after the beginning of another one. -/
lemma Terminated.getlines_append_line {whole tail : Text} (hwhole : Terminated whole) (htail : newline ∉ tail)
    {m : CachedMessage} (hm : m.Unseparated) :
    getlines (whole ++ tail ++ m.line) = getlines whole ++ [tail ++ (m.topic ++ tab :: m.payload)] := by
  have hline : newline ∉ tail ++ (m.topic ++ tab :: m.payload) := by
    rw [List.mem_append, not_or]
    exact ⟨htail, hm.newline_notMem⟩
  rw [List.append_assoc, hwhole.getlines_append, m.line_eq, ← List.append_assoc]
  exact congrArg (getlines whole ++ ·) (EdgeGateway.getlines_append _ [] hline)

/-! ### One append -/

/-- The file of `d` with a part of the line of `m` at its end. -/
def Extended (m : CachedMessage) (d d' : Disk) : Prop :=
  ∃ part, part <+: m.line ∧ (part ≠ [] → m.Unseparated) ∧ d'.file.getD [] = d.file.getD [] ++ part

lemma extended_same {m : CachedMessage} {d d' : Disk} (h : d'.file.getD [] = d.file.getD []) : Extended m d d' :=
  ⟨[], List.nil_prefix, fun h => absurd rfl h, by rw [h, List.append_nil]⟩

namespace FileCache

lemma always_failure_disk {line : Text} {I : Disk → Prop} {Q : Bool → Disk → Prop} {d : Disk} (hI : I d)
    (hQ : Q false d) : always diskEnv I (print line >>= fun _ => .ret false) Q d := by
  refine ⟨hI, ?_⟩
  rintro _ _ rfl
  exact ⟨hI, hQ⟩

/-- An append that returns `true` has written the whole line, any other at most a part of it. -/
theorem always_append (c : FileCache) (m : CachedMessage) (d : Disk) :
    always diskEnv (Extended m d) (c.append m.topic m.payload) (fun done d' =>
      done = true → m.Unseparated ∧ d'.file.getD [] = d.file.getD [] ++ m.line) d := by
  have hsame : Extended m d d := extended_same rfl
  unfold append
  split
  · exact always_failure_disk hsame nofun
  · rename_i hseparator
    rw [Bool.or_eq_true, not_or, Bool.not_eq_true, Bool.not_eq_true] at hseparator
    apply always_bind
    have hparent : always diskEnv (Extended m d) c.ensureParent (fun _ d' => d' = d) d := by
      unfold ensureParent
      split
      · refine ⟨hsame, ?_⟩
        rintro error _ rfl
        match error with
        | some message => exact always_failure_disk hsame rfl
        | none => exact ⟨hsame, rfl⟩
      · exact ⟨hsame, rfl⟩
    apply always_mono _ hparent
    rintro parent _ rfl
    cases parent with
    | false => exact ⟨hsame, nofun⟩
    | true =>
      refine ⟨hsame, ?_⟩
      rintro opened d₁ hopened
      cases opened with
      | false =>
        obtain rfl : d₁ = _ := hopened
        exact always_failure_disk hsame nofun
      | true =>
        obtain rfl : d₁ = _ := hopened
        refine ⟨extended_same rfl, ?_⟩
        rintro good d₂ ⟨part, hpart, hgood, rfl⟩
        refine ⟨⟨part, hpart, fun _ => hseparator, rfl⟩, fun hdone => ⟨hseparator, ?_⟩⟩
        rw [hgood hdone]
        rfl

end FileCache

/-! ### Runs of appends -/

/-- The disks after a series of appends to an empty cache, with the messages whose append returned `true`.
An append returns, or it is interrupted between two of its calls; a write that fails or is interrupted has
put any part of the line into the file. `allowed` says on which disks an append may return `true`. -/
inductive Appends (c : FileCache) (allowed : Disk → Prop) : Disk → List CachedMessage → Prop where
  | fresh {d : Disk} : d.file.getD [] = [] → Appends c allowed d []
  | stored {d d' : Disk} {stored : List CachedMessage} {m : CachedMessage} : Appends c allowed d stored →
      allowed d → Exec diskEnv (c.append m.topic m.payload) d true d' → Appends c allowed d' (stored ++ [m])
  | failed {d d' : Disk} {stored : List CachedMessage} {m : CachedMessage} : Appends c allowed d stored →
      Exec diskEnv (c.append m.topic m.payload) d false d' → Appends c allowed d' stored
  | interrupted {d d' : Disk} {stored : List CachedMessage} {m : CachedMessage} : Appends c allowed d stored →
      Reaches diskEnv (c.append m.topic m.payload) d d' → Appends c allowed d' stored

/-- The stored messages are on whole lines of the file. -/
structure Kept (stored : List CachedMessage) (content : Text) : Prop where
  lines : ∃ whole tail, content = whole ++ tail ∧ Terminated whole ∧ newline ∉ tail ∧
    stored.Sublist ((getlines whole).filterMap parseLine)

namespace Kept

variable {stored : List CachedMessage} {content : Text} {m : CachedMessage}

lemma sublist (h : Kept stored content) : stored.Sublist ((getlines content).filterMap parseLine) := by
  obtain ⟨whole, tail, rfl, hwhole, -, hsublist⟩ := h.lines
  rw [hwhole.getlines_append, List.filterMap_append]
  exact hsublist.trans (List.sublist_append_left _ _)

/-- A part of a line at the end of the file does no harm to the whole lines. -/
lemma extend (h : Kept stored content) {part : Text} (hpart : part <+: m.line)
    (hunseparated : part ≠ [] → m.Unseparated) : Kept stored (content ++ part) := by
  obtain ⟨whole, tail, rfl, hwhole, htail, hsublist⟩ := h.lines
  by_cases hnil : part = []
  · subst hnil
    exact ⟨whole, tail, List.append_nil _, hwhole, htail, hsublist⟩
  · have hm := hunseparated hnil
    rw [m.line_eq, List.prefix_concat_iff] at hpart
    rcases hpart with rfl | hpart
    · -- the whole line: it ends the line that was begun
      rw [← m.line_eq]
      refine ⟨whole ++ tail ++ m.line, [], (List.append_nil _).symm, terminated_append_line _ m,
        List.not_mem_nil, ?_⟩
      rw [hwhole.getlines_append_line htail hm, List.filterMap_append]
      exact hsublist.trans (List.sublist_append_left _ _)
    · refine ⟨whole, tail ++ part, List.append_assoc _ _ _, hwhole, ?_, hsublist⟩
      rw [List.mem_append, not_or]
      exact ⟨htail, fun hmem => hm.newline_notMem (hpart.subset hmem)⟩

lemma store (h : Kept stored content) (hterminated : Terminated content) (hm : m.Unseparated) :
    Kept (stored ++ [m]) (content ++ m.line) := by
  have htab := (not_mem_of_containsSeparator hm.1).1
  have hlines := hterminated.getlines_append_line List.not_mem_nil hm
  rw [List.append_nil, List.nil_append] at hlines
  refine ⟨content ++ m.line, [], (List.append_nil _).symm, terminated_append_line _ m, List.not_mem_nil, ?_⟩
  rw [hlines, List.filterMap_append, List.filterMap_cons, parseLine_append _ _ htab]
  exact h.sublist.append_right [m]

end Kept

lemma Appends.kept {c : FileCache} {d : Disk} {stored : List CachedMessage}
    (h : Appends c (fun d => Terminated (d.file.getD [])) d stored) : Kept stored (d.file.getD []) := by
  induction h with
  | fresh hempty =>
    rw [hempty]
    exact ⟨[], [], rfl, .inl rfl, List.not_mem_nil, List.Sublist.refl []⟩
  | stored _ hterminated hexec ih =>
    obtain ⟨-, hwritten⟩ := always_exec (c.always_append _ _) hexec
    obtain ⟨hm, hcontent⟩ := hwritten rfl
    rw [hcontent]
    exact ih.store hterminated hm
  | failed _ hexec ih =>
    obtain ⟨⟨part, hpart, hm, hcontent⟩, -⟩ := always_exec (c.always_append _ _) hexec
    rw [hcontent]
    exact ih.extend hpart hm
  | interrupted _ hreach ih =>
    obtain ⟨part, hpart, hm, hcontent⟩ := always_reaches (c.always_append _ _) hreach
    rw [hcontent]
    exact ih.extend hpart hm

/-- A line that was begun by another message does not give this one back. -/
lemma parseLine_torn {tail : Text} (htail : tail ≠ []) {m : CachedMessage} (hm : m.Unseparated) :
    ∃ other, parseLine (tail ++ (m.topic ++ tab :: m.payload)) = some other ∧ other ≠ m := by
  by_cases htab : tab ∈ tail
  · obtain ⟨topic, rest, rfl, htopic⟩ := List.eq_append_cons_of_mem htab
    refine ⟨⟨topic, rest ++ (m.topic ++ tab :: m.payload)⟩, ?_, ?_⟩
    · rw [List.append_assoc, List.cons_append, parseLine_append _ _ htopic]
    · intro heq
      have hpayload : rest ++ (m.topic ++ tab :: m.payload) = m.payload := congrArg CachedMessage.payload heq
      apply (not_mem_of_containsSeparator hm.2).1
      rw [← hpayload]
      simp
  · have htopic : tab ∉ tail ++ m.topic := by
      rw [List.mem_append, not_or]
      exact ⟨htab, (not_mem_of_containsSeparator hm.1).1⟩
    refine ⟨⟨tail ++ m.topic, m.payload⟩, ?_, ?_⟩
    · rw [← List.append_assoc, parseLine_append _ _ htopic]
    · intro heq
      have hsame : tail ++ m.topic = m.topic := congrArg CachedMessage.topic heq
      exact htail (List.append_left_eq_self.mp hsame)

/-- As long as no append returns `true` on a file that ends in the middle of a line, the messages whose
append returned `true` are all there, unchanged and in order. And an append that returns `true` has put its
message at the end of the queue if and only if the file did not end in the middle of a line. -/
theorem appends_keep_stored (c : FileCache) :
    (∀ (d : Disk) (stored : List CachedMessage), Appends c (fun d => Terminated (d.file.getD [])) d stored →
      stored.Sublist d.messages) ∧
    ∀ (d d' : Disk) (m : CachedMessage), Exec diskEnv (c.append m.topic m.payload) d true d' →
      (d'.messages.getLast? = some m ↔ Terminated (d.file.getD [])) := by
  constructor
  · intro d stored hrun
    rw [Disk.messages_eq]
    exact hrun.kept.sublist
  · intro d d' m hexec
    obtain ⟨-, hwritten⟩ := always_exec (c.always_append m d) hexec
    obtain ⟨hm, hcontent⟩ := hwritten rfl
    obtain ⟨whole, tail, hsplit, hwhole, htail⟩ := exists_whole_lines (d.file.getD [])
    rw [Disk.messages_eq, hcontent, hsplit, hwhole.getlines_append_line htail hm, List.filterMap_append]
    by_cases hnil : tail = []
    · subst hnil
      have htab := (not_mem_of_containsSeparator hm.1).1
      rw [List.append_nil, List.nil_append, List.filterMap_cons, parseLine_append _ _ htab]
      simp [hwhole]
    · obtain ⟨other, hparse, hother⟩ := parseLine_torn hnil hm
      rw [List.filterMap_cons, hparse]
      simp only [List.filterMap_nil, List.getLast?_append, List.getLast?_singleton, Option.some_or,
        Option.some.injEq, hother, false_iff]
      exact not_terminated_of_tail hnil htail

/-- The file after five appends. The first left nothing behind and returned `false`, the third wrote its line and
returned `false` all the same, and the last was interrupted after a byte. -/
theorem appends_keep_stored_two :
    Appends ⟨ascii "cache.txt"⟩ (fun d => Terminated (d.file.getD [])) ⟨some (ascii "b\ty\nc\tz\nd\tw\ne"), none⟩
      [⟨ascii "b", ascii "y"⟩, ⟨ascii "d", ascii "w"⟩] ∧
    List.Sublist [⟨ascii "b", ascii "y"⟩, ⟨ascii "d", ascii "w"⟩]
      (Disk.messages ⟨some (ascii "b\ty\nc\tz\nd\tw\ne"), none⟩) := by
  have hrun : Appends ⟨ascii "cache.txt"⟩ (fun d => Terminated (d.file.getD []))
      ⟨some (ascii "b\ty\nc\tz\nd\tw\ne"), none⟩ [⟨ascii "b", ascii "y"⟩, ⟨ascii "d", ascii "w"⟩] := by
    have hempty : Appends ⟨ascii "cache.txt"⟩ (fun d => Terminated (d.file.getD [])) ⟨none, none⟩ [] := .fresh rfl
    have hfirst := hempty.failed
      (FileCache.exec_append _ _ (m := ⟨ascii "a", ascii "x"⟩) [] false ⟨rfl, rfl⟩ List.nil_prefix nofun)
    have hsecond := hfirst.stored (.inl rfl)
      (FileCache.exec_append _ _ (m := ⟨ascii "b", ascii "y"⟩) _ true ⟨rfl, rfl⟩ List.prefix_rfl (fun _ => rfl))
    have hthird := hsecond.failed
      (FileCache.exec_append _ _ (m := ⟨ascii "c", ascii "z"⟩) _ false ⟨rfl, rfl⟩ List.prefix_rfl nofun)
    have hfourth := hthird.stored (.inr ⟨ascii "b\ty\nc\tz", rfl⟩)
      (FileCache.exec_append _ _ (m := ⟨ascii "d", ascii "w"⟩) _ true ⟨rfl, rfl⟩ List.prefix_rfl (fun _ => rfl))
    have hopen : diskEnv ⟨some (ascii "b\ty\nc\tz\nd\tw\n"), none⟩ .openAppend true
        ⟨some (ascii "b\ty\nc\tz\nd\tw\n"), none⟩ := rfl
    have hcut : diskEnv ⟨some (ascii "b\ty\nc\tz\nd\tw\n"), none⟩ (.append (ascii "e\tv\n")) false
        ⟨some (ascii "b\ty\nc\tz\nd\tw\ne"), none⟩ := ⟨ascii "e", by decide, nofun, rfl⟩
    exact hfourth.interrupted (m := ⟨ascii "e", ascii "v"⟩) (.call hopen (.call hcut .here))
  exact ⟨hrun, (appends_keep_stored ⟨ascii "cache.txt"⟩).1 _ _ hrun⟩

/-! ### A topic that was cut short -/

/-- The cache file after `a` of a topic was written. -/
def cutShort : Disk :=
  ⟨some (ascii "a"), none⟩

/-- An append that fails after the first byte. -/
lemma exec_append_cut : Exec diskEnv (FileCache.append ⟨ascii "cache.txt"⟩ (ascii "a") (ascii "x")) ⟨none, none⟩ false
    cutShort :=
  FileCache.exec_append _ ⟨none, none⟩ (m := ⟨ascii "a", ascii "x"⟩) (ascii "a") false ⟨rfl, rfl⟩ (by decide) nofun

/-- The next one, which returns `true`. -/
lemma exec_append_after : Exec diskEnv (FileCache.append ⟨ascii "cache.txt"⟩ (ascii "b") (ascii "y")) cutShort true
    ⟨some (ascii "ab\ty\n"), none⟩ :=
  FileCache.exec_append _ cutShort (m := ⟨ascii "b", ascii "y"⟩) _ true ⟨rfl, rfl⟩ List.prefix_rfl (fun _ => rfl)

/-- The message `b` was stored, and `load_all` returns `ab` in its place. -/
theorem appends_lose_stored :
    ¬∀ (c : FileCache) (d : Disk) (stored : List CachedMessage), Appends c (fun _ => True) d stored →
      stored.Sublist d.messages := by
  intro hclaim
  have hrun : Appends ⟨ascii "cache.txt"⟩ (fun _ => True) ⟨some (ascii "ab\ty\n"), none⟩
      ([] ++ [⟨ascii "b", ascii "y"⟩]) :=
    .stored (.failed (m := ⟨ascii "a", ascii "x"⟩) (.fresh rfl) exec_append_cut) trivial exec_append_after
  have hsublist := hclaim _ _ _ hrun
  rw [Disk.messages_eq] at hsublist
  revert hsublist
  decide

end EdgeGateway
