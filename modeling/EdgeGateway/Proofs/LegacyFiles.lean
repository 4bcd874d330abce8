import EdgeGateway.Proofs.LegacyReaders

/-!
# What a legacy file can hold

Any series of calls of `append` and `replace_all` on a disk where everything can fail, also in the middle of
a write. Neither function ever writes a carriage return, so that only the bytes of the messages decide what
the file holds.
-/

namespace EdgeGateway
open CallTree

/-- A disk on which every operation can fail. A failed write may have written a part of its bytes. -/
def diskEnv : Env fileSignature Disk := fun d o =>
  match o with
  | .createDirectories => fun _ d' => d' = d
  | .openAppend => fun (opened : Bool) d' => d' = if opened then { d with file := some (d.file.getD []) } else d
  | .append bytes => fun (good : Bool) d' => ∃ part, part <+: bytes ∧ (good → part = bytes) ∧
      d' = { d with file := some (d.file.getD [] ++ part) }
  | .openRead => fun (opened : Bool) d' => (opened → d.file.isSome) ∧ d' = d
  | .readLines => fun (lines : List Text) d' => lines = getlines (d.file.getD []) ∧ d' = d
  | .openTemporary => fun (opened : Bool) d' => d' = if opened then { d with temporary := some [] } else d
  | .writeTemporary bytes => fun (good : Bool) d' => ∃ part, part <+: bytes ∧ (good → part = bytes) ∧
      d' = { d with temporary := some (d.temporary.getD [] ++ part) }
  | .rename => fun (error : Option Text) d' => d' = if error.isNone then ⟨d.temporary, none⟩ else d
  | .removeTemporary => fun _ d' => d' = d ∨ d' = { d with temporary := none }
  | .print _ => fun _ d' => d' = d

def CachedMessage.NulFree (m : CachedMessage) : Prop :=
  0 ∉ m.topic ∧ 0 ∉ m.payload

/-- The disks that the file cache can leave behind. -/
inductive LegacyDisk (c : FileCache) : Disk → Prop where
  | fresh : LegacyDisk c ⟨none, none⟩
  | append {d d' : Disk} {m : CachedMessage} {done : Bool} : LegacyDisk c d → m.NulFree →
      Exec diskEnv (c.append m.topic m.payload) d done d' → LegacyDisk c d'
  | replaceAll {d d' : Disk} {messages : List CachedMessage} {done : Bool} : LegacyDisk c d →
      (∀ m ∈ messages, m.NulFree) → Exec diskEnv (c.replaceAll messages) d done d' → LegacyDisk c d'

/-- No carriage return and no NUL. -/
def Clean (text : Text) : Prop :=
  carriageReturn ∉ text ∧ 0 ∉ text

structure Disk.Clean (d : Disk) : Prop where
  file : EdgeGateway.Clean (d.file.getD [])
  temporary : EdgeGateway.Clean (d.temporary.getD [])

lemma clean_nil : Clean [] :=
  ⟨List.not_mem_nil, List.not_mem_nil⟩

lemma Clean.append {s t : Text} (hs : Clean s) (ht : Clean t) : Clean (s ++ t) := by
  unfold Clean
  rw [List.mem_append, List.mem_append, not_or, not_or]
  exact ⟨⟨hs.1, ht.1⟩, hs.2, ht.2⟩

lemma Clean.part {s t : Text} (ht : Clean t) (h : s <+: t) : Clean s :=
  ⟨fun hmem => ht.1 (h.subset hmem), fun hmem => ht.2 (h.subset hmem)⟩

lemma clean_line {m : CachedMessage} (htopic : containsSeparator m.topic = false)
    (hpayload : containsSeparator m.payload = false) (hnul : m.NulFree) : Clean m.line := by
  have hreturn : ∀ text, containsSeparator text = false → carriageReturn ∉ text := by
    intro text h
    simp only [containsSeparator, Bool.or_eq_false_iff, decide_eq_false_iff_not] at h
    exact h.2
  have htab : Clean [tab] := ⟨by decide, by decide⟩
  have hnewline : Clean [newline] := ⟨by decide, by decide⟩
  have htopic : Clean m.topic := ⟨hreturn _ htopic, hnul.1⟩
  have hpayload : Clean m.payload := ⟨hreturn _ hpayload, hnul.2⟩
  exact ((htopic.append htab).append hpayload).append hnewline

namespace FileCache

variable {c : FileCache} {d d' : Disk}

/-- A failure is printed and returned. -/
lemma wp_failure {line : Text} {Q : Bool → Disk → Prop} (hd : Q false d) :
    wp diskEnv (print line >>= fun _ => .ret false) Q d := by
  rintro _ _ rfl
  exact hd

lemma wp_ensureParent {Q : Bool → Disk → Prop} (hd : ∀ done, Q done d) : wp diskEnv c.ensureParent Q d := by
  unfold ensureParent
  split
  · rintro error _ rfl
    match error with
    | some message => exact wp_failure (hd false)
    | none => exact hd true
  · exact hd true

lemma wp_append {m : CachedMessage} (hnul : m.NulFree) (hd : d.Clean) :
    wp diskEnv (c.append m.topic m.payload) (fun _ => Disk.Clean) d := by
  unfold append
  split
  · exact wp_failure hd
  · rename_i hseparator
    rw [Bool.or_eq_true, not_or, Bool.not_eq_true, Bool.not_eq_true] at hseparator
    rw [wp_bind]
    apply wp_ensureParent
    intro parent
    cases parent with
    | false => exact hd
    | true =>
      intro opened d₁ hopened
      cases opened with
      | false =>
        obtain rfl : d₁ = d := hopened
        exact wp_failure hd
      | true =>
        obtain rfl : d₁ = { d with file := some (d.file.getD []) } := hopened
        rintro good d₂ ⟨part, hpart, -, rfl⟩
        have hpart := (clean_line hseparator.1 hseparator.2 hnul).part hpart
        exact ⟨hd.file.append hpart, hd.temporary⟩

/-- An append that finds its file writes all or a part of its line. -/
lemma exec_append (c : FileCache) (d : Disk) {m : CachedMessage} (part : Text) (good : Bool) (hm : m.Unseparated)
    (hpart : part <+: m.line) (hgood : good → part = m.line) :
    Exec diskEnv (c.append m.topic m.payload) d good { d with file := some (d.file.getD [] ++ part) } := by
  have hparent : Exec diskEnv c.ensureParent d true d := by
    unfold ensureParent
    split
    · exact .call (a := none) rfl .ret
    · exact .ret
  have hopen : diskEnv d .openAppend true { d with file := some (d.file.getD []) } := rfl
  have hwrite : diskEnv { d with file := some (d.file.getD []) } (.append m.line) good
      { d with file := some (d.file.getD [] ++ part) } := ⟨part, hpart, hgood, rfl⟩
  unfold append
  rw [hm.1, hm.2, Bool.or_false, if_neg Bool.false_ne_true]
  exact Exec.bind hparent (.call hopen (.call hwrite .ret))

lemma clean_flatMap_line {messages : List CachedMessage} (hnul : ∀ m ∈ messages, m.NulFree)
    (hseparator : ∀ m ∈ messages, m.Unseparated) :
    EdgeGateway.Clean (messages.flatMap CachedMessage.line) := by
  induction messages with
  | nil => exact clean_nil
  | cons m messages ih =>
    rw [List.forall_mem_cons] at hnul hseparator
    exact (clean_line hseparator.1.1 hseparator.1.2 hnul.1).append (ih hnul.2 hseparator.2)

lemma wp_replaceAll {messages : List CachedMessage} (hnul : ∀ m ∈ messages, m.NulFree) (hd : d.Clean) :
    wp diskEnv (c.replaceAll messages) (fun _ => Disk.Clean) d := by
  unfold replaceAll
  split
  · exact wp_failure hd
  · rename_i hany
    have hseparator := unseparated_of_not_any hany
    rw [wp_bind]
    apply wp_ensureParent
    intro parent
    cases parent with
    | false => exact hd
    | true =>
      intro opened d₁ hopened
      cases opened with
      | false =>
        obtain rfl : d₁ = d := hopened
        exact wp_failure hd
      | true =>
        obtain rfl : d₁ = { d with temporary := some [] } := hopened
        rintro good d₂ ⟨part, hpart, -, rfl⟩
        have hpart := (clean_flatMap_line hnul hseparator).part hpart
        have hd₂ : Disk.Clean { d with temporary := some ([] ++ part) } := ⟨hd.file, hpart⟩
        cases good with
        | false => exact wp_failure hd₂
        | true =>
          intro error d₃ hrenamed
          match error with
          | none =>
            obtain rfl : d₃ = ⟨some ([] ++ part), none⟩ := hrenamed
            exact ⟨hpart, clean_nil⟩
          | some message =>
            obtain rfl : d₃ = { d with temporary := some ([] ++ part) } := hrenamed
            rintro _ _ rfl _ d₄ (rfl | rfl)
            · exact hd₂
            · exact ⟨hd.file, clean_nil⟩

end FileCache

/-- Whatever failed, a legacy file has no carriage return and no NUL. -/
theorem LegacyDisk.clean {c : FileCache} {d : Disk} (h : LegacyDisk c d) : d.Clean := by
  induction h with
  | fresh => exact ⟨clean_nil, clean_nil⟩
  | append _ hnul hexec ih => exact (wp_iff_exec _ _ _ _).mp (FileCache.wp_append hnul ih) _ _ hexec
  | replaceAll _ hnul hexec ih => exact (wp_iff_exec _ _ _ _).mp (FileCache.wp_replaceAll hnul ih) _ _ hexec

end EdgeGateway
