import EdgeGateway.Proofs.LegacyFiles

/-!
# Rewriting the cache file

`replace_all` and `remove_first` on a disk where everything can fail and the process can be interrupted
between any two calls or in the middle of a write. What the rewritten file holds is decided by the rename,
and for `remove_first` by what it could read before.
-/

namespace EdgeGateway
open CallTree

/-- What `load_all` returns when nothing fails. -/
def Disk.messages (d : Disk) : List CachedMessage :=
  (FileCache.loadAll.run (E := fileSignature) Disk.answer d).1

lemma Disk.messages_eq (d : Disk) : d.messages = (getlines (d.file.getD [])).filterMap parseLine := by
  obtain ⟨file, temporary⟩ := d
  cases file with
  | none => rfl
  | some content => exact run_loadAll content temporary

lemma filterMap_parseLine_lines (queue : List CachedMessage) (h : ∀ m ∈ queue, m.Unseparated) :
    (getlines (queue.flatMap CachedMessage.line)).filterMap parseLine = queue := by
  rw [getlines_flatMap_line queue h, List.filterMap_map]
  induction queue with
  | nil => rfl
  | cons m queue ih =>
    have htab := (not_mem_of_containsSeparator (h m List.mem_cons_self).1).1
    rw [List.filterMap_cons, Function.comp, parseLine_append _ _ htab]
    exact congrArg (m :: ·) (ih (fun m' hm' => h m' (List.mem_cons_of_mem _ hm')))

/-- A disk and whether the temporary file has taken the place of the cache file. -/
structure Rewrite where
  disk : Disk
  renamed : Bool := false

/-- A disk on which the cache file is opened for reading and gives these lines, or not, and everything else
can fail. -/
def rewriteEnv (opened : Bool) (lines : List Text) : Env fileSignature Rewrite := fun w o =>
  match o with
  | .openRead => fun (answer : Bool) w' => answer = opened ∧ w' = w
  | .readLines => fun (answer : List Text) w' => answer = lines ∧ w' = w
  | .rename => fun (error : Option Text) w' =>
      diskEnv w.disk .rename error w'.disk ∧ w'.renamed = (w.renamed || error.isNone)
  | o => fun a w' => diskEnv w.disk o a w'.disk ∧ w'.renamed = w.renamed

/-- The cache file of `d` while it is replaced: untouched, or all of the messages. -/
def Rewriting (messages : List CachedMessage) (d : Disk) (w : Rewrite) : Prop :=
  if w.renamed then
    (∀ m ∈ messages, m.Unseparated) ∧ w.disk.file = some (messages.flatMap CachedMessage.line)
  else
    w.disk.file = d.file

lemma Rewriting.messages_eq {messages : List CachedMessage} {d : Disk} {w : Rewrite} (h : Rewriting messages d w) :
    w.disk.messages = if w.renamed then messages else d.messages := by
  unfold Rewriting at h
  rw [Disk.messages_eq, Disk.messages_eq]
  cases hrenamed : w.renamed with
  | false =>
    rw [hrenamed, if_neg Bool.false_ne_true] at h
    rw [if_neg Bool.false_ne_true, h]
  | true =>
    rw [hrenamed, if_pos rfl] at h
    rw [if_pos rfl, h.2]
    exact filterMap_parseLine_lines messages h.1

namespace FileCache

variable {opened : Bool} {lines : List Text} {c : FileCache} {messages : List CachedMessage}

/-- A failure is printed and returned. -/
lemma always_failure {line : Text} {I : Rewrite → Prop} {Q : Bool → Rewrite → Prop} {w : Rewrite} (hI : I w)
    (hQ : Q false w) : always (rewriteEnv opened lines) I (print line >>= fun _ => .ret false) Q w := by
  refine ⟨hI, ?_⟩
  rintro _ ⟨disk, renamed⟩ ⟨hdisk, hrenamed⟩
  obtain rfl : disk = w.disk := hdisk
  obtain rfl : renamed = w.renamed := hrenamed
  exact ⟨hI, hQ⟩

lemma always_ensureParent {I : Rewrite → Prop} {Q : Bool → Rewrite → Prop} {w : Rewrite} (hI : I w)
    (hQ : ∀ done, Q done w) : always (rewriteEnv opened lines) I c.ensureParent Q w := by
  unfold ensureParent
  split
  · refine ⟨hI, ?_⟩
    rintro error ⟨disk, renamed⟩ ⟨hdisk, hrenamed⟩
    obtain rfl : disk = w.disk := hdisk
    obtain rfl : renamed = w.renamed := hrenamed
    match error with
    | some message => exact always_failure hI (hQ false)
    | none => exact ⟨hI, hQ true⟩
  · exact ⟨hI, hQ true⟩

/-- Until the rename the cache file is untouched, from then on it holds the messages, and the result says
which of the two it is. -/
theorem always_replaceAll (c : FileCache) (messages : List CachedMessage) (d : Disk) :
    always (rewriteEnv opened lines) (Rewriting messages d) (c.replaceAll messages)
      (fun done w => w.renamed = done) ⟨d, false⟩ := by
  have hold : ∀ temporary, Rewriting messages d ⟨⟨d.file, temporary⟩, false⟩ := fun _ => rfl
  unfold replaceAll
  split
  · exact always_failure (hold _) rfl
  · rename_i hany
    have hunseparated := unseparated_of_not_any hany
    apply always_bind
    apply always_ensureParent (hold _)
    intro parent
    cases parent with
    | false => exact ⟨hold _, rfl⟩
    | true =>
      refine ⟨hold _, ?_⟩
      rintro opened' ⟨disk, renamed⟩ ⟨hdisk, hrenamed⟩
      obtain rfl : renamed = false := hrenamed
      cases opened' with
      | false =>
        obtain rfl : disk = d := hdisk
        exact always_failure (hold _) rfl
      | true =>
        obtain rfl : disk = { d with temporary := some [] } := hdisk
        refine ⟨hold _, ?_⟩
        rintro good ⟨disk, renamed⟩ ⟨⟨part, -, hgood, rfl⟩, hrenamed⟩
        obtain rfl : renamed = false := hrenamed
        cases good with
        | false => exact always_failure (hold _) rfl
        | true =>
          obtain rfl : part = messages.flatMap CachedMessage.line := hgood rfl
          refine ⟨hold _, ?_⟩
          rintro error ⟨disk, renamed⟩ ⟨hdisk, hrenamed⟩
          match error with
          | none =>
            obtain rfl : disk = ⟨some ([] ++ messages.flatMap CachedMessage.line), none⟩ := hdisk
            obtain rfl : renamed = true := hrenamed
            exact ⟨⟨hunseparated, rfl⟩, rfl⟩
          | some message =>
            obtain rfl : disk = { d with temporary := some ([] ++ messages.flatMap CachedMessage.line) } := hdisk
            obtain rfl : renamed = false := hrenamed
            refine ⟨hold _, ?_⟩
            rintro _ ⟨disk, renamed⟩ ⟨hdisk, hrenamed⟩
            obtain rfl : disk = { d with temporary := some ([] ++ messages.flatMap CachedMessage.line) } := hdisk
            obtain rfl : renamed = false := hrenamed
            refine ⟨hold _, ?_⟩
            rintro _ ⟨disk, renamed⟩ ⟨rfl | rfl, hrenamed⟩
            · obtain rfl : renamed = false := hrenamed
              exact ⟨hold _, rfl⟩
            · obtain rfl : renamed = false := hrenamed
              exact ⟨hold _, rfl⟩

/-- What the read inside `remove_first` delivers. -/
def delivered (opened : Bool) (lines : List Text) : List CachedMessage :=
  if opened then lines.filterMap parseLine else []

lemma always_parseLines {I : Rewrite → Prop} {Q : List CachedMessage → Rewrite → Prop} {w : Rewrite} (hI : I w)
    (lines' : List Text) (hQ : Q (lines'.filterMap parseLine) w) :
    always (rewriteEnv opened lines) I (parseLines lines') Q w := by
  induction lines' generalizing Q with
  | nil => exact ⟨hI, hQ⟩
  | cons line lines' ih =>
    rw [parseLines]
    cases hparse : parseLine line with
    | none =>
      rw [List.filterMap_cons, hparse] at hQ
      refine ⟨hI, ?_⟩
      rintro _ ⟨disk, renamed⟩ ⟨hdisk, hrenamed⟩
      obtain rfl : disk = w.disk := hdisk
      obtain rfl : renamed = w.renamed := hrenamed
      exact ih hQ
    | some message =>
      rw [List.filterMap_cons, hparse] at hQ
      apply always_bind
      exact ih ⟨hI, hQ⟩

lemma always_loadAll {I : Rewrite → Prop} {Q : List CachedMessage → Rewrite → Prop} {w : Rewrite} (hI : I w)
    (hQ : Q (delivered opened lines) w) : always (rewriteEnv opened lines) I loadAll Q w := by
  refine ⟨hI, ?_⟩
  rintro answer w' ⟨hanswer, rfl⟩
  obtain rfl : answer = opened := hanswer
  cases answer with
  | false => exact ⟨hI, hQ⟩
  | true =>
    refine ⟨hI, ?_⟩
    rintro answer w'' ⟨rfl, rfl⟩
    exact always_parseLines hI _ hQ

/-- The same for `remove_first`, with what is left of the messages that it read. -/
theorem always_removeFirst (c : FileCache) {count : Nat} (hcount : count ≠ 0) (d : Disk) :
    always (rewriteEnv opened lines) (Rewriting ((delivered opened lines).drop count) d) (c.removeFirst count)
      (fun done w => w.renamed = done) ⟨d, false⟩ := by
  unfold removeFirst
  rw [if_neg hcount]
  apply always_bind
  have hold : Rewriting ((delivered opened lines).drop count) d ⟨d, false⟩ := rfl
  apply always_loadAll hold
  split
  · rename_i hall
    rw [List.drop_of_length_le hall]
    exact c.always_replaceAll [] d
  · exact c.always_replaceAll _ d

/-- A disk from which the whole cache file can be read. -/
abbrev readableEnv (d : Disk) : Env fileSignature Rewrite :=
  rewriteEnv d.file.isSome (getlines (d.file.getD []))

lemma delivered_readable (d : Disk) : delivered d.file.isSome (getlines (d.file.getD [])) = d.messages := by
  rw [Disk.messages_eq]
  cases d.file with
  | none => rfl
  | some content => rfl

lemma exec_ensureParent (w : Rewrite) : Exec (rewriteEnv opened lines) c.ensureParent w true w := by
  unfold ensureParent
  split
  · refine .call (a := none) ⟨rfl, rfl⟩ ?_
    exact .ret
  · exact .ret

/-- Messages without separators can be written. -/
lemma exec_replaceAll (h : ∀ m ∈ messages, m.Unseparated) (d : Disk) :
    Exec (rewriteEnv opened lines) (c.replaceAll messages) ⟨d, false⟩ true
      ⟨⟨some (messages.flatMap CachedMessage.line), none⟩, true⟩ := by
  unfold replaceAll
  rw [if_neg (not_any_of_unseparated h)]
  apply Exec.bind (exec_ensureParent _)
  have hopen : rewriteEnv opened lines ⟨d, false⟩ .openTemporary true ⟨{ d with temporary := some [] }, false⟩ :=
    ⟨rfl, rfl⟩
  have hwrite : rewriteEnv opened lines ⟨{ d with temporary := some [] }, false⟩
      (.writeTemporary (messages.flatMap CachedMessage.line)) true
      ⟨{ d with temporary := some (messages.flatMap CachedMessage.line) }, false⟩ :=
    ⟨⟨_, List.prefix_rfl, fun _ => rfl, rfl⟩, rfl⟩
  have hrename : rewriteEnv opened lines ⟨{ d with temporary := some (messages.flatMap CachedMessage.line) }, false⟩
      .rename none ⟨⟨some (messages.flatMap CachedMessage.line), none⟩, true⟩ := ⟨rfl, rfl⟩
  exact .call hopen (.call hwrite (.call hrename .ret))

lemma exec_parseLines (w : Rewrite) (lines' : List Text) :
    Exec (rewriteEnv opened lines) (parseLines lines') w (lines'.filterMap parseLine) w := by
  induction lines' with
  | nil => exact .ret
  | cons line lines' ih =>
    rw [parseLines, List.filterMap_cons]
    cases parseLine line with
    | none => exact .call (a := ()) ⟨rfl, rfl⟩ ih
    | some message => exact Exec.bind ih .ret

lemma exec_loadAll (w : Rewrite) :
    Exec (rewriteEnv opened lines) loadAll w (delivered opened lines) w := by
  refine .call (a := opened) ⟨rfl, rfl⟩ ?_
  cases opened with
  | false => exact .ret
  | true =>
    refine .call (a := lines) ⟨rfl, rfl⟩ ?_
    exact exec_parseLines w lines

lemma exec_removeFirst {count : Nat} (hcount : count ≠ 0)
    (h : ∀ m ∈ (delivered opened lines).drop count, m.Unseparated) (d : Disk) :
    Exec (rewriteEnv opened lines) (c.removeFirst count) ⟨d, false⟩ true
      ⟨⟨some (((delivered opened lines).drop count).flatMap CachedMessage.line), none⟩, true⟩ := by
  unfold removeFirst
  rw [if_neg hcount]
  apply Exec.bind (exec_loadAll _)
  split
  · rename_i hall
    rw [List.drop_of_length_le hall] at h ⊢
    exact exec_replaceAll h d
  · exact exec_replaceAll h d

/-- Wherever `replace_all` or `remove_first` is interrupted, and whatever they return, `load_all` finds all of
the old messages or all of the new ones: the new ones if the rename took effect, and it did if and only if
the result is `true`. A write can have left any part of its bytes in the temporary file. -/
theorem rewrite_all_or_nothing (c : FileCache) (d : Disk) :
    (∀ (messages : List CachedMessage) (w : Rewrite), Reaches (readableEnv d) (c.replaceAll messages) ⟨d, false⟩ w →
      w.disk.messages = if w.renamed then messages else d.messages) ∧
    (∀ (messages : List CachedMessage) (done : Bool) (w : Rewrite),
      Exec (readableEnv d) (c.replaceAll messages) ⟨d, false⟩ done w →
      w.disk.messages = if done then messages else d.messages) ∧
    (∀ (count : Nat) (w : Rewrite), Reaches (readableEnv d) (c.removeFirst count) ⟨d, false⟩ w →
      w.disk.messages = if w.renamed then d.messages.drop (min count d.messages.length) else d.messages) ∧
    ∀ (count : Nat) (done : Bool) (w : Rewrite), Exec (readableEnv d) (c.removeFirst count) ⟨d, false⟩ done w →
      w.disk.messages = if done then d.messages.drop (min count d.messages.length) else d.messages := by
  have hmin : ∀ count, d.messages.drop (min count d.messages.length) = d.messages.drop count := by
    intro count
    rcases le_total count d.messages.length with hle | hle
    · rw [min_eq_left hle]
    · rw [min_eq_right hle, List.drop_length, List.drop_of_length_le hle]
  refine ⟨?_, ?_, ?_, ?_⟩
  · intro messages w hreach
    exact (always_reaches (c.always_replaceAll messages d) hreach).messages_eq
  · intro messages done w hexec
    obtain ⟨hrewriting, hdone⟩ := always_exec (c.always_replaceAll messages d) hexec
    rw [hrewriting.messages_eq, hdone]
  · intro count w hreach
    rw [hmin]
    by_cases hcount : count = 0
    · subst hcount
      unfold removeFirst at hreach
      rw [if_pos rfl] at hreach
      cases hreach
      rw [List.drop_zero, ite_self]
    · have hrewriting := (always_reaches (c.always_removeFirst hcount d) hreach).messages_eq
      rwa [delivered_readable] at hrewriting
  · intro count done w hexec
    rw [hmin]
    by_cases hcount : count = 0
    · subst hcount
      unfold removeFirst at hexec
      rw [if_pos rfl] at hexec
      cases hexec
      rw [List.drop_zero, ite_self]
    · obtain ⟨hrewriting, hdone⟩ := always_exec (c.always_removeFirst hcount d) hexec
      rw [hrewriting.messages_eq, hdone, delivered_readable]

/-- Two messages in the cache file. -/
def twoMessages : Disk :=
  ⟨some (ascii "a\tx\nb\ty\n"), none⟩

/-- The same with a temporary file that an earlier life has left. -/
def leftOver : Disk :=
  { twoMessages with temporary := some (ascii "left") }

/-- The write of another list is cut after two bytes and both messages are still there. Then the first of them is
removed. -/
theorem rewrite_all_or_nothing_cut :
    ∃ w w' : Rewrite,
      Exec (readableEnv leftOver) (replaceAll ⟨ascii "cache.txt"⟩ [⟨ascii "c", ascii "z"⟩]) ⟨leftOver, false⟩
        false w ∧
      w.disk.temporary = some (ascii "c\t") ∧ w.disk.messages = leftOver.messages ∧
      Exec (readableEnv w.disk) (removeFirst ⟨ascii "cache.txt"⟩ 1) ⟨w.disk, false⟩ true w' ∧
      w'.disk.messages = w.disk.messages.drop (min 1 w.disk.messages.length) := by
  let cut : Disk := ⟨leftOver.file, some (ascii "c\t")⟩
  have hopen : readableEnv leftOver ⟨leftOver, false⟩ .openTemporary true
      ⟨⟨leftOver.file, some []⟩, false⟩ := ⟨rfl, rfl⟩
  have hwrite : readableEnv leftOver ⟨⟨leftOver.file, some []⟩, false⟩ (.writeTemporary (ascii "c\tz\n")) false
      ⟨cut, false⟩ := ⟨⟨ascii "c\t", by decide, nofun, rfl⟩, rfl⟩
  have hreplace : Exec (readableEnv leftOver) (replaceAll ⟨ascii "cache.txt"⟩ [⟨ascii "c", ascii "z"⟩])
      ⟨leftOver, false⟩ false ⟨cut, false⟩ :=
    .call hopen (.call hwrite (.call (a := ()) ⟨rfl, rfl⟩ .ret))
  have hremove : Exec (readableEnv cut) (removeFirst ⟨ascii "cache.txt"⟩ 1) ⟨cut, false⟩ true
      ⟨⟨some (ascii "b\ty\n"), none⟩, true⟩ := by
    apply exec_removeFirst (by decide)
    intro m hm
    obtain rfl : m = ⟨ascii "b", ascii "y"⟩ := List.mem_singleton.mp hm
    exact ⟨rfl, rfl⟩
  obtain ⟨-, hall, -, -⟩ := rewrite_all_or_nothing ⟨ascii "cache.txt"⟩ leftOver
  obtain ⟨-, -, -, hrest⟩ := rewrite_all_or_nothing ⟨ascii "cache.txt"⟩ cut
  exact ⟨_, _, hreplace, rfl, hall _ _ _ hreplace, hremove, hrest _ _ _ hremove⟩

/-! ### Reads that fail -/

/-- What a read delivers is the front of the messages. -/
lemma delivered_front {d : Disk} (hlines : lines <+: getlines (d.file.getD [])) :
    delivered opened lines <+: d.messages := by
  unfold delivered
  rw [Disk.messages_eq]
  cases opened with
  | false => exact List.nil_prefix
  | true => exact hlines.filterMap parseLine

/-- A removal keeps every message beyond the first `count`, however its writes end, if and only if there is
nothing to remove, or no message beyond them, or the read delivered all messages, or what it delivered
cannot be written. -/
theorem removeFirst_keeps_rest_iff (c : FileCache) (d : Disk) (count : Nat) (opened : Bool) (lines : List Text)
    (hlines : lines <+: getlines (d.file.getD [])) :
    (∀ (done : Bool) (w : Rewrite), Exec (rewriteEnv opened lines) (c.removeFirst count) ⟨d, false⟩ done w →
      (d.messages.drop count).Sublist w.disk.messages) ↔
    count = 0 ∨ d.messages.length ≤ count ∨ (delivered opened lines).length = d.messages.length ∨
      ∃ m ∈ (delivered opened lines).drop count, ¬m.Unseparated := by
  have hfront : delivered opened lines <+: d.messages := delivered_front hlines
  constructor
  · intro hkeeps
    by_contra hcondition
    simp only [not_or, not_exists, not_and, not_not, not_le] at hcondition
    obtain ⟨hcount, hmore, hmissing, hunseparated⟩ := hcondition
    have hsublist := hkeeps true _ (exec_removeFirst hcount hunseparated d)
    rw [Disk.messages_eq ⟨_, none⟩, Option.getD_some, filterMap_parseLine_lines _ hunseparated] at hsublist
    have hlength := hsublist.length_le
    have hfewer := hfront.length_le
    rw [List.length_drop, List.length_drop] at hlength
    omega
  · intro hcondition done w hexec
    by_cases hcount : count = 0
    · subst hcount
      unfold removeFirst at hexec
      rw [if_pos rfl] at hexec
      cases hexec
      exact List.drop_sublist 0 _
    · obtain ⟨hrewriting, -⟩ := always_exec (c.always_removeFirst hcount d) hexec
      rw [hrewriting.messages_eq]
      cases hrenamed : w.renamed with
      | false => exact List.drop_sublist count _
      | true =>
        have hdrop : d.messages.drop count = (delivered opened lines).drop count := by
          rcases hcondition with hzero | hfew | hall | ⟨m, hm, hseparated⟩
          · exact absurd hzero hcount
          · have hfewer := hfront.length_le
            rw [List.drop_of_length_le hfew, List.drop_of_length_le (by omega)]
          · rw [hfront.eq_of_length hall]
          · unfold Rewriting at hrewriting
            rw [hrenamed, if_pos rfl] at hrewriting
            exact absurd (hrewriting.1 m hm) hseparated
        rw [hdrop]
        exact List.Sublist.refl _

theorem removeFirst_keeps_rest_iff_readable :
    (∀ (done : Bool) (w : Rewrite),
      Exec (readableEnv twoMessages) (removeFirst ⟨ascii "cache.txt"⟩ 1) ⟨twoMessages, false⟩ done w →
      (twoMessages.messages.drop 1).Sublist w.disk.messages) ↔
    1 = 0 ∨ twoMessages.messages.length ≤ 1 ∨
      (delivered true (getlines (ascii "a\tx\nb\ty\n"))).length = twoMessages.messages.length ∨
      ∃ m ∈ (delivered true (getlines (ascii "a\tx\nb\ty\n"))).drop 1, ¬m.Unseparated :=
  removeFirst_keeps_rest_iff ⟨ascii "cache.txt"⟩ twoMessages 1 true _ List.prefix_rfl

/-- One of two messages is removed while the cache file cannot be opened, and both are gone. -/
theorem removeFirst_discards_rest :
    ¬∀ (c : FileCache) (d : Disk) (count : Nat) (opened : Bool) (lines : List Text),
      lines <+: getlines (d.file.getD []) → ∀ (done : Bool) (w : Rewrite),
      Exec (rewriteEnv opened lines) (c.removeFirst count) ⟨d, false⟩ done w →
      (d.messages.drop count).Sublist w.disk.messages := by
  intro hclaim
  have hsublist := hclaim ⟨ascii "cache.txt"⟩ twoMessages 1 false [] List.nil_prefix true _
    (exec_removeFirst (by decide) (by simp [delivered]) twoMessages)
  have hlength := hsublist.length_le
  rw [Disk.messages_eq, Disk.messages_eq] at hlength
  revert hlength
  decide

end FileCache

end EdgeGateway
