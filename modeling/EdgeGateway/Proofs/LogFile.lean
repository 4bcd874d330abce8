import EdgeGateway.Model.Logger
import EdgeGateway.Proofs.HttpRequests

/-!
# The log file

Threads share one logger. However they take turns, the log file holds one whole line for each message that is logged,
and the lines of each thread are in its own order. A write that fails, or an end of the process in the middle of one,
cuts the file off inside of the next line at the latest.
-/

namespace EdgeGateway
open CallTree

/-- The log file on the disk, and what its stream keeps in memory. A stream that has failed writes nothing more. -/
structure LogFile where
  disk : Text
  pending : Text := []
  failed : Bool := false

/-- Some of the text of a stream reaches the disk, and the rest stays in memory, or is lost when the stream fails. -/
def LogFile.Written (all : Text) (f f' : LogFile) : Prop :=
  ∃ n, f'.disk = f.disk ++ all.take n ∧ f'.pending = if f'.failed then [] else all.drop n

def logFileEnv : Env logSignature LogFile := fun f o =>
  match o with
  | .append text => fun _ f' => if f.failed then f' = f else f.Written (f.pending ++ text) f'
  | .flush => fun _ f' => if f.failed then f' = f else f.Written f.pending f' ∧ (f'.failed = false → f'.pending = [])
  | _ => fun _ f' => f' = f

structure LogMessage where
  level : LogLevel
  module : Text
  message : Text

/-- A message that has been logged. -/
structure LogEntry extends LogMessage where
  time : LocalTime

def LogEntry.line (e : LogEntry) : Text :=
  Logger.line e.time e.level e.module e.message

/-- The text of some messages in the log file. -/
def logText (entries : List LogEntry) : Text :=
  entries.flatMap (fun e => e.line ++ ascii "\n")

lemma logText_append (entries : List LogEntry) (e : LogEntry) :
    logText (entries ++ [e]) = logText entries ++ (e.line ++ ascii "\n") := by
  simp [logText]

/-! ### One message -/

/-- The file and its stream hold this text, as far as nothing has failed. -/
structure LogFile.Holds (text : Text) (f : LogFile) : Prop where
  isPrefix : f.disk ++ f.pending <+: text
  whole : f.failed = false → f.disk ++ f.pending = text

namespace LogFile.Holds

variable {text : Text} {f f' : LogFile}

lemma disk (h : f.Holds text) : f.disk <+: text :=
  (List.prefix_append _ _).trans h.isPrefix

lemma written {all : Text} (hall : f.disk ++ all = text) (h : LogFile.Written all f f') : f'.Holds text := by
  obtain ⟨n, hdisk, hpending⟩ := h
  cases hfailed : f'.failed with
  | false =>
    have htext : f'.disk ++ f'.pending = text := by
      rw [hdisk, hpending, hfailed, if_neg Bool.false_ne_true, List.append_assoc, List.take_append_drop, hall]
    exact ⟨htext ▸ List.prefix_rfl, fun _ => htext⟩
  | true =>
    rw [hfailed, if_pos rfl] at hpending
    refine ⟨?_, fun h => nomatch hfailed.symm.trans h⟩
    rw [hdisk, hpending, List.append_nil, ← hall]
    exact (List.prefix_append_right_inj f.disk).mpr (List.take_prefix n all)

lemma append (h : f.Holds text) {more : Text} (hcall : logFileEnv f (.append more) () f') :
    f'.Holds (text ++ more) := by
  change if f.failed then f' = f else LogFile.Written (f.pending ++ more) f f' at hcall
  cases hfailed : f.failed with
  | false =>
    rw [hfailed, if_neg Bool.false_ne_true] at hcall
    apply written _ hcall
    rw [← List.append_assoc, h.whole hfailed]
  | true =>
    rw [hfailed, if_pos rfl] at hcall
    rw [hcall]
    exact ⟨h.isPrefix.trans (List.prefix_append _ _), fun hf => nomatch hfailed.symm.trans hf⟩

lemma flush (h : f.Holds text) (hcall : logFileEnv f .flush () f') :
    f'.Holds text ∧ (f'.failed = false → f'.pending = []) := by
  change if f.failed then f' = f else LogFile.Written f.pending f f' ∧ (f'.failed = false → f'.pending = []) at hcall
  cases hfailed : f.failed with
  | false =>
    rw [hfailed, if_neg Bool.false_ne_true] at hcall
    exact ⟨written (h.whole hfailed) hcall.1, hcall.2⟩
  | true =>
    rw [hfailed, if_pos rfl] at hcall
    rw [hcall]
    exact ⟨h, fun hf => nomatch hfailed.symm.trans hf⟩

end LogFile.Holds

/-- The file holds this text, and nothing is kept in memory. -/
structure LogFile.Rests (text : Text) (f : LogFile) : Prop extends f.Holds text where
  flushed : f.failed = false → f.pending = []

/-- The file ends inside of the next line at the latest. -/
def LogFile.Torn (text : Text) (f : LogFile) : Prop :=
  ∃ e : LogEntry, f.disk <+: text ++ (e.line ++ ascii "\n")

lemma LogFile.Holds.torn {text part : Text} {f : LogFile} (h : f.Holds part) (e : LogEntry)
    (hpart : part <+: text ++ (e.line ++ ascii "\n")) : f.Torn text :=
  ⟨e, h.disk.trans hpart⟩

/-- The console is not the log file. -/
lemma always_print {I : LogFile → Prop} {f : LogFile} (hf : I f) (level : LogLevel) (text : Text) :
    always logFileEnv I
      (if level = .warn ∨ level = .error then do
        Logger.perform (.printError text)
        Logger.perform (.printError (ascii "\n"))
      else do
        Logger.perform (.printOut text)
        Logger.perform (.printOut (ascii "\n"))) (fun _ f' => f' = f) f := by
  split
  · refine ⟨hf, ?_⟩
    rintro _ _ rfl
    refine ⟨hf, ?_⟩
    rintro _ _ rfl
    exact ⟨hf, rfl⟩
  · refine ⟨hf, ?_⟩
    rintro _ _ rfl
    refine ⟨hf, ?_⟩
    rintro _ _ rfl
    exact ⟨hf, rfl⟩

/-- A line is written to the file in two parts, and then the stream is emptied. -/
lemma always_append {text : Text} {f : LogFile} (hf : f.Holds text) (e : LogEntry) :
    always logFileEnv (LogFile.Torn text) (do
      Logger.perform (.append e.line)
      Logger.perform (.append (ascii "\n"))
      Logger.perform .flush
      Logger.perform .flush) (fun _ f' => f'.Rests (text ++ (e.line ++ ascii "\n"))) f := by
  have hline : text ++ e.line <+: text ++ (e.line ++ ascii "\n") :=
    (List.prefix_append_right_inj text).mpr (List.prefix_append _ _)
  refine ⟨hf.torn e (List.prefix_append _ _), fun _ f₁ hcall₁ => ?_⟩
  have hf₁ := hf.append hcall₁
  refine ⟨hf₁.torn e hline, fun _ f₂ hcall₂ => ?_⟩
  have hf₂ := hf₁.append hcall₂
  rw [List.append_assoc] at hf₂
  refine ⟨hf₂.torn e List.prefix_rfl, fun _ f₃ hcall₃ => ?_⟩
  have hf₃ := (hf₂.flush hcall₃).1
  refine ⟨hf₃.torn e List.prefix_rfl, fun _ f₄ hcall₄ => ?_⟩
  obtain ⟨hf₄, hflushed⟩ := hf₃.flush hcall₄
  exact ⟨hf₄.torn e List.prefix_rfl, hf₄, hflushed⟩

/-- One message is one line, and at any moment of it a part of the line is in the file. -/
lemma always_record {l : Logger} (hopen : l.fileIsOpen = true) (m : LogMessage) {text : Text} {f : LogFile}
    (hf : f.Holds text) :
    always logFileEnv (LogFile.Torn text) (l.record m.level m.module m.message)
      (fun _ f' => ∃ time, f'.Rests (text ++ ((⟨m, time⟩ : LogEntry).line ++ ascii "\n"))) f := by
  have htorn : f.Torn text := hf.torn ⟨m, ⟨0, 0, 0, 0, 0, 0, 0⟩⟩ (List.prefix_append _ _)
  unfold Logger.record
  rw [hopen]
  apply always_bind
  refine ⟨htorn, ?_⟩
  rintro time _ rfl
  refine ⟨htorn, ?_⟩
  apply always_bind
  apply always_mono _ (always_print htorn m.level (Logger.line time m.level m.module m.message))
  rintro _ _ rfl
  exact always_mono _ (always_append hf ⟨m, time⟩) (fun _ _ h => ⟨time, h⟩)

lemma always_work {l : Logger} (hopen : l.fileIsOpen = true) (m : LogMessage) {text : Text} {f : LogFile}
    (hf : f.Holds text) (messages : List LogMessage) :
    always logFileEnv (LogFile.Torn text) (l.record m.level m.module m.message >>= fun _ => .ret messages)
      (fun r f' => r = messages ∧ ∃ time, f'.Rests (text ++ ((⟨m, time⟩ : LogEntry).line ++ ascii "\n"))) f := by
  apply always_bind
  apply always_mono _ (always_record hopen m hf)
  intro _ f' hrests
  obtain ⟨time, hf'⟩ := hrests
  exact ⟨⟨_, hf'.disk⟩, rfl, time, hf'⟩

/-! ### Many threads -/

section

variable {ι : Type} {l : Logger} {start : Text}

/-- The messages that the logger does not drop. -/
def Logger.passes (l : Logger) (m : LogMessage) : Bool :=
  !(m.level.toInt < l.minimumLevel.toInt)

/-- A thread logs a message. Its state is the list of the messages that it was to log. -/
def Logger.begins (l : Logger) (_ : ι) (messages : List LogMessage) (_ : Monitor ι LogFile)
    (p : Prog (lockSignature logSignature) (List LogMessage)) : Prop :=
  ∃ m : LogMessage, p = l.write m.level m.module m.message >>= fun _ => .ret (messages ++ [m])

def Logger.works (l : Logger) (_ : ι) (messages : List LogMessage) (p : LogCall (List LogMessage)) : Prop :=
  ∃ m : LogMessage, l.passes m = true ∧
    p = l.record m.level m.module m.message >>= fun _ => .ret (messages ++ [m])

def Logger.skips (l : Logger) (_ : ι) (messages messages' : List LogMessage) : Prop :=
  ∃ m : LogMessage, l.passes m = false ∧ messages' = messages ++ [m]

/-- All that a thread does with the file, it does under the mutex. -/
lemma Logger.begins_locked {i : ι} {messages : List LogMessage} {w : Monitor ι LogFile}
    {p : Prog (lockSignature logSignature) (List LogMessage)} (h : l.begins i messages w p) :
    Atomic.Begins l.works l.skips i messages w p := by
  obtain ⟨m, rfl⟩ := h
  unfold Logger.write
  by_cases hbelow : m.level.toInt < l.minimumLevel.toInt
  · rw [if_pos hbelow]
    exact .skip ⟨m, by simp [Logger.passes, hbelow], rfl⟩
  · rw [if_neg hbelow, locked_map]
    exact .work ⟨m, by simp [Logger.passes, hbelow], rfl⟩

variable [DecidableEq ι]

/-- The messages of one thread. -/
def messagesOf (i : ι) (entries : List (ι × LogEntry)) : List LogMessage :=
  (ofThread i entries).map LogEntry.toLogMessage

lemma messagesOf_append_self (i : ι) (entries : List (ι × LogEntry)) (e : LogEntry) :
    messagesOf i (entries ++ [(i, e)]) = messagesOf i entries ++ [e.toLogMessage] := by
  simp [messagesOf, ofThread_append_self]

lemma messagesOf_append_of_ne {i j : ι} (hne : j ≠ i) (entries : List (ι × LogEntry)) (e : LogEntry) :
    messagesOf i (entries ++ [(j, e)]) = messagesOf i entries := by
  simp [messagesOf, ofThread_append_of_ne hne]

/-- The file holds one line for each message of each thread. -/
structure Logged (l : Logger) (start : Text) (A : Atomic ι (List LogMessage) LogFile)
    (entries : List (ι × LogEntry)) : Prop where
  own : ∀ i, messagesOf i entries = (A.thread i).filter l.passes
  file : A.resource.Rests (start ++ logText (entries.map Prod.snd))

/-- Nothing has been logged. -/
def unwritten (start : Text) : Atomic ι (List LogMessage) LogFile :=
  ⟨fun _ => [], { disk := start }⟩

lemma logged_unwritten : Logged l start (unwritten start : Atomic ι (List LogMessage) LogFile) [] where
  own := fun _ => rfl
  file := ⟨⟨by simp [unwritten, logText], by simp [unwritten, logText]⟩, fun _ => rfl⟩

variable {A A' : Atomic ι (List LogMessage) LogFile} {entries : List (ι × LogEntry)}

lemma Logged.skip (h : Logged l start A entries) (i : ι) {m : LogMessage} (hm : l.passes m = false) :
    Logged l start ⟨Function.update A.thread i (A.thread i ++ [m]), A.resource⟩ entries where
  own := by
    intro j
    by_cases hji : j = i
    · subst hji
      simp [h.own, hm]
    · simp [h.own, Function.update_of_ne hji]
  file := h.file

lemma Logged.work (h : Logged l start A entries) (i : ι) {m : LogMessage} (hm : l.passes m = true)
    {time : LocalTime} {f : LogFile}
    (hf : f.Rests (start ++ logText (entries.map Prod.snd) ++ ((⟨m, time⟩ : LogEntry).line ++ ascii "\n"))) :
    Logged l start ⟨Function.update A.thread i (A.thread i ++ [m]), f⟩ (entries ++ [(i, ⟨m, time⟩)]) where
  own := by
    intro j
    by_cases hji : j = i
    · subst hji
      simp [messagesOf_append_self, h.own, hm]
    · rw [messagesOf_append_of_ne (Ne.symm hji), h.own j]
      simp only [Function.update_of_ne hji]
  file := by
    rw [List.append_assoc] at hf
    rw [List.map_append, List.map_singleton, logText_append]
    exact hf

lemma Logged.step (hopen : l.fileIsOpen = true) (h : Logged l start A entries)
    (hstep : Atomic.Step logFileEnv l.works l.skips A A') : ∃ entries', Logged l start A' entries' := by
  cases hstep with
  | skip i hskips =>
    obtain ⟨m, hm, rfl⟩ := hskips
    exact ⟨entries, h.skip i hm⟩
  | work i hworks hexec =>
    obtain ⟨m, hm, rfl⟩ := hworks
    obtain ⟨rfl, time, hf⟩ := (always_exec (always_work hopen m h.file.toHolds _) hexec).2
    exact ⟨_, h.work i hm hf⟩

lemma exists_logged (hopen : l.fileIsOpen = true) (h : Logged l start A entries)
    (hrun : Relation.ReflTransGen (Atomic.Step logFileEnv l.works l.skips) A A') :
    ∃ entries', Logged l start A' entries' := by
  induction hrun with
  | refl => exact ⟨entries, h⟩
  | tail _ hstep ih =>
    obtain ⟨_, hlogged⟩ := ih
    exact hlogged.step hopen hstep

/-- While a thread is in the middle of a message, a part of its line is in the file. -/
lemma Logged.torn (hopen : l.fileIsOpen = true) (h : Logged l start A entries)
    {T : Threads ι (lockSignature logSignature) (List LogMessage) (Monitor ι LogFile)}
    (hmirrors : Atomic.Mirrors logFileEnv l.works A T) :
    T.world.resource.Torn (start ++ logText (entries.map Prod.snd)) := by
  cases howner : T.world.owner with
  | none =>
    rw [hmirrors.free howner]
    exact h.file.toHolds.torn ⟨⟨.debug, [], []⟩, ⟨0, 0, 0, 0, 0, 0, 0⟩⟩ (List.prefix_append _ _)
  | some i =>
    obtain ⟨_, _, ⟨m, _, rfl⟩, _, hreach⟩ := hmirrors.holder howner
    exact always_reaches (always_work hopen m h.file.toHolds _) (hreach _ .here)

end

/-! ### The lines are read back -/

def readLevel (name : Text) : Option LogLevel :=
  [.debug, .info, .warn, .error].find? (fun level => level.name = name)

/-- The time at the beginning of a line, and what follows it. -/
def readTime (line : Text) : Option (LocalTime × Text) := do
  let (year, line) ← Delimited.cut (ascii "-") line
  let (month, line) ← Delimited.cut (ascii "-") line
  let (day, line) ← Delimited.cut (ascii " ") line
  let (hour, line) ← Delimited.cut (ascii ":") line
  let (minute, line) ← Delimited.cut (ascii ":") line
  let (second, line) ← Delimited.cut (ascii ".") line
  let (millisecond, line) ← Delimited.cut (ascii " [") line
  return (⟨← Delimited.number year, ← Delimited.number month, ← Delimited.number day, ← Delimited.number hour,
    ← Delimited.number minute, ← Delimited.number second, ← Delimited.number millisecond⟩, line)

def readLine (line : Text) : Option LogEntry := do
  let (time, line) ← readTime line
  let (level, line) ← Delimited.cut (ascii "] [") line
  let (module, message) ← Delimited.cut (ascii "] ") line
  return ⟨⟨← readLevel level, module, message⟩, time⟩

def readLog (text : Text) : Option (List LogEntry) := do
  let lines ← Delimited.records (ascii "\n") text.length text
  lines.mapM readLine

/-- The module does not end the brackets around it, and the message does not end its line. -/
structure LogMessage.Plain (m : LogMessage) : Prop where
  module_bracket : 93 ∉ m.module
  module_newline : 10 ∉ m.module
  message_newline : 10 ∉ m.message

lemma number_zeroFilled (width n : Nat) : Delimited.number (Logger.zeroFilled width n) = some n :=
  Delimited.number_zeros (number_decimal n) _

lemma not_mem_zeroFilled {byte : UInt8} (hbyte : byte < 48 ∨ 57 < byte) (width n : Nat) :
    byte ∉ Logger.zeroFilled width n := by
  unfold Logger.zeroFilled
  rw [List.mem_append, not_or]
  refine ⟨fun hmem => ?_, not_mem_decimal hbyte n⟩
  rw [List.eq_of_mem_replicate hmem] at hbyte
  revert hbyte
  decide

lemma readTime_timestamp (t : LocalTime) (rest : Text) :
    readTime (Logger.timestamp t ++ (ascii " [" ++ rest)) = some (t, rest) := by
  have hcut : ∀ (byte : UInt8), byte < 48 ∨ 57 < byte → ∀ (sep : Text) (width n : Nat) (rest : Text),
      Delimited.cut (byte :: sep) (Logger.zeroFilled width n ++ (byte :: sep ++ rest)) =
        some (Logger.zeroFilled width n, rest) :=
    fun _ hbyte _ width n rest => Delimited.cut_append (not_mem_zeroFilled hbyte width n) rest
  have hyear : ∀ rest, Delimited.cut [45] (decimal t.year ++ ([45] ++ rest)) = some (decimal t.year, rest) :=
    fun rest => Delimited.cut_append (not_mem_decimal (by decide) t.year) rest
  have hdash : ascii "-" = [45] := rfl
  have hspace : ascii " " = [32] := rfl
  have hcolon : ascii ":" = [58] := rfl
  have hdot : ascii "." = [46] := rfl
  have hbracket : ascii " [" = [32, 91] := rfl
  unfold readTime Logger.timestamp
  simp only [hdash, hspace, hcolon, hdot, hbracket, List.append_assoc]
  rw [hyear, Option.bind_eq_bind, Option.bind_some]
  dsimp only
  rw [hcut 45 (by decide), Option.bind_eq_bind, Option.bind_some]
  simp only [hcut 32 (by decide), hcut 58 (by decide), hcut 46 (by decide), Option.bind_some, number_decimal,
    number_zeroFilled]
  rfl

lemma readLevel_name (level : LogLevel) : readLevel level.name = some level := by
  cases level <;> rfl

lemma readLine_line {e : LogEntry} (he : e.Plain) : readLine e.line = some e := by
  have hlevel : ∀ rest,
      Delimited.cut (ascii "] [") (e.level.name ++ (ascii "] [" ++ rest)) = some (e.level.name, rest) := by
    intro rest
    apply Delimited.cut_append
    cases e.level <;> decide
  have hmodule : ∀ rest, Delimited.cut (ascii "] ") (e.module ++ (ascii "] " ++ rest)) = some (e.module, rest) :=
    fun rest => Delimited.cut_append he.module_bracket rest
  have hline : e.line = Logger.timestamp e.time ++ (ascii " [" ++ (e.level.name ++ (ascii "] [" ++
      (e.module ++ (ascii "] " ++ e.message))))) := by
    have hboth : ascii "]" ++ ascii " [" = ascii "] [" := rfl
    rw [← hboth]
    simp only [LogEntry.line, Logger.line, List.append_assoc]
  unfold readLine
  rw [hline, readTime_timestamp, Option.bind_eq_bind, Option.bind_some]
  dsimp only
  rw [hlevel, Option.bind_eq_bind, Option.bind_some]
  dsimp only
  rw [hmodule, Option.bind_some]
  dsimp only
  rw [readLevel_name]
  rfl

lemma not_mem_timestamp (t : LocalTime) : 10 ∉ Logger.timestamp t := by
  have hyear : 10 ∉ decimal t.year := not_mem_decimal (by decide) t.year
  have hnumber : ∀ width n, 10 ∉ Logger.zeroFilled width n := not_mem_zeroFilled (by decide)
  have htext : 10 ∉ ascii "-" ∧ 10 ∉ ascii " " ∧ 10 ∉ ascii ":" ∧ 10 ∉ ascii "." := by decide
  simp only [Logger.timestamp, List.mem_append, not_or]
  exact ⟨⟨⟨⟨⟨⟨⟨⟨⟨⟨⟨⟨hyear, htext.1⟩, hnumber _ _⟩, htext.1⟩, hnumber _ _⟩, htext.2.1⟩, hnumber _ _⟩, htext.2.2.1⟩,
    hnumber _ _⟩, htext.2.2.1⟩, hnumber _ _⟩, htext.2.2.2⟩, hnumber _ _⟩

lemma not_mem_line {e : LogEntry} (he : e.Plain) : 10 ∉ e.line := by
  have hlevel : 10 ∉ e.level.name := by
    cases e.level <;> decide
  have htext : 10 ∉ ascii " [" ∧ 10 ∉ ascii "]" ∧ 10 ∉ ascii "] " := by decide
  simp only [LogEntry.line, Logger.line, List.mem_append, not_or]
  exact ⟨⟨⟨⟨⟨⟨⟨not_mem_timestamp e.time, htext.1⟩, hlevel⟩, htext.2.1⟩, htext.1⟩, he.module_newline⟩, htext.2.2⟩,
    he.message_newline⟩

lemma mapM_readLine {entries : List LogEntry} (h : ∀ e ∈ entries, e.Plain) :
    (entries.map LogEntry.line).mapM readLine = some entries := by
  induction entries with
  | nil => rfl
  | cons e entries ih =>
    rw [List.forall_mem_cons] at h
    rw [List.map_cons, List.mapM_cons, readLine_line h.1, ih h.2]
    rfl

/-- The log file says what was logged. -/
lemma readLog_logText {entries : List LogEntry} (h : ∀ e ∈ entries, e.Plain) :
    readLog (logText entries) = some entries := by
  have htext : logText entries = (entries.map LogEntry.line).flatMap (fun line => line ++ [10]) := by
    rw [List.flatMap_map]
    rfl
  have hlength : (entries.map LogEntry.line).length ≤ (logText entries).length := by
    clear htext h
    induction entries with
    | nil => exact Nat.le_refl 0
    | cons e entries ih =>
      simp only [logText, List.map_cons, List.flatMap_cons, List.length_cons, List.length_append] at ih ⊢
      have hnewline : (ascii "\n").length = 1 := rfl
      omega
  have hlines : ∀ line ∈ entries.map LogEntry.line, 10 ∉ line := by
    intro line hline
    obtain ⟨e, he, rfl⟩ := List.mem_map.mp hline
    exact not_mem_line (h e he)
  have hrecords : Delimited.records (ascii "\n") (logText entries).length (logText entries) =
      some (entries.map LogEntry.line) := by
    rw [htext] at hlength ⊢
    exact Delimited.records_flatMap hlines hlength
  unfold readLog
  rw [hrecords]
  exact mapM_readLine h

/-! ### The log file of a run -/

/-- Threads under the mutex of the logger. -/
abbrev Logger.Run {ι : Type} [DecidableEq ι] (l : Logger) :
    Threads ι (lockSignature logSignature) (List LogMessage) (Monitor ι LogFile) →
    Threads ι (lockSignature logSignature) (List LogMessage) (Monitor ι LogFile) → Prop :=
  Relation.ReflTransGen (Threads.Step (lockEnv logFileEnv) l.begins (fun _ _ => False))

lemma logFileEnv_answers (f : LogFile) (o : LogOp) : ∃ a f', logFileEnv f o a f' := by
  cases o with
  | now => exact ⟨⟨0, 0, 0, 0, 0, 0, 0⟩, f, rfl⟩
  | printOut text => exact ⟨(), f, rfl⟩
  | printError text => exact ⟨(), f, rfl⟩
  | append text =>
    cases hfailed : f.failed with
    | false =>
      refine ⟨(), ⟨f.disk, f.pending ++ text, false⟩, ?_⟩
      simp only [logFileEnv, hfailed]
      exact ⟨0, by simp⟩
    | true => exact ⟨(), f, by simp only [logFileEnv, hfailed, if_true]⟩
  | flush =>
    cases hfailed : f.failed with
    | false =>
      refine ⟨(), ⟨f.disk ++ f.pending, [], false⟩, ?_⟩
      simp only [logFileEnv, hfailed]
      exact ⟨⟨f.pending.length, by simp⟩, fun _ => trivial⟩
    | true => exact ⟨(), f, by simp only [logFileEnv, hfailed, if_true]⟩

/-- What the file holds when some messages have been logged. -/
structure HoldsLines {ι : Type} [DecidableEq ι] (l : Logger) (start : Text)
    (T : Threads ι (lockSignature logSignature) (List LogMessage) (Monitor ι LogFile))
    (entries : List (ι × LogEntry)) : Prop where
  own : ∀ i messages, T.thread i = .between messages → messagesOf i entries = messages.filter l.passes
  torn : T.world.resource.Torn (start ++ logText (entries.map Prod.snd))
  whole : T.world.owner = none → T.world.resource.failed = false →
    T.world.resource.disk = start ++ logText (entries.map Prod.snd)
  read_back : (∀ e ∈ entries, e.2.Plain) → readLog (logText (entries.map Prod.snd)) = some (entries.map Prod.snd)

/-- However the threads take turns, each message is a line of its own in the file, in the order of its thread. -/
theorem log_file_holds_lines {ι : Type} [DecidableEq ι] {l : Logger} (hopen : l.fileIsOpen = true) {start : Text}
    {T : Threads ι (lockSignature logSignature) (List LogMessage) (Monitor ι LogFile)}
    (hrun : l.Run ⟨fun _ => .between [], ⟨none, { disk := start }⟩⟩ T) :
    (∃ entries, HoldsLines l start T entries) ∧ ∃ T', l.Run T T' ∧ T'.world.owner = none := by
  have hlocked := Relation.ReflTransGen.mono
    (fun _ _ hstep => Threads.Step.mono (fun _ _ _ _ => Logger.begins_locked) hstep) _ _ hrun
  obtain ⟨A, hreach, hmirrors⟩ := Atomic.exists_mirror (unwritten start) hlocked
  obtain ⟨entries, hlogged⟩ := exists_logged hopen logged_unwritten hreach
  refine ⟨⟨entries, ?_, hlogged.torn hopen hmirrors, ?_, ?_⟩, hmirrors.exists_free logFileEnv_answers _ _⟩
  · intro i messages hi
    rw [hlogged.own i, hmirrors.between hi]
  · intro hfree hfailed
    rw [hmirrors.free hfree] at hfailed ⊢
    have hwhole := hlogged.file.whole hfailed
    rw [hlogged.file.flushed hfailed, List.append_nil] at hwhole
    exact hwhole
  · intro hplain
    apply readLog_logText
    intro e he
    obtain ⟨e', he', rfl⟩ := List.mem_map.mp he
    exact hplain e' he'

/-- A reading below the level of the logger, a stopped server and a lost broker. -/
def someMessages (i : Bool) (logged : Nat) : Option LogMessage :=
  match i, logged with
  | true, 0 => some ⟨.info, ascii "http", ascii "server stopped"⟩
  | true, 1 => some ⟨.info, ascii "app", ascii "shutdown requested"⟩
  | false, 0 => some ⟨.debug, ascii "serial", ascii "raw bytes"⟩
  | false, 1 => some ⟨.error, ascii "mqtt", ascii "connection lost"⟩
  | _, _ => none

/-- The disk has room for seventy bytes. -/
def fullDisk (f : LogFile) : (o : LogOp) → Option (o.Ans × LogFile)
  | .now => some (⟨2024, 1, 31, 23, 59, 59, 7⟩, f)
  | .printOut _ => some ((), f)
  | .printError _ => some ((), f)
  | .append text => some ((), if f.failed then f else ⟨f.disk, f.pending ++ text, false⟩)
  | .flush => some ((),
    if f.failed then f
    else if (f.disk ++ f.pending).length ≤ 70 then ⟨f.disk ++ f.pending, [], false⟩
    else ⟨f.disk ++ f.pending.take (70 - f.disk.length), [], true⟩)

lemma logFileEnv_of_fullDisk (f : LogFile) (o : LogOp) (a : o.Ans) (f' : LogFile)
    (h : fullDisk f o = some (a, f')) : logFileEnv f o a f' := by
  cases o with
  | now | printOut | printError =>
    cases h
    exact rfl
  | append text =>
    cases h
    unfold logFileEnv
    cases hfailed : f.failed with
    | true => exact rfl
    | false => exact ⟨0, by simp⟩
  | flush =>
    cases h
    unfold logFileEnv
    cases hfailed : f.failed with
    | true => exact rfl
    | false =>
      simp only [Bool.false_eq_true, if_false]
      split_ifs
      · exact ⟨⟨f.pending.length, by simp⟩, fun _ => rfl⟩
      · exact ⟨⟨70 - f.disk.length, by simp⟩, nofun⟩

/-- A logger that drops the readings. -/
def someLogger : Logger where
  minimumLevel := .info

/-- Two threads that log these messages to a file with a line in it. -/
def fullDiskRun (schedule : List Bool) :
    Option (Threads Bool (lockSignature logSignature) (List LogMessage) (Monitor Bool LogFile)) :=
  Threads.follow (fun i => lockAnswer fullDisk i)
    (fun i messages _ => (someMessages i messages.length).map (fun m =>
      someLogger.write m.level m.module m.message >>= fun _ => .ret (messages ++ [m])))
    schedule ⟨fun _ => .between [], ⟨none, { disk := ascii "started\n" }⟩⟩

/-- One thread waits for the mutex while the other one logs, and then the other way round. -/
def fullDiskSchedule : List Bool :=
  List.replicate 4 true ++ List.replicate 3 false ++ List.replicate 7 true ++ [false, true] ++
  List.replicate 9 false ++ List.replicate 10 true

/-- One message is a line of the file, the next one is cut off, and the one after it is lost. -/
theorem log_file_holds_lines_full_disk :
    ∃ T : Threads Bool (lockSignature logSignature) (List LogMessage) (Monitor Bool LogFile),
      T.world.resource.disk =
        ascii "started
2024-01-31 23:59:59.007 [INFO] [http] server stopped
2024-01-3" ∧
      (∃ messages, T.thread true = .between messages ∧ messages.length = 2) ∧
      (∃ messages, T.thread false = .between messages ∧ messages.length = 2) ∧
      (∃ entries, HoldsLines someLogger (ascii "started
") T entries) ∧
      ∃ T', someLogger.Run T T' ∧ T'.world.owner = none := by
  have hresult : (fullDiskRun fullDiskSchedule).map (fun T => (T.world.resource.disk,
      (T.thread true).rest?.map List.length, (T.thread false).rest?.map List.length)) =
        some (ascii "started
2024-01-31 23:59:59.007 [INFO] [http] server stopped
2024-01-3", some 2, some 2) := by
    decide +kernel
  obtain ⟨T, hfollow, heq⟩ := Option.map_eq_some_iff.mp hresult
  simp only [Prod.mk.injEq] at heq
  obtain ⟨hdisk, htrue, hfalse⟩ := heq
  obtain ⟨served, hserved, hcount⟩ := Option.map_eq_some_iff.mp htrue
  obtain ⟨logged, hlogged, hcount'⟩ := Option.map_eq_some_iff.mp hfalse
  have hrun : someLogger.Run ⟨fun _ => .between [], ⟨none, { disk := ascii "started
" }⟩⟩ T := by
    apply Threads.run_of_follow _ _ hfollow
    · intro i w o a w' hanswer
      exact lockEnv_of_answer logFileEnv_of_fullDisk hanswer
    · intro i messages w p hp
      obtain ⟨m, -, rfl⟩ := Option.map_eq_some_iff.mp hp
      exact ⟨m, rfl⟩
  exact ⟨T, hdisk, ⟨served, Thread.eq_between hserved, hcount⟩, ⟨logged, Thread.eq_between hlogged, hcount'⟩,
    log_file_holds_lines rfl hrun⟩

end EdgeGateway
