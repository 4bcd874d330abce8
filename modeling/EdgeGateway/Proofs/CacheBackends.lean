import EdgeGateway.Model.FileCache
import EdgeGateway.Proofs.SqliteRows

/-!
# The two cache back ends

Without failures both caches answer as a queue does, the SQLite one as long as the texts it reads back
have a length that fits an `int`.
-/

namespace EdgeGateway
open CallTree

inductive CacheCall where
  | append (message : CachedMessage)
  | removeFirst (count : Nat)
  | loadAll

inductive CacheReply where
  | done (success : Bool)
  | messages (list : List CachedMessage)
deriving DecidableEq

/-- The answer of a queue and the queue after it. -/
def CacheCall.queue (queue : List CachedMessage) : CacheCall → CacheReply × List CachedMessage
  | .append m => (.done true, queue ++ [m])
  | .removeFirst count => (.done true, queue.drop count)
  | .loadAll => (.messages queue, queue)

/-- The replies to a series of calls, of a cache in which one call is answered by `step`. -/
def replies {C : Type} (step : C → CacheCall → CacheReply × C) : C → List CacheCall → List CacheReply
  | _, [] => []
  | c, call :: calls => (step c call).1 :: replies step (step c call).2 calls

def queueReplies : List CachedMessage → List CacheCall → List CacheReply :=
  replies CacheCall.queue

/-! ### The file cache on a disk where nothing fails -/

/-- The cache file and the temporary file. -/
structure Disk where
  file : Option Text
  temporary : Option Text

def Disk.answer (d : Disk) : (o : FileOp) → o.Ans × Disk
  | .createDirectories => (none, d)
  | .openAppend => (true, { d with file := some (d.file.getD []) })
  | .append bytes => (true, { d with file := some (d.file.getD [] ++ bytes) })
  | .openRead => (d.file.isSome, d)
  | .readLines => (getlines (d.file.getD []), d)
  | .openTemporary => (true, { d with temporary := some [] })
  | .writeTemporary bytes => (true, { d with temporary := some (d.temporary.getD [] ++ bytes) })
  | .rename => (none, ⟨d.temporary, none⟩)
  | .removeTemporary => ((), { d with temporary := none })
  | .print _ => ((), d)

def FileCache.step (c : FileCache) (d : Disk) : CacheCall → CacheReply × Disk
  | .append m => ((c.append m.topic m.payload).run (E := fileSignature) Disk.answer d).map .done id
  | .removeFirst count => ((c.removeFirst count).run (E := fileSignature) Disk.answer d).map .done id
  | .loadAll => (FileCache.loadAll.run (E := fileSignature) Disk.answer d).map .messages id

/-! ### The SQLite cache with no failing statement -/

def SqliteCache.step (c : SqliteCache) : CacheCall → CacheReply × SqliteCache
  | .append m => (c.append none m.topic m.payload).map .done id
  | .removeFirst count => (c.removeFirst none count).map .done id
  | .loadAll => (c.loadAll none).map .messages id

/-- No tab, newline, carriage return or NUL. -/
def Plain (text : Text) : Prop :=
  containsSeparator text = false ∧ 0 ∉ text

def CachedMessage.PlainText (m : CachedMessage) : Prop :=
  Plain m.topic ∧ Plain m.payload

def CacheCall.Admissible : CacheCall → Prop
  | .append m => m.PlainText
  | .removeFirst count => count ≤ intMax
  | .loadAll => True

/-- Every message in the reply has texts whose length fits. -/
def CacheReply.Fits : CacheReply → Prop
  | .done _ => True
  | .messages list => ∀ m ∈ list, LengthFits m.topic ∧ LengthFits m.payload

/-- Neither topic nor payload holds a separator, so that `append` and `replace_all` take the message. -/
def CachedMessage.Unseparated (m : CachedMessage) : Prop :=
  containsSeparator m.topic = false ∧ containsSeparator m.payload = false

lemma CachedMessage.PlainText.unseparated {m : CachedMessage} (h : m.PlainText) : m.Unseparated :=
  ⟨h.1.1, h.2.1⟩

lemma unseparated_of_not_any {messages : List CachedMessage}
    (h : ¬messages.any (fun m => containsSeparator m.topic || containsSeparator m.payload) = true) :
    ∀ m ∈ messages, m.Unseparated := by
  intro m hm
  rw [List.any_eq_true, not_exists] at h
  have hm' : ¬(containsSeparator m.topic || containsSeparator m.payload) = true := fun hbad => h m ⟨hm, hbad⟩
  rw [Bool.or_eq_true, not_or, Bool.not_eq_true, Bool.not_eq_true] at hm'
  exact hm'

lemma not_any_of_unseparated {messages : List CachedMessage} (h : ∀ m ∈ messages, m.Unseparated) :
    ¬messages.any (fun m => containsSeparator m.topic || containsSeparator m.payload) = true := by
  simp only [List.any_eq_true, not_exists, not_and]
  intro m hm
  rw [(h m hm).1, (h m hm).2]
  decide

/-! ### Reading back what was written -/

lemma not_mem_of_containsSeparator {text : Text} (h : containsSeparator text = false) :
    tab ∉ text ∧ newline ∉ text := by
  simp only [containsSeparator, Bool.or_eq_false_iff, decide_eq_false_iff_not] at h
  exact ⟨h.1.1, h.1.2⟩

lemma getlines_append (line rest : Text) (h : newline ∉ line) :
    getlines (line ++ newline :: rest) = line :: getlines rest := by
  induction line with
  | nil => simp [getlines]
  | cons byte line ih =>
    rw [List.mem_cons, not_or] at h
    rw [List.cons_append, getlines, if_neg (Ne.symm h.1), ih h.2]

lemma parseLine_append (topic payload : Text) (h : tab ∉ topic) :
    parseLine (topic ++ tab :: payload) = some ⟨topic, payload⟩ := by
  have hindex : (topic ++ tab :: payload).idxOf tab = topic.length := by
    rw [List.idxOf_append_of_notMem h, List.idxOf_cons_self, Nat.add_zero]
  have hdrop : (topic ++ tab :: payload).drop (topic.length + 1) = payload := by
    rw [List.drop_append, List.drop_of_length_le (Nat.le_succ _)]
    simp
  rw [parseLine, if_pos (by simp), hindex, List.take_left, hdrop]

lemma CachedMessage.Unseparated.newline_notMem {m : CachedMessage} (h : m.Unseparated) :
    newline ∉ m.topic ++ tab :: m.payload := by
  simp only [List.mem_append, List.mem_cons, not_or]
  exact ⟨(not_mem_of_containsSeparator h.1).2, by decide, (not_mem_of_containsSeparator h.2).2⟩

lemma CachedMessage.line_eq (m : CachedMessage) : m.line = m.topic ++ tab :: m.payload ++ [newline] := by
  simp [CachedMessage.line]

lemma getlines_flatMap_line (queue : List CachedMessage) (h : ∀ m ∈ queue, m.Unseparated) :
    getlines (queue.flatMap CachedMessage.line) =
      queue.map (fun m => m.topic ++ tab :: m.payload) := by
  induction queue with
  | nil => rfl
  | cons m queue ih =>
    have hline := (h m List.mem_cons_self).newline_notMem
    have hsplit : (m :: queue).flatMap CachedMessage.line =
        (m.topic ++ tab :: m.payload) ++ newline :: queue.flatMap CachedMessage.line := by
      simp [CachedMessage.line]
    rw [hsplit, getlines_append _ _ hline, ih (fun m' hm' => h m' (List.mem_cons_of_mem _ hm')), List.map_cons]

lemma run_parseLines (queue : List CachedMessage) (h : ∀ m ∈ queue, m.Unseparated) (d : Disk) :
    (FileCache.parseLines (queue.map (fun m => m.topic ++ tab :: m.payload))).run (E := fileSignature)
      Disk.answer d = (queue, d) := by
  induction queue with
  | nil => rfl
  | cons m queue ih =>
    have hm := (not_mem_of_containsSeparator (h m List.mem_cons_self).1).1
    rw [List.map_cons, FileCache.parseLines, parseLine_append _ _ hm]
    simp [ih (fun m' hm' => h m' (List.mem_cons_of_mem _ hm'))]

/-! ### The file holds the queue -/

structure Disk.Holds (d : Disk) (queue : List CachedMessage) : Prop where
  content : d.file.getD [] = queue.flatMap CachedMessage.line
  plain : ∀ m ∈ queue, m.PlainText

namespace FileCache

lemma run_ensureParent (c : FileCache) (d : Disk) :
    c.ensureParent.run (E := fileSignature) Disk.answer d = (true, d) := by
  unfold ensureParent
  by_cases hparent : c.hasParent
  · rw [if_pos hparent]
    rfl
  · rw [if_neg hparent]
    rfl

lemma run_append (c : FileCache) {m : CachedMessage} (hm : m.PlainText) (d : Disk) :
    (c.append m.topic m.payload).run (E := fileSignature) Disk.answer d =
      (true, { d with file := some (d.file.getD [] ++ m.line) }) := by
  unfold append
  rw [if_neg (by rw [hm.1.1, hm.2.1]; decide), Prog.run_bind, run_ensureParent, if_pos rfl]
  rfl

lemma run_loadAll {d : Disk} {queue : List CachedMessage} (h : d.Holds queue) :
    loadAll.run (E := fileSignature) Disk.answer d = (queue, d) := by
  have hcontent := h.content
  cases hfile : d.file with
  | none =>
    have hqueue : queue = [] := by
      rw [hfile] at hcontent
      cases queue with
      | nil => rfl
      | cons m queue => simp [CachedMessage.line] at hcontent
    have hopen : d.answer .openRead = (false, d) := by
      simp only [Disk.answer, hfile]
      rfl
    unfold loadAll
    rw [Prog.run_bind, Prog.run_perform, hopen, if_neg Bool.false_ne_true, hqueue]
    rfl
  | some content =>
    have hopen : d.answer .openRead = (true, d) := by
      simp only [Disk.answer, hfile]
      rfl
    have hread : d.answer .readLines = (queue.map (fun m => m.topic ++ tab :: m.payload), d) := by
      simp only [Disk.answer, hcontent, getlines_flatMap_line queue (fun m hm => (h.plain m hm).unseparated)]
    unfold loadAll
    rw [Prog.run_bind, Prog.run_perform, hopen, if_pos rfl, Prog.run_bind, Prog.run_perform, hread]
    exact run_parseLines queue (fun m hm => (h.plain m hm).unseparated) d

lemma run_replaceAll (c : FileCache) {messages : List CachedMessage} (h : ∀ m ∈ messages, m.PlainText)
    (d : Disk) :
    (c.replaceAll messages).run (E := fileSignature) Disk.answer d =
      (true, ⟨some (messages.flatMap CachedMessage.line), none⟩) := by
  have hany := not_any_of_unseparated (fun m hm => (h m hm).unseparated)
  unfold replaceAll
  rw [if_neg hany, Prog.run_bind, run_ensureParent, if_pos rfl]
  rfl

lemma run_removeFirst (c : FileCache) (count : Nat) {d : Disk} {queue : List CachedMessage}
    (h : d.Holds queue) :
    ∃ d', (c.removeFirst count).run (E := fileSignature) Disk.answer d = (true, d') ∧
      d'.Holds (queue.drop count) := by
  unfold removeFirst
  by_cases hzero : count = 0
  · rw [if_pos hzero, hzero]
    exact ⟨d, rfl, h⟩
  · rw [if_neg hzero, Prog.run_bind, run_loadAll h]
    dsimp only
    by_cases hall : count ≥ queue.length
    · rw [if_pos hall, c.run_replaceAll (by simp)]
      refine ⟨_, rfl, ?_, ?_⟩
      · simp [List.drop_of_length_le hall]
      · simp [List.drop_of_length_le hall]
    · have hplain : ∀ m ∈ queue.drop count, m.PlainText :=
        fun m hm => h.plain m (List.mem_of_mem_drop hm)
      rw [if_neg hall, c.run_replaceAll hplain]
      exact ⟨_, rfl, rfl, hplain⟩

/-- One call on the file cache answers as the queue does. -/
lemma step_queue (c : FileCache) {d : Disk} {queue : List CachedMessage} (h : d.Holds queue)
    {call : CacheCall} (hcall : call.Admissible) :
    (c.step d call).1 = (call.queue queue).1 ∧ (c.step d call).2.Holds (call.queue queue).2 := by
  cases call with
  | append m =>
    rw [step, c.run_append hcall]
    refine ⟨rfl, ?_, ?_⟩
    · simp [CacheCall.queue, h.content]
    · intro m' hm'
      rcases List.mem_append.mp hm' with hm' | hm'
      · exact h.plain m' hm'
      · rw [List.mem_singleton.mp hm']
        exact hcall
  | removeFirst count =>
    obtain ⟨d', hrun, hd'⟩ := c.run_removeFirst count h
    rw [step, hrun]
    exact ⟨rfl, hd'⟩
  | loadAll =>
    rw [step, run_loadAll h]
    exact ⟨rfl, h⟩

theorem replies_eq_queue (c : FileCache) (calls : List CacheCall) (hcalls : ∀ call ∈ calls, call.Admissible)
    {d : Disk} {queue : List CachedMessage} (h : d.Holds queue) :
    replies c.step d calls = queueReplies queue calls := by
  induction calls generalizing d queue with
  | nil => rfl
  | cons call calls ih =>
    have hstep := c.step_queue h (hcalls call List.mem_cons_self)
    have hrest := ih (fun call' hcall' => hcalls call' (List.mem_cons_of_mem _ hcall')) hstep.2
    rw [replies, hstep.1, hrest]
    rfl

end FileCache

/-! ### The table holds the queue, in the form in which it was bound -/

def CachedMessage.readBack (m : CachedMessage) : CachedMessage :=
  ⟨EdgeGateway.readBack m.topic, EdgeGateway.readBack m.payload⟩

structure SqliteCache.Holds (c : SqliteCache) (queue : List CachedMessage) : Prop where
  ready : c.ready = true
  ordered : c.database.Ordered
  rows : c.database.rows.map (fun r => (r.topic, r.payload)) =
    queue.map (fun m => (bindText m.topic, bindText m.payload))
  plain : ∀ m ∈ queue, m.PlainText

namespace SqliteCache

lemma step_append {c : SqliteCache} {queue : List CachedMessage} (h : c.Holds queue) {m : CachedMessage}
    (hm : m.PlainText) :
    (c.step (.append m)).1 = .done true ∧ (c.step (.append m)).2.Holds (queue ++ [m]) := by
  have hstep : c.append none m.topic m.payload =
      (true, { c with database := c.database.insert (bindText m.topic) (bindText m.payload) }) := by
    simp [append, h.ready]
  rw [step, hstep]
  refine ⟨rfl, h.ready, h.ordered.insert _ _, ?_, ?_⟩
  · simp [Database.insert, h.rows]
  · intro m' hm'
    rcases List.mem_append.mp hm' with hm' | hm'
    · exact h.plain m' hm'
    · rw [List.mem_singleton.mp hm']
      exact hm

lemma step_removeFirst {c : SqliteCache} {queue : List CachedMessage} (h : c.Holds queue) {count : Nat}
    (hcount : count ≤ intMax) :
    (c.step (.removeFirst count)).1 = .done true ∧
      (c.step (.removeFirst count)).2.Holds (queue.drop count) := by
  by_cases hzero : count = 0
  · have hstep : c.removeFirst none count = (true, c) := by
      simp [removeFirst, h.ready, hzero]
    rw [step, hstep, hzero]
    exact ⟨rfl, h⟩
  · have hstep : c.removeFirst none count = (true, { c with database := c.database.deleteFirst count }) := by
      simp [removeFirst, h.ready, hzero, Nat.not_lt.mpr hcount]
    rw [step, hstep]
    refine ⟨rfl, h.ready, h.ordered.deleteFirst count, ?_, ?_⟩
    · change (c.database.deleteFirst count).rows.map (fun r => (r.topic, r.payload)) = _
      rw [h.ordered.rows_deleteFirst, List.map_drop, h.rows, List.map_drop]
    · intro m hm
      exact h.plain m (List.mem_of_mem_drop hm)

lemma step_loadAll {c : SqliteCache} {queue : List CachedMessage} (h : c.Holds queue) :
    c.step .loadAll = (.messages (queue.map CachedMessage.readBack), c) := by
  have hrows : (Database.orderById c.database.rows).map
      (fun r => (⟨cString r.topic, cString r.payload⟩ : CachedMessage)) = queue.map CachedMessage.readBack := by
    rw [h.ordered.orderById]
    have hmap := congrArg (List.map (fun p => (⟨cString p.1, cString p.2⟩ : CachedMessage))) h.rows
    rw [List.map_map, List.map_map] at hmap
    exact hmap
  have hstep : c.loadAll none = (queue.map CachedMessage.readBack, c) := by
    simp only [loadAll, h.ready, hrows]
    rfl
  rw [step, hstep]
  rfl

end SqliteCache

/-- A plain queue is read back unchanged exactly when the lengths fit. -/
lemma map_readBack_eq_self_iff {queue : List CachedMessage} (h : ∀ m ∈ queue, m.PlainText) :
    queue.map CachedMessage.readBack = queue ↔ (CacheReply.messages queue).Fits := by
  have hmessage : ∀ m ∈ queue, m.readBack = m ↔ LengthFits m.topic ∧ LengthFits m.payload := by
    intro m hm
    have htopic : EdgeGateway.readBack m.topic = m.topic ↔ LengthFits m.topic := by
      rw [readBack_eq_self_iff]
      exact and_iff_right (h m hm).1.2
    have hpayload : EdgeGateway.readBack m.payload = m.payload ↔ LengthFits m.payload := by
      rw [readBack_eq_self_iff]
      exact and_iff_right (h m hm).2.2
    rw [← htopic, ← hpayload]
    cases m
    exact CachedMessage.mk.injEq _ _ _ _ ▸ Iff.rfl
  constructor
  · intro heq m hm
    rw [← hmessage m hm]
    have hid : queue.map CachedMessage.readBack = queue.map id := by rw [heq, List.map_id]
    exact List.map_inj_left.mp hid m hm
  · intro hfits
    calc queue.map CachedMessage.readBack = queue.map id :=
          List.map_congr_left (fun m hm => (hmessage m hm).mpr (hfits m hm))
      _ = queue := List.map_id queue

theorem SqliteCache.replies_eq_queue_iff (calls : List CacheCall)
    (hcalls : ∀ call ∈ calls, call.Admissible) {c : SqliteCache} {queue : List CachedMessage}
    (h : c.Holds queue) :
    replies SqliteCache.step c calls = queueReplies queue calls ↔
      ∀ reply ∈ queueReplies queue calls, reply.Fits := by
  induction calls generalizing c queue with
  | nil =>
    constructor
    · intro _ reply hreply
      cases hreply
    · intro _
      rfl
  | cons call calls ih =>
    have hrest := fun call' hcall' => hcalls call' (List.mem_cons_of_mem _ hcall')
    have hcall := hcalls call List.mem_cons_self
    cases call with
    | append m =>
      have hstep := step_append h hcall
      rw [replies, hstep.1, queueReplies, replies, List.cons.injEq]
      simp only [List.mem_cons, forall_eq_or_imp]
      exact and_congr (iff_of_true rfl trivial) (ih hrest hstep.2)
    | removeFirst count =>
      have hstep := step_removeFirst h hcall
      rw [replies, hstep.1, queueReplies, replies, List.cons.injEq]
      simp only [List.mem_cons, forall_eq_or_imp]
      exact and_congr (iff_of_true rfl trivial) (ih hrest hstep.2)
    | loadAll =>
      rw [replies, step_loadAll h, queueReplies, replies, List.cons.injEq]
      simp only [List.mem_cons, forall_eq_or_imp]
      refine and_congr (Iff.trans ?_ (map_readBack_eq_self_iff h.plain)) (ih hrest h)
      constructor
      · exact CacheReply.messages.inj
      · exact congrArg CacheReply.messages

/-- Both caches, empty at first, answer as a queue does, exactly when the length of every text that a
`load_all` of the queue returns fits. -/
theorem caches_interchangeable_iff (c : FileCache) (d : Disk) (hfile : d.file.getD [] = [])
    (s : SqliteCache) (hready : s.ready = true) (hrows : s.database.rows = [])
    (calls : List CacheCall) (hcalls : ∀ call ∈ calls, call.Admissible) :
    (replies c.step d calls = queueReplies [] calls ∧
      replies SqliteCache.step s calls = queueReplies [] calls) ↔
    ∀ reply ∈ queueReplies [] calls, reply.Fits := by
  have hdisk : d.Holds [] := ⟨hfile, by simp⟩
  have htable : s.Holds [] := by
    refine ⟨hready, ⟨?_, ?_⟩, ?_, by simp⟩
    · rw [hrows]
      exact List.Pairwise.nil
    · rw [hrows]
      simp
    · rw [hrows]
      rfl
  rw [← SqliteCache.replies_eq_queue_iff calls hcalls htable]
  exact and_iff_right (c.replies_eq_queue calls hcalls hdisk)

theorem caches_interchangeable_iff_empty_payload :
    (replies (FileCache.mk (ascii "cache.txt")).step ⟨none, none⟩
        [.append ⟨ascii "t", []⟩, .loadAll, .removeFirst 7] =
      queueReplies [] [.append ⟨ascii "t", []⟩, .loadAll, .removeFirst 7] ∧
    replies SqliteCache.step {} [.append ⟨ascii "t", []⟩, .loadAll, .removeFirst 7] =
      queueReplies [] [.append ⟨ascii "t", []⟩, .loadAll, .removeFirst 7]) ↔
    ∀ reply ∈ queueReplies [] [.append ⟨ascii "t", []⟩, .loadAll, .removeFirst 7], reply.Fits := by
  apply caches_interchangeable_iff _ _ rfl _ rfl rfl
  intro call hcall
  simp only [List.mem_cons, List.not_mem_nil, or_false] at hcall
  rcases hcall with rfl | rfl | rfl
  · exact ⟨⟨rfl, by decide⟩, ⟨rfl, by decide⟩⟩
  · exact trivial
  · exact (by decide : 7 ≤ intMax)

/-- A topic whose length does not fit comes back from the file only. -/
lemma replies_ne_of_not_lengthFits {topic : Text} (hplain : Plain topic) (hlong : ¬LengthFits topic) :
    (∀ call ∈ [CacheCall.append ⟨topic, []⟩, .loadAll], call.Admissible) ∧
    replies (FileCache.mk (ascii "cache.txt")).step ⟨none, none⟩ [.append ⟨topic, []⟩, .loadAll] ≠
      replies SqliteCache.step {} [.append ⟨topic, []⟩, .loadAll] := by
  have hcalls : ∀ call ∈ [CacheCall.append ⟨topic, []⟩, .loadAll], call.Admissible := by
    intro call hcall
    simp only [List.mem_cons, List.not_mem_nil, or_false] at hcall
    rcases hcall with rfl | rfl
    · exact ⟨hplain, rfl, List.not_mem_nil⟩
    · exact trivial
  refine ⟨hcalls, fun heq => ?_⟩
  have hdisk : Disk.Holds ⟨none, none⟩ [] := ⟨rfl, by simp⟩
  have htable : SqliteCache.Holds {} [] := ⟨rfl, Database.ordered_empty, rfl, by simp⟩
  rw [FileCache.replies_eq_queue _ _ hcalls hdisk] at heq
  have hfits := (SqliteCache.replies_eq_queue_iff _ hcalls htable).mp heq.symm
  have hreply : CacheReply.messages [⟨topic, []⟩] ∈ queueReplies [] [.append ⟨topic, []⟩, .loadAll] :=
    List.mem_cons_of_mem _ List.mem_cons_self
  exact hlong (hfits _ hreply _ (List.mem_singleton_self _)).1

lemma plain_replicate (n : Nat) : Plain (List.replicate n 97) := by
  have hnot : ∀ byte : UInt8, byte ≠ 97 → byte ∉ List.replicate n 97 :=
    fun byte hne h => hne (List.eq_of_mem_replicate h)
  refine ⟨?_, hnot 0 (by decide)⟩
  simp only [containsSeparator, Bool.or_eq_false_iff, decide_eq_false_iff_not]
  exact ⟨⟨hnot tab (by decide), hnot newline (by decide)⟩, hnot carriageReturn (by decide)⟩

/-- A topic of 4 GiB has length 0 as an `int`: the file cache returns it, the SQLite cache an empty
one. -/
theorem long_topic_distinguishes :
    (∀ call ∈ [CacheCall.append ⟨List.replicate (2 ^ 32) 97, []⟩, .loadAll], call.Admissible) ∧
    replies (FileCache.mk (ascii "cache.txt")).step ⟨none, none⟩
        [.append ⟨List.replicate (2 ^ 32) 97, []⟩, .loadAll] ≠
      replies SqliteCache.step {} [.append ⟨List.replicate (2 ^ 32) 97, []⟩, .loadAll] := by
  apply replies_ne_of_not_lengthFits (plain_replicate _)
  unfold LengthFits
  rw [List.length_replicate]
  norm_num

end EdgeGateway
