import EdgeGateway.Proofs.LegacyFiles

/-!
# The migration keeps the queue

Files and databases by their paths, taken in canonical form, so that two paths name the same file only when
they are equal. A database stands for its file and the files that SQLite keeps beside it. The script renames
the legacy file to its backup when the database is committed. It never compares the three paths, so that the
database can be the very file that the backup replaces, or the legacy file itself.
-/

namespace EdgeGateway
open CallTree

/-- The contents of a file. A database without the table counts as one where the table is empty. -/
inductive StoredFile where
  | text (content : Text)
  | database (db : Database)

/-- The files, and what the connection to the target has not yet committed. -/
structure MigrationWorld where
  files : Text → Option StoredFile
  transaction : Option Database := none

def Database.insertAll (db : Database) (messages : List (PyStr × PyStr)) : Database :=
  messages.foldl (fun db message => db.insert (utf8 message.1) (utf8 message.2)) db

/-- What SQLite takes for a database without tables. -/
def Vacant : Option StoredFile → Prop
  | none => True
  | some (.text content) => content = []
  | some (.database _) => False

/-- How the calls can end. A call that raises leaves the files as they are, and an `executemany` that raises
may have inserted some rows into the transaction. -/
def migrationEnv : Env migrationSignature MigrationWorld := fun w o =>
  match o with
  | .isFile path => fun (a : Except Text Bool) w' =>
      (∀ answer, a = .ok answer → answer = (w.files path).isSome) ∧ w' = w
  | .pathExists path => fun (a : Except Text Bool) w' =>
      (∀ answer, a = .ok answer → answer = (w.files path).isSome) ∧ w' = w
  | .readLines path => fun (a : Except Text (List PyStr × Option Text)) w' =>
      (∀ lines content, a = .ok (lines, none) → w.files path = some (.text content) →
        ∃ s, utf8 s = content ∧ lines = fileLines (universalNewlines s)) ∧ w' = w
  | .mkdirParents _ => fun _ w' => w' = w
  | .connect path => fun (a : Except Text Unit) w' =>
      match a with
      | .error _ => w' = w
      | .ok _ => w' = if (w.files path).isSome then w else
          { w with files := Function.update w.files path (some (.text [])) }
  | .createTable path => fun (a : Except Text Unit) w' =>
      match a with
      | .error _ => w' = w
      | .ok _ => (∃ db, w.files path = some (.database db)) ∧ w' = w ∨ Vacant (w.files path) ∧
          w' = { w with files := Function.update w.files path (some (.database {})) }
  | .countRows path => fun (a : Except Text Nat) w' =>
      (∀ count, a = .ok count → ∃ db, w.files path = some (.database db) ∧ count = db.rows.length) ∧ w' = w
  | .executemany path messages => fun (a : Except Text Unit) w' =>
      match a with
      | .error _ => ∃ db, w' = { w with transaction := db }
      | .ok _ => ∃ db, w.files path = some (.database db) ∧
          w' = { w with transaction := some (db.insertAll messages) }
  | .commit path => fun (a : Except Text Unit) w' =>
      match a with
      | .error _ => w' = w
      | .ok _ => ∃ db, w.transaction = some db ∧ w' = ⟨Function.update w.files path (some (.database db)), none⟩
  | .rollback _ => fun _ w' => w' = { w with transaction := none }
  | .rename path newPath => fun (a : Except Text Unit) w' =>
      match a with
      | .error _ => w' = w
      | .ok _ => (w.files path).isSome ∧
          w' = { w with files := Function.update (Function.update w.files newPath (w.files path)) path none }

/-- `SqliteCache` on a file: what is not a database cannot be opened. -/
def SqliteCache.onFile : Option StoredFile → SqliteCache
  | none => {}
  | some (.text content) => { ready := content.isEmpty }
  | some (.database db) => { database := db }

def targetRows (file : Option StoredFile) : List Row :=
  (SqliteCache.onFile file).database.rows

/-- What is to be seen after a run of `migrate`. -/
def MigrationOutcome (source target content : Text) (w : MigrationWorld) (result : Except MigrationError Nat)
    (w' : MigrationWorld) : Prop :=
  match result with
  | .ok n => ((SqliteCache.onFile (w'.files target)).loadAll none).1 = legacyMessages content ∧
      n = (legacyMessages content).length ∧
      w'.files source = none ∧ w'.files (Migration.backupPath source) = w.files source
  | .error (.raisedBy (.rename _ _) _) =>
      -- only the last step failed: a rerun raises as long as the target is not empty
      ∀ w₁ result₁ w₂, targetRows (w₁.files target) ≠ [] →
        Exec migrationEnv (Migration.migrate source target) w₁ result₁ w₂ →
        (∃ e, result₁ = .error e) ∧ targetRows (w₂.files target) = targetRows (w₁.files target)
  | .error _ => w'.files source = w.files source ∧ targetRows (w'.files target) = targetRows (w.files target)

/-- A legacy file in UTF-8 with at least one message and no malformed line. -/
structure Migratable (content : Text) : Prop where
  utf8 : ∃ s, EdgeGateway.utf8 s = content
  lines : ∀ line ∈ getlines content, line = [] ∨ ProperLine line
  message : ∃ line ∈ getlines content, line ≠ []

/-- The target is the backup, or an empty legacy file. -/
def PathsCollide (source target content : Text) (w : MigrationWorld) : Prop :=
  w.files (Migration.backupPath source) = none ∧
    (target = Migration.backupPath source ∧ Migratable content ∨ target = source ∧ content = [])

namespace Migration

variable {source target content : Text} {w w' : MigrationWorld} {result : Except MigrationError Nat}

/-! ### Calls and exceptions -/

lemma exec_raise {e : MigrationError} (h : Exec migrationEnv (raise e) w result w') :
    result = .error e ∧ w' = w := by
  cases h
  exact ⟨rfl, rfl⟩

lemma exec_orRaise {o : MigrationOp} {k : o.Value → Migrates} (h : Exec migrationEnv (orRaise o k) w result w') :
    (∃ message, migrationEnv w o (.error message) w' ∧ result = .error (.raisedBy o message)) ∨
    ∃ value w₁, migrationEnv w o (.ok value) w₁ ∧ Exec migrationEnv (k value) w₁ result w' := by
  cases h with
  | @call _ _ a _ w₁ _ _ hcall hrest =>
    match a with
    | .error message =>
      obtain ⟨rfl, rfl⟩ := exec_raise hrest
      exact .inl ⟨message, hcall, rfl⟩
    | .ok value => exact .inr ⟨value, w₁, hcall, hrest⟩

lemma exec_raiseInside {e : MigrationError} (h : Exec migrationEnv (raiseInside target e) w result w') :
    result = .error e ∧ w'.files = w.files := by
  cases h with
  | call hcall hrest =>
    obtain ⟨rfl, rfl⟩ := exec_raise hrest
    obtain rfl := hcall
    exact ⟨rfl, rfl⟩

lemma exec_orRollBack {o : MigrationOp} {k : o.Value → Migrates}
    (h : Exec migrationEnv (orRollBack target o k) w result w') :
    (∃ message w₁, migrationEnv w o (.error message) w₁ ∧ result = .error (.raisedBy o message) ∧
      w'.files = w₁.files) ∨
    ∃ value w₁, migrationEnv w o (.ok value) w₁ ∧ Exec migrationEnv (k value) w₁ result w' := by
  cases h with
  | @call _ _ a _ w₁ _ _ hcall hrest =>
    match a with
    | .error message =>
      obtain ⟨rfl, hfiles⟩ := exec_raiseInside hrest
      exact .inl ⟨message, w₁, hcall, rfl, hfiles⟩
    | .ok value => exact .inr ⟨value, w₁, hcall, hrest⟩

/-! ### What a run leaves behind -/

/-- The files before the transaction is committed: at most, an empty target was opened or has the table. -/
def Prepared (target : Text) (w w' : MigrationWorld) : Prop :=
  w'.files = w.files ∨ Vacant (w.files target) ∧ ∃ file, (file = .text [] ∨ file = .database {}) ∧
    w'.files = Function.update w.files target (some file)

/-- The target with its table. -/
structure Opened (target : Text) (w w' : MigrationWorld) (db : Database) : Prop where
  table : w'.files target = some (.database db)
  files : w'.files = w.files ∨ Vacant (w.files target) ∧ db = {} ∧
    w'.files = Function.update w.files target (some (.database {}))

lemma Opened.prepared {db : Database} (h : Opened target w w' db) : Prepared target w w' := by
  rcases h.files with hsame | ⟨hvacant, -, hfiles⟩
  · exact .inl hsame
  · exact .inr ⟨hvacant, _, .inr rfl, hfiles⟩

lemma Opened.database {db : Database} (h : Opened target w w' db) :
    w.files target = some (.database db) ∨ Vacant (w.files target) := by
  rcases h.files with hsame | ⟨hvacant, -⟩
  · rw [← hsame]
    exact .inl h.table
  · exact .inr hvacant

/-- Where the transaction ends up in the target. -/
lemma Opened.update {db : Database} (h : Opened target w w' db) (file : Option StoredFile) :
    Function.update w'.files target file = Function.update w.files target file := by
  rcases h.files with hsame | ⟨-, -, hfiles⟩
  · rw [hsame]
  · rw [hfiles, Function.update_idem]

lemma opened_of_connect {w₁ : MigrationWorld} (hconnect : migrationEnv w (.connect target) (.ok ()) w₁)
    (hcreate : migrationEnv w₁ (.createTable target) (.ok ()) w') : ∃ db, Opened target w w' db := by
  by_cases hsome : (w.files target).isSome = true
  · obtain rfl : w₁ = w := hconnect.trans (if_pos hsome)
    rcases hcreate with ⟨⟨db, hdb⟩, rfl⟩ | ⟨hvacant, rfl⟩
    · exact ⟨db, hdb, .inl rfl⟩
    · exact ⟨{}, Function.update_self .., .inr ⟨hvacant, rfl, rfl⟩⟩
  · obtain rfl := hconnect.trans (if_neg hsome)
    have hnone := Option.not_isSome_iff_eq_none.mp hsome
    rcases hcreate with ⟨⟨db, hdb⟩, -⟩ | ⟨-, rfl⟩
    · change Function.update w.files target _ target = _ at hdb
      rw [Function.update_self] at hdb
      cases hdb
    · refine ⟨{}, Function.update_self .., .inr ⟨?_, rfl, Function.update_idem ..⟩⟩
      rw [hnone]
      trivial

/-- An exception before the commit. -/
def RaisedBefore (target : Text) (w : MigrationWorld) (result : Except MigrationError Nat) (w' : MigrationWorld) :
    Prop :=
  ∃ e, result = .error e ∧ (∀ p q message, e ≠ .raisedBy (.rename p q) message) ∧ Prepared target w w'

/-- The commit to a target that was empty, and the `rename` after it. -/
def CommittedTo (source target : Text) (messages : List (PyStr × PyStr)) (w : MigrationWorld)
    (result : Except MigrationError Nat) (w' : MigrationWorld) : Prop :=
  ∃ db w₁, db.rows = [] ∧ (w.files target = some (.database db) ∨ Vacant (w.files target)) ∧
    w₁.files = Function.update w.files target (some (.database (db.insertAll messages))) ∧
    ((∃ message, result = .error (.raisedBy (.rename source (backupPath source)) message) ∧ w' = w₁) ∨
      result = .ok messages.length ∧
        w'.files = Function.update (Function.update w₁.files (backupPath source) (w₁.files source)) source none)

lemma Opened.unique {db db' : Database} (h : Opened target w w' db) (hdb : w'.files target = some (.database db')) :
    db' = db := by
  rw [h.table] at hdb
  injection hdb with hdb
  injection hdb with hdb
  exact hdb.symm

lemma Opened.raisedBefore {db : Database} {w₁ : MigrationWorld} (h : Opened target w w₁ db) {e : MigrationError}
    (he : ∀ p q message, e ≠ .raisedBy (.rename p q) message) (hfiles : w'.files = w₁.files) :
    RaisedBefore target w (.error e) w' := by
  refine ⟨e, rfl, he, ?_⟩
  unfold Prepared
  rw [hfiles]
  exact h.prepared

lemma insertMessages_cases {messages : List (PyStr × PyStr)} {db : Database} {w₁ : MigrationWorld}
    (hopened : Opened target w w₁ db) (hrows : db.rows = [])
    (h : Exec migrationEnv (insertMessages source target messages) w₁ result w') :
    RaisedBefore target w result w' ∨ CommittedTo source target messages w result w' := by
  rcases exec_orRollBack h with ⟨message, w₂, ⟨_, rfl⟩, rfl, hfiles⟩ | ⟨_, w₂, ⟨db', hdb', rfl⟩, hcommit⟩
  · exact .inl (hopened.raisedBefore nofun hfiles)
  obtain rfl := hopened.unique hdb'
  rcases exec_orRollBack hcommit with ⟨message, w₃, hfailed, rfl, hfiles⟩ | ⟨_, w₃, ⟨db₁, hdb₁, rfl⟩, hrename⟩
  · obtain rfl := hfailed
    exact .inl (hopened.raisedBefore nofun hfiles)
  obtain rfl := Option.some.inj hdb₁
  refine .inr ⟨db', ⟨Function.update w₁.files target (some (.database (db'.insertAll messages))), none⟩, hrows,
    hopened.database, hopened.update _, ?_⟩
  rcases exec_orRaise hrename with ⟨message, hfailed, rfl⟩ | ⟨_, w₄, ⟨-, rfl⟩, hend⟩
  · exact .inl ⟨message, rfl, hfailed⟩
  · cases hend
    exact .inr ⟨rfl, rfl⟩

lemma store_cases {messages : List (PyStr × PyStr)} (h : Exec migrationEnv (store source target messages) w result w') :
    RaisedBefore target w result w' ∨ CommittedTo source target messages w result w' := by
  rcases exec_orRaise h with ⟨message, hfailed, rfl⟩ | ⟨_, w₁, hconnect, hopen⟩
  · obtain rfl := hfailed
    exact .inl ⟨_, rfl, nofun, .inl rfl⟩
  rcases exec_orRollBack hopen with ⟨message, w₂, hfailed, rfl, hfiles⟩ | ⟨_, w₂, hcreate, hcounting⟩
  · obtain rfl := hfailed
    refine .inl ⟨_, rfl, nofun, ?_⟩
    unfold Prepared
    rw [hfiles]
    by_cases hsome : (w.files target).isSome = true
    · obtain rfl := hconnect.trans (if_pos hsome)
      exact .inl rfl
    · obtain rfl := hconnect.trans (if_neg hsome)
      rw [Option.not_isSome_iff_eq_none.mp hsome]
      exact .inr ⟨trivial, _, .inl rfl, rfl⟩
  obtain ⟨db, hopened⟩ := opened_of_connect hconnect hcreate
  rcases exec_orRollBack hcounting with ⟨message, w₃, ⟨-, rfl⟩, rfl, hfiles⟩ | ⟨count, w₃, ⟨hcount, rfl⟩, hinsert⟩
  · exact .inl (hopened.raisedBefore nofun hfiles)
  obtain ⟨db', hdb', hlength⟩ := hcount count rfl
  obtain rfl := hopened.unique hdb'
  by_cases hzero : count ≠ 0
  · rw [if_pos hzero] at hinsert
    obtain ⟨rfl, hfiles⟩ := exec_raiseInside hinsert
    exact .inl (hopened.raisedBefore nofun hfiles)
  · rw [if_neg hzero] at hinsert
    have hrows : db'.rows = [] := List.eq_nil_of_length_eq_zero (hlength ▸ not_not.mp hzero)
    exact insertMessages_cases hopened hrows hinsert

/-- What a run of `migrate` leaves behind. From the commit on, the legacy file was read and there was no
backup. -/
lemma migrate_cases (h : Exec migrationEnv (migrate source target) w result w') :
    (∃ e, result = .error e ∧ (∀ p q message, e ≠ .raisedBy (.rename p q) message) ∧ w'.files = w.files) ∨
    w.files (backupPath source) = none ∧ (RaisedBefore target w result w' ∨
      ∃ messages, CommittedTo source target messages w result w' ∧
        ∀ content, w.files source = some (.text content) →
          ∃ s, utf8 s = content ∧ loadLegacyMessages 1 (fileLines (universalNewlines s)) = .ok messages) := by
  rcases exec_orRaise h with ⟨message, ⟨-, rfl⟩, rfl⟩ | ⟨isFile, w₁, ⟨-, rfl⟩, hfile⟩
  · exact .inl ⟨_, rfl, nofun, rfl⟩
  split at hfile
  · obtain ⟨rfl, rfl⟩ := exec_raise hfile
    exact .inl ⟨_, rfl, nofun, rfl⟩
  rcases exec_orRaise hfile with ⟨message, ⟨-, rfl⟩, rfl⟩ | ⟨backedUp, w₂, ⟨hbackup, rfl⟩, hnew⟩
  · exact .inl ⟨_, rfl, nofun, rfl⟩
  split at hnew
  · obtain ⟨rfl, rfl⟩ := exec_raise hnew
    exact .inl ⟨_, rfl, nofun, rfl⟩
  rename_i hnot
  have hnone : w₂.files (backupPath source) = none := by
    rw [hbackup backedUp rfl] at hnot
    exact Option.not_isSome_iff_eq_none.mp hnot
  rcases exec_orRaise hnew with ⟨message, ⟨-, rfl⟩, rfl⟩ | ⟨⟨lines, failure⟩, w₃, ⟨hread, rfl⟩, hloaded⟩
  · exact .inl ⟨_, rfl, nofun, rfl⟩
  dsimp only at hloaded
  split at hloaded
  · obtain ⟨rfl, rfl⟩ := exec_raise hloaded
    exact .inl ⟨_, rfl, nofun, rfl⟩
  · obtain ⟨rfl, rfl⟩ := exec_raise hloaded
    exact .inl ⟨_, rfl, nofun, rfl⟩
  rename_i messages hload
  rcases exec_orRaise hloaded with ⟨message, hfailed, rfl⟩ | ⟨_, w₄, hmade, hstore⟩
  · obtain rfl := hfailed
    exact .inl ⟨_, rfl, nofun, rfl⟩
  obtain rfl := hmade
  refine .inr ⟨hnone, ?_⟩
  rcases store_cases hstore with hraised | hcommitted
  · exact .inl hraised
  · refine .inr ⟨messages, hcommitted, ?_⟩
    intro content hcontent
    obtain ⟨s, hs, rfl⟩ := hread lines content rfl hcontent
    exact ⟨s, hs, hload⟩

/-- A target that is not empty stays as it is. -/
lemma rerun_raises (hrows : targetRows (w.files target) ≠ [])
    (h : Exec migrationEnv (migrate source target) w result w') :
    (∃ e, result = .error e) ∧ targetRows (w'.files target) = targetRows (w.files target) := by
  have hvacant : ¬Vacant (w.files target) := by
    intro hvacant
    match hfile : w.files target with
    | none =>
      rw [hfile] at hrows
      exact hrows rfl
    | some (.text content) =>
      rw [hfile] at hrows
      exact hrows rfl
    | some (.database db) =>
      rw [hfile] at hvacant
      exact hvacant
  rcases migrate_cases h with ⟨e, rfl, -, hfiles⟩ | ⟨-, ⟨e, rfl, -, hprepared⟩ | ⟨messages, hcommitted, -⟩⟩
  · rw [hfiles]
    exact ⟨⟨e, rfl⟩, rfl⟩
  · rcases hprepared with hfiles | ⟨hempty, -⟩
    · rw [hfiles]
      exact ⟨⟨e, rfl⟩, rfl⟩
    · exact absurd hempty hvacant
  · obtain ⟨db, w₁, hempty, htarget | hempty', -⟩ := hcommitted
    · rw [htarget] at hrows
      exact absurd hempty hrows
    · exact absurd hempty' hvacant

/-! ### What is stored -/

lemma insertAll_rows {db : Database} (h : db.Ordered) (messages : List (PyStr × PyStr)) :
    (db.insertAll messages).Ordered ∧ (db.insertAll messages).rows.map (fun r => CachedMessage.mk r.topic r.payload) =
      db.rows.map (fun r => CachedMessage.mk r.topic r.payload) ++ messages.map encodeMessage := by
  induction messages generalizing db with
  | nil => exact ⟨h, (List.append_nil _).symm⟩
  | cons message messages ih =>
    obtain ⟨hordered, hrows⟩ := ih (h.insert (utf8 message.1) (utf8 message.2))
    refine ⟨hordered, ?_⟩
    change ((db.insert _ _).insertAll messages).rows.map _ = _
    rw [hrows, List.map_cons, Database.insert, List.map_append, List.append_assoc]
    rfl

lemma loadAll_insertAll {db : Database} (hrows : db.rows = []) {messages : List (PyStr × PyStr)}
    (hnul : ∀ m ∈ messages.map encodeMessage, m.NulFree) :
    ((SqliteCache.onFile (some (.database (db.insertAll messages)))).loadAll none).1 = messages.map encodeMessage := by
  have hordered : db.Ordered := by
    constructor
    · rw [hrows]
      exact List.Pairwise.nil
    · rw [hrows]
      simp
  obtain ⟨hordered, hinserted⟩ := insertAll_rows hordered messages
  rw [hrows, List.map_nil, List.nil_append] at hinserted
  change (Database.orderById (db.insertAll messages).rows).map
    (fun r => CachedMessage.mk (cString r.topic) (cString r.payload)) = _
  rw [hordered.orderById]
  calc (db.insertAll messages).rows.map (fun r => CachedMessage.mk (cString r.topic) (cString r.payload))
      = ((db.insertAll messages).rows.map (fun r => CachedMessage.mk r.topic r.payload)).map
          (fun m => ⟨cString m.topic, cString m.payload⟩) := by
        rw [List.map_map]
        rfl
    _ = (messages.map encodeMessage).map (fun m => ⟨cString m.topic, cString m.payload⟩) := by rw [hinserted]
    _ = (messages.map encodeMessage).map id := by
        apply List.map_congr_left
        intro m hm
        rw [(cString_eq_self_iff m.topic).mpr (hnul m hm).1, (cString_eq_self_iff m.payload).mpr (hnul m hm).2]
        rfl
    _ = messages.map encodeMessage := List.map_id _

/-! ### What is read -/

lemma mem_of_mem_getlines {content line : Text} (hline : line ∈ getlines content) {byte : UInt8} (hbyte : byte ∈ line) :
    byte ∈ content := by
  induction content generalizing line with
  | nil => cases hline
  | cons first content ih =>
    rw [getlines] at hline
    split at hline
    · rcases List.mem_cons.mp hline with rfl | hline
      · cases hbyte
      · exact List.mem_cons_of_mem _ (ih hline hbyte)
    · cases hlines : getlines content with
      | nil =>
        rw [hlines] at hline
        rw [List.mem_singleton.mp hline] at hbyte
        rw [List.mem_singleton.mp hbyte]
        exact List.mem_cons_self
      | cons line' lines =>
        rw [hlines] at hline
        rcases List.mem_cons.mp hline with rfl | hline
        · rcases List.mem_cons.mp hbyte with rfl | hbyte
          · exact List.mem_cons_self
          · exact List.mem_cons_of_mem _ (ih (hlines ▸ List.mem_cons_self) hbyte)
        · exact List.mem_cons_of_mem _ (ih (hlines ▸ List.mem_cons_of_mem _ hline) hbyte)

lemma nulFree_of_parseLine {line : Text} {m : CachedMessage} (hparse : parseLine line = some m) (hnul : 0 ∉ line) :
    m.NulFree := by
  unfold parseLine at hparse
  split at hparse
  · obtain rfl := Option.some.inj hparse
    exact ⟨fun h => hnul (List.mem_of_mem_take h), fun h => hnul (List.mem_of_mem_drop h)⟩
  · cases hparse

lemma nulFree_of_mem_legacyMessages (hclean : Clean content) {m : CachedMessage} (hm : m ∈ legacyMessages content) :
    m.NulFree := by
  rw [legacyMessages_eq, List.mem_filterMap] at hm
  obtain ⟨line, hline, hparse⟩ := hm
  exact nulFree_of_parseLine hparse (fun h => hclean.2 (mem_of_mem_getlines hline h))

/-- Both readers, on the whole of a file. -/
lemma load_cases (hclean : Clean content) {s : PyStr} (hs : utf8 s = content) :
    (∃ message, loadLegacyMessages 1 (fileLines (universalNewlines s)) = .error message ∧ ¬Migratable content) ∨
    ∃ messages, loadLegacyMessages 1 (fileLines (universalNewlines s)) = .ok messages ∧
      legacyMessages content = messages.map encodeMessage ∧ (Migratable content ↔ messages ≠ []) := by
  have hreturn : '\r' ∉ s := by
    rw [← mem_utf8_carriageReturn, hs]
    exact hclean.1
  have hlines := getlines_utf8 hreturn
  rw [hs] at hlines
  rw [universalNewlines_eq_self hreturn]
  rcases loadLegacyMessages_cases 1 (fileLines s) with
    ⟨message, hload, bad, hbad, hwhy⟩ | ⟨messages, hload, hparse, hall⟩
  · refine .inl ⟨message, hload, fun h => ?_⟩
    have hmem : utf8 (rstrip bad) ∈ getlines content := by
      rw [hlines]
      exact List.mem_map_of_mem hbad
    rcases h.lines _ hmem with hblank | hproper
    · exact hwhy.1 hblank
    · exact hwhy.2 hproper
  · rw [← hlines] at hparse
    refine .inr ⟨messages, hload, (legacyMessages_eq content).trans hparse, ?_⟩
    have hproper : ∀ line ∈ getlines content, line = [] ∨ ProperLine line := by
      rw [hlines]
      exact List.forall_mem_map.mpr hall
    constructor
    · intro h hnone
      obtain ⟨line, hline, hne⟩ := h.message
      obtain ⟨m, hm, -⟩ := (hproper line hline).resolve_left hne
      have hmem : m ∈ (getlines content).filterMap parseLine := List.mem_filterMap.mpr ⟨line, hline, hm⟩
      rw [hparse, hnone] at hmem
      cases hmem
    · intro hne
      refine ⟨⟨s, hs⟩, hproper, ?_⟩
      obtain ⟨message, hmessage⟩ := List.exists_mem_of_ne_nil _ hne
      have hmem : encodeMessage message ∈ (getlines content).filterMap parseLine := by
        rw [hparse]
        exact List.mem_map_of_mem hmessage
      obtain ⟨line, hline, hm⟩ := List.mem_filterMap.mp hmem
      refine ⟨line, hline, ?_⟩
      rintro rfl
      cases hm

/-! ### Runs -/

lemma backupPath_ne (source : Text) : backupPath source ≠ source := by
  intro h
  have hlength := congrArg List.length h
  simp [backupPath, ascii] at hlength

lemma outcome_of_raised {e : MigrationError} (he : ∀ p q message, e ≠ .raisedBy (.rename p q) message)
    (hsource : w'.files source = w.files source)
    (hrows : targetRows (w'.files target) = targetRows (w.files target)) :
    MigrationOutcome source target content w (.error e) w' := by
  unfold MigrationOutcome
  split
  · rename_i hok
    cases hok
  · rename_i heq
    obtain rfl := Except.error.inj heq
    exact absurd rfl (he _ _ _)
  · exact ⟨hsource, hrows⟩

lemma targetRows_of_vacant {file : Option StoredFile} (h : Vacant file) : targetRows file = [] := by
  match file with
  | none => rfl
  | some (.text _) => rfl
  | some (.database _) => exact h.elim

/-- A file that holds no message is as good as a database, in the end. -/
lemma loadAll_text (content : Text) : ((SqliteCache.onFile (some (.text content))).loadAll none).1 = [] := by
  cases content with
  | nil => simp [SqliteCache.onFile, SqliteCache.loadAll, Database.orderById]
  | cons byte content => rfl

lemma outcome_of_prepared (hsource : w.files source = some (.text content))
    (hbackup : w.files (backupPath source) = none) (hpaths : ¬PathsCollide source target content w)
    (h : RaisedBefore target w result w') : MigrationOutcome source target content w result w' := by
  obtain ⟨e, rfl, he, hsame | ⟨hvacant, file, hfile, hfiles⟩⟩ := h
  · apply outcome_of_raised he
    · rw [hsame]
    · rw [hsame]
  · have hne : source ≠ target := by
      rintro rfl
      rw [hsource] at hvacant
      exact hpaths ⟨hbackup, .inr ⟨rfl, hvacant⟩⟩
    apply outcome_of_raised he
    · rw [hfiles, Function.update_of_ne hne]
    · rw [hfiles, Function.update_self, targetRows_of_vacant hvacant]
      rcases hfile with rfl | rfl
      · rfl
      · rfl

/-- The files after a successful `rename`. -/
lemma outcome_of_renamed (hclean : Clean content) (hsource : w.files source = some (.text content))
    (hbackup : w.files (backupPath source) = none) (hpaths : ¬PathsCollide source target content w)
    {messages : List (PyStr × PyStr)} {db : Database} {w₁ : MigrationWorld} (hrows : db.rows = [])
    (htarget : w.files target = some (.database db) ∨ Vacant (w.files target))
    (hw₁ : w₁.files = Function.update w.files target (some (.database (db.insertAll messages))))
    (hlegacy : legacyMessages content = messages.map encodeMessage) (hmigratable : Migratable content ↔ messages ≠ [])
    (hw' : w'.files = Function.update (Function.update w₁.files (backupPath source) (w₁.files source)) source none) :
    MigrationOutcome source target content w (.ok messages.length) w' := by
  have hne : target ≠ source := by
    rintro rfl
    rw [hsource] at htarget
    rcases htarget with hdatabase | hvacant
    · cases hdatabase
    · exact hpaths ⟨hbackup, .inr ⟨rfl, hvacant⟩⟩
  have hread : w₁.files source = some (.text content) := by
    rw [hw₁, Function.update_of_ne (Ne.symm hne), hsource]
  have hbackup' : w'.files (backupPath source) = w.files source := by
    rw [hw', Function.update_of_ne (backupPath_ne source), Function.update_self, hread, hsource]
  refine ⟨?_, ?_, ?_, hbackup'⟩
  · rw [hlegacy]
    by_cases hcollide : target = backupPath source
    · have hnone : messages = [] := by
        by_contra hsome
        exact hpaths ⟨hbackup, .inl ⟨hcollide, hmigratable.mpr hsome⟩⟩
      rw [hcollide, hbackup', hsource, loadAll_text, hnone]
      rfl
    · rw [hw', Function.update_of_ne hne, Function.update_of_ne hcollide, hw₁, Function.update_self]
      apply loadAll_insertAll hrows
      rw [← hlegacy]
      exact fun m hm => nulFree_of_mem_legacyMessages hclean hm
  · rw [hlegacy, List.length_map]
  · rw [hw', Function.update_self]

lemma outcome_of_run (hclean : Clean content) (hsource : w.files source = some (.text content))
    (hpaths : ¬PathsCollide source target content w) (h : Exec migrationEnv (migrate source target) w result w') :
    MigrationOutcome source target content w result w' := by
  rcases migrate_cases h with ⟨e, rfl, he, hfiles⟩ | ⟨hbackup, hraised | ⟨messages, hcommitted, hread⟩⟩
  · apply outcome_of_raised he
    · rw [hfiles]
    · rw [hfiles]
  · exact outcome_of_prepared hsource hbackup hpaths hraised
  · obtain ⟨db, w₁, hrows, htarget, hw₁, ⟨message, rfl, -⟩ | ⟨rfl, hw'⟩⟩ := hcommitted
    · exact fun _ _ _ hnonempty hrerun => rerun_raises hnonempty hrerun
    · obtain ⟨s, hs, hload⟩ := hread content hsource
      rcases load_cases hclean hs with ⟨message, hfailed, -⟩ | ⟨messages', hload', hlegacy, hmigratable⟩
      · rw [hload] at hfailed
        cases hfailed
      · obtain rfl : messages' = messages := Except.ok.inj (hload'.symm.trans hload)
        exact outcome_of_renamed hclean hsource hbackup hpaths hrows htarget hw₁ hlegacy hmigratable hw'

/-! ### Runs where the paths collide -/

/-- A call that does not raise. -/
lemma exec_call {o : MigrationOp} {k : o.Value → Migrates} (value : o.Value) {w₁ : MigrationWorld}
    (hcall : migrationEnv w o (.ok value) w₁) (hrest : Exec migrationEnv (k value) w₁ result w') :
    Exec migrationEnv (orRaise o k) w result w' :=
  .call (E := migrationSignature) (a := (.ok value : Except Text o.Value)) hcall hrest

lemma exec_callInside {o : MigrationOp} {k : o.Value → Migrates} (value : o.Value) {w₁ : MigrationWorld}
    (hcall : migrationEnv w o (.ok value) w₁) (hrest : Exec migrationEnv (k value) w₁ result w') :
    Exec migrationEnv (orRollBack target o k) w result w' :=
  .call (E := migrationSignature) (a := (.ok value : Except Text o.Value)) hcall hrest

/-- A call in the `with` block that raises. -/
lemma exec_raisedInside {o : MigrationOp} {k : o.Value → Migrates} (message : Text) {w₁ : MigrationWorld}
    (hcall : migrationEnv w o (.error message) w₁) :
    Exec migrationEnv (orRollBack target o k) w (.error (.raisedBy o message)) { w₁ with transaction := none } :=
  .call (E := migrationSignature) (a := (.error message : Except Text o.Value)) hcall
    (.call (E := migrationSignature) (o := .rollback target) (a := (.ok () : Except Text Unit)) rfl .ret)

/-- The way to the `with` statement when nothing raises. -/
lemma exec_migrate {s : PyStr} {messages : List (PyStr × PyStr)} (hsource : w.files source = some (.text content))
    (hbackup : w.files (backupPath source) = none) (hs : utf8 s = content)
    (hload : loadLegacyMessages 1 (fileLines (universalNewlines s)) = .ok messages)
    (hstore : Exec migrationEnv (store source target messages) w result w') :
    Exec migrationEnv (migrate source target) w result w' := by
  refine exec_call true ⟨?_, rfl⟩ (exec_call false ⟨?_, rfl⟩
    (exec_call (fileLines (universalNewlines s), none) ⟨?_, rfl⟩ ?_))
  · rintro answer ⟨⟩
    rw [hsource]
    rfl
  · rintro answer ⟨⟩
    rw [hbackup]
    rfl
  · rintro lines content' ⟨⟩ hcontent
    rw [hsource] at hcontent
    cases hcontent
    exact ⟨s, hs, rfl⟩
  · dsimp only
    rw [hload]
    exact exec_call () rfl hstore

/-- A target that does not exist, or an empty file, becomes a database. -/
lemma exec_store {messages : List (PyStr × PyStr)} (hvacant : Vacant (w.files target))
    (hfill : Exec migrationEnv (fillTable source target messages)
      ⟨Function.update w.files target (some (.database {})), w.transaction⟩ result w') :
    Exec migrationEnv (store source target messages) w result w' := by
  by_cases hsome : (w.files target).isSome = true
  · exact exec_call () (if_pos hsome).symm (exec_callInside () (.inr ⟨hvacant, rfl⟩) hfill)
  · refine exec_call () (if_neg hsome).symm (exec_callInside () (.inr ⟨?_, ?_⟩) hfill)
    · change Vacant (Function.update w.files target _ target)
      rw [Function.update_self]
      rfl
    · rw [Function.update_idem]

/-- The way from the empty table to the end when nothing raises. -/
lemma exec_fillTable {messages : List (PyStr × PyStr)} {db : Database} (htable : w.files target = some (.database db))
    (hrows : db.rows = []) {w₁ : MigrationWorld}
    (hw₁ : w₁ = ⟨Function.update w.files target (some (.database (db.insertAll messages))), none⟩)
    (hsource : (w₁.files source).isSome) :
    Exec migrationEnv (fillTable source target messages) w (.ok messages.length)
      { w₁ with
        files := Function.update (Function.update w₁.files (backupPath source) (w₁.files source)) source none } := by
  subst hw₁
  refine exec_callInside 0 ⟨?_, rfl⟩ ?_
  · rintro count ⟨⟩
    refine ⟨db, htable, ?_⟩
    rw [hrows]
    rfl
  · rw [if_neg (not_not.mpr rfl)]
    refine exec_callInside () ⟨db, htable, rfl⟩ (exec_callInside () ⟨_, rfl, rfl⟩ (exec_call () ⟨hsource, rfl⟩ .ret))

/-- The backup replaces the database that was just committed. -/
lemma not_outcome_of_backup (hclean : Clean content) (hsource : w.files source = some (.text content))
    (hbackup : w.files (backupPath source) = none) (hmigratable : Migratable content) :
    ∃ result w', Exec migrationEnv (migrate source (backupPath source)) w result w' ∧
      ¬MigrationOutcome source (backupPath source) content w result w' := by
  obtain ⟨s, hs⟩ := hmigratable.utf8
  rcases load_cases hclean hs with ⟨_, -, hnot⟩ | ⟨messages, hload, hlegacy, hiff⟩
  · exact absurd hmigratable hnot
  have hvacant : Vacant (w.files (backupPath source)) := by
    rw [hbackup]
    trivial
  have hread : Function.update (Function.update w.files (backupPath source) (some (.database {})))
      (backupPath source) (some (.database (Database.insertAll {} messages))) source = some (.text content) := by
    rw [Function.update_of_ne (backupPath_ne source).symm, Function.update_of_ne (backupPath_ne source).symm, hsource]
  have hsome := Option.isSome_of_eq_some hread
  have hrun := exec_migrate hsource hbackup hs hload (exec_store hvacant (exec_fillTable
    (w := ⟨Function.update w.files (backupPath source) (some (.database {})), w.transaction⟩)
    (Function.update_self ..) rfl rfl hsome))
  refine ⟨_, _, hrun, ?_⟩
  rintro ⟨hqueue, -⟩
  -- the target is the legacy file now
  dsimp only at hqueue
  rw [Function.update_of_ne (backupPath_ne source), Function.update_self, hread, loadAll_text, hlegacy] at hqueue
  exact hiff.mp hmigratable (List.map_eq_nil_iff.mp hqueue.symm)

/-- An empty legacy file becomes a database, and then the count fails. -/
lemma not_outcome_of_source (hsource : w.files source = some (.text []))
    (hbackup : w.files (backupPath source) = none) :
    ∃ result w', Exec migrationEnv (migrate source source) w result w' ∧
      ¬MigrationOutcome source source [] w result w' := by
  have hvacant : Vacant (w.files source) := by
    rw [hsource]
    rfl
  let w₁ : MigrationWorld := ⟨Function.update w.files source (some (.database {})), w.transaction⟩
  have hfailed : migrationEnv w₁ (.countRows source) (.error []) w₁ := ⟨nofun, rfl⟩
  have hread : loadLegacyMessages 1 (fileLines (universalNewlines [])) = .ok [] := rfl
  have hrun := exec_migrate hsource hbackup utf8_nil hread (exec_store hvacant (exec_raisedInside [] hfailed))
  refine ⟨_, _, hrun, ?_⟩
  rintro ⟨hfiles, -⟩
  change Function.update w.files source _ source = _ at hfiles
  rw [Function.update_self, hsource] at hfiles
  cases hfiles

end Migration

/-- What the migration is for, in every run and whatever fails: exactly as long as the target is not the
backup of a file with messages, nor the legacy file itself when that is empty. -/
theorem migration_keeps_queue_iff (source target content : Text) {d : Disk} (hd : LegacyDisk ⟨source⟩ d)
    (hfile : d.file = some content) (w : MigrationWorld) (hsource : w.files source = some (.text content)) :
    (∀ result w', Exec migrationEnv (Migration.migrate source target) w result w' →
      MigrationOutcome source target content w result w') ↔ ¬PathsCollide source target content w := by
  have hclean : Clean content := by
    have hdisk := hd.clean.file
    rw [hfile] at hdisk
    exact hdisk
  constructor
  · rintro hall ⟨hbackup, ⟨rfl, hmigratable⟩ | ⟨rfl, rfl⟩⟩
    · obtain ⟨result, w', hrun, hnot⟩ := Migration.not_outcome_of_backup hclean hsource hbackup hmigratable
      exact hnot (hall result w' hrun)
    · obtain ⟨result, w', hrun, hnot⟩ := Migration.not_outcome_of_source hsource hbackup
      exact hnot (hall result w' hrun)
  · exact fun hpaths result w' hrun => Migration.outcome_of_run hclean hsource hpaths hrun

/-! ### Files that are migrated -/

/-- The disk after one `append`. -/
lemma legacyDisk_append (path : Text) :
    LegacyDisk ⟨path⟩ ⟨some (CachedMessage.line ⟨ascii "t", ascii "p"⟩), none⟩ :=
  .append (m := ⟨ascii "t", ascii "p"⟩) .fresh ⟨by decide, by decide⟩
    (FileCache.exec_append _ _ _ true ⟨rfl, rfl⟩ List.prefix_rfl (fun _ => rfl))

/-- The disk after three, the last of which was cut before its newline. -/
lemma legacyDisk_cut (path : Text) : LegacyDisk ⟨path⟩ ⟨some (ascii "a\tx\nb\ty\nc\tz"), none⟩ := by
  have hfirst : LegacyDisk ⟨path⟩ ⟨some (ascii "a\tx\n"), none⟩ :=
    .append (m := ⟨ascii "a", ascii "x"⟩) .fresh ⟨by decide, by decide⟩
      (FileCache.exec_append _ _ _ true ⟨rfl, rfl⟩ List.prefix_rfl (fun _ => rfl))
  have hsecond : LegacyDisk ⟨path⟩ ⟨some (ascii "a\tx\nb\ty\n"), none⟩ :=
    .append (m := ⟨ascii "b", ascii "y"⟩) hfirst ⟨by decide, by decide⟩
      (FileCache.exec_append _ _ _ true ⟨rfl, rfl⟩ List.prefix_rfl (fun _ => rfl))
  exact .append (m := ⟨ascii "c", ascii "z"⟩) hsecond ⟨by decide, by decide⟩
    (FileCache.exec_append _ _ (ascii "c\tz") false ⟨rfl, rfl⟩ (by decide) nofun)

def MigrationWorld.single (path content : Text) : MigrationWorld :=
  { files := Function.update (fun _ => none) path (some (.text content)) }

lemma MigrationWorld.single_self (path content : Text) : (single path content).files path = some (.text content) := by
  simp [single]

lemma MigrationWorld.single_of_ne {path path' : Text} (h : path' ≠ path) (content : Text) :
    (single path content).files path' = none := by
  simp [single, h]

/-- A run to the end, with a database of its own. -/
theorem migration_keeps_queue_iff_fresh :
    ∃ w', Exec migrationEnv (Migration.migrate (ascii "cache") (ascii "cache.db"))
        (.single (ascii "cache") (ascii "a\tx\nb\ty\nc\tz")) (.ok 3) w' ∧
      MigrationOutcome (ascii "cache") (ascii "cache.db") (ascii "a\tx\nb\ty\nc\tz")
        (.single (ascii "cache") (ascii "a\tx\nb\ty\nc\tz")) (.ok 3) w' := by
  let w := MigrationWorld.single (ascii "cache") (ascii "a\tx\nb\ty\nc\tz")
  let s : PyStr := ['a', '\t', 'x', '\n', 'b', '\t', 'y', '\n', 'c', '\t', 'z']
  have hpaths : ¬PathsCollide (ascii "cache") (ascii "cache.db") (ascii "a\tx\nb\ty\nc\tz") w := by
    rintro ⟨-, ⟨hbackup, -⟩ | ⟨hsource, -⟩⟩
    · exact absurd hbackup (by decide)
    · exact absurd hsource (by decide)
  have hsource := MigrationWorld.single_self (ascii "cache") (ascii "a\tx\nb\ty\nc\tz")
  have hbackup : w.files (Migration.backupPath (ascii "cache")) = none := MigrationWorld.single_of_ne (by decide) _
  have hvacant : Vacant (w.files (ascii "cache.db")) := by
    rw [MigrationWorld.single_of_ne (by decide)]
    trivial
  have hs : utf8 s = ascii "a\tx\nb\ty\nc\tz" := by decide
  have hload : loadLegacyMessages 1 (fileLines (universalNewlines s)) =
      .ok [(['a'], ['x']), (['b'], ['y']), (['c'], ['z'])] := by
    rfl
  have htable : Function.update w.files (ascii "cache.db") (some (.database {})) (ascii "cache.db") =
      some (.database {}) := Function.update_self ..
  have hrun := Migration.exec_migrate hsource hbackup hs hload (Migration.exec_store hvacant
    (Migration.exec_fillTable htable rfl rfl rfl))
  have hiff := migration_keeps_queue_iff (ascii "cache") (ascii "cache.db") _ (legacyDisk_cut _) rfl w hsource
  exact ⟨_, hrun, hiff.mpr hpaths _ _ hrun⟩

/-- With the backup as its target, the script returns after it has replaced the database. -/
theorem backup_replaces_database :
    ¬∀ result w', Exec migrationEnv (Migration.migrate (ascii "cache") (ascii "cache.migrated"))
        (.single (ascii "cache") (CachedMessage.line ⟨ascii "t", ascii "p"⟩)) result w' →
      MigrationOutcome (ascii "cache") (ascii "cache.migrated") (CachedMessage.line ⟨ascii "t", ascii "p"⟩)
        (.single (ascii "cache") (CachedMessage.line ⟨ascii "t", ascii "p"⟩)) result w' := by
  have hmigratable : Migratable (CachedMessage.line ⟨ascii "t", ascii "p"⟩) := by
    refine ⟨⟨['t', '\t', 'p', '\n'], by decide⟩, ?_, ⟨ascii "t" ++ tab :: ascii "p", by decide, by decide⟩⟩
    intro line hline
    obtain rfl : line = ascii "t" ++ tab :: ascii "p" := List.mem_singleton.mp hline
    exact .inr ⟨⟨ascii "t", ascii "p"⟩, by decide, by decide, by decide⟩
  have hbackup : Migration.backupPath (ascii "cache") ≠ ascii "cache" := by decide
  obtain ⟨result, w', hrun, hnot⟩ := Migration.not_outcome_of_backup (legacyDisk_append []).clean.file
    (MigrationWorld.single_self _ _) (MigrationWorld.single_of_ne hbackup _) hmigratable
  exact fun hall => hnot (hall result w' hrun)

end EdgeGateway
