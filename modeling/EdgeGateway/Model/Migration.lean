import EdgeGateway.Model.FileCache
import Mathlib.Data.List.DropRight

/-!
# The migration of the file cache

`scripts/migrate_file_cache.py` over the calls that it makes, each of which can raise. A Python string is a
list of characters. Files and databases hold it in UTF-8.
-/

namespace EdgeGateway
open CallTree

abbrev PyStr := List Char

def utf8 (s : PyStr) : Text :=
  s.flatMap String.utf8EncodeChar

/-- A file opened in text mode: `\r\n` and `\r` are read as `\n`. -/
def universalNewlines : PyStr → PyStr
  | [] => []
  | '\r' :: '\n' :: rest => '\n' :: universalNewlines rest
  | c :: rest => (if c = '\r' then '\n' else c) :: universalNewlines rest

/-- The lines that the iteration over a file yields, each with its end. -/
def fileLines : PyStr → List PyStr
  | [] => []
  | c :: rest =>
    if c = '\n' then
      [c] :: fileLines rest
    else
      match fileLines rest with
      | [] => [[c]]
      | line :: lines => (c :: line) :: lines

/-- `rstrip("\r\n")`. -/
def rstrip (line : PyStr) : PyStr :=
  line.rdropWhile (fun c => c = '\r' || c = '\n')

/-- `partition("\t")`, with `separator` as a truth value. -/
def partitionTab (line : PyStr) : PyStr × Bool × PyStr :=
  if '\t' ∈ line then
    (line.take (line.idxOf '\t'), true, line.drop (line.idxOf '\t' + 1))
  else
    (line, false, [])

/-- The loop of `load_legacy_messages`. -/
def loadLegacyMessages : Nat → List PyStr → Except Text (List (PyStr × PyStr))
  | _, [] => .ok []
  | lineNumber, rawLine :: rest =>
    if rstrip rawLine = [] then
      loadLegacyMessages (lineNumber + 1) rest
    else
      match partitionTab (rstrip rawLine) with
      | (topic, separator, payload) =>
        if !separator || topic.isEmpty || payload.isEmpty then
          .error (ascii "malformed cache line: " ++ decimal lineNumber)
        else
          match loadLegacyMessages (lineNumber + 1) rest with
          | .error message => .error message
          | .ok messages => .ok ((topic, payload) :: messages)

/-- What the script asks of the file system and of `sqlite3`. `readLines` is the iteration over the opened
file. -/
inductive MigrationOp where
  | isFile (path : Text)
  | pathExists (path : Text)
  | readLines (path : Text)
  | mkdirParents (path : Text)
  | connect (path : Text)
  | createTable (path : Text)
  | countRows (path : Text)
  | executemany (path : Text) (messages : List (PyStr × PyStr))
  | commit (path : Text)
  | rollback (path : Text)
  | rename (path newPath : Text)

/-- `readLines` returns the lines and the exception that ended the iteration, if one did. -/
abbrev MigrationOp.Value : MigrationOp → Type
  | .isFile _ => Bool
  | .pathExists _ => Bool
  | .readLines _ => List PyStr × Option Text
  | .mkdirParents _ => Unit
  | .connect _ => Unit
  | .createTable _ => Unit
  | .countRows _ => Nat
  | .executemany _ _ => Unit
  | .commit _ => Unit
  | .rollback _ => Unit
  | .rename _ _ => Unit

abbrev migrationSignature : Signature :=
  ⟨MigrationOp, fun o => Except Text o.Value⟩

/-- What `migrate` raises itself, and what a call of it raised. -/
inductive MigrationError where
  | fileNotFoundError (message : Text)
  | fileExistsError (message : Text)
  | valueError (message : Text)
  | runtimeError (message : Text)
  | raisedBy (o : MigrationOp) (message : Text)

namespace Migration

abbrev Migrates := Prog migrationSignature (Except MigrationError Nat)

def raise (e : MigrationError) : Migrates :=
  .ret (.error e)

/-- A call, and what follows unless it raises. -/
def orRaise (o : MigrationOp) (k : o.Value → Migrates) : Migrates :=
  .call (E := migrationSignature) o (fun a => match a with
    | .error message => raise (.raisedBy o message)
    | .ok value => k value)

/-- An exception in the `with` block: the connection rolls back. -/
def raiseInside (target : Text) (e : MigrationError) : Migrates :=
  .call (E := migrationSignature) (.rollback target) (fun _ => raise e)

/-- A call in the `with` block. -/
def orRollBack (target : Text) (o : MigrationOp) (k : o.Value → Migrates) : Migrates :=
  .call (E := migrationSignature) o (fun a => match a with
    | .error message => raiseInside target (.raisedBy o message)
    | .ok value => k value)

def backupPath (source : Text) : Text :=
  source ++ ascii ".migrated"

/-- `migrate` from `executemany` on. -/
def insertMessages (source target : Text) (messages : List (PyStr × PyStr)) : Migrates :=
  orRollBack target (.executemany target messages) fun _ =>
  orRollBack target (.commit target) fun _ =>
  orRaise (.rename source (backupPath source)) fun _ =>
  .ret (.ok messages.length)

/-- `migrate` from the count of the rows on. -/
def fillTable (source target : Text) (messages : List (PyStr × PyStr)) : Migrates :=
  orRollBack target (.countRows target) fun existingCount =>
  if existingCount ≠ 0 then
    raiseInside target (.runtimeError (ascii "target SQLite cache is not empty"))
  else
    insertMessages source target messages

/-- `migrate` from the `with` statement on. -/
def store (source target : Text) (messages : List (PyStr × PyStr)) : Migrates :=
  orRaise (.connect target) fun _ =>
  orRollBack target (.createTable target) fun _ =>
  fillTable source target messages

def migrate (source target : Text) : Migrates :=
  orRaise (.isFile source) fun isFile =>
  if !isFile then
    raise (.fileNotFoundError (ascii "legacy cache not found: " ++ source))
  else
    orRaise (.pathExists (backupPath source)) fun backedUp =>
    if backedUp then
      raise (.fileExistsError (ascii "migration backup already exists: " ++ backupPath source))
    else
      orRaise (.readLines source) fun (lines, failure) =>
      match loadLegacyMessages 1 lines, failure with
      | .error message, _ => raise (.valueError message)
      | .ok _, some message => raise (.raisedBy (.readLines source) message)
      | .ok messages, none =>
        orRaise (.mkdirParents target) fun _ =>
        store source target messages

end Migration

end EdgeGateway
