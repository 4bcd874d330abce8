import EdgeGateway.Model.Text

/-!
# The SQLite message cache

`SqliteCache` of `cache/sqlite_cache.cpp` over a table of rows. A statement that fails changes
nothing. Of SQLite itself the model has what the source relies on: `AUTOINCREMENT` gives a new row an
id above all ids ever given, and `ORDER BY id` sorts by it.
-/

namespace EdgeGateway

structure CachedMessage where
  topic : Text
  payload : Text
deriving DecidableEq

/-- The range of `int`. -/
def intMax : Nat := 2 ^ 31 - 1

/-- `static_cast<int>` of a `std::size_t`. -/
def castInt (n : Nat) : Int :=
  (BitVec.ofNat 32 n).toInt

structure Row where
  id : Nat
  topic : Text
  payload : Text
deriving DecidableEq

/-- Where a statement fails, with the text of `sqlite3_errmsg`. -/
inductive SqlFault where
  | prepare (message : Text)
  | bind (message : Text)
  | step (message : Text)

/-- The table `pending_messages` and its `AUTOINCREMENT` sequence. -/
structure Database where
  rows : List Row := []
  sequence : Nat := 0

namespace Database

def orderById (rows : List Row) : List Row :=
  rows.mergeSort (fun a b => a.id ≤ b.id)

/-- `INSERT INTO pending_messages(topic, payload)`. -/
def insert (db : Database) (topic payload : Text) : Database :=
  ⟨db.rows ++ [⟨db.sequence + 1, topic, payload⟩], db.sequence + 1⟩

/-- `DELETE … WHERE id IN (SELECT id … ORDER BY id LIMIT ?)`. -/
def deleteFirst (db : Database) (limit : Nat) : Database :=
  { db with rows := db.rows.filter (fun r => r.id ∉ ((orderById db.rows).take limit).map Row.id) }

end Database

/-- The value that `sqlite3_bind_text` binds when it is given the size as an `int`: a negative size
makes it read to the first NUL. -/
def bindText (s : Text) : Text :=
  if castInt s.length < 0 then cString s else s.take (castInt s.length).toNat

structure SqliteCache where
  database : Database := {}
  ready : Bool := true
  errorMessage : Text := []

namespace SqliteCache

def setError (c : SqliteCache) (message : Text) : SqliteCache :=
  { c with errorMessage := message }

def append (c : SqliteCache) (fault : Option SqlFault) (topic payload : Text) : Bool × SqliteCache :=
  if !c.ready then
    (false, c)
  else
    match fault with
    | some (.prepare message) => (false, c.setError (ascii "prepare cache insert failed: " ++ message))
    | some (.bind message) => (false, c.setError (ascii "insert cache message failed: " ++ message))
    | some (.step message) => (false, c.setError (ascii "insert cache message failed: " ++ message))
    | none => (true, { c with database := c.database.insert (bindText topic) (bindText payload) })

def loadAll (c : SqliteCache) (fault : Option SqlFault) : List CachedMessage × SqliteCache :=
  if !c.ready then
    ([], c)
  else
    match fault with
    | some (.prepare message) => ([], c.setError (ascii "prepare cache query failed: " ++ message))
    | some (.bind message) => ([], c.setError (ascii "query cache messages failed: " ++ message))
    | some (.step message) => ([], c.setError (ascii "query cache messages failed: " ++ message))
    | none => ((Database.orderById c.database.rows).map (fun r => ⟨cString r.topic, cString r.payload⟩), c)

def removeFirst (c : SqliteCache) (fault : Option SqlFault) (count : Nat) : Bool × SqliteCache :=
  if !c.ready || count == 0 then
    (c.ready, c)
  else if count > intMax then
    (false, c.setError (ascii "cache removal count is too large"))
  else
    match fault with
    | some (.prepare message) => (false, c.setError (ascii "prepare cache removal failed: " ++ message))
    | some (.bind message) => (false, c.setError (ascii "remove cached messages failed: " ++ message))
    | some (.step message) => (false, c.setError (ascii "remove cached messages failed: " ++ message))
    | none => (true, { c with database := c.database.deleteFirst count })

end SqliteCache

end EdgeGateway
