import EdgeGateway.Lib.CallTree
import EdgeGateway.Model.SqliteCache

/-!
# The file message cache

`FileCache` of `cache/file_cache.cpp`, written over the file operations it makes: one line per message,
topic and payload separated by a tab. A removal rewrites the file through a temporary one.
-/

namespace EdgeGateway
open CallTree

/-- What `FileCache` asks of the file system. `readLines` is the loop over `std::getline`: the lines it
yields until the stream fails. A write answers `good()` after the flush. -/
inductive FileOp where
  | createDirectories
  | openAppend
  | append (bytes : Text)
  | openRead
  | readLines
  | openTemporary
  | writeTemporary (bytes : Text)
  | rename
  | removeTemporary
  | print (line : Text)

abbrev FileOp.Ans : FileOp → Type
  | .createDirectories => Option Text
  | .openAppend => Bool
  | .append _ => Bool
  | .openRead => Bool
  | .readLines => List Text
  | .openTemporary => Bool
  | .writeTemporary _ => Bool
  | .rename => Option Text
  | .removeTemporary => Unit
  | .print _ => Unit

abbrev fileSignature : Signature :=
  ⟨FileOp, FileOp.Ans⟩

def tab : UInt8 := 9

def newline : UInt8 := 10

def carriageReturn : UInt8 := 13

def containsSeparator (text : Text) : Bool :=
  tab ∈ text || newline ∈ text || carriageReturn ∈ text

/-- A message as `append` and `replace_all` write it. -/
def CachedMessage.line (m : CachedMessage) : Text :=
  m.topic ++ [tab] ++ m.payload ++ [newline]

/-- The message on a line, if it has a tab. -/
def parseLine (line : Text) : Option CachedMessage :=
  if tab ∈ line then
    some ⟨line.take (line.idxOf tab), line.drop (line.idxOf tab + 1)⟩
  else
    none

/-- What `std::getline` yields until the end of the file: a last line counts without its newline. -/
def getlines : Text → List Text
  | [] => []
  | byte :: rest =>
    if byte = newline then
      [] :: getlines rest
    else
      match getlines rest with
      | [] => [[byte]]
      | line :: lines => (byte :: line) :: lines

structure FileCache where
  path : Text

namespace FileCache

abbrev Call := Prog fileSignature

def print (line : Text) : Call Unit :=
  .perform (E := fileSignature) (.print line)

/-- `parent_path()` is empty when the path has no directory separator. -/
def hasParent (c : FileCache) : Bool :=
  47 ∈ c.path

/-- The block in `append` and in `replace_all` that makes sure of the parent directory. -/
def ensureParent (c : FileCache) : Call Bool :=
  if c.hasParent then do
    match ← (.perform (E := fileSignature) .createDirectories : Call (Option Text)) with
    | some message =>
      print (ascii "[ERROR] create cache directory failed: " ++ message)
      return false
    | none => return true
  else
    return true

def append (c : FileCache) (topic payload : Text) : Call Bool := do
  if containsSeparator topic || containsSeparator payload then
    print (ascii "[ERROR] cache message contains invalid separator")
    return false
  else if ← c.ensureParent then
    if ← (.perform (E := fileSignature) .openAppend : Call Bool) then
      .perform (E := fileSignature) (.append (CachedMessage.line ⟨topic, payload⟩))
    else
      print (ascii "[ERROR] open cache file failed: " ++ c.path)
      return false
  else
    return false

def parseLines : List Text → Call (List CachedMessage)
  | [] => return []
  | line :: lines =>
    match parseLine line with
    | none => do
      print (ascii "[WARN] skip malformed cache line")
      parseLines lines
    | some message => do
      let messages ← parseLines lines
      return message :: messages

def loadAll : Call (List CachedMessage) := do
  if ← (.perform (E := fileSignature) .openRead : Call Bool) then
    let lines ← (.perform (E := fileSignature) .readLines : Call (List Text))
    parseLines lines
  else
    return []

def replaceAll (c : FileCache) (messages : List CachedMessage) : Call Bool := do
  if messages.any (fun m => containsSeparator m.topic || containsSeparator m.payload) then
    print (ascii "[ERROR] cache message contains invalid separator")
    return false
  else if ← c.ensureParent then
    if ← (.perform (E := fileSignature) .openTemporary : Call Bool) then
      if ← (.perform (E := fileSignature)
          (.writeTemporary (messages.flatMap CachedMessage.line)) : Call Bool) then
        match ← (.perform (E := fileSignature) .rename : Call (Option Text)) with
        | some message =>
          print (ascii "[ERROR] replace cache file failed: " ++ message)
          (.perform (E := fileSignature) .removeTemporary : Call Unit)
          return false
        | none => return true
      else
        print (ascii "[ERROR] write temporary cache file failed")
        return false
    else
      print (ascii "[ERROR] open temporary cache file failed: " ++ c.path ++ ascii ".tmp")
      return false
  else
    return false

def removeFirst (c : FileCache) (count : Nat) : Call Bool := do
  if count = 0 then
    return true
  else
    let messages ← loadAll
    if count ≥ messages.length then
      c.replaceAll []
    else
      c.replaceAll (messages.drop count)

end FileCache

end EdgeGateway
