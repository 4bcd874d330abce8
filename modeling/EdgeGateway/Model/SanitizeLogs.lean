import EdgeGateway.Lib.Json
import EdgeGateway.Lib.Regex
import Mathlib.Data.List.Sort

/-!
# The log sanitizer

`scripts/sanitize_logs.py` on the text of a log file. Strings are lists of code points. What the script takes
from its environment, from the tables of Unicode and from `ipaddress`, and how `json` converts and prints a
number, are parameters.
-/

namespace EdgeGateway.SanitizeLogs

open Json (Str str)

/-! ### Strings of Python -/

/-- `str.isspace`, which is also `\s`. -/
def isspace (c : Nat) : Bool :=
  (9 ≤ c && c ≤ 13) || (28 ≤ c && c ≤ 32) || c == 0x85 || c == 0xA0 || c == 0x1680 ||
    (0x2000 ≤ c && c ≤ 0x200A) || c == 0x2028 || c == 0x2029 || c == 0x202F || c == 0x205F || c == 0x3000

/-- The characters at which `str.splitlines` cuts. -/
def isBoundary (c : Nat) : Bool :=
  (10 ≤ c && c ≤ 13) || (28 ≤ c && c ≤ 30) || c == 0x85 || c == 0x2028 || c == 0x2029

/-- The lines of a text of which `line` was read before. -/
def splitFrom (line : Str) : Str → List Str
  | [] => if line.isEmpty then [] else [line]
  | 13 :: 10 :: rest => line :: splitFrom [] rest
  | c :: rest => if isBoundary c then line :: splitFrom [] rest else splitFrom (line ++ [c]) rest

def splitlines (s : Str) : List Str :=
  splitFrom [] s

def strip (s : Str) : Str :=
  ((s.dropWhile isspace).reverse.dropWhile isspace).reverse

/-- The translation of line ends when a file is read as text. -/
def universalNewlines : Str → Str
  | [] => []
  | 13 :: 10 :: rest => 10 :: universalNewlines rest
  | 13 :: rest => 10 :: universalNewlines rest
  | c :: rest => c :: universalNewlines rest

/-- The letter that a character is compared as under `re.IGNORECASE`, where the expression has ASCII letters
only. -/
def foldCase (c : Nat) : Nat :=
  if 65 ≤ c ∧ c ≤ 90 then c + 32
  else if c = 0x130 ∨ c = 0x131 then 105
  else if c = 0x17F then 115
  else if c = 0x212A then 107
  else c

def anyCase (a c : Nat) : Bool :=
  foldCase a == foldCase c

/-- An address of `ipaddress`, as far as the script looks at it. -/
inductive IpAddress where
  | ipv4 (isPrivate isLoopback isLinkLocal : Bool)
  | ipv6

/-- What the script does not define itself. -/
structure Host where
  /-- The sets of `Sanitizer.__init__`, in the order in which they are iterated. -/
  repoVariants : List Str
  homeVariants : List Str
  userNames : List Str
  /-- The class `\d`. -/
  isDecimal : Nat → Bool
  /-- The class `\w`. -/
  isWord : Nat → Bool
  /-- Comparison of characters under `re.IGNORECASE`. -/
  sameLetter : Nat → Nat → Bool
  /-- `ipaddress.ip_address`, if it raises no error. -/
  ipAddress : Str → Option IpAddress
  /-- Whether `json.loads` converts the number, or `int` raises an error for its length. -/
  converts : Str → Bool
  /-- The number as `json.dumps` prints it. -/
  number : Str → Str
  /-- The `repr` of a number is on one line. -/
  number_line : ∀ literal, 10 ∉ number literal

/-- The options that decide what is redacted, with their defaults. -/
structure Args where
  redactIp : Bool := true
  redactPath : Bool := true
  redactUser : Bool := true
  redactSerial : Bool := true
  redactSecrets : Bool := true

/-! ### Patterns -/

section

open Regex

variable (host : Host)

def exactly (s : String) : Regex :=
  literal (· == ·) (str s)

/-- A word under `re.IGNORECASE`. -/
def caseless (s : String) : Regex :=
  literal anyCase (str s)

/-- A class that is given by its characters. -/
def among (s : String) (c : Nat) : Bool :=
  (str s).contains c

def isHex (c : Nat) : Bool :=
  (48 ≤ c && c ≤ 57) || (65 ≤ c && c ≤ 70) || (97 ≤ c && c ≤ 102)

/-- `[A-Za-z]` under `re.IGNORECASE`. -/
def isLetter (c : Nat) : Bool :=
  97 ≤ foldCase c && foldCase c ≤ 122

def ipv4Pattern : Regex :=
  concat [.notBehind (fun c => host.isDecimal c || among "." c),
    times (concat [times (.char host.isDecimal) 1 3, exactly "."]) 3 3,
    times (.char host.isDecimal) 1 3,
    .notAhead (fun c => host.isDecimal c || among "." c)]

def ipv6Pattern : Regex :=
  concat [.notBehind (fun c => isHex c || among ":" c),
    times (concat [times (.char isHex) 0 4, exactly ":"]) 2 7,
    times (.char isHex) 0 4,
    .notAhead (fun c => isHex c || among ":" c)]

def serialPattern : Regex :=
  concat [exactly "/dev/serial/by-id/", many1 (fun c => !(isspace c || among ",;" c))]

def posixHomePattern : Regex :=
  concat [exactly "/home/", many1 (fun c => !(among "/" c || isspace c))]

def wslHomePattern : Regex :=
  concat [caseless "/mnt/", .char isLetter, caseless "/Users/", many1 (fun c => !(among "/" c || isspace c))]

def windowsHomePattern : Regex :=
  concat [.char isLetter, exactly ":", .char (among "\\/"), caseless "Users", .char (among "\\/"),
    many1 (fun c => !(among "\\/" c || isspace c))]

def secretNames : List String :=
  ["password", "passwd", "token", "access_token", "api_key", "private_key", "private_key_file", "certificate",
    "certificate_file", "cert_file", "username", "mqtt_username", "mqtt_password"]

def secretKeyPattern : Regex :=
  concat [oneOf (secretNames.map caseless), .atEnd]

def secretAssignmentPattern : Regex :=
  concat [
    .group (concat [opt (.char (among "\"'")), oneOf (secretNames.map caseless), opt (.char (among "\"'")),
      .many isspace, .char (among ":="), .many isspace]),
    .group (oneOf [
      concat [exactly "\"", .many (fun c => !among "\"" c), exactly "\""],
      concat [exactly "'", .many (fun c => !among "'" c), exactly "'"],
      many1 (fun c => !(isspace c || among ",;" c))])]

def userPattern (userName : Str) : Regex :=
  concat [.notBehind (fun c => host.isWord c || among ".-" c), literal host.sameLetter userName,
    .notAhead (fun c => host.isWord c || among ".-" c)]

/-! ### Sanitizing a text -/

def redactIpv4 (m : Match) : Str :=
  match host.ipAddress m.text with
  | some (.ipv4 isPrivate isLoopback isLinkLocal) =>
    if isPrivate || isLoopback || isLinkLocal then
      let octets := m.text.splitOn 46
      octets.getD 0 [] ++ str "." ++ octets.getD 1 [] ++ str ".x.x"
    else
      str "<redacted-ipv4>"
  | _ => m.text

def redactIpv6 (m : Match) : Str :=
  match host.ipAddress m.text with
  | some .ipv6 => str "<redacted-ipv6>"
  | _ => m.text

def redactAssignment (m : Match) : Str :=
  let value := m.groups.getD 1 []
  m.groups.getD 0 [] ++
    (if value.head? = some 34 ∧ value.getLast? = some 34 then str "\"<redacted>\""
    else if value.head? = some 39 ∧ value.getLast? = some 39 then str "'<redacted>'"
    else str "<redacted>")

/-- `str.replace`, for a text that is not empty. -/
def replace (old : Str) (new : String) (s : Str) : Str :=
  (literal (· == ·) old).sub (fun _ => str new) s

/-- `sorted(variants, key=len, reverse=True)`. -/
def longestFirst (variants : List Str) : List Str :=
  variants.insertionSort (fun a b => b.length ≤ a.length)

/-- `if condition: text = change(text)`. -/
def changeIf (condition : Bool) (change : Str → Str) (text : Str) : Str :=
  if condition then change text else text

def redactPaths (text : Str) : Str :=
  let text := (longestFirst host.repoVariants).foldl (fun text path => replace path "<repo-root>" text) text
  let text := (longestFirst host.homeVariants).foldl (fun text path => replace path "<home>" text) text
  let text := wslHomePattern.sub (fun _ => str "<windows-home>") text
  let text := windowsHomePattern.sub (fun _ => str "<windows-home>") text
  posixHomePattern.sub (fun _ => str "<home>") text

def redactUsers (text : Str) : Str :=
  (longestFirst host.userNames).foldl
    (fun text userName => (userPattern host userName).sub (fun _ => str "<redacted-user>") text) text

def sanitizeText (args : Args) (value : Str) : Str :=
  value
    |> changeIf args.redactPath (redactPaths host)
    |> changeIf args.redactSerial (serialPattern.sub (fun _ => str "/dev/serial/by-id/<redacted-serial>"))
    |> changeIf args.redactUser (redactUsers host)
    |> changeIf args.redactIp ((ipv4Pattern host).sub (redactIpv4 host))
    |> changeIf args.redactIp (ipv6Pattern.sub (redactIpv6 host))
    |> changeIf args.redactSecrets (secretAssignmentPattern.sub redactAssignment)

/-! ### Sanitizing a value -/

open Json (Value)

/-- `SECRET_KEY_PATTERN.match(key)`. -/
def isSecretKey (key : Str) : Bool :=
  !(secretKeyPattern.matchesAt none key).isEmpty

/-- `json.loads` knows three words for numbers beyond the standard. -/
def constants : List Str :=
  [str "NaN", str "Infinity", str "-Infinity"]

/-- A `dict` keeps the place of a key and the last of its values. -/
def dictInsert (members : List (Str × Value)) (member : Str × Value) : List (Str × Value) :=
  if members.any (fun other => other.1 == member.1) then
    members.map (fun other => if other.1 == member.1 then member else other)
  else
    members ++ [member]

def dict (members : List (Str × Value)) : List (Str × Value) :=
  members.foldl dictInsert []

mutual

/-- The numbers of the value are all converted. -/
def converts : Value → Bool
  | .number literal => host.converts literal
  | .array items => convertsItems items
  | .object members => convertsMembers members
  | _ => true

def convertsItems : List Value → Bool
  | [] => true
  | value :: rest => converts value && convertsItems rest

def convertsMembers : List (Str × Value) → Bool
  | [] => true
  | (_, value) :: rest => converts value && convertsMembers rest

end

mutual

/-- The object that `json.loads` builds, with numbers as they are printed again. -/
def load : Value → Value
  | .number literal => .number (host.number literal)
  | .array items => .array (loadItems items)
  | .object members => .object (dict (loadMembers members))
  | .null => .null
  | .bool b => .bool b
  | .string s => .string s

def loadItems : List Value → List Value
  | [] => []
  | value :: rest => load value :: loadItems rest

def loadMembers : List (Str × Value) → List (Str × Value)
  | [] => []
  | (key, value) :: rest => (key, load value) :: loadMembers rest

end

mutual

def sanitizeJson (args : Args) (key : Str) : Value → Value
  | .object members =>
    if args.redactSecrets && isSecretKey key then .string (str "<redacted>")
    else .object (sanitizeMembers args members)
  | .array items =>
    if args.redactSecrets && isSecretKey key then .string (str "<redacted>")
    else .array (sanitizeItems args key items)
  | .string s =>
    if args.redactSecrets && isSecretKey key then .string (str "<redacted>")
    else .string (sanitizeText host args s)
  | value =>
    if args.redactSecrets && isSecretKey key then .string (str "<redacted>")
    else value

def sanitizeItems (args : Args) (key : Str) : List Value → List Value
  | [] => []
  | value :: rest => sanitizeJson args key value :: sanitizeItems args key rest

def sanitizeMembers (args : Args) : List (Str × Value) → List (Str × Value)
  | [] => []
  | (key, value) :: rest => (key, sanitizeJson args key value) :: sanitizeMembers args rest

end

/-! ### Printing -/

def hexChar (n : Nat) : Nat :=
  if n < 10 then 48 + n else 87 + n

/-- A character of a string with `ensure_ascii=False`. -/
def dumpChar (c : Nat) : Str :=
  if c = 34 then str "\\\""
  else if c = 92 then str "\\\\"
  else if c = 10 then str "\\n"
  else if c = 13 then str "\\r"
  else if c = 9 then str "\\t"
  else if c = 12 then str "\\f"
  else if c = 8 then str "\\b"
  else if c < 32 then str "\\u00" ++ [hexChar (c / 16), hexChar (c % 16)]
  else [c]

def dumpString (s : Str) : Str :=
  [34] ++ s.flatMap dumpChar ++ [34]

mutual

/-- `json.dumps` with the separators of the script. -/
def dumps : Value → Str
  | .null => str "null"
  | .bool b => str (if b then "true" else "false")
  | .number text => text
  | .string s => dumpString s
  | .array items => [91] ++ [44].intercalate (dumpItems items) ++ [93]
  | .object members => [123] ++ [44].intercalate (dumpMembers members) ++ [125]

def dumpItems : List Value → List Str
  | [] => []
  | value :: rest => dumps value :: dumpItems rest

def dumpMembers : List (Str × Value) → List Str
  | [] => []
  | (key, value) :: rest => (dumpString key ++ [58] ++ dumps value) :: dumpMembers rest

end

/-! ### The file -/

/-- A line of the output. The script ends with an error on a number that does not convert. -/
def sanitizeLine (args : Args) (line : Str) : Option Str :=
  let stripped := strip line
  if stripped.isEmpty then some (sanitizeText host args line)
  else
    match Json.parse constants stripped with
    | some parsed =>
      if converts host parsed then some (dumps (sanitizeJson host args [] (load host parsed))) else none
    | none => some (sanitizeText host args line)

/-- `write_text` with UTF-8, which has no code for a surrogate. `json.loads` makes one of an escape that is not
part of a pair. -/
def writeText (s : Str) : Option Str :=
  if s.all (fun c => c < 0xD800 || 0xDFFF < c) then some s else none

/-- What `main` writes for a file with this text, without `--append-note`. -/
def sanitizeLogs (args : Args) (file : Str) : Option Str := do
  let source := universalNewlines file
  let hadFinalNewline := source.getLast? == some 10
  let sanitizedLines ← (splitlines source).mapM (sanitizeLine host args)
  let result := [10].intercalate sanitizedLines
  writeText (if hadFinalNewline && !result.isEmpty then result ++ [10] else result)

end

end EdgeGateway.SanitizeLogs
