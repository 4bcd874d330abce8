import Mathlib.Data.List.TakeWhile
import Mathlib.Tactic

/-!
# JSON texts

The values of JSON and a parser for JSON texts, over strings of code points. A document is the syntax of a
text down to its whitespace and escapes; the parser gives the value of every document back.
-/

namespace Json

/-- A string as its code points. -/
abbrev Str := List Nat

def str (s : String) : Str :=
  s.toList.map Char.toNat

/-- A number keeps its literal, an object its members in the order of the text. -/
inductive Value where
  | null
  | bool (b : Bool)
  | number (literal : Str)
  | string (s : Str)
  | array (items : List Value)
  | object (members : List (Str × Value))

/-! ### Strings -/

def hexDigit (c : Nat) : Option Nat :=
  if 48 ≤ c ∧ c ≤ 57 then some (c - 48)
  else if 97 ≤ c ∧ c ≤ 102 then some (c - 87)
  else if 65 ≤ c ∧ c ≤ 70 then some (c - 55)
  else none

/-- The characters that may follow a backslash, and what they stand for. -/
def escapes : List (Nat × Nat) :=
  [(34, 34), (92, 92), (47, 47), (98, 8), (102, 12), (110, 10), (114, 13), (116, 9)]

/-- One element of a string literal. -/
inductive Piece where
  | plain (c : Nat) (h : 32 ≤ c ∧ c ≠ 34 ∧ c ≠ 92)
  | escape (c : Nat) (h : (escapes.lookup c).isSome)
  | unicode (a b c d : Nat) (h : [a, b, c, d].all (fun digit => (hexDigit digit).isSome))

namespace Piece

def render : Piece → Str
  | .plain c _ => [c]
  | .escape c _ => [92, c]
  | .unicode a b c d _ => [92, 117, a, b, c, d]

/-- The value of the hexadecimal digits. -/
def word (a b c d : Nat) : Nat :=
  [a, b, c, d].foldl (fun n digit => n * 16 + (hexDigit digit).getD 0) 0

def unit : Piece → Nat
  | .plain c _ => c
  | .escape c _ => (escapes.lookup c).getD 0
  | .unicode a b c d _ => word a b c d

end Piece

/-- The string that a literal stands for. Two escapes that form a surrogate pair are one code point. -/
def decode : List Piece → Str
  | [] => []
  | [piece] => [piece.unit]
  | .unicode a b c d _ :: .unicode a' b' c' d' h' :: rest =>
    if 0xD800 ≤ Piece.word a b c d ∧ Piece.word a b c d ≤ 0xDBFF ∧
        0xDC00 ≤ Piece.word a' b' c' d' ∧ Piece.word a' b' c' d' ≤ 0xDFFF then
      (0x10000 + (Piece.word a b c d - 0xD800) * 0x400 + (Piece.word a' b' c' d' - 0xDC00)) :: decode rest
    else
      Piece.word a b c d :: decode (.unicode a' b' c' d' h' :: rest)
  | piece :: next :: rest => piece.unit :: decode (next :: rest)

def nextPiece : Str → Option (Piece × Str)
  | 92 :: 117 :: a :: b :: c :: d :: rest =>
    if h : [a, b, c, d].all (fun digit => (hexDigit digit).isSome) then
      some (.unicode a b c d h, rest)
    else
      none
  | 92 :: c :: rest =>
    if h : (escapes.lookup c).isSome then
      some (.escape c h, rest)
    else
      none
  | c :: rest =>
    if h : 32 ≤ c ∧ c ≠ 34 ∧ c ≠ 92 then
      some (.plain c h, rest)
    else
      none
  | [] => none

def isPlain (c : Nat) : Bool :=
  32 ≤ c ∧ c ≠ 34 ∧ c ≠ 92

/-- A string that is written without escapes. -/
def plainPieces : (s : Str) → s.all isPlain = true → List Piece
  | [], _ => []
  | c :: s, h =>
    have hall := Bool.and_eq_true_iff.mp h
    .plain c (of_decide_eq_true hall.1) :: plainPieces s hall.2

lemma render_plainPieces (s : Str) (h : s.all isPlain = true) : (plainPieces s h).flatMap Piece.render = s := by
  induction s with
  | nil => rfl
  | cons c s ih =>
    rw [plainPieces, List.flatMap_cons, ih, Piece.render, List.singleton_append]

lemma decode_plainPieces (s : Str) (h : s.all isPlain = true) : decode (plainPieces s h) = s := by
  induction s with
  | nil => rfl
  | cons c s ih =>
    have hrest := ih (Bool.and_eq_true_iff.mp h).2
    cases s with
    | nil => rfl
    | cons d s =>
      exact congrArg (c :: ·) hrest

/-- The rest of a string literal after its opening quote, of at most this many elements. -/
def parsePieces : Nat → Str → Option (List Piece × Str)
  | _, 34 :: rest => some ([], rest)
  | 0, _ => none
  | n + 1, s =>
    match nextPiece s with
    | some (piece, rest) => (parsePieces n rest).map (fun (pieces, rest) => (piece :: pieces, rest))
    | none => none

lemma nextPiece_render (piece : Piece) (rest : Str) : nextPiece (piece.render ++ rest) = some (piece, rest) := by
  cases piece with
  | plain c h =>
    rw [Piece.render, List.singleton_append, nextPiece, dif_pos h]
    · exact fun _ _ _ _ _ hslash => absurd hslash h.2.2
    · exact fun _ _ hslash => absurd hslash h.2.2
  | escape c h =>
    have hc : c ≠ 117 := by
      rintro rfl
      revert h
      decide
    rw [Piece.render, List.cons_append, List.singleton_append, nextPiece, dif_pos h]
    exact fun _ _ _ _ _ hunicode => absurd hunicode hc
  | unicode a b c d h =>
    change nextPiece (92 :: 117 :: a :: b :: c :: d :: rest) = _
    rw [nextPiece, dif_pos h]

lemma Piece.render_ne_quote (piece : Piece) (rest rest' : Str) : piece.render ++ rest ≠ 34 :: rest' := by
  intro heq
  cases piece with
  | plain c h => exact h.2.1 (List.cons.inj heq).1
  | escape c h => exact absurd (List.cons.inj heq).1 (by decide)
  | unicode a b c d h => exact absurd (List.cons.inj heq).1 (by decide)

lemma Piece.length_render_pos (piece : Piece) : 0 < piece.render.length := by
  cases piece with
  | plain c h => exact Nat.one_pos
  | escape c h => exact Nat.two_pos
  | unicode a b c d h => exact Nat.succ_pos 5

/-- The text of a string literal after its opening quote is read back. -/
lemma parsePieces_render (pieces : List Piece) (rest : Str) {n : Nat}
    (hn : (pieces.flatMap Piece.render).length ≤ n) :
    parsePieces n (pieces.flatMap Piece.render ++ 34 :: rest) = some (pieces, rest) := by
  induction pieces generalizing n with
  | nil => rw [List.flatMap_nil, List.nil_append, parsePieces]
  | cons piece pieces ih =>
    have hpos := piece.length_render_pos
    rw [List.flatMap_cons, List.length_append] at hn
    obtain ⟨m, rfl⟩ : ∃ m, n = m + 1 := ⟨n - 1, by omega⟩
    rw [List.flatMap_cons, List.append_assoc, parsePieces, nextPiece_render]
    · dsimp only
      rw [ih (by omega)]
      rfl
    · exact piece.render_ne_quote _

/-! ### Numbers -/

def isDigit (c : Nat) : Bool :=
  48 ≤ c && c ≤ 57

/-- The characters of a number: digits, sign, point and exponent. -/
def isNumberChar (c : Nat) : Bool :=
  isDigit c || c == 43 || c == 45 || c == 46 || c == 69 || c == 101

/-- One or more digits. -/
def isDigits (s : Str) : Bool :=
  !s.isEmpty && s.all isDigit

def isExponent : Str → Bool
  | [] => true
  | e :: 43 :: digits => (e == 69 || e == 101) && isDigits digits
  | e :: 45 :: digits => (e == 69 || e == 101) && isDigits digits
  | e :: digits => (e == 69 || e == 101) && isDigits digits

/-- What may follow the digits before the point. -/
def isFraction : Str → Bool
  | 46 :: rest => isDigits (rest.takeWhile isDigit) && isExponent (rest.dropWhile isDigit)
  | rest => isExponent rest

/-- The digits before the point have no leading zero. -/
def isWhole (digits : Str) : Bool :=
  isDigits digits && (digits.length == 1 || digits.head? != some 48)

def isUnsigned (s : Str) : Bool :=
  isWhole (s.takeWhile isDigit) && isFraction (s.dropWhile isDigit)

def isNumber : Str → Bool
  | 45 :: rest => isUnsigned rest
  | s => isUnsigned s

lemma isNumber_of_isUnsigned {s : Str} (h : isUnsigned s = true) : isNumber s = true := by
  unfold isNumber
  split
  · exact absurd h (by simp [isUnsigned, isWhole, isDigits, isDigit])
  · exact h

lemma all_isNumberChar_of_digits {s : Str} (h : s.all isDigit = true) : s.all isNumberChar = true := by
  rw [List.all_eq_true] at h ⊢
  intro c hc
  simp [isNumberChar, h c hc]

lemma all_isNumberChar_of_isExponent {s : Str} (h : isExponent s = true) : s.all isNumberChar = true := by
  have hletter : ∀ e : Nat, (e == 69 || e == 101) = true → isNumberChar e = true := by
    intro e he
    rcases Bool.or_eq_true_iff.mp he with h | h
    · rw [beq_iff_eq.mp h]
      rfl
    · rw [beq_iff_eq.mp h]
      rfl
  have hdigits : ∀ digits : Str, isDigits digits = true → digits.all isNumberChar = true := by
    intro digits hd
    exact all_isNumberChar_of_digits (Bool.and_eq_true_iff.mp hd).2
  unfold isExponent at h
  split at h
  · rfl
  · rw [Bool.and_eq_true_iff] at h
    rw [List.all_cons, List.all_cons, hletter _ h.1, hdigits _ h.2]
    rfl
  · rw [Bool.and_eq_true_iff] at h
    rw [List.all_cons, List.all_cons, hletter _ h.1, hdigits _ h.2]
    rfl
  · rw [Bool.and_eq_true_iff] at h
    rw [List.all_cons, hletter _ h.1, hdigits _ h.2]
    rfl

lemma all_isNumberChar_of_isFraction {s : Str} (h : isFraction s = true) : s.all isNumberChar = true := by
  unfold isFraction at h
  split at h
  · rename_i rest
    rw [Bool.and_eq_true_iff] at h
    have hdigits := all_isNumberChar_of_digits (Bool.and_eq_true_iff.mp h.1).2
    rw [List.all_cons, ← List.takeWhile_append_dropWhile (p := isDigit) (l := rest), List.all_append, hdigits,
      all_isNumberChar_of_isExponent h.2]
    rfl
  · exact all_isNumberChar_of_isExponent h

lemma all_isNumberChar_of_isUnsigned {s : Str} (h : isUnsigned s = true) : s.all isNumberChar = true := by
  obtain ⟨hwhole, hfraction⟩ := Bool.and_eq_true_iff.mp h
  have hdigits := (Bool.and_eq_true_iff.mp (Bool.and_eq_true_iff.mp hwhole).1).2
  rw [← List.takeWhile_append_dropWhile (p := isDigit) (l := s), List.all_append,
    all_isNumberChar_of_digits hdigits, all_isNumberChar_of_isFraction hfraction]
  rfl

lemma all_isNumberChar_of_isNumber {s : Str} (h : isNumber s = true) : s.all isNumberChar = true := by
  unfold isNumber at h
  split at h
  · rw [List.all_cons, all_isNumberChar_of_isUnsigned h]
    rfl
  · exact all_isNumberChar_of_isUnsigned h

lemma takeWhile_append_of_head {p : Nat → Bool} {s t : Str} (hs : s.all p = true)
    (ht : ∀ c rest, t = c :: rest → p c = false) : (s ++ t).takeWhile p = s := by
  rw [List.takeWhile_append_of_pos (List.all_eq_true.mp hs)]
  cases t with
  | nil => simp
  | cons c rest => rw [List.takeWhile_cons_of_neg (by rw [ht c rest rfl]; decide), List.append_nil]

lemma dropWhile_append_of_head {p : Nat → Bool} {s t : Str} (hs : s.all p = true)
    (ht : ∀ c rest, t = c :: rest → p c = false) : (s ++ t).dropWhile p = t := by
  rw [List.dropWhile_append_of_pos (List.all_eq_true.mp hs)]
  cases t with
  | nil => rfl
  | cons c rest => rw [List.dropWhile_cons_of_neg (by rw [ht c rest rfl]; decide)]

lemma isUnsigned_whole {digits : Str} (h : isWhole digits = true) : isUnsigned digits = true := by
  have hdigits := (Bool.and_eq_true_iff.mp (Bool.and_eq_true_iff.mp h).1).2
  have htake := takeWhile_append_of_head (t := []) hdigits nofun
  have hdrop := dropWhile_append_of_head (t := []) hdigits nofun
  rw [List.append_nil] at htake hdrop
  rw [isUnsigned, htake, hdrop, h]
  rfl

lemma isUnsigned_decimals {digits decimals : Str} (h : isWhole digits = true) (hdecimals : isDigits decimals = true) :
    isUnsigned (digits ++ 46 :: decimals) = true := by
  have hdigits := (Bool.and_eq_true_iff.mp (Bool.and_eq_true_iff.mp h).1).2
  have hall := (Bool.and_eq_true_iff.mp hdecimals).2
  have hpoint : ∀ c t, 46 :: decimals = c :: t → isDigit c = false := by
    intro c t heq
    rw [← (List.cons.inj heq).1]
    rfl
  have htake := takeWhile_append_of_head (t := []) hall nofun
  have hdrop := dropWhile_append_of_head (t := []) hall nofun
  rw [List.append_nil] at htake hdrop
  rw [isUnsigned, takeWhile_append_of_head hdigits hpoint, dropWhile_append_of_head hdigits hpoint, h, isFraction,
    htake, hdrop, hdecimals]
  rfl

/-! ### Values -/

def isSpace (c : Nat) : Bool :=
  c == 32 || c == 9 || c == 10 || c == 13

def skipSpace (s : Str) : Str :=
  s.dropWhile isSpace

/-- Values that are written as a word. `constants` are words for numbers that the parser knows beyond
the standard. -/
def words (constants : List Str) : List (Str × Value) :=
  [(str "null", .null), (str "true", .bool true), (str "false", .bool false)] ++
    constants.map (fun word => (word, .number word))

/-- The longest run of number characters, or a word. -/
def parseScalar (constants : List Str) (s : Str) : Option (Value × Str) :=
  if isNumber (s.takeWhile isNumberChar) then
    some (.number (s.takeWhile isNumberChar), s.dropWhile isNumberChar)
  else
    ((words constants).find? (fun word => word.1.isPrefixOf s)).map
      (fun word => (word.2, s.drop word.1.length))

/-- A string literal, with its opening quote. -/
def parseString (s : Str) : Option (List Piece × Str) :=
  match s with
  | 34 :: rest => parsePieces rest.length rest
  | _ => none

mutual

/-- The parser proper. Its number bounds the depth of the recursion. -/
def parseValue (constants : List Str) : Nat → Str → Option (Value × Str)
  | 0, _ => none
  | n + 1, s =>
    match s with
    | 34 :: _ => (parseString s).map (fun (pieces, rest) => (.string (decode pieces), rest))
    | 91 :: rest =>
      match skipSpace rest with
      | 93 :: rest => some (.array [], rest)
      | rest => (parseItems constants n rest).map (fun (items, rest) => (.array items, rest))
    | 123 :: rest =>
      match skipSpace rest with
      | 125 :: rest => some (.object [], rest)
      | rest => (parseMembers constants n rest).map (fun (members, rest) => (.object members, rest))
    | s => parseScalar constants s

/-- The items of an array that is not empty, with the closing bracket. -/
def parseItems (constants : List Str) : Nat → Str → Option (List Value × Str)
  | 0, _ => none
  | n + 1, s => do
    let (value, rest) ← parseValue constants n s
    match skipSpace rest with
    | 93 :: rest => some ([value], rest)
    | 44 :: rest =>
      let (items, rest) ← parseItems constants n (skipSpace rest)
      some (value :: items, rest)
    | _ => none

/-- The members of an object that is not empty, with the closing brace. -/
def parseMembers (constants : List Str) : Nat → Str → Option (List (Str × Value) × Str)
  | 0, _ => none
  | n + 1, s => do
    let (key, rest) ← parseString s
    match skipSpace rest with
    | 58 :: rest =>
      let (value, rest) ← parseValue constants n (skipSpace rest)
      match skipSpace rest with
      | 125 :: rest => some ([(decode key, value)], rest)
      | 44 :: rest =>
        let (members, rest) ← parseMembers constants n (skipSpace rest)
        some ((decode key, value) :: members, rest)
      | _ => none
    | _ => none
end

/-- The value of a text, if it is one with nothing but whitespace around it. -/
def parse (constants : List Str) (s : Str) : Option Value :=
  match parseValue constants (2 * s.length + 1) (skipSpace s) with
  | some (value, rest) => if (skipSpace rest).isEmpty then some value else none
  | none => none

/-! ### Documents -/

/-- Whitespace. -/
abbrev Space :=
  { s : Str // s.all isSpace = true }

def noSpace : Space :=
  ⟨[], rfl⟩

/-- The text of a number. -/
abbrev Number :=
  { s : Str // isNumber s = true }

/-- The name of a member, with the whitespace before it and around the colon after it. -/
structure Key where
  before : Space
  name : List Piece
  beforeColon : Space
  afterColon : Space

mutual

/-- The syntax of a value. -/
inductive Doc where
  | null
  | bool (b : Bool)
  | number (n : Number)
  | string (pieces : List Piece)
  | emptyArray (inside : Space)
  | array (items : Items)
  | emptyObject (inside : Space)
  | object (members : Members)

/-- One or more values, with the whitespace around them. -/
inductive Items where
  | last (before : Space) (value : Doc) (after : Space)
  | cons (before : Space) (value : Doc) (after : Space) (rest : Items)

/-- One or more members. -/
inductive Members where
  | last (key : Key) (value : Doc) (after : Space)
  | cons (key : Key) (value : Doc) (after : Space) (rest : Members)

end

def renderString (pieces : List Piece) : Str :=
  34 :: (pieces.flatMap Piece.render ++ [34])

def Key.render (key : Key) : Str :=
  key.before.val ++ renderString key.name ++ key.beforeColon.val ++ [58] ++ key.afterColon.val

mutual

def Doc.render : Doc → Str
  | .null => str "null"
  | .bool b => str (if b then "true" else "false")
  | .number n => n.val
  | .string pieces => renderString pieces
  | .emptyArray inside => 91 :: (inside.val ++ [93])
  | .array items => 91 :: (items.render ++ [93])
  | .emptyObject inside => 123 :: (inside.val ++ [125])
  | .object members => 123 :: (members.render ++ [125])

def Items.render : Items → Str
  | .last before value after => before.val ++ value.render ++ after.val
  | .cons before value after rest => before.val ++ value.render ++ after.val ++ [44] ++ rest.render

def Members.render : Members → Str
  | .last key value after => key.render ++ value.render ++ after.val
  | .cons key value after rest => key.render ++ value.render ++ after.val ++ [44] ++ rest.render

end

mutual

def Doc.value : Doc → Value
  | .null => .null
  | .bool b => .bool b
  | .number n => .number n
  | .string pieces => .string (decode pieces)
  | .emptyArray _ => .array []
  | .array items => .array items.values
  | .emptyObject _ => .object []
  | .object members => .object members.pairs

def Items.values : Items → List Value
  | .last _ value _ => [value.value]
  | .cons _ value _ rest => value.value :: rest.values

def Members.pairs : Members → List (Str × Value)
  | .last key value _ => [(decode key.name, value.value)]
  | .cons key value _ rest => (decode key.name, value.value) :: rest.pairs

end

/-! ### The parser reads every document -/

/-- A text that does not go on a number before it. -/
def Stops (s : Str) : Prop :=
  ∀ c rest, s = c :: rest → isNumberChar c = false

lemma skipSpace_append (space : Space) {c : Nat} (hc : isSpace c = false) (rest : Str) :
    skipSpace (space.val ++ c :: rest) = c :: rest := by
  apply dropWhile_append_of_head space.2
  intro c' t heq
  rw [← (List.cons.inj heq).1]
  exact hc

lemma stops_cons {c : Nat} (hc : isNumberChar c = false) (rest : Str) : Stops (c :: rest) := by
  intro c' t heq
  rw [← (List.cons.inj heq).1]
  exact hc

lemma isNumberChar_of_isSpace {c : Nat} (h : isSpace c = true) : isNumberChar c = false := by
  have hc : c = 32 ∨ c = 9 ∨ c = 10 ∨ c = 13 := by simpa [isSpace, or_assoc] using h
  rcases hc with rfl | rfl | rfl | rfl
  · rfl
  · rfl
  · rfl
  · rfl

lemma stops_space (space : Space) {c : Nat} (hc : isNumberChar c = false) (rest : Str) :
    Stops (space.val ++ c :: rest) := by
  obtain ⟨s, hs⟩ := space
  cases s with
  | nil => exact stops_cons hc rest
  | cons d s =>
    rw [List.all_cons, Bool.and_eq_true_iff] at hs
    exact stops_cons (isNumberChar_of_isSpace hs.1) _

lemma parseString_render (pieces : List Piece) (rest : Str) :
    parseString (renderString pieces ++ rest) = some (pieces, rest) := by
  change parsePieces _ (pieces.flatMap Piece.render ++ [34] ++ rest) = _
  rw [List.append_assoc]
  exact parsePieces_render pieces rest (by simp)

lemma Number.exists_head (n : Number) : ∃ c s, n.val = c :: s ∧ isNumberChar c = true := by
  obtain ⟨s, hs⟩ := n
  cases s with
  | nil => exact absurd hs (by decide)
  | cons c s => exact ⟨c, s, rfl, (Bool.and_eq_true_iff.mp (all_isNumberChar_of_isNumber hs)).1⟩

lemma parseScalar_number (constants : List Str) (n : Number) {rest : Str} (hrest : Stops rest) :
    parseScalar constants (n.val ++ rest) = some (.number n.val, rest) := by
  have hall := all_isNumberChar_of_isNumber n.2
  rw [parseScalar, takeWhile_append_of_head hall hrest, dropWhile_append_of_head hall hrest, if_pos n.2]

/-- How the text of a value begins. -/
lemma Doc.exists_head (d : Doc) : ∃ c rest, d.render = c :: rest ∧ isSpace c = false ∧ c ≠ 93 := by
  cases d with
  | null => exact ⟨110, _, rfl, rfl, by decide⟩
  | bool b =>
    cases b with
    | true => exact ⟨116, _, rfl, rfl, by decide⟩
    | false => exact ⟨102, _, rfl, rfl, by decide⟩
  | number n =>
    obtain ⟨c, s, htext, hc⟩ := n.exists_head
    refine ⟨c, s, htext, ?_, ?_⟩
    · by_contra hspace
      rw [isNumberChar_of_isSpace (Bool.not_eq_false _ ▸ hspace)] at hc
      cases hc
    · rintro rfl
      revert hc
      decide
  | string pieces => exact ⟨34, _, rfl, rfl, by decide⟩
  | emptyArray inside => exact ⟨91, _, rfl, rfl, by decide⟩
  | array items => exact ⟨91, _, rfl, rfl, by decide⟩
  | emptyObject inside => exact ⟨123, _, rfl, rfl, by decide⟩
  | object members => exact ⟨123, _, rfl, rfl, by decide⟩

/-- Whitespace before a value is skipped. -/
lemma Doc.skipSpace_render (before : Space) (d : Doc) (rest : Str) :
    skipSpace (before.val ++ (d.render ++ rest)) = d.render ++ rest := by
  obtain ⟨c, t, hrender, hspace, -⟩ := d.exists_head
  rw [hrender, List.cons_append]
  exact skipSpace_append before hspace _

lemma Items.exists_head (items : Items) (rest : Str) :
    ∃ c t, skipSpace (items.render ++ rest) = c :: t ∧ c ≠ 93 := by
  cases items with
  | last before value after =>
    obtain ⟨c, t, hrender, hspace, hbracket⟩ := value.exists_head
    refine ⟨c, t ++ after.val ++ rest, ?_, hbracket⟩
    simp only [Items.render, hrender, List.append_assoc, List.cons_append]
    exact skipSpace_append before hspace _
  | cons before value after others =>
    obtain ⟨c, t, hrender, hspace, hbracket⟩ := value.exists_head
    refine ⟨c, t ++ after.val ++ [44] ++ others.render ++ rest, ?_, hbracket⟩
    simp only [Items.render, hrender, List.append_assoc, List.cons_append]
    exact skipSpace_append before hspace _

lemma Key.skipSpace_render (key : Key) (rest : Str) : skipSpace (key.render ++ rest) =
    renderString key.name ++ (key.beforeColon.val ++ [58] ++ key.afterColon.val ++ rest) := by
  simp only [Key.render, renderString, List.append_assoc, List.cons_append]
  exact skipSpace_append key.before rfl _

lemma Members.exists_head (members : Members) (rest : Str) :
    ∃ t, skipSpace (members.render ++ rest) = 34 :: t := by
  cases members with
  | last key value after =>
    rw [Members.render, List.append_assoc, List.append_assoc, key.skipSpace_render]
    exact ⟨_, rfl⟩
  | cons key value after others =>
    simp only [Members.render, List.append_assoc, key.skipSpace_render]
    exact ⟨_, rfl⟩

variable (constants : List Str)

lemma parseValue_number (n : Number) (m : Nat) {rest : Str} (hrest : Stops rest) :
    parseValue constants (m + 1) (n.val ++ rest) = some (.number n.val, rest) := by
  rw [← parseScalar_number constants n hrest]
  obtain ⟨c, s, htext, hc⟩ := n.exists_head
  rw [htext, List.cons_append, parseValue]
  · rintro t ⟨rfl, -⟩
    revert hc
    decide
  · rintro t ⟨rfl, -⟩
    revert hc
    decide
  · rintro t ⟨rfl, -⟩
    revert hc
    decide

mutual

/-- The value of a document is read back from its text. -/
theorem Doc.parseValue_render (d : Doc) {n : Nat} (hn : 2 * d.render.length ≤ n) {rest : Str} (hrest : Stops rest) :
    parseValue constants n (d.render ++ rest) = some (d.value, rest) := by
  obtain ⟨m, rfl⟩ : ∃ m, n = m + 1 := by
    obtain ⟨c, t, hrender, -⟩ := d.exists_head
    rw [hrender, List.length_cons] at hn
    exact ⟨n - 1, by omega⟩
  match d with
  | .null => rfl
  | .bool true => rfl
  | .bool false => rfl
  | .number n => exact parseValue_number constants n m hrest
  | .string pieces =>
    change (parseString (renderString pieces ++ rest)).map _ = _
    rw [parseString_render]
    rfl
  | .emptyArray inside =>
    have hskip : skipSpace (inside.val ++ [93] ++ rest) = 93 :: rest := by
      rw [List.append_assoc]
      exact skipSpace_append inside rfl rest
    rw [Doc.render, List.cons_append, parseValue, hskip]
    rfl
  | .array items =>
    rw [Doc.render, List.length_cons, List.length_append] at hn
    have hitems := Items.parseItems_render items (n := m) (by omega) rest
    obtain ⟨c, t, hskip, hc⟩ := items.exists_head (93 :: rest)
    rw [hskip] at hitems
    rw [Doc.render, List.cons_append, List.append_assoc, parseValue, List.singleton_append, hskip]
    split
    · rename_i heq
      exact absurd (List.cons.inj heq).1 hc
    · rw [hitems]
      rfl
  | .emptyObject inside =>
    have hskip : skipSpace (inside.val ++ [125] ++ rest) = 125 :: rest := by
      rw [List.append_assoc]
      exact skipSpace_append inside rfl rest
    rw [Doc.render, List.cons_append, parseValue, hskip]
    rfl
  | .object members =>
    rw [Doc.render, List.length_cons, List.length_append] at hn
    have hmembers := Members.parseMembers_render members (n := m) (by omega) rest
    obtain ⟨t, hskip⟩ := members.exists_head (125 :: rest)
    rw [hskip] at hmembers
    rw [Doc.render, List.cons_append, List.append_assoc, parseValue, List.singleton_append, hskip]
    change (parseMembers constants m (34 :: t)).map _ = _
    rw [hmembers]
    rfl

theorem Items.parseItems_render (items : Items) {n : Nat} (hn : 2 * items.render.length + 1 ≤ n) (rest : Str) :
    parseItems constants n (skipSpace (items.render ++ 93 :: rest)) = some (items.values, rest) := by
  obtain ⟨m, rfl⟩ : ∃ m, n = m + 1 := ⟨n - 1, by omega⟩
  match items with
  | .last before value after =>
    rw [Items.render, List.length_append, List.length_append] at hn
    rw [Items.render, List.append_assoc, List.append_assoc, value.skipSpace_render, parseItems,
      Doc.parseValue_render value (by omega) (stops_space after rfl rest), Option.bind_eq_bind, Option.bind_some]
    dsimp only
    rw [skipSpace_append after rfl]
    rfl
  | .cons before value after others =>
    simp only [Items.render, List.length_append, List.length_singleton] at hn
    have hothers := Items.parseItems_render others (n := m) (by omega) rest
    simp only [Items.render, List.append_assoc, List.cons_append, List.nil_append]
    rw [value.skipSpace_render, parseItems,
      Doc.parseValue_render value (by omega) (stops_space after rfl _), Option.bind_eq_bind, Option.bind_some]
    dsimp only
    rw [skipSpace_append after rfl]
    change (parseItems constants m (skipSpace (others.render ++ 93 :: rest))).bind _ = _
    rw [hothers]
    rfl

theorem Members.parseMembers_render (members : Members) {n : Nat} (hn : 2 * members.render.length + 1 ≤ n)
    (rest : Str) :
    parseMembers constants n (skipSpace (members.render ++ 125 :: rest)) = some (members.pairs, rest) := by
  obtain ⟨m, rfl⟩ : ∃ m, n = m + 1 := ⟨n - 1, by omega⟩
  match members with
  | .last key value after =>
    rw [Members.render, List.length_append, List.length_append] at hn
    rw [Members.render, List.append_assoc, List.append_assoc, key.skipSpace_render, parseMembers,
      parseString_render, Option.bind_eq_bind, Option.bind_some]
    dsimp only
    rw [List.append_assoc, List.append_assoc, List.singleton_append, skipSpace_append key.beforeColon rfl]
    change (parseValue constants m (skipSpace (key.afterColon.val ++ (value.render ++ _)))).bind _ = _
    rw [value.skipSpace_render, Doc.parseValue_render value (by omega) (stops_space after rfl rest),
      Option.bind_some]
    dsimp only
    rw [skipSpace_append after rfl]
    rfl
  | .cons key value after others =>
    simp only [Members.render, List.length_append, List.length_singleton] at hn
    have hothers := Members.parseMembers_render others (n := m) (by omega) rest
    simp only [Members.render, List.append_assoc, List.cons_append, List.nil_append]
    rw [key.skipSpace_render, parseMembers, parseString_render, Option.bind_eq_bind, Option.bind_some]
    dsimp only
    rw [List.append_assoc, List.append_assoc, List.singleton_append, skipSpace_append key.beforeColon rfl]
    change (parseValue constants m (skipSpace (key.afterColon.val ++ (value.render ++ _)))).bind _ = _
    rw [value.skipSpace_render, Doc.parseValue_render value (by omega) (stops_space after rfl _),
      Option.bind_some]
    dsimp only
    rw [skipSpace_append after rfl]
    change (parseMembers constants m (skipSpace (others.render ++ 125 :: rest))).bind _ = _
    rw [hothers]
    rfl

end

/-- Every text of a document, with whitespace around it, is accepted with its value. -/
theorem parse_render (before after : Space) (d : Doc) :
    parse constants (before.val ++ d.render ++ after.val) = some d.value := by
  have hstops : Stops after.val := by
    intro c rest heq
    have hspace := after.2
    rw [heq, List.all_cons, Bool.and_eq_true_iff] at hspace
    exact isNumberChar_of_isSpace hspace.1
  have hafter : skipSpace after.val = [] := List.dropWhile_eq_nil_iff.mpr (List.all_eq_true.mp after.2)
  have hfuel : 2 * d.render.length ≤ 2 * (before.val ++ d.render ++ after.val).length + 1 := by
    simp only [List.length_append]
    omega
  rw [parse, List.append_assoc, d.skipSpace_render, ← List.append_assoc,
    d.parseValue_render constants hfuel hstops]
  dsimp only
  rw [hafter]
  rfl

end Json
