import EdgeGateway.Model.SanitizeLogs

/-!
# Secrets in sanitized logs

A log of JSON texts, one on each line, is sanitized line by line: the values under secret keys leave no trace
in the output as long as every text stays on one line for `str.splitlines`. That function also cuts at
characters that JSON allows inside a string.
-/

namespace EdgeGateway.SanitizeLogs

open Json (Str str Doc Items Members Space Value)

/-! ### Logs and their secrets -/

mutual

/-- The document with empty strings under secret keys. `secret` says whether it stands under one. -/
def blankDoc (secret : Bool) : Doc → Doc
  | .string pieces => .string (if secret then [] else pieces)
  | .array items => .array (blankItems secret items)
  | .object members => .object (blankMembers secret members)
  | .null => .null
  | .bool b => .bool b
  | .number n => .number n
  | .emptyArray inside => .emptyArray inside
  | .emptyObject inside => .emptyObject inside

def blankItems (secret : Bool) : Items → Items
  | .last before value after => .last before (blankDoc secret value) after
  | .cons before value after rest => .cons before (blankDoc secret value) after (blankItems secret rest)

def blankMembers (secret : Bool) : Members → Members
  | .last key value after => .last key (blankDoc (secret || isSecretKey (Json.decode key.name)) value) after
  | .cons key value after rest =>
    .cons key (blankDoc (secret || isSecretKey (Json.decode key.name)) value) after (blankMembers secret rest)

end

/-- A JSON text with the whitespace around it. -/
structure Entry where
  before : Space
  doc : Doc
  after : Space

namespace Entry

/-- The line of the entry, with its newline. -/
def line (e : Entry) : Str :=
  e.before.val ++ e.doc.render ++ e.after.val ++ [10]

def blank (e : Entry) : Entry where
  before := e.before
  doc := blankDoc false e.doc
  after := e.after

/-- No character at which `str.splitlines` cuts stands inside the JSON text. -/
def Uncut (e : Entry) : Prop :=
  ∀ c ∈ e.doc.render, isBoundary c = false

end Entry

/-- The text of a log. -/
def logText (log : List Entry) : Str :=
  log.flatMap Entry.line

/-! ### Lines -/

/-- Induction on a text along the places where it is cut: at a CRLF, at another boundary, or not at all. -/
@[elab_as_elim]
theorem text_induction {motive : Str → Prop} (nil : motive [])
    (crlf : ∀ rest, motive rest → motive (13 :: 10 :: rest))
    (boundary : ∀ c rest, isBoundary c = true → (c = 13 → rest.head? ≠ some 10) → motive rest → motive (c :: rest))
    (plain : ∀ c rest, isBoundary c = false → motive rest → motive (c :: rest)) (s : Str) : motive s := by
  induction s using universalNewlines.induct with
  | case1 => exact nil
  | case2 rest ih => exact crlf rest ih
  | case3 rest hrest ih =>
    apply boundary 13 rest rfl _ ih
    intro _ hhead
    obtain ⟨tail, htail⟩ := List.head?_eq_some_iff.mp hhead
    exact hrest tail htail
  | case4 c rest _ hcr ih =>
    cases hc : isBoundary c with
    | true => exact boundary c rest hc (fun h => absurd h hcr) ih
    | false => exact plain c rest hc ih

/-- A boundary that is not the first half of a CRLF. -/
lemma splitFrom_boundary (line : Str) {c : Nat} {s : Str} (hc : isBoundary c = true)
    (h : c = 13 → s.head? ≠ some 10) : splitFrom line (c :: s) = line :: splitFrom [] s := by
  rw [splitFrom, if_pos hc]
  rintro rest rfl rfl
  exact h rfl rfl

lemma splitFrom_plain (line : Str) {c : Nat} (s : Str) (hc : isBoundary c = false) :
    splitFrom line (c :: s) = splitFrom (line ++ [c]) s := by
  rw [splitFrom, if_neg (by rw [hc]; decide)]
  rintro rest rfl rfl
  exact absurd hc (by decide)

lemma splitFrom_newline (line s : Str) : splitFrom line (10 :: s) = line :: splitFrom [] s :=
  splitFrom_boundary line rfl (fun h => absurd h (by decide))

lemma universalNewlines_cons {c : Nat} {s : Str} (h : c = 13 → s.head? ≠ some 10) :
    universalNewlines (c :: s) = (if c = 13 then 10 else c) :: universalNewlines s := by
  split
  · rename_i hc
    rw [hc, universalNewlines]
    rintro rest rfl
    exact h hc rfl
  · rename_i hc
    rw [universalNewlines]
    · exact fun rest hcr => absurd hcr hc
    · exact hc

/-- A text after a character of which it is not the second half of a CRLF. -/
lemma head?_append_ne {s t : Str} (hs : s.head? ≠ some 10) (ht : s = [] → t.head? ≠ some 10) :
    (s ++ t).head? ≠ some 10 := by
  cases s with
  | nil => exact ht rfl
  | cons c s => exact hs

/-- The same for a text with more behind it, of which the character is not the last. -/
lemma head?_append_of_not_last {c : Nat} {s : Str} (hs : c = 13 → s.head? ≠ some 10) (hlast : ¬(c = 13 ∧ s = []))
    (t : Str) (hc : c = 13) : (s ++ t).head? ≠ some 10 :=
  head?_append_ne (hs hc) (fun hnil => absurd ⟨hc, hnil⟩ hlast)

lemma not_cr {c : Nat} (hc : isBoundary c = false) : c ≠ 13 := by
  rintro rfl
  exact absurd hc (by decide)

/-- Reading a file as text does not change where it is cut into lines. -/
lemma splitFrom_universalNewlines (line s : Str) : splitFrom line (universalNewlines s) = splitFrom line s := by
  induction s using text_induction generalizing line with
  | nil => rfl
  | crlf rest ih => rw [universalNewlines, splitFrom_newline, splitFrom, ih]
  | boundary c rest hc hcr ih =>
    rw [universalNewlines_cons hcr, splitFrom_boundary line hc hcr, ← ih]
    split
    · exact splitFrom_newline line _
    · rename_i hne
      exact splitFrom_boundary line hc (fun h => absurd h hne)
  | plain c rest hc ih =>
    rw [universalNewlines_cons (fun h => absurd h (not_cr hc)), if_neg (not_cr hc), splitFrom_plain line _ hc,
      splitFrom_plain line _ hc, ih]

/-- Nothing is cut where no boundary is. -/
lemma splitFrom_append {x : Str} (hx : ∀ c ∈ x, isBoundary c = false) (line s : Str) :
    splitFrom line (x ++ s) = splitFrom (line ++ x) s := by
  induction x generalizing line with
  | nil => rw [List.nil_append, List.append_nil]
  | cons c x ih =>
    rw [List.forall_mem_cons] at hx
    rw [List.cons_append, splitFrom_plain line _ hx.1, ih hx.2, List.append_assoc, List.singleton_append]

/-- The text before a position that is not inside a CRLF is cut on its own: into whole lines, and the
beginning of a line that goes on. -/
lemma exists_splitFrom_append (line u : Str) : ∃ closed opened, (∀ c ∈ opened, c ∈ line ++ u) ∧
    ∀ y : Str, y.head? ≠ some 10 → splitFrom line (u ++ y) = closed ++ splitFrom opened y := by
  induction u using text_induction generalizing line with
  | nil =>
    refine ⟨[], line, ?_, fun y _ => rfl⟩
    intro c hc
    exact List.mem_append_left _ hc
  | crlf rest ih =>
    obtain ⟨closed, opened, hopened, hsplit⟩ := ih []
    refine ⟨line :: closed, opened, ?_, ?_⟩
    · intro c hc
      exact List.mem_append_right _ (List.mem_cons_of_mem _ (List.mem_cons_of_mem _ (hopened c hc)))
    · intro y hy
      rw [List.cons_append, List.cons_append, splitFrom, hsplit y hy, List.cons_append]
  | boundary c rest hc hcr ih =>
    obtain ⟨closed, opened, hopened, hsplit⟩ := ih []
    refine ⟨line :: closed, opened, ?_, ?_⟩
    · intro c' hc'
      exact List.mem_append_right _ (List.mem_cons_of_mem _ (hopened c' hc'))
    · intro y hy
      have hhead : c = 13 → (rest ++ y).head? ≠ some 10 := fun h => head?_append_ne (hcr h) (fun _ => hy)
      rw [List.cons_append, splitFrom_boundary line hc hhead, hsplit y hy, List.cons_append]
  | plain c rest hc ih =>
    obtain ⟨closed, opened, hopened, hsplit⟩ := ih (line ++ [c])
    refine ⟨closed, opened, ?_, ?_⟩
    · intro c' hc'
      have hmem := hopened c' hc'
      rwa [List.append_assoc, List.singleton_append] at hmem
    · intro y hy
      rw [List.cons_append, splitFrom_plain line _ hc, hsplit y hy]

/-- The text from a position on, up to a newline: the rest of a line, and more lines. -/
lemma exists_splitFrom_newline (v : Str) : ∃ first rest, (∀ c ∈ first, c ∈ v) ∧
    ∀ line t : Str, splitFrom line (v ++ 10 :: t) = (line ++ first) :: (rest ++ splitFrom [] t) := by
  induction v using text_induction with
  | nil =>
    refine ⟨[], [], nofun, ?_⟩
    intro line t
    rw [List.nil_append, splitFrom_newline, List.append_nil, List.nil_append]
  | crlf rest ih =>
    obtain ⟨first, others, -, hsplit⟩ := ih
    refine ⟨[], first :: others, nofun, ?_⟩
    intro line t
    rw [List.cons_append, List.cons_append, splitFrom, hsplit, List.append_nil, List.nil_append, List.cons_append]
  | boundary c rest hc hcr ih =>
    obtain ⟨first, others, -, hsplit⟩ := ih
    by_cases hlast : c = 13 ∧ rest = []
    · -- a CR right before the newline belongs to it
      obtain ⟨rfl, rfl⟩ := hlast
      refine ⟨[], [], nofun, ?_⟩
      intro line t
      rw [List.cons_append, List.nil_append, splitFrom, List.append_nil, List.nil_append]
    · refine ⟨[], first :: others, nofun, ?_⟩
      intro line t
      rw [List.cons_append, splitFrom_boundary line hc (head?_append_of_not_last hcr hlast _), hsplit,
        List.append_nil, List.nil_append, List.cons_append]
  | plain c rest hc ih =>
    obtain ⟨first, others, hfirst, hsplit⟩ := ih
    refine ⟨c :: first, others, ?_, ?_⟩
    · intro c' hc'
      exact (List.mem_cons.mp hc').elim (fun heq => heq ▸ List.mem_cons_self)
        (fun hmem => List.mem_cons_of_mem c (hfirst c' hmem))
    · intro line t
      rw [List.cons_append, splitFrom_plain line _ hc, hsplit, List.append_assoc, List.singleton_append]

/-! ### Documents -/

lemma isspace_of_isSpace {c : Nat} (h : Json.isSpace c = true) : isspace c = true := by
  have hc : c = 32 ∨ c = 9 ∨ c = 10 ∨ c = 13 := by simpa [Json.isSpace, or_assoc] using h
  rcases hc with rfl | rfl | rfl | rfl
  · rfl
  · rfl
  · rfl
  · rfl

lemma isspace_of_isNumberChar {c : Nat} (h : Json.isNumberChar c = true) : isspace c = false := by
  simp only [Json.isNumberChar, Json.isDigit, Bool.or_eq_true, Bool.and_eq_true, decide_eq_true_eq, beq_iff_eq] at h
  simp only [isspace, Bool.or_eq_false_iff, Bool.and_eq_false_iff, decide_eq_false_iff_not, beq_eq_false_iff_ne]
  omega

/-- The text of a document begins and ends with characters that are not whitespace. -/
lemma exists_ends (d : Doc) : (∃ c rest, d.render = c :: rest ∧ isspace c = false) ∧
    ∃ front c, d.render = front ++ [c] ∧ isspace c = false := by
  cases d with
  | null => exact ⟨⟨110, _, rfl, rfl⟩, ⟨str "nul", 108, rfl, rfl⟩⟩
  | bool b =>
    cases b with
    | true => exact ⟨⟨116, _, rfl, rfl⟩, ⟨str "tru", 101, rfl, rfl⟩⟩
    | false => exact ⟨⟨102, _, rfl, rfl⟩, ⟨str "fals", 101, rfl, rfl⟩⟩
  | number n =>
    have hall := List.all_eq_true.mp (Json.all_isNumberChar_of_isNumber n.2)
    obtain ⟨first, rest, hfirst, hchar⟩ := n.exists_head
    refine ⟨⟨first, rest, hfirst, isspace_of_isNumberChar hchar⟩, ?_⟩
    rcases List.eq_nil_or_concat' n.val with hnil | ⟨front, c, hback⟩
    · rw [hfirst] at hnil
      cases hnil
    · exact ⟨front, c, hback, isspace_of_isNumberChar (hall c (by rw [hback]; simp))⟩
  | string pieces => exact ⟨⟨34, _, rfl, rfl⟩, ⟨34 :: pieces.flatMap Json.Piece.render, 34, rfl, rfl⟩⟩
  | emptyArray inside => exact ⟨⟨91, _, rfl, rfl⟩, ⟨91 :: inside.val, 93, rfl, rfl⟩⟩
  | array items => exact ⟨⟨91, _, rfl, rfl⟩, ⟨91 :: items.render, 93, rfl, rfl⟩⟩
  | emptyObject inside => exact ⟨⟨123, _, rfl, rfl⟩, ⟨123 :: inside.val, 125, rfl, rfl⟩⟩
  | object members => exact ⟨⟨123, _, rfl, rfl⟩, ⟨123 :: members.render, 125, rfl, rfl⟩⟩

lemma strip_render {w w' : Str} (hw : ∀ c ∈ w, Json.isSpace c = true) (hw' : ∀ c ∈ w', Json.isSpace c = true)
    (d : Doc) : strip (w ++ d.render ++ w') = d.render := by
  obtain ⟨⟨c, rest, hfirst, hc⟩, front, c', hlast, hc'⟩ := exists_ends d
  have hfront : (w ++ (d.render ++ w')).dropWhile isspace = d.render ++ w' := by
    apply Json.dropWhile_append_of_head
    · exact List.all_eq_true.mpr (fun c hc => isspace_of_isSpace (hw c hc))
    · intro c₁ t heq
      rw [hfirst, List.cons_append] at heq
      rw [← (List.cons.inj heq).1]
      exact hc
  have hback : (w'.reverse ++ d.render.reverse).dropWhile isspace = d.render.reverse := by
    apply Json.dropWhile_append_of_head
    · rw [List.all_reverse]
      exact List.all_eq_true.mpr (fun c hc => isspace_of_isSpace (hw' c hc))
    · intro c₁ t heq
      rw [hlast, List.reverse_append, List.reverse_singleton, List.singleton_append] at heq
      rw [← (List.cons.inj heq).1]
      exact hc'
  rw [strip, List.append_assoc, hfront, List.reverse_append, hback, List.reverse_reverse]

variable (host : Host)

/-- The line of a document is sanitized as JSON. -/
lemma sanitizeLine_render (args : Args) {w w' : Str} (hw : ∀ c ∈ w, Json.isSpace c = true)
    (hw' : ∀ c ∈ w', Json.isSpace c = true) (d : Doc) : sanitizeLine host args (w ++ d.render ++ w') =
      if converts host d.value then some (dumps (sanitizeJson host args [] (load host d.value))) else none := by
  obtain ⟨⟨c, rest, hfirst, -⟩, -⟩ := exists_ends d
  have hparse := Json.parse_render constants Json.noSpace Json.noSpace d
  simp only [Json.noSpace, List.nil_append, List.append_nil] at hparse
  have hne : d.render.isEmpty = false := by
    rw [hfirst]
    rfl
  simp only [sanitizeLine, strip_render hw hw', hne, Bool.false_eq_true, if_false, hparse]

/-! ### What is left of the secrets -/

mutual

/-- The numbers stay as they are. -/
lemma converts_blankDoc (secret : Bool) (d : Doc) :
    converts host (blankDoc secret d).value = converts host d.value := by
  match d with
  | .null => rfl
  | .bool b => rfl
  | .number n => rfl
  | .string pieces => rfl
  | .emptyArray inside => rfl
  | .array items => exact convertsItems_blankItems secret items
  | .emptyObject inside => rfl
  | .object members => exact convertsMembers_blankMembers secret members

lemma convertsItems_blankItems (secret : Bool) (items : Items) :
    convertsItems host (blankItems secret items).values = convertsItems host items.values := by
  match items with
  | .last before value after =>
    simp only [blankItems, Items.values, convertsItems, converts_blankDoc secret value]
  | .cons before value after rest =>
    simp only [blankItems, Items.values, convertsItems, converts_blankDoc secret value,
      convertsItems_blankItems secret rest]

lemma convertsMembers_blankMembers (secret : Bool) (members : Members) :
    convertsMembers host (blankMembers secret members).pairs = convertsMembers host members.pairs := by
  match members with
  | .last key value after =>
    simp only [blankMembers, Members.pairs, convertsMembers, converts_blankDoc _ value]
  | .cons key value after rest =>
    simp only [blankMembers, Members.pairs, convertsMembers, converts_blankDoc _ value,
      convertsMembers_blankMembers secret rest]

end

lemma sanitizeMembers_eq_map (args : Args) (members : List (Str × Value)) :
    sanitizeMembers host args members = members.map (fun m => (m.1, sanitizeJson host args m.1 m.2)) := by
  induction members with
  | nil => rfl
  | cons member members ih => rw [sanitizeMembers, ih, List.map_cons]

/-- A change of the values does not change which members a `dict` keeps. -/
lemma dict_map (f : Str → Value → Value) (members : List (Str × Value)) :
    (dict members).map (fun m => (m.1, f m.1 m.2)) = dict (members.map (fun m => (m.1, f m.1 m.2))) := by
  have hinsert : ∀ kept (m : Str × Value), (dictInsert kept m).map (fun m => (m.1, f m.1 m.2)) =
      dictInsert (kept.map (fun m => (m.1, f m.1 m.2))) (m.1, f m.1 m.2) := by
    intro kept m
    have hany : (kept.map (fun m => (m.1, f m.1 m.2))).any (fun other => other.1 == m.1) =
        kept.any (fun other => other.1 == m.1) := by
      rw [List.any_map]
      rfl
    unfold dictInsert
    dsimp only
    rw [hany]
    split
    · rw [List.map_map, List.map_map]
      apply List.map_congr_left
      intro other _
      simp only [Function.comp]
      split
      · rfl
      · rfl
    · rw [List.map_append, List.map_singleton]
  have hfold : ∀ kept, (members.foldl dictInsert kept).map (fun m => (m.1, f m.1 m.2)) =
      (members.map (fun m => (m.1, f m.1 m.2))).foldl dictInsert (kept.map (fun m => (m.1, f m.1 m.2))) := by
    induction members with
    | nil => exact fun _ => rfl
    | cons m members ih =>
      intro kept
      rw [List.foldl_cons, List.map_cons, List.foldl_cons, ih, hinsert]
  exact hfold []

/-- What stands under a secret key is redacted, whatever it is. -/
lemma sanitizeJson_secret {args : Args} (hargs : args.redactSecrets = true) {key : Str}
    (hkey : isSecretKey key = true) (value : Value) :
    sanitizeJson host args key value = .string (str "<redacted>") := by
  have hcondition : (args.redactSecrets && isSecretKey key) = true := by
    rw [hargs, hkey]
    rfl
  cases value with
  | null => exact if_pos hcondition
  | bool b => exact if_pos hcondition
  | number literal => exact if_pos hcondition
  | string s =>
    rw [sanitizeJson]
    exact if_pos hcondition
  | array items =>
    rw [sanitizeJson]
    exact if_pos hcondition
  | object members =>
    rw [sanitizeJson]
    exact if_pos hcondition

variable {args : Args}

/-- A member of an object, with its value blanked if its key is secret. -/
lemma sanitizeJson_member (hargs : args.redactSecrets = true) {value : Doc} {key : Str}
    (hvalue : sanitizeJson host args key (load host (blankDoc false value).value) =
      sanitizeJson host args key (load host value.value)) :
    sanitizeJson host args key (load host (blankDoc (false || isSecretKey key) value).value) =
      sanitizeJson host args key (load host value.value) := by
  rw [Bool.false_or]
  by_cases hkey : isSecretKey key = true
  · rw [sanitizeJson_secret host hargs hkey, sanitizeJson_secret host hargs hkey]
  · rw [Bool.eq_false_of_not_eq_true hkey]
    exact hvalue

mutual

/-- The output for a document does not depend on the strings under its secret keys. -/
lemma sanitizeJson_blankDoc (hargs : args.redactSecrets = true) (key : Str) (d : Doc) :
    sanitizeJson host args key (load host (blankDoc false d).value) =
      sanitizeJson host args key (load host d.value) := by
  match d with
  | .null => rfl
  | .bool b => rfl
  | .number n => rfl
  | .string pieces => rfl
  | .emptyArray inside => rfl
  | .array items =>
    simp only [blankDoc, Doc.value, load, sanitizeJson, sanitizeItems_blankItems hargs key items]
  | .emptyObject inside => rfl
  | .object members =>
    simp only [blankDoc, Doc.value, load, sanitizeJson, sanitizeMembers_eq_map]
    rw [dict_map, dict_map, ← sanitizeMembers_eq_map, ← sanitizeMembers_eq_map,
      sanitizeMembers_blankMembers hargs members]

lemma sanitizeItems_blankItems (hargs : args.redactSecrets = true) (key : Str) (items : Items) :
    sanitizeItems host args key (loadItems host (blankItems false items).values) =
      sanitizeItems host args key (loadItems host items.values) := by
  match items with
  | .last before value after =>
    simp only [blankItems, Items.values, loadItems, sanitizeItems, sanitizeJson_blankDoc hargs key value]
  | .cons before value after rest =>
    simp only [blankItems, Items.values, loadItems, sanitizeItems, sanitizeJson_blankDoc hargs key value,
      sanitizeItems_blankItems hargs key rest]

lemma sanitizeMembers_blankMembers (hargs : args.redactSecrets = true) (members : Members) :
    sanitizeMembers host args (loadMembers host (blankMembers false members).pairs) =
      sanitizeMembers host args (loadMembers host members.pairs) := by
  match members with
  | .last key value after =>
    simp only [blankMembers, Members.pairs, loadMembers, sanitizeMembers,
      sanitizeJson_member host hargs (sanitizeJson_blankDoc hargs (Json.decode key.name) value)]
  | .cons key value after rest =>
    simp only [blankMembers, Members.pairs, loadMembers, sanitizeMembers,
      sanitizeJson_member host hargs (sanitizeJson_blankDoc hargs (Json.decode key.name) value),
      sanitizeMembers_blankMembers hargs rest]

end

/-! ### Logs that are cut at their newlines only -/

mutual

/-- Blanking only takes characters away. -/
lemma mem_render_blankDoc {secret : Bool} (d : Doc) {c : Nat} (hc : c ∈ (blankDoc secret d).render) : c ∈ d.render := by
  match d with
  | .null => exact hc
  | .bool b => exact hc
  | .number n => exact hc
  | .string pieces =>
    cases secret with
    | true =>
      have hquote : c ∈ [34, 34] := hc
      have hc : c = 34 := by simpa using hquote
      exact hc ▸ List.mem_cons_self
    | false => exact hc
  | .emptyArray inside => exact hc
  | .array items =>
    simp only [blankDoc, Doc.render, List.mem_cons, List.mem_append] at hc ⊢
    exact hc.imp_right (Or.imp_left (mem_render_blankItems items))
  | .emptyObject inside => exact hc
  | .object members =>
    simp only [blankDoc, Doc.render, List.mem_cons, List.mem_append] at hc ⊢
    exact hc.imp_right (Or.imp_left (mem_render_blankMembers members))

lemma mem_render_blankItems {secret : Bool} (items : Items) {c : Nat} (hc : c ∈ (blankItems secret items).render) :
    c ∈ items.render := by
  match items with
  | .last before value after =>
    simp only [blankItems, Items.render, List.mem_append] at hc ⊢
    exact hc.imp_left (Or.imp_right (mem_render_blankDoc value))
  | .cons before value after rest =>
    simp only [blankItems, Items.render, List.mem_append] at hc ⊢
    exact hc.imp (Or.imp_left (Or.imp_left (Or.imp_right (mem_render_blankDoc value)))) (mem_render_blankItems rest)

lemma mem_render_blankMembers {secret : Bool} (members : Members) {c : Nat}
    (hc : c ∈ (blankMembers secret members).render) : c ∈ members.render := by
  match members with
  | .last key value after =>
    simp only [blankMembers, Members.render, List.mem_append] at hc ⊢
    exact hc.imp_left (Or.imp_right (mem_render_blankDoc value))
  | .cons key value after rest =>
    simp only [blankMembers, Members.render, List.mem_append] at hc ⊢
    exact hc.imp (Or.imp_left (Or.imp_left (Or.imp_right (mem_render_blankDoc value)))) (mem_render_blankMembers rest)

end

lemma Entry.Uncut.blank {e : Entry} (h : e.Uncut) : e.blank.Uncut :=
  fun c hc => h c (mem_render_blankDoc e.doc hc)

/-- The lines of an entry: those of the whitespace before it, the one with the document, and those of the
whitespace after it. -/
lemma exists_lines (before after : Space) : ∃ closed opened first rest,
    (∀ c ∈ opened, Json.isSpace c = true) ∧ (∀ c ∈ first, Json.isSpace c = true) ∧
    ∀ d : Doc, (∀ c ∈ d.render, isBoundary c = false) → ∀ t : Str,
      splitlines ((Entry.mk before d after).line ++ t) =
        closed ++ (opened ++ d.render ++ first) :: (rest ++ splitlines t) := by
  obtain ⟨closed, opened, hopened, hclosed⟩ := exists_splitFrom_append [] before.val
  obtain ⟨first, rest, hfirst, hrest⟩ := exists_splitFrom_newline after.val
  refine ⟨closed, opened, first, rest, ?_, ?_, ?_⟩
  · exact fun c hc => List.all_eq_true.mp before.2 c (hopened c hc)
  · exact fun c hc => List.all_eq_true.mp after.2 c (hfirst c hc)
  · intro d hd t
    obtain ⟨⟨c, tail, hhead, hspace⟩, -⟩ := exists_ends d
    have hne : (d.render ++ (after.val ++ 10 :: t)).head? ≠ some 10 := by
      rw [hhead]
      intro hc
      rw [Option.some.inj hc] at hspace
      cases hspace
    simp only [splitlines, Entry.line, List.append_assoc, List.singleton_append]
    rw [hclosed _ hne, splitFrom_append hd, hrest, List.append_assoc]

lemma logText_cons (e : Entry) (log : List Entry) : logText (e :: log) = e.line ++ logText log := List.flatMap_cons

/-- A log with something in it ends with a newline. -/
lemma exists_logText_eq {log : List Entry} (h : log ≠ []) : ∃ front, logText log = front ++ [10] := by
  rcases List.eq_nil_or_concat' log with rfl | ⟨others, e, rfl⟩
  · exact absurd rfl h
  · refine ⟨logText others ++ (e.before.val ++ e.doc.render ++ e.after.val), ?_⟩
    simp only [logText, List.flatMap_append, List.flatMap_singleton, Entry.line, List.append_assoc]

lemma getLast?_universalNewlines (s : Str) : (universalNewlines (s ++ [10])).getLast? = some 10 := by
  induction s using text_induction with
  | nil => rfl
  | crlf rest ih =>
    rw [List.cons_append, List.cons_append, universalNewlines, List.getLast?_cons, ih]
    rfl
  | boundary c rest hc hcr ih =>
    by_cases hlast : c = 13 ∧ rest = []
    · obtain ⟨rfl, rfl⟩ := hlast
      rfl
    · rw [List.cons_append, universalNewlines_cons (head?_append_of_not_last hcr hlast _), List.getLast?_cons, ih]
      rfl
  | plain c rest hc ih =>
    rw [List.cons_append, universalNewlines_cons (fun h => absurd h (not_cr hc)), List.getLast?_cons, ih]
    rfl

/-- The lines of a log, sanitized one by one and put together again. -/
lemma sanitizeLogs_logText (log : List Entry) : sanitizeLogs host args (logText log) =
    ((splitlines (logText log)).mapM (sanitizeLine host args)).bind (fun lines =>
      writeText (if !log.isEmpty && !([10].intercalate lines).isEmpty then [10].intercalate lines ++ [10]
        else [10].intercalate lines)) := by
  have hfinal : ((universalNewlines (logText log)).getLast? == some 10) = !log.isEmpty := by
    cases log with
    | nil => rfl
    | cons e log =>
      obtain ⟨front, hfront⟩ := exists_logText_eq (List.cons_ne_nil e log)
      rw [hfront, getLast?_universalNewlines]
      rfl
  have hlines : splitlines (universalNewlines (logText log)) = splitlines (logText log) :=
    splitFrom_universalNewlines [] _
  rw [sanitizeLogs, hfinal, hlines]
  cases (splitlines (logText log)).mapM (sanitizeLine host args) with
  | none => rfl
  | some lines => rfl

/-- The output for an uncut log is the output for the log without its secrets. -/
theorem sanitizeLogs_blank (hargs : args.redactSecrets = true) {log : List Entry} (h : ∀ e ∈ log, e.Uncut) :
    sanitizeLogs host args (logText log) = sanitizeLogs host args (logText (log.map Entry.blank)) := by
  have hlines : (splitlines (logText log)).mapM (sanitizeLine host args) =
      (splitlines (logText (log.map Entry.blank))).mapM (sanitizeLine host args) := by
    induction log with
    | nil => rfl
    | cons e log ih =>
      rw [List.forall_mem_cons] at h
      obtain ⟨closed, opened, first, rest, hopened, hfirst, hsplit⟩ := exists_lines e.before e.after
      have hdoc : sanitizeLine host args (opened ++ e.blank.doc.render ++ first) =
          sanitizeLine host args (opened ++ e.doc.render ++ first) := by
        rw [sanitizeLine_render host args hopened hfirst, sanitizeLine_render host args hopened hfirst]
        change (if converts host (blankDoc false e.doc).value then some (dumps (sanitizeJson host args []
          (load host (blankDoc false e.doc).value))) else none) = _
        rw [converts_blankDoc, sanitizeJson_blankDoc host hargs]
      rw [List.map_cons, logText_cons, logText_cons]
      rw [show e.line = (Entry.mk e.before e.doc e.after).line from rfl, hsplit e.doc h.1,
        show e.blank.line = (Entry.mk e.before e.blank.doc e.after).line from rfl, hsplit e.blank.doc h.1.blank]
      simp only [List.mapM_append, List.mapM_cons, hdoc, ih h.2]
  rw [sanitizeLogs_logText, sanitizeLogs_logText, hlines, List.isEmpty_map]

end EdgeGateway.SanitizeLogs
