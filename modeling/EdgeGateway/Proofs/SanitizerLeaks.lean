import EdgeGateway.Proofs.SanitizedLogs

/-!
# Where the sanitizer leaks

A log of which a JSON text is cut gives more lines of output than the same log with nothing cut. So secrets
stay out of the output exactly as long as no text is cut.
-/

namespace EdgeGateway.SanitizeLogs

open Json (Str str Doc Value)

variable (host : Host) (args : Args)

/-! ### Sanitized lines have no newline -/

/-- No newline. -/
abbrev OneLine (s : Str) : Prop :=
  ∀ c ∈ s, c ≠ 10

lemma keeps_const {s : Str} (h : OneLine s) : Regex.Keeps (· ≠ 10) (fun _ => s) :=
  fun _ _ _ => h

lemma mem_intercalate {sep part : Str} {parts : List Str} (hpart : part ∈ parts) {c : Nat} (hc : c ∈ part) :
    c ∈ sep.intercalate parts := by
  induction parts with
  | nil => cases hpart
  | cons first parts ih =>
    cases parts with
    | nil =>
      rw [List.mem_singleton.mp hpart] at hc
      rwa [List.intercalate_singleton]
    | cons second parts =>
      rw [List.intercalate_cons_cons, List.append_assoc, List.mem_append, List.mem_append]
      rcases List.mem_cons.mp hpart with rfl | hpart
      · exact .inl hc
      · exact .inr (.inr (ih hpart))

/-- The octets of an address are parts of it. -/
lemma oneLine_octet {s : Str} (h : OneLine s) (i : Nat) : OneLine ((s.splitOn 46).getD i []) := by
  intro c hc
  rw [List.getD_eq_getElem?_getD] at hc
  cases hoctet : (s.splitOn 46)[i]? with
  | none =>
    rw [hoctet] at hc
    cases hc
  | some octet =>
    rw [hoctet] at hc
    have hjoin : [46].intercalate (s.splitOn 46) = s := List.intercalate_splitOn 46
    apply h c
    rw [← hjoin]
    exact mem_intercalate (List.mem_of_getElem? hoctet) hc

lemma oneLine_append {s t : Str} (hs : OneLine s) (ht : OneLine t) : OneLine (s ++ t) :=
  List.forall_mem_append.mpr ⟨hs, ht⟩

lemma keeps_redactIpv4 : Regex.Keeps (· ≠ 10) (redactIpv4 host) := by
  intro m htext _
  unfold redactIpv4
  split
  · split
    · exact oneLine_append (oneLine_append (oneLine_append (oneLine_octet htext 0) (by decide))
        (oneLine_octet htext 1)) (by decide)
    · decide
  · exact htext

lemma keeps_redactIpv6 : Regex.Keeps (· ≠ 10) (redactIpv6 host) := by
  intro m htext _
  unfold redactIpv6
  split
  · decide
  · exact htext

lemma keeps_redactAssignment : Regex.Keeps (· ≠ 10) redactAssignment := by
  intro m _ hgroups
  have hfirst : OneLine (m.groups.getD 0 []) := by
    cases hm : m.groups with
    | nil => exact nofun
    | cons first others => exact hgroups first (hm ▸ List.mem_cons_self)
  unfold redactAssignment
  apply oneLine_append hfirst
  split
  · decide
  · split
    · decide
    · decide

lemma oneLine_foldl {steps : List Str} {step : Str → Str → Str} (hstep : ∀ s part, OneLine s → OneLine (step s part))
    {s : Str} (hs : OneLine s) : OneLine (steps.foldl step s) := by
  induction steps generalizing s with
  | nil => exact hs
  | cons part steps ih => exact ih (hstep s part hs)

lemma oneLine_sub {a : Regex} {s : Str} {new : String} (hnew : OneLine (str new)) (hs : OneLine s) :
    OneLine (a.sub (fun _ => str new) s) :=
  Regex.forall_mem_sub (keeps_const hnew) hs

lemma oneLine_changeIf {condition : Bool} {change : Str → Str} (hchange : ∀ s, OneLine s → OneLine (change s))
    {s : Str} (hs : OneLine s) : OneLine (changeIf condition change s) := by
  unfold changeIf
  split
  · exact hchange s hs
  · exact hs

lemma oneLine_redactPaths {s : Str} (hs : OneLine s) : OneLine (redactPaths host s) := by
  unfold redactPaths
  apply oneLine_sub (by decide)
  apply oneLine_sub (by decide)
  apply oneLine_sub (by decide)
  apply oneLine_foldl (fun _ _ h => oneLine_sub (by decide) h)
  exact oneLine_foldl (fun _ _ h => oneLine_sub (by decide) h) hs

lemma oneLine_sanitizeText {s : Str} (hs : OneLine s) : OneLine (sanitizeText host args s) := by
  unfold sanitizeText
  apply oneLine_changeIf (fun s h => Regex.forall_mem_sub keeps_redactAssignment h)
  apply oneLine_changeIf (fun s h => Regex.forall_mem_sub (keeps_redactIpv6 host) h)
  apply oneLine_changeIf (fun s h => Regex.forall_mem_sub (keeps_redactIpv4 host) h)
  apply oneLine_changeIf (fun s h => oneLine_foldl (fun _ _ h => oneLine_sub (by decide) h) h)
  apply oneLine_changeIf (fun s h => oneLine_sub (by decide) h)
  exact oneLine_changeIf (fun s h => oneLine_redactPaths host h) hs

mutual

/-- The numbers of the value have no newline in their texts. -/
def OneLineValue : Value → Prop
  | .number text => OneLine text
  | .array items => OneLineItems items
  | .object members => OneLineMembers members
  | _ => True

def OneLineItems : List Value → Prop
  | [] => True
  | value :: rest => OneLineValue value ∧ OneLineItems rest

def OneLineMembers : List (Str × Value) → Prop
  | [] => True
  | (_, value) :: rest => OneLineValue value ∧ OneLineMembers rest

end

lemma oneLineMembers_iff {members : List (Str × Value)} :
    OneLineMembers members ↔ ∀ m ∈ members, OneLineValue m.2 := by
  induction members with
  | nil => exact ⟨fun _ => nofun, fun _ => trivial⟩
  | cons member members ih => rw [OneLineMembers, ih, List.forall_mem_cons]

lemma mem_dictInsert {kept : List (Str × Value)} {member m : Str × Value} (h : m ∈ dictInsert kept member) :
    m ∈ kept ∨ m = member := by
  unfold dictInsert at h
  split at h
  · obtain ⟨other, hother, rfl⟩ := List.mem_map.mp h
    split
    · exact .inr rfl
    · exact .inl hother
  · exact (List.mem_append.mp h).imp_right List.mem_singleton.mp

/-- A `dict` has no members but those it was made of. -/
lemma mem_of_mem_dict {members : List (Str × Value)} {m : Str × Value} (h : m ∈ dict members) : m ∈ members := by
  have hfold : ∀ kept, m ∈ members.foldl dictInsert kept → m ∈ kept ∨ m ∈ members := by
    clear h
    induction members with
    | nil => exact fun _ h => .inl h
    | cons member members ih =>
      intro kept h
      rcases ih (dictInsert kept member) h with hinsert | hrest
      · exact (mem_dictInsert hinsert).imp_right (fun heq : m = member => heq ▸ List.mem_cons_self)
      · exact .inr (List.mem_cons_of_mem member hrest)
  exact (hfold [] h).resolve_left List.not_mem_nil

mutual

lemma oneLine_load (value : Value) : OneLineValue (load host value) := by
  match value with
  | .null => exact trivial
  | .bool b => exact trivial
  | .number literal =>
    intro c hc heq
    exact host.number_line literal (heq ▸ hc)
  | .string s => exact trivial
  | .array items => exact oneLine_loadItems items
  | .object members =>
    change OneLineMembers (dict (loadMembers host members))
    rw [oneLineMembers_iff]
    intro m hm
    exact oneLineMembers_iff.mp (oneLine_loadMembers members) m (mem_of_mem_dict hm)

lemma oneLine_loadItems (items : List Value) : OneLineItems (loadItems host items) := by
  match items with
  | [] => exact trivial
  | value :: rest => exact ⟨oneLine_load value, oneLine_loadItems rest⟩

lemma oneLine_loadMembers (members : List (Str × Value)) : OneLineMembers (loadMembers host members) := by
  match members with
  | [] => exact trivial
  | (key, value) :: rest => exact ⟨oneLine_load value, oneLine_loadMembers rest⟩

end

mutual

lemma oneLine_sanitizeJson (key : Str) (value : Value) (h : OneLineValue value) :
    OneLineValue (sanitizeJson host args key value) := by
  match value with
  | .null =>
    unfold sanitizeJson
    split
    · exact trivial
    · exact h
  | .bool b =>
    unfold sanitizeJson
    split
    · exact trivial
    · exact h
  | .number text =>
    unfold sanitizeJson
    split
    · exact trivial
    · exact h
  | .string s =>
    unfold sanitizeJson
    split
    · exact trivial
    · exact trivial
  | .array items =>
    unfold sanitizeJson
    split
    · exact trivial
    · exact oneLine_sanitizeItems key items h
  | .object members =>
    unfold sanitizeJson
    split
    · exact trivial
    · exact oneLine_sanitizeMembers members h

lemma oneLine_sanitizeItems (key : Str) (items : List Value) (h : OneLineItems items) :
    OneLineItems (sanitizeItems host args key items) := by
  match items with
  | [] => exact trivial
  | value :: rest => exact ⟨oneLine_sanitizeJson key value h.1, oneLine_sanitizeItems key rest h.2⟩

lemma oneLine_sanitizeMembers (members : List (Str × Value)) (h : OneLineMembers members) :
    OneLineMembers (sanitizeMembers host args members) := by
  match members with
  | [] => exact trivial
  | (key, value) :: rest => exact ⟨oneLine_sanitizeJson key value h.1, oneLine_sanitizeMembers rest h.2⟩

end

lemma oneLine_dumpChar (c : Nat) : OneLine (dumpChar c) := by
  have hhex : ∀ n, hexChar n ≠ 10 := by
    intro n
    unfold hexChar
    split <;> omega
  unfold dumpChar
  split_ifs
  · decide
  · decide
  · decide
  · decide
  · decide
  · decide
  · decide
  · exact oneLine_append (by decide) (List.forall_mem_cons.mpr ⟨hhex _, List.forall_mem_singleton.mpr (hhex _)⟩)
  · intro c' hc'
    rw [List.mem_singleton.mp hc']
    assumption

lemma oneLine_dumpString (s : Str) : OneLine (dumpString s) := by
  apply oneLine_append (oneLine_append (by decide) _) (by decide)
  intro c hc
  obtain ⟨c', -, hc'⟩ := List.mem_flatMap.mp hc
  exact oneLine_dumpChar c' c hc'

lemma oneLine_intercalate {parts : List Str} (h : ∀ part ∈ parts, OneLine part) : OneLine ([44].intercalate parts) := by
  induction parts with
  | nil => exact nofun
  | cons first parts ih =>
    rw [List.forall_mem_cons] at h
    cases parts with
    | nil =>
      rw [List.intercalate_singleton]
      exact h.1
    | cons second parts =>
      rw [List.intercalate_cons_cons]
      exact oneLine_append (oneLine_append h.1 (by decide)) (ih h.2)

mutual

lemma oneLine_dumps (value : Value) (h : OneLineValue value) : OneLine (dumps value) := by
  match value with
  | .null => decide
  | .bool true => decide
  | .bool false => decide
  | .number text => exact h
  | .string s => exact oneLine_dumpString s
  | .array items =>
    exact oneLine_append (oneLine_append (by decide) (oneLine_intercalate (oneLine_dumpItems items h))) (by decide)
  | .object members =>
    exact oneLine_append (oneLine_append (by decide) (oneLine_intercalate (oneLine_dumpMembers members h))) (by decide)

lemma oneLine_dumpItems (items : List Value) (h : OneLineItems items) : ∀ part ∈ dumpItems items, OneLine part := by
  match items with
  | [] => exact nofun
  | value :: rest =>
    rw [dumpItems, List.forall_mem_cons]
    exact ⟨oneLine_dumps value h.1, oneLine_dumpItems rest h.2⟩

lemma oneLine_dumpMembers (members : List (Str × Value)) (h : OneLineMembers members) :
    ∀ part ∈ dumpMembers members, OneLine part := by
  match members with
  | [] => exact nofun
  | (key, value) :: rest =>
    rw [dumpMembers, List.forall_mem_cons]
    exact ⟨oneLine_append (oneLine_append (oneLine_dumpString key) (by decide)) (oneLine_dumps value h.1),
      oneLine_dumpMembers rest h.2⟩

end

/-- A sanitized line is one line. -/
lemma oneLine_sanitizeLine {line out : Str} (hline : OneLine line) (h : sanitizeLine host args line = some out) :
    OneLine out := by
  unfold sanitizeLine at h
  dsimp only at h
  split at h
  · rw [← Option.some.inj h]
    exact oneLine_sanitizeText host args hline
  · split at h
    · split at h
      · rw [← Option.some.inj h]
        exact oneLine_dumps _ (oneLine_sanitizeJson host args [] _ (oneLine_load host _))
      · cases h
    · rw [← Option.some.inj h]
      exact oneLine_sanitizeText host args hline

/-! ### The number of lines -/

/-- The lines of a text hold no newline. -/
lemma oneLine_of_mem_splitFrom {line s : Str} (hline : OneLine line) {p : Str} (hp : p ∈ splitFrom line s) :
    OneLine p := by
  induction s using text_induction generalizing line with
  | nil =>
    rw [splitFrom] at hp
    split at hp
    · cases hp
    · exact List.mem_singleton.mp hp ▸ hline
  | crlf rest ih =>
    rw [splitFrom, List.mem_cons] at hp
    exact hp.elim (fun heq => heq ▸ hline) (ih (List.forall_mem_nil _))
  | boundary c rest hc hcr ih =>
    rw [splitFrom_boundary line hc hcr, List.mem_cons] at hp
    exact hp.elim (fun heq => heq ▸ hline) (ih (List.forall_mem_nil _))
  | plain c rest hc ih =>
    rw [splitFrom_plain line _ hc] at hp
    apply ih (oneLine_append hline (List.forall_mem_singleton.mpr _)) hp
    rintro rfl
    exact absurd hc (by decide)

/-- How often a text is cut. -/
def breaks : Str → Nat
  | [] => 0
  | 13 :: 10 :: rest => breaks rest + 1
  | c :: rest => breaks rest + if isBoundary c then 1 else 0

lemma breaks_boundary {c : Nat} {s : Str} (hc : isBoundary c = true) (h : c = 13 → s.head? ≠ some 10) :
    breaks (c :: s) = breaks s + 1 := by
  rw [breaks, if_pos hc]
  rintro rest rfl rfl
  exact h rfl rfl

lemma breaks_plain {c : Nat} (s : Str) (hc : isBoundary c = false) : breaks (c :: s) = breaks s := by
  rw [breaks, if_neg (by rw [hc]; decide), Nat.add_zero]
  rintro rest rfl rfl
  exact absurd hc (by decide)

/-- A text is cut in two parts that do not break a CRLF apart. -/
lemma breaks_append {x y : Str} (h : x.getLast? = some 13 → y.head? ≠ some 10) :
    breaks (x ++ y) = breaks x + breaks y := by
  have hstep : ∀ {c : Nat} {rest : Str}, ((c :: rest).getLast? = some 13 → y.head? ≠ some 10) →
      rest.getLast? = some 13 → y.head? ≠ some 10 := by
    intro c rest h hlast
    apply h
    rw [List.getLast?_cons, hlast]
    rfl
  induction x using text_induction with
  | nil => rw [List.nil_append, breaks, Nat.zero_add]
  | crlf rest ih =>
    rw [List.cons_append, List.cons_append, breaks, breaks, ih (hstep (hstep h))]
    omega
  | boundary c rest hc hcr ih =>
    have hhead : c = 13 → (rest ++ y).head? ≠ some 10 := by
      intro heq
      apply head?_append_ne (hcr heq)
      rintro rfl
      apply h
      rw [heq]
      rfl
    rw [List.cons_append, breaks_boundary hc hhead, breaks_boundary hc hcr, ih (hstep h)]
    omega
  | plain c rest hc ih => rw [List.cons_append, breaks_plain _ hc, breaks_plain _ hc, ih (hstep h)]

/-- A text that ends with a newline has as many lines as cuts. -/
lemma length_splitFrom (line s : Str) : (splitFrom line (s ++ [10])).length = breaks (s ++ [10]) := by
  induction s using text_induction generalizing line with
  | nil => rfl
  | crlf rest ih => rw [List.cons_append, List.cons_append, splitFrom, breaks, List.length_cons, ih]
  | boundary c rest hc hcr ih =>
    by_cases hlast : c = 13 ∧ rest = []
    · obtain ⟨rfl, rfl⟩ := hlast
      rfl
    · have hhead := head?_append_of_not_last hcr hlast [10]
      rw [List.cons_append, splitFrom_boundary line hc hhead, breaks_boundary hc hhead, List.length_cons, ih]
  | plain c rest hc ih => rw [List.cons_append, splitFrom_plain line _ hc, breaks_plain _ hc, ih]

lemma breaks_eq_zero_iff {s : Str} : breaks s = 0 ↔ ∀ c ∈ s, isBoundary c = false := by
  induction s using text_induction with
  | nil => exact ⟨fun _ => nofun, fun _ => rfl⟩
  | crlf rest ih =>
    rw [breaks, List.forall_mem_cons]
    exact ⟨fun h => absurd h (Nat.succ_ne_zero _), fun h => absurd h.1 (by decide)⟩
  | boundary c rest hc hcr ih =>
    rw [breaks_boundary hc hcr, List.forall_mem_cons, hc]
    exact ⟨fun h => absurd h (Nat.succ_ne_zero _), fun h => absurd h.1 (by decide)⟩
  | plain c rest hc ih =>
    rw [breaks_plain _ hc, List.forall_mem_cons, ih]
    exact ⟨fun h => ⟨hc, h⟩, fun h => h.2⟩

/-- The cuts of a line are those of its whitespace and those of its document. -/
lemma breaks_line (e : Entry) :
    breaks e.line = breaks e.before.val + breaks e.doc.render + breaks (e.after.val ++ [10]) := by
  obtain ⟨⟨c, rest, hfirst, hc⟩, front, c', hlast, hc'⟩ := exists_ends e.doc
  have hhead : (e.doc.render ++ (e.after.val ++ [10])).head? ≠ some 10 := by
    rw [hfirst]
    intro heq
    rw [Option.some.inj heq] at hc
    cases hc
  have hcr : e.doc.render.getLast? ≠ some 13 := by
    rw [hlast, List.getLast?_concat]
    intro heq
    rw [Option.some.inj heq] at hc'
    cases hc'
  rw [Entry.line, List.append_assoc, List.append_assoc, breaks_append (fun _ => hhead),
    breaks_append (fun h => absurd h hcr), Nat.add_assoc]

lemma breaks_logText_cons (e : Entry) (log : List Entry) :
    breaks (logText (e :: log)) = breaks e.line + breaks (logText log) := by
  have hlast : e.line.getLast? ≠ some 13 := by
    rw [Entry.line, List.getLast?_concat]
    decide
  rw [logText_cons, breaks_append (fun h => absurd h hlast)]

/-- A log with texts that are cut has more lines than the same log without. -/
lemma breaks_logText {a b : List Entry} (hsame : a.map Entry.blank = b.map Entry.blank) (hb : ∀ e ∈ b, e.Uncut) :
    breaks (logText a) = breaks (logText b) + (a.map (fun e => breaks e.doc.render)).sum := by
  induction a generalizing b with
  | nil =>
    rw [List.map_eq_nil_iff.mp hsame.symm]
    rfl
  | cons e a ih =>
    cases b with
    | nil => cases hsame
    | cons e' b =>
      rw [List.map_cons, List.map_cons] at hsame
      obtain ⟨hentry, hsame⟩ := List.cons.inj hsame
      rw [List.forall_mem_cons] at hb
      have hbefore := congrArg Entry.before hentry
      have hafter := congrArg Entry.after hentry
      change e.before = e'.before at hbefore
      change e.after = e'.after at hafter
      have hzero : breaks e'.doc.render = 0 := breaks_eq_zero_iff.mpr hb.1
      rw [breaks_logText_cons, breaks_logText_cons, breaks_line, breaks_line, ih hsame hb.2, hbefore, hafter, hzero,
        List.map_cons, List.sum_cons]
      omega

/-! ### The output -/

lemma of_mapM_eq_some {α β : Type} {f : α → Option β} {l : List α} {l' : List β} (h : l.mapM f = some l') :
    l'.length = l.length ∧ ∀ y ∈ l', ∃ x ∈ l, f x = some y := by
  induction l generalizing l' with
  | nil =>
    cases h
    exact ⟨rfl, nofun⟩
  | cons x l ih =>
    rw [List.mapM_cons] at h
    obtain ⟨y, hy, h⟩ := Option.bind_eq_some_iff.mp h
    obtain ⟨rest, hrest, h⟩ := Option.bind_eq_some_iff.mp h
    cases h
    obtain ⟨hlength, hmem⟩ := ih hrest
    refine ⟨congrArg (· + 1) hlength, List.forall_mem_cons.mpr ⟨⟨x, List.mem_cons_self, hy⟩, ?_⟩⟩
    intro y' hy'
    obtain ⟨x', hx', heq⟩ := hmem y' hy'
    exact ⟨x', List.mem_cons_of_mem x hx', heq⟩

/-- The newlines in a text of lines are those between them and those inside them. -/
lemma count_intercalate {lines : List Str} (h : lines ≠ []) :
    ([10].intercalate lines).count 10 + 1 = lines.length + (lines.map (List.count 10)).sum := by
  induction lines with
  | nil => exact absurd rfl h
  | cons first lines ih =>
    cases lines with
    | nil => simp [List.intercalate_singleton, Nat.add_comm]
    | cons second lines =>
      have hrest := ih (List.cons_ne_nil second lines)
      rw [List.intercalate_cons_cons, List.count_append, List.count_append, List.map_cons, List.sum_cons,
        List.length_cons, List.count_singleton_self]
      omega

/-- The lines as the script writes them. -/
def joined (lines : List Str) : Str :=
  if !([10].intercalate lines).isEmpty then [10].intercalate lines ++ [10] else [10].intercalate lines

lemma le_count_joined {lines : List Str} (h : 2 ≤ lines.length) : lines.length ≤ (joined lines).count 10 := by
  have hcount := count_intercalate (List.ne_nil_of_length_pos (Nat.zero_lt_two.trans_le h))
  unfold joined
  split
  · rw [List.count_append, List.count_singleton_self]
    omega
  · rename_i hempty
    have hnil : [10].intercalate lines = [] := by simpa using hempty
    rw [hnil, List.count_nil] at hcount
    omega

lemma count_joined_le {lines : List Str} (h : ∀ line ∈ lines, OneLine line) :
    (joined lines).count 10 ≤ lines.length := by
  have hzero : (lines.map (List.count 10)).sum = 0 := by
    rw [List.sum_eq_zero_iff]
    intro n hn
    obtain ⟨line, hline, rfl⟩ := List.mem_map.mp hn
    exact List.count_eq_zero.mpr (fun hmem => h line hline 10 hmem rfl)
  unfold joined
  split
  · have hne : lines ≠ [] := by
      rintro rfl
      contradiction
    have hcount := count_intercalate hne
    rw [List.count_append, List.count_singleton_self]
    omega
  · rename_i hempty
    have hnil : [10].intercalate lines = [] := by simpa using hempty
    rw [hnil, List.count_nil]
    exact Nat.zero_le _

/-- A text that is written is written as it is. -/
lemma eq_of_writeText {s out : Str} (h : writeText s = some out) : s = out := by
  unfold writeText at h
  split at h
  · exact Option.some.inj h
  · cases h

lemma sanitizeLogs_eq_joined {args : Args} {log : List Entry} (hlog : log ≠ []) {out : Str}
    (h : sanitizeLogs host args (logText log) = some out) :
    ∃ lines, lines.length = (splitlines (logText log)).length ∧ (∀ line ∈ lines, OneLine line) ∧
      joined lines = out := by
  rw [sanitizeLogs_logText] at h
  obtain ⟨lines, hlines, hwritten⟩ := Option.bind_eq_some_iff.mp h
  have hout := eq_of_writeText hwritten
  obtain ⟨hlength, hmem⟩ := of_mapM_eq_some hlines
  refine ⟨lines, hlength, ?_, ?_⟩
  · intro line hline
    obtain ⟨source, hsource, hsanitized⟩ := hmem line hline
    exact oneLine_sanitizeLine host args (oneLine_of_mem_splitFrom (List.forall_mem_nil _) hsource) hsanitized
  · rw [List.isEmpty_eq_false_iff.mpr hlog] at hout
    exact hout

/-- An uncut log that is sanitized has its output in common with no log of which a text is cut. -/
lemma uncut_of_sanitizeLogs_eq {args : Args} {a b : List Entry} (hsame : a.map Entry.blank = b.map Entry.blank)
    (hb : ∀ e ∈ b, e.Uncut) {out : Str} (hout : sanitizeLogs host args (logText b) = some out)
    (heq : sanitizeLogs host args (logText a) = some out) : ∀ e ∈ a, e.Uncut := by
  by_contra hcut
  push Not at hcut
  obtain ⟨e, he, hcut⟩ := hcut
  have hlength : a.length = b.length := by simpa using congrArg List.length hsame
  have hane : a ≠ [] := List.ne_nil_of_mem he
  have hbne : b ≠ [] := by
    intro hempty
    rw [hempty, List.length_nil] at hlength
    exact hane (List.length_eq_zero_iff.mp hlength)
  -- the log with a cut has more lines
  have hmore : (splitlines (logText b)).length < (splitlines (logText a)).length := by
    obtain ⟨frontA, hfrontA⟩ := exists_logText_eq hane
    obtain ⟨frontB, hfrontB⟩ := exists_logText_eq hbne
    have hbreaks := breaks_logText hsame hb
    have hpositive : 0 < (a.map (fun e => breaks e.doc.render)).sum := by
      have hmem : breaks e.doc.render ∈ a.map (fun e => breaks e.doc.render) := List.mem_map_of_mem he
      have hle := List.single_le_sum (fun _ _ => Nat.zero_le _) _ hmem
      have hne : breaks e.doc.render ≠ 0 := fun hzero => hcut (breaks_eq_zero_iff.mp hzero)
      omega
    rw [splitlines, splitlines, hfrontA, hfrontB, length_splitFrom, length_splitFrom, ← hfrontA, ← hfrontB]
    omega
  have hone : 0 < (splitlines (logText b)).length := by
    obtain ⟨front, hfront⟩ := exists_logText_eq hbne
    rw [splitlines, hfront, length_splitFrom, Nat.pos_iff_ne_zero, Ne, breaks_eq_zero_iff]
    intro hnone
    exact absurd (hnone 10 (List.mem_append_right front (List.mem_singleton_self 10))) (by decide)
  obtain ⟨linesA, hlengthA, -, hjoinA⟩ := sanitizeLogs_eq_joined host hane heq
  obtain ⟨linesB, hlengthB, honeLine, hjoinB⟩ := sanitizeLogs_eq_joined host hbne hout
  have htwo : 2 ≤ linesA.length := by omega
  have hatLeast := le_count_joined htwo
  have hatMost := count_joined_le honeLine
  rw [hjoinA, ← hjoinB] at hatLeast
  omega

/-- The secrets of two logs that differ in nothing else have no influence on the output as long as no text is
cut inside. As soon as one of the logs has such a cut, its output is not that of the other. -/
theorem secrets_hidden_iff {a b : List Entry} (hsame : a.map Entry.blank = b.map Entry.blank) :
    ((∀ e ∈ a, e.Uncut) → (∀ e ∈ b, e.Uncut) →
      sanitizeLogs host {} (logText a) = sanitizeLogs host {} (logText b)) ∧
    ((∀ e ∈ b, e.Uncut) → (sanitizeLogs host {} (logText b)).isSome →
      (sanitizeLogs host {} (logText a) = sanitizeLogs host {} (logText b) ↔ ∀ e ∈ a, e.Uncut)) := by
  have henough : (∀ e ∈ a, e.Uncut) → (∀ e ∈ b, e.Uncut) →
      sanitizeLogs host {} (logText a) = sanitizeLogs host {} (logText b) := by
    intro ha hb
    rw [sanitizeLogs_blank host rfl ha, sanitizeLogs_blank host rfl hb, hsame]
  refine ⟨henough, ?_⟩
  intro hb hsome
  obtain ⟨out, hout⟩ := Option.isSome_iff_exists.mp hsome
  constructor
  · intro heq
    exact uncut_of_sanitizeLogs_eq host hsame hb hout (heq.trans hout)
  · intro ha
    exact henough ha hb

/-- A host with plain ASCII tables, for logs without addresses and numbers. -/
def plainHost : Host where
  repoVariants := [str "/srv/gateway"]
  homeVariants := [str "/root"]
  userNames := [str "root"]
  isDecimal := Json.isDigit
  isWord c := Json.isDigit c || isLetter c || c == 95
  sameLetter := anyCase
  ipAddress _ := none
  converts _ := true
  number literal := literal.filter (· ≠ 10)
  number_line literal := by simp

/-- An object with a password. -/
def passwordEntry (password : Str) (h : password.all Json.isPlain = true := by decide) : Entry where
  before := Json.noSpace
  doc := .object (.last
    { before := Json.noSpace, name := Json.plainPieces (str "password") (by decide), beforeColon := Json.noSpace,
      afterColon := Json.noSpace }
    (.string (Json.plainPieces password h)) Json.noSpace)
  after := Json.noSpace

/-- The password is what blanking takes away. -/
lemma blank_passwordEntry (password : Str) (h : password.all Json.isPlain = true) :
    (passwordEntry password h).blank = passwordEntry [] := by
  have hsecret : isSecretKey (str "password") = true := by decide +kernel
  simp only [Entry.blank, passwordEntry, blankDoc, blankMembers, Json.decode_plainPieces, hsecret, Bool.or_true,
    if_true]
  rfl

theorem secrets_hidden_iff_plain :
    sanitizeLogs plainHost {} (logText [passwordEntry (str "a")]) =
      sanitizeLogs plainHost {} (logText [passwordEntry (str "bc")]) ∧
    sanitizeLogs plainHost {} (logText [passwordEntry (str "a\u2028b")]) ≠
      sanitizeLogs plainHost {} (logText [passwordEntry (str "bc")]) := by
  have hsame : ∀ password h, [passwordEntry password h].map Entry.blank =
      [passwordEntry (str "bc")].map Entry.blank := by
    intro password h
    rw [List.map_singleton, List.map_singleton, blank_passwordEntry, blank_passwordEntry]
  have huncut : ∀ e ∈ [passwordEntry (str "bc")], e.Uncut := by
    rw [List.forall_mem_singleton]
    unfold Entry.Uncut
    decide
  refine ⟨(secrets_hidden_iff plainHost (hsame _ _)).1 ?_ huncut, ?_⟩
  · rw [List.forall_mem_singleton]
    unfold Entry.Uncut
    decide
  · intro heq
    have hall := ((secrets_hidden_iff plainHost (hsame _ _)).2 huncut (by decide +kernel)).mp heq
    exact absurd (hall _ (List.mem_singleton_self _) 0x2028 (by decide)) (by decide)

/-- What follows a line separator in a password is written out. -/
theorem secret_leaks :
    [passwordEntry (str "a\u2028b")].map Entry.blank = [passwordEntry (str "a\u2028c")].map Entry.blank ∧
    sanitizeLogs plainHost {} (logText [passwordEntry (str "a\u2028b")]) ≠
      sanitizeLogs plainHost {} (logText [passwordEntry (str "a\u2028c")]) := by
  refine ⟨?_, by decide +kernel⟩
  rw [List.map_singleton, List.map_singleton, blank_passwordEntry, blank_passwordEntry]

end EdgeGateway.SanitizeLogs
