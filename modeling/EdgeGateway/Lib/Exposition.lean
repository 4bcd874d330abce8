import EdgeGateway.Lib.Delimited

/-!
# Metrics as text

The text format in which metrics are exposed: for each of them a line of help, a line with its type and a sample.
The reader gives the families of a text back.
-/

namespace Exposition
open Delimited

abbrev Bytes := List UInt8

/-- A sample keeps its literal. -/
inductive Line where
  | help (name text : Bytes)
  | type (name kind : Bytes)
  | sample (name literal : Bytes)

structure Family where
  name : Bytes
  kind : Bytes
  help : Bytes
  value : Nat
deriving DecidableEq

/-- `# HELP `. -/
def helpMark : Bytes := [35, 32, 72, 69, 76, 80, 32]

/-- `# TYPE `. -/
def typeMark : Bytes := [35, 32, 84, 89, 80, 69, 32]

def Line.render : Line → Bytes
  | .help name text => helpMark ++ (name ++ ([32] ++ text))
  | .type name kind => typeMark ++ (name ++ ([32] ++ kind))
  | .sample name literal => name ++ ([32] ++ literal)

def parseLine (l : Bytes) : Option Line :=
  if helpMark.isPrefixOf l then
    (cut [32] (l.drop helpMark.length)).map (fun parts => .help parts.1 parts.2)
  else if typeMark.isPrefixOf l then
    (cut [32] (l.drop typeMark.length)).map (fun parts => .type parts.1 parts.2)
  else
    (cut [32] l).map (fun parts => .sample parts.1 parts.2)

/-- The families of some lines, each of them three lines about one name. Families with more samples, with labels or
without help, which the format allows too, are refused. -/
def collect : List Line → Option (List Family)
  | [] => some []
  | .help name text :: .type name' kind :: .sample name'' literal :: rest =>
    if name' = name ∧ name'' = name then do
      let value ← number literal
      let others ← collect rest
      return ⟨name, kind, text, value⟩ :: others
    else
      none
  | _ => none

def parse (text : Bytes) : Option (List Family) := do
  collect (← (← records [10] text.length text).mapM parseLine)

namespace Family

variable (digits : Nat → Bytes)

def lines (f : Family) : List Line :=
  [.help f.name f.help, .type f.name f.kind, .sample f.name (digits f.value)]

def render (f : Family) : Bytes :=
  (f.lines digits).flatMap (fun l => l.render ++ [10])

/-- Texts that can stand on the lines of a family. -/
structure WellFormed (f : Family) : Prop where
  name : 10 ∉ f.name ∧ 32 ∉ f.name ∧ 35 ∉ f.name
  kind : 10 ∉ f.kind
  help : 10 ∉ f.help

end Family

/-- A line that is read back. -/
def Line.Readable (l : Line) : Prop :=
  10 ∉ l.render ∧ parseLine l.render = some l

lemma mark_isPrefixOf_eq_false {name : Bytes} (hmark : 35 ∉ name) {rest : Bytes} {mark : Bytes} :
    (35 :: mark).isPrefixOf (name ++ ([32] ++ rest)) = false := by
  cases name with
  | nil => rfl
  | cons c name =>
    rw [List.mem_cons, not_or] at hmark
    rw [List.cons_append, List.isPrefixOf, beq_false_of_ne hmark.1, Bool.false_and]

lemma readable_lines {digits : Nat → Bytes} (hdigits : ∀ n, 10 ∉ digits n) {f : Family} (h : f.WellFormed) :
    ∀ l ∈ f.lines digits, l.Readable := by
  obtain ⟨hnewline, hspace, hmark⟩ := h.name
  have hcut : ∀ rest, cut [32] (f.name ++ ([32] ++ rest)) = some (f.name, rest) := cut_append hspace
  intro l hl
  simp only [Family.lines, List.mem_cons, List.not_mem_nil, or_false] at hl
  rcases hl with rfl | rfl | rfl
  · refine ⟨by simp [Line.render, helpMark, hnewline, h.help], ?_⟩
    have hprefix : helpMark.isPrefixOf (helpMark ++ (f.name ++ ([32] ++ f.help))) = true :=
      List.isPrefixOf_iff_prefix.mpr (List.prefix_append _ _)
    rw [Line.render, parseLine, if_pos hprefix, List.drop_left, hcut]
    rfl
  · refine ⟨by simp [Line.render, typeMark, hnewline, h.kind], ?_⟩
    have hprefix : typeMark.isPrefixOf (typeMark ++ (f.name ++ ([32] ++ f.kind))) = true :=
      List.isPrefixOf_iff_prefix.mpr (List.prefix_append _ _)
    have hother : helpMark.isPrefixOf (typeMark ++ (f.name ++ ([32] ++ f.kind))) = false := rfl
    rw [Line.render, parseLine, hother, if_neg Bool.false_ne_true, if_pos hprefix, List.drop_left, hcut]
    rfl
  · refine ⟨by simp [Line.render, hnewline, hdigits], ?_⟩
    rw [Line.render, parseLine, helpMark, typeMark, mark_isPrefixOf_eq_false hmark, mark_isPrefixOf_eq_false hmark,
      if_neg Bool.false_ne_true, if_neg Bool.false_ne_true, hcut]
    rfl

lemma mapM_parseLine {ls : List Line} (hls : ∀ l ∈ ls, l.Readable) : (ls.map Line.render).mapM parseLine = some ls := by
  induction ls with
  | nil => rfl
  | cons l ls ih =>
    rw [List.forall_mem_cons] at hls
    rw [List.map_cons, List.mapM_cons, hls.1.2, ih hls.2]
    rfl

lemma collect_lines {digits : Nat → Bytes} (hdigits : ∀ n, number (digits n) = some n) (fs : List Family) :
    collect (fs.flatMap (Family.lines digits)) = some fs := by
  induction fs with
  | nil => rfl
  | cons f fs ih =>
    change collect (.help f.name f.help :: .type f.name f.kind :: .sample f.name (digits f.value) ::
      fs.flatMap (Family.lines digits)) = _
    rw [collect, if_pos ⟨rfl, rfl⟩, hdigits, ih]
    rfl

lemma length_le_flatMap (ls : List Line) : ls.length ≤ (ls.flatMap (fun l => l.render ++ [10])).length := by
  induction ls with
  | nil => exact Nat.le_refl 0
  | cons l ls ih =>
    rw [List.flatMap_cons, List.length_cons, List.length_append, List.length_append, List.length_singleton]
    omega

/-- The text of some families is read back. -/
theorem parse_render {digits : Nat → Bytes} (hdigits : ∀ n, number (digits n) = some n ∧ 10 ∉ digits n)
    {fs : List Family} (hfs : ∀ f ∈ fs, f.WellFormed) : parse (fs.flatMap (Family.render digits)) = some fs := by
  have hlines : ∀ l ∈ fs.flatMap (Family.lines digits), l.Readable := by
    intro l hl
    obtain ⟨f, hf, hl⟩ := List.mem_flatMap.mp hl
    exact readable_lines (fun n => (hdigits n).2) (hfs f hf) l hl
  have htext : fs.flatMap (Family.render digits) =
      ((fs.flatMap (Family.lines digits)).map Line.render).flatMap (fun l => l ++ [10]) := by
    rw [List.flatMap_map, List.flatMap_assoc]
    rfl
  have hlong : ((fs.flatMap (Family.lines digits)).map Line.render).length ≤
      (((fs.flatMap (Family.lines digits)).map Line.render).flatMap (fun l => l ++ [10])).length := by
    rw [List.length_map, List.flatMap_map]
    exact length_le_flatMap _
  have hrecords : records [10] _ (((fs.flatMap (Family.lines digits)).map Line.render).flatMap (fun l => l ++ [10])) =
      some _ :=
    records_flatMap (List.forall_mem_map.mpr (fun l hl => (hlines l hl).1)) hlong
  rw [parse, htext, hrecords, Option.bind_eq_bind, Option.bind_some, mapM_parseLine hlines]
  exact collect_lines (fun n => (hdigits n).1) fs

end Exposition
