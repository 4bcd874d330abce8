import EdgeGateway.Lib.Delimited

/-!
# HTTP responses

A response is a status line, header fields, an empty line and a body of the length that a field announces. The
reader finds the response at the beginning of a stream, and what comes after it.
-/

namespace Http
open Delimited

abbrev Bytes := List UInt8

def crlf : Bytes := [13, 10]

/-- A header field is a name and a value. -/
structure Response where
  code : Bytes
  reason : Bytes
  fields : List (Bytes × Bytes)
  body : Bytes
deriving DecidableEq

def version : Bytes := [72, 84, 84, 80, 47, 49, 46, 49, 32]

def renderField (field : Bytes × Bytes) : Bytes :=
  field.1 ++ [58, 32] ++ field.2 ++ crlf

def Response.render (r : Response) : Bytes :=
  version ++ r.code ++ [32] ++ r.reason ++ crlf ++ r.fields.flatMap renderField ++ crlf ++ r.body

/-- The fields up to the empty line, of which there are fewer than this many, and what stands after it. -/
def parseFields : Nat → Bytes → Option (List (Bytes × Bytes) × Bytes)
  | 0, _ => none
  | n + 1, s => do
    let line ← cut crlf s
    if line.1 = [] then
      return ([], line.2)
    else
      let field ← cut [58, 32] line.1
      let others ← parseFields n line.2
      return (field :: others.1, others.2)

/-- The body is as long as the field `name` says. -/
def parse (name : Bytes) (s : Bytes) : Option (Response × Bytes) := do
  let line ← cut crlf s
  if version.isPrefixOf line.1 then
    let status ← cut [32] (line.1.drop version.length)
    let head ← parseFields s.length line.2
    let length ← number (← head.1.lookup name)
    if length ≤ head.2.length then
      return (⟨status.1, status.2, head.1, head.2.take length⟩, head.2.drop length)
    else
      none
  else
    none

/-- Texts that a response can be made of. -/
structure Response.WellFormed (r : Response) : Prop where
  code : 13 ∉ r.code ∧ 32 ∉ r.code
  reason : 13 ∉ r.reason
  fields : ∀ field ∈ r.fields, 13 ∉ field.1 ∧ 58 ∉ field.1 ∧ 13 ∉ field.2

lemma parseFields_render {fields : List (Bytes × Bytes)}
    (hfields : ∀ field ∈ fields, 13 ∉ field.1 ∧ 58 ∉ field.1 ∧ 13 ∉ field.2) {n : Nat} (hn : fields.length < n)
    (rest : Bytes) : parseFields n (fields.flatMap renderField ++ crlf ++ rest) = some (fields, rest) := by
  induction fields generalizing n with
  | nil =>
    obtain ⟨m, rfl⟩ : ∃ m, n = m + 1 := ⟨n - 1, by omega⟩
    have hempty : cut crlf ([] ++ (crlf ++ rest)) = some ([], rest) := cut_append List.not_mem_nil rest
    rw [List.flatMap_nil, List.append_assoc, parseFields, hempty]
    rfl
  | cons field fields ih =>
    rw [List.length_cons] at hn
    rw [List.forall_mem_cons] at hfields
    obtain ⟨m, rfl⟩ : ∃ m, n = m + 1 := ⟨n - 1, by omega⟩
    obtain ⟨hname, hcolon, hvalue⟩ := hfields.1
    have hline : 13 ∉ field.1 ++ [58, 32] ++ field.2 := by
      simp [hname, hvalue]
    have hcut : cut crlf (field.1 ++ [58, 32] ++ field.2 ++ (crlf ++ (fields.flatMap renderField ++ crlf ++ rest))) =
        some (field.1 ++ [58, 32] ++ field.2, fields.flatMap renderField ++ crlf ++ rest) :=
      cut_append hline _
    have hfield : cut [58, 32] (field.1 ++ ([58, 32] ++ field.2)) = some field := cut_append hcolon field.2
    have htext : (field :: fields).flatMap renderField ++ crlf ++ rest =
        field.1 ++ [58, 32] ++ field.2 ++ (crlf ++ (fields.flatMap renderField ++ crlf ++ rest)) := by
      simp only [List.flatMap_cons, renderField, List.append_assoc]
    have hsome : field.1 ++ [58, 32] ++ field.2 ≠ [] := by simp
    rw [htext, parseFields, hcut, Option.bind_eq_bind, Option.bind_some]
    dsimp only
    rw [if_neg hsome, List.append_assoc, hfield, Option.bind_some, ih hfields.2 (by omega)]
    rfl

lemma length_fields_le (fields : List (Bytes × Bytes)) : fields.length ≤ (fields.flatMap renderField).length := by
  induction fields with
  | nil => exact Nat.le_refl 0
  | cons field fields ih =>
    rw [List.flatMap_cons, List.length_append, List.length_cons, renderField, List.length_append, crlf]
    simp only [List.length_cons, List.length_nil]
    omega

/-- A response whose field `name` announces its length is read back, whatever comes after it. -/
theorem parse_render {r : Response} (h : r.WellFormed) {name length : Bytes}
    (hlookup : r.fields.lookup name = some length)
    (hlength : number length = some r.body.length) (rest : Bytes) : parse name (r.render ++ rest) = some (r, rest) := by
  have hline : 13 ∉ version ++ r.code ++ [32] ++ r.reason := by
    simp [version, h.code.1, h.reason]
  have htext : r.render ++ rest = version ++ r.code ++ [32] ++ r.reason ++
      (crlf ++ (r.fields.flatMap renderField ++ crlf ++ (r.body ++ rest))) := by
    simp only [Response.render, List.append_assoc]
  have hcut : cut crlf (r.render ++ rest) =
      some (version ++ r.code ++ [32] ++ r.reason, r.fields.flatMap renderField ++ crlf ++ (r.body ++ rest)) := by
    rw [htext]
    exact cut_append hline _
  have hversion : version.isPrefixOf (version ++ r.code ++ [32] ++ r.reason) = true := by
    rw [List.append_assoc, List.append_assoc]
    exact List.isPrefixOf_iff_prefix.mpr (List.prefix_append _ _)
  have hstatus : cut [32] ((version ++ r.code ++ [32] ++ r.reason).drop version.length) = some (r.code, r.reason) := by
    rw [List.append_assoc, List.append_assoc, List.drop_left]
    exact cut_append h.code.2 r.reason
  have hshort : r.fields.length < (r.render ++ rest).length := by
    have hfields := length_fields_le r.fields
    rw [htext]
    simp only [List.length_append, crlf, List.length_cons, List.length_nil]
    omega
  have hfits : r.body.length ≤ (r.body ++ rest).length := by
    rw [List.length_append]
    omega
  simp only [parse, hcut, Option.bind_eq_bind, Option.bind_some, if_pos hversion, hstatus,
    parseFields_render h.fields hshort, hlookup, hlength, if_pos hfits, List.take_left, List.drop_left]
  rfl

end Http
