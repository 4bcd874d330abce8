import EdgeGateway.Lib.Http
import EdgeGateway.Model.HttpServer
import EdgeGateway.Proofs.SensorJson

/-!
# Requests and responses of the HTTP server

Which requests a path is read from, and that a client finds the end of a response.
-/

namespace EdgeGateway

/-! ### Responses -/

lemma number_decimal (n : Nat) : Delimited.number (decimal n) = some n := by
  have hdigits : (decimal n).all (fun d => 48 ≤ d && d ≤ 57) = true := by
    have hall := all_isDigit_decimal n
    rw [codes, List.all_map, List.all_eq_true] at hall
    rw [List.all_eq_true]
    intro d hd
    have hdigit := hall d hd
    simp only [Function.comp, Json.isDigit, Bool.and_eq_true, decide_eq_true_eq] at hdigit
    simp only [Bool.and_eq_true, decide_eq_true_eq, UInt8.le_iff_toNat_le]
    exact hdigit
  have hsome : decimal n ≠ [] := by
    obtain ⟨c, rest, hcodes, -⟩ := exists_digit_decimal n
    intro hnil
    rw [hnil] at hcodes
    cases hcodes
  have hvalue : (decimal n).foldl (fun n d => n * 10 + (d.toNat - 48)) 0 = n := by
    have hread := readNat_decimal n
    rw [readNat, codes, List.foldl_map] at hread
    exact hread
  rw [Delimited.number, if_pos ⟨hsome, hdigits⟩, hvalue]

lemma not_mem_decimal {byte : UInt8} (hbyte : byte < 48 ∨ 57 < byte) (n : Nat) : byte ∉ decimal n := by
  intro hmem
  have hall := all_isDigit_decimal n
  rw [codes, List.all_map, List.all_eq_true] at hall
  have hdigit := hall byte hmem
  simp only [Function.comp, Json.isDigit, Bool.and_eq_true, decide_eq_true_eq] at hdigit
  simp only [UInt8.lt_iff_toNat_lt, UInt8.reduceToNat] at hbyte
  omega

def contentLength : Text := ascii "Content-Length"

/-- The parts of a response. -/
def httpResponse (statusCode : Nat) (contentType body : Text) : Http.Response where
  code := decimal statusCode
  reason := HttpServer.reasonPhrase statusCode
  fields :=
    [(ascii "Content-Type", contentType), (contentLength, decimal body.length),
      (ascii "Connection", ascii "close"), (ascii "Cache-Control", ascii "no-store")]
  body := body

lemma buildResponse_eq_render (statusCode : Nat) (contentType body : Text) :
    HttpServer.buildResponse statusCode contentType body = (httpResponse statusCode contentType body).render := by
  have hversion : ascii "HTTP/1.1 " = Http.version := rfl
  have hcrlf : ascii "\r\n" = Http.crlf := rfl
  have htype : ascii "Content-Type: " = ascii "Content-Type" ++ [58, 32] := rfl
  have hlength : ascii "Content-Length: " = contentLength ++ [58, 32] := rfl
  have hconnection : ascii "Connection: close\r\n" = ascii "Connection" ++ [58, 32] ++ ascii "close" ++ Http.crlf := rfl
  have hcache : ascii "Cache-Control: no-store\r\n\r\n" =
      ascii "Cache-Control" ++ [58, 32] ++ ascii "no-store" ++ Http.crlf ++ Http.crlf := rfl
  have hspace : ascii " " = [32] := rfl
  simp only [HttpServer.buildResponse, Http.Response.render, httpResponse, Http.renderField, List.flatMap_cons,
    List.flatMap_nil, List.append_nil, hversion, hcrlf, htype, hlength, hconnection, hcache, hspace, List.append_assoc]

lemma not_mem_reasonPhrase (statusCode : Nat) : 13 ∉ HttpServer.reasonPhrase statusCode := by
  unfold HttpServer.reasonPhrase
  split_ifs <;> decide

/-- A response is read back with its status and its body, whatever the body is and whatever follows. -/
lemma parse_buildResponse (statusCode : Nat) {contentType : Text} (htype : 13 ∉ contentType) (body rest : Text) :
    Http.parse contentLength (HttpServer.buildResponse statusCode contentType body ++ rest) =
      some (httpResponse statusCode contentType body, rest) := by
  have hnames : ∀ name ∈ [ascii "Content-Type", contentLength, ascii "Connection", ascii "Cache-Control"],
      13 ∉ name ∧ 58 ∉ name := by decide
  have hcode : ∀ n, 13 ∉ decimal n := not_mem_decimal (.inl (by decide))
  rw [buildResponse_eq_render]
  apply Http.parse_render _ rfl (number_decimal body.length)
  refine ⟨⟨hcode _, not_mem_decimal (.inl (by decide)) _⟩, not_mem_reasonPhrase statusCode, ?_⟩
  intro field hfield
  simp only [httpResponse, List.mem_cons, List.not_mem_nil, or_false] at hfield
  rcases hfield with rfl | rfl | rfl | rfl
  · exact ⟨(hnames _ (by simp)).1, (hnames _ (by simp)).2, htype⟩
  · exact ⟨(hnames _ (by simp)).1, (hnames _ (by simp)).2, hcode _⟩
  · decide
  · decide

/-! ### Requests -/

namespace HttpServer
open Delimited

lemma before_eq_cut {first : UInt8} {sep : Text} (s : Text) :
    before (first :: sep) s = (cut (first :: sep) s).map Prod.fst := by
  induction s with
  | nil => rfl
  | cons byte s ih =>
    rw [before, cut]
    split
    · rfl
    · rw [ih, Option.map_map, Option.map_map]
      rfl

lemma before_isPrefix {first : UInt8} {sep s l : Text} (h : before (first :: sep) s = some l) :
    l ++ (first :: sep) <+: s := by
  rw [before_eq_cut, Option.map_eq_some_iff] at h
  obtain ⟨parts, hcut, rfl⟩ := h
  rw [eq_append_of_cut hcut, ← List.append_assoc]
  exact List.prefix_append _ _

lemma before_append {first : UInt8} {sep l : Text} (hl : first ∉ l) (rest : Text) :
    before (first :: sep) (l ++ (first :: sep ++ rest)) = some l := by
  rw [before_eq_cut, cut_append hl]
  rfl

lemma requestLine_isPrefix (request : List UInt8) : requestLine request <+: request := by
  unfold requestLine
  cases hline : before (ascii "\r\n") request with
  | none => exact List.prefix_rfl
  | some line => exact (List.prefix_append _ _).trans (before_isPrefix hline)

/-- What stands at the beginning of a request and has no line end is on its first line. -/
lemma prefix_requestLine {l request : List UInt8} (hl : 13 ∉ l) (hrequest : l <+: request) :
    l <+: requestLine request := by
  unfold requestLine
  cases hline : before (ascii "\r\n") request with
  | none => exact hrequest
  | some line =>
    have hbefore : line ++ [13, 10] <+: request := before_isPrefix hline
    have hshort : l.length ≤ line.length := by
      by_contra hlong
      have hreturn : line ++ [13] <+: request := by
        apply List.IsPrefix.trans _ hbefore
        exact List.prefix_append_right_inj line |>.mpr (List.prefix_append [13] [10])
      have hinside : line ++ [13] <+: l := by
        apply List.prefix_of_prefix_length_le hreturn hrequest
        rw [List.length_append, List.length_singleton]
        omega
      exact hl (hinside.subset (by simp))
    exact List.prefix_of_prefix_length_le hrequest ((List.prefix_append _ _).trans hbefore) hshort

/-- The path is read from the beginning of the bytes received. -/
lemma requestPath_eq_iff {path : Text} (hsome : path ≠ []) (hspace : 32 ∉ path) (hreturn : 13 ∉ path)
    (request : List UInt8) : requestPath request = path ↔ ascii "GET " ++ path ++ ascii " " <+: request := by
  have hget : (ascii "GET ").length = 4 := rfl
  unfold requestPath
  dsimp only
  constructor
  · intro hpath
    split at hpath
    · rename_i hstarts
      obtain ⟨rest, hline⟩ := List.isPrefixOf_iff_prefix.mp hstarts
      rw [← hline, ← hget, List.drop_left] at hpath
      cases hcut : before (ascii " ") rest with
      | none =>
        rw [hcut] at hpath
        exact absurd hpath.symm hsome
      | some found =>
        rw [hcut] at hpath
        have hfound : found = path := hpath
        have hbefore : path ++ ascii " " <+: rest := hfound ▸ before_isPrefix hcut
        have hwhole : ascii "GET " ++ path ++ ascii " " <+: requestLine request := by
          rw [← hline, List.append_assoc]
          exact (List.prefix_append_right_inj _).mpr hbefore
        exact hwhole.trans (requestLine_isPrefix request)
    · exact absurd hpath.symm hsome
  · intro hrequest
    have hfree : 13 ∉ ascii "GET " ++ path ++ ascii " " := by
      simp [hreturn, ascii]
    obtain ⟨rest, hline⟩ := prefix_requestLine hfree hrequest
    have hstarts : (ascii "GET ").isPrefixOf (requestLine request) = true := by
      rw [← hline, List.append_assoc, List.append_assoc]
      exact List.isPrefixOf_iff_prefix.mpr (List.prefix_append _ _)
    have hrest : (requestLine request).drop 4 = path ++ (ascii " " ++ rest) := by
      rw [← hline, ← hget, List.append_assoc, List.append_assoc, List.drop_left]
    have hfound : before (ascii " ") (path ++ (ascii " " ++ rest)) = some path := before_append hspace rest
    rw [if_pos hstarts, hrest, hfound]
    rfl

end HttpServer

end EdgeGateway
