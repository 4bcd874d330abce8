import Mathlib.Data.Nat.Digits.Defs
import Mathlib.Tactic

/-!
# Strings and numbers of the source

A `std::string` is a list of bytes. The readings that the source keeps as `double` are whole numbers
of tenths divided by `10.0`: they are modelled by the number of tenths.
-/

namespace EdgeGateway

abbrev Text := List UInt8

/-- A string literal of the source. -/
def ascii (s : String) : Text :=
  s.toList.map (fun c => UInt8.ofNat c.toNat)

/-- A `std::string` built from a `const char*`: the bytes before the first NUL. -/
def cString (s : Text) : Text :=
  s.takeWhile (fun byte => byte ≠ 0)

/-- A number as `std::to_string` and the stream operators print it. -/
def decimal (n : Nat) : Text :=
  if n = 0 then [48] else ((Nat.digits 10 n).map (fun d => UInt8.ofNat (48 + d))).reverse

/-- A `double` obtained by dividing an integer by `10.0`. -/
structure Tenths where
  tenths : Int
deriving DecidableEq, Repr

namespace Tenths

/-- A literal such as `85.0`. -/
def whole (n : Int) : Tenths :=
  ⟨10 * n⟩

instance : LT Tenths :=
  ⟨fun a b => a.tenths < b.tenths⟩

instance (a b : Tenths) : Decidable (a < b) :=
  inferInstanceAs (Decidable (a.tenths < b.tenths))

lemma lt_def (a b : Tenths) : a < b ↔ a.tenths < b.tenths := Iff.rfl

/-- The value as `std::fixed << std::setprecision(1)` prints it. -/
def print (a : Tenths) : Text :=
  (if a.tenths < 0 then ascii "-" else []) ++ decimal (a.tenths.natAbs / 10) ++ ascii "." ++
    decimal (a.tenths.natAbs % 10)

end Tenths

/-- The `read_u16_be` of the decoders. Its callers read inside the input. -/
def readU16Be (data : List UInt8) (offset : Nat) (h : offset + 1 < data.length) : UInt16 :=
  data[offset].toUInt16 <<< 8 ||| data[offset + 1].toUInt16

/-- `append_u16_be`, the bytes of a word in network order. -/
def u16Be (value : UInt16) : List UInt8 :=
  [(value >>> 8).toUInt8, value.toUInt8]

end EdgeGateway
