import EdgeGateway.Lib.Json
import EdgeGateway.Proofs.Readings
import Mathlib.Data.Nat.Digits.Lemmas

/-!
# The JSON text of a reading

What `sensor_data_to_json` prints is a JSON object on one line, from which the reading can be recovered.
-/

namespace EdgeGateway

/-- The readings that the decoders deliver, valid or not. -/
inductive Produced : SensorData → Prop where
  | uart (frame : Frame) : Produced (parseSensorData frame).2
  | modbus {response : Modbus.ReadResponse} {slaveId : UInt8} {data : DeviceData} :
      Modbus.registersToDeviceData response slaveId = .ok data → Produced (toSensorData data)
  | can {frame : Canbus.CanFrame} {data : DeviceData} :
      Canbus.parseSensorFrame frame = .ok data → Produced (toSensorData data)

/-- The code points of an ASCII text. -/
def codes (text : Text) : Json.Str :=
  text.map UInt8.toNat

@[simp] lemma codes_append (s t : Text) : codes (s ++ t) = codes s ++ codes t := List.map_append

/-! ### Warnings -/

/-- Bytes that stand for themselves in a JSON string. -/
abbrev Quotable (text : Text) : Prop :=
  (codes text).all Json.isPlain = true

lemma quotable_warnIf {condition : SensorData → Bool} {warning : String} (hwarning : Quotable (ascii warning))
    {data : SensorData} (h : ∀ w ∈ data.warnings, Quotable w) :
    ∀ w ∈ (warnIf condition warning data).warnings, Quotable w := by
  unfold warnIf
  split
  · intro w hw
    rcases List.mem_append.mp hw with hw | hw
    · exact h w hw
    · rw [List.mem_singleton.mp hw]
      exact hwarning
  · exact h

lemma quotable_runChecks {checks : List ((SensorData → Bool) × String)}
    (hchecks : ∀ check ∈ checks, Quotable (ascii check.2)) {data : SensorData}
    (h : ∀ w ∈ data.warnings, Quotable w) : ∀ w ∈ (runChecks checks data).warnings, Quotable w := by
  induction checks generalizing data with
  | nil => exact h
  | cons check checks ih =>
    rw [List.forall_mem_cons] at hchecks
    exact ih hchecks.2 (quotable_warnIf hchecks.1 h)

lemma quotable_rangeChecks : ∀ check ∈ rangeChecks, Quotable (ascii check.2) := by
  intro check hcheck
  simp only [rangeChecks, List.mem_cons, List.not_mem_nil, or_false] at hcheck
  rcases hcheck with rfl | rfl | rfl | rfl | rfl | rfl | rfl <;> rfl

lemma quotable_validate {data : SensorData} (h : ∀ w ∈ data.warnings, Quotable w) :
    ∀ w ∈ (validateSensorDataImpl data).warnings, Quotable w := by
  rw [validateSensorDataImpl_eq]
  exact quotable_runChecks quotable_rangeChecks h

lemma quotable_toSensorData (data : DeviceData) : ∀ w ∈ (toSensorData data).warnings, Quotable w :=
  quotable_validate (fun _ hw => absurd hw List.not_mem_nil)

lemma Produced.quotable {data : SensorData} (h : Produced data) : ∀ w ∈ data.warnings, Quotable w := by
  cases h with
  | uart frame =>
    unfold parseSensorData
    dsimp only
    split
    · intro w hw
      rw [List.mem_singleton.mp hw]
      rfl
    · exact quotable_validate (fun _ hw => absurd hw List.not_mem_nil)
  | modbus _ => exact quotable_toSensorData _
  | can _ => exact quotable_toSensorData _

/-! ### Numbers -/

/-- The number with these digits. -/
def readNat (s : Json.Str) : Nat :=
  s.foldl (fun n c => n * 10 + (c - 48)) 0

/-- The tenths in a number with one digit after the point. -/
def readTenths : Json.Str → Int
  | 45 :: rest => -readNat (rest.filter Json.isDigit)
  | s => readNat (s.filter Json.isDigit)

lemma codes_decimal {n : Nat} (hn : n ≠ 0) : codes (decimal n) = ((Nat.digits 10 n).map (48 + ·)).reverse := by
  rw [decimal, if_neg hn, codes, List.map_reverse, List.map_map]
  congr 1
  apply List.map_congr_left
  intro d hd
  have hlt := Nat.digits_lt_base (by decide) hd
  change (UInt8.ofNat (48 + d)).toNat = 48 + d
  rw [UInt8.toNat_ofNat']
  omega

lemma all_isDigit_decimal (n : Nat) : (codes (decimal n)).all Json.isDigit = true := by
  by_cases hn : n = 0
  · subst hn
    rfl
  · rw [codes_decimal hn, List.all_reverse, List.all_map, List.all_eq_true]
    intro d hd
    have hlt := Nat.digits_lt_base (by decide) hd
    simp only [Function.comp, Json.isDigit, Bool.and_eq_true, decide_eq_true_eq]
    omega

lemma isWhole_decimal (n : Nat) : Json.isWhole (codes (decimal n)) = true := by
  by_cases hn : n = 0
  · subst hn
    rfl
  · have hnil : Nat.digits 10 n ≠ [] := Nat.digits_ne_nil_iff_ne_zero.mpr hn
    have hlast : (codes (decimal n)).head? = some (48 + (Nat.digits 10 n).getLast hnil) := by
      rw [codes_decimal hn, List.head?_reverse, List.getLast?_map, List.getLast?_eq_some_getLast hnil]
      rfl
    have hzero := Nat.getLast_digit_ne_zero 10 hn
    have hempty : (codes (decimal n)).isEmpty = false := by
      cases hcodes : codes (decimal n) with
      | nil => simp [hcodes] at hlast
      | cons c rest => rfl
    rw [Json.isWhole, Json.isDigits, hempty, all_isDigit_decimal, hlast]
    simp
    omega

lemma readNat_decimal (n : Nat) : readNat (codes (decimal n)) = n := by
  by_cases hn : n = 0
  · subst hn
    rfl
  · rw [codes_decimal hn, readNat, List.foldl_reverse, List.foldr_map]
    calc List.foldr (fun d n => n * 10 + (48 + d - 48)) 0 (Nat.digits 10 n)
        = List.foldr (fun d n => d + 10 * n) 0 (Nat.digits 10 n) := by
          congr 1
          funext d n
          omega
      _ = Nat.ofDigits 10 (Nat.digits 10 n) := (Nat.ofDigits_eq_foldr 10 _).symm
      _ = n := Nat.ofDigits_digits 10 n

lemma isNumber_decimal (n : Nat) : Json.isNumber (codes (decimal n)) = true :=
  Json.isNumber_of_isUnsigned (Json.isUnsigned_whole (isWhole_decimal n))

/-- The text of a number of tenths, without its sign. -/
lemma codes_print (a : Tenths) : codes a.print = (if a.tenths < 0 then [45] else []) ++
    (codes (decimal (a.tenths.natAbs / 10)) ++ 46 :: codes (decimal (a.tenths.natAbs % 10))) := by
  rw [Tenths.print, codes_append, codes_append, codes_append, List.append_assoc, List.append_assoc]
  split
  · rfl
  · rfl

lemma isNumber_print (a : Tenths) : Json.isNumber (codes a.print) = true := by
  have hunsigned := Json.isUnsigned_decimals (isWhole_decimal (a.tenths.natAbs / 10))
    (Bool.and_eq_true_iff.mp (isWhole_decimal (a.tenths.natAbs % 10))).1
  rw [codes_print]
  split
  · exact hunsigned
  · exact Json.isNumber_of_isUnsigned hunsigned

lemma codes_digit {d : Nat} (hd : d < 10) : codes (decimal d) = [48 + d] := by
  interval_cases d <;> rfl

lemma readNat_filter (n : Nat) :
    readNat ((codes (decimal (n / 10)) ++ 46 :: codes (decimal (n % 10))).filter Json.isDigit) = n := by
  have hdigits : ∀ m, (codes (decimal m)).filter Json.isDigit = codes (decimal m) := by
    intro m
    exact List.filter_eq_self.mpr (List.all_eq_true.mp (all_isDigit_decimal m))
  rw [List.filter_append, List.filter_cons_of_neg (by decide), hdigits, hdigits,
    codes_digit (Nat.mod_lt n (by decide)), readNat, List.foldl_append]
  change readNat (codes (decimal (n / 10))) * 10 + (48 + n % 10 - 48) = n
  rw [readNat_decimal]
  omega

lemma exists_digit_decimal (n : Nat) : ∃ c rest, codes (decimal n) = c :: rest ∧ Json.isDigit c = true := by
  have hwhole := isWhole_decimal n
  have hall := all_isDigit_decimal n
  cases hcodes : codes (decimal n) with
  | nil =>
    rw [hcodes] at hwhole
    cases hwhole
  | cons c rest =>
    rw [hcodes, List.all_cons, Bool.and_eq_true_iff] at hall
    exact ⟨c, rest, rfl, hall.1⟩

lemma readTenths_print (a : Tenths) : readTenths (codes a.print) = a.tenths := by
  have hread := readNat_filter a.tenths.natAbs
  rw [codes_print]
  by_cases hneg : a.tenths < 0
  · rw [if_pos hneg, List.singleton_append, readTenths, hread]
    omega
  · obtain ⟨c, rest, hcodes, hc⟩ := exists_digit_decimal (a.tenths.natAbs / 10)
    rw [hcodes, List.cons_append] at hread
    rw [if_neg hneg, List.nil_append, hcodes, List.cons_append, readTenths, hread]
    · omega
    · intro _ heq
      rw [(List.cons.inj heq).1] at hc
      cases hc

/-! ### The document of a reading -/

def plainKey (name : String) (h : (Json.str name).all Json.isPlain = true := by decide) : Json.Key where
  before := Json.noSpace
  name := Json.plainPieces (Json.str name) h
  beforeColon := Json.noSpace
  afterColon := Json.noSpace

def decimalDoc (n : Nat) : Json.Doc :=
  .number ⟨codes (decimal n), isNumber_decimal n⟩

def tenthsDoc (a : Tenths) : Json.Doc :=
  .number ⟨codes a.print, isNumber_print a⟩

/-- A string without escapes. -/
def textDoc (text : Text) : Json.Doc :=
  if h : Quotable text then .string (Json.plainPieces (codes text) h) else .null

def textItems : Text → List Text → Json.Items
  | w, [] => .last Json.noSpace (textDoc w) Json.noSpace
  | w, w' :: rest => .cons Json.noSpace (textDoc w) Json.noSpace (textItems w' rest)

/-- The members from `valid` on. -/
def closingMembers (data : SensorData) : Json.Members :=
  match data.warnings with
  | [] => .last (plainKey "valid") (.bool data.valid) Json.noSpace
  | w :: rest =>
    .cons (plainKey "valid") (.bool data.valid) Json.noSpace
      (.last (plainKey "warnings") (.array (textItems w rest)) Json.noSpace)

def sensorMembers (data : SensorData) : Json.Members :=
  .cons (plainKey "device_id") (decimalDoc data.deviceId.toNat) Json.noSpace <|
  .cons (plainKey "cmd") (decimalDoc data.cmd.toNat) Json.noSpace <|
  .cons (plainKey "temperature_c") (tenthsDoc data.temperatureC) Json.noSpace <|
  .cons (plainKey "humidity_percent") (tenthsDoc data.humidityPercent) Json.noSpace <|
  .cons (plainKey "gas_ppm") (decimalDoc data.gasPpm.toNat) Json.noSpace <|
  .cons (plainKey "battery_mv") (decimalDoc data.batteryMv.toNat) Json.noSpace <|
  .cons (plainKey "status") (decimalDoc data.status.toNat) Json.noSpace <|
  .cons (plainKey "sequence") (decimalDoc data.sequence.toNat) Json.noSpace (closingMembers data)

lemma render_plainKey (name : String) (h : (Json.str name).all Json.isPlain = true) :
    (plainKey name h).render = 34 :: (Json.str name ++ [34, 58]) := by
  simp [plainKey, Json.Key.render, Json.renderString, Json.render_plainPieces, Json.noSpace]

lemma render_textDoc {text : Text} (h : Quotable text) : (textDoc text).render = 34 :: (codes text ++ [34]) := by
  rw [textDoc, dif_pos h, Json.Doc.render, Json.renderString, Json.render_plainPieces]

lemma codes_quoted (w : Text) : codes (ascii "\"" ++ w ++ ascii "\"") = 34 :: (codes w ++ [34]) := by
  rw [codes_append, codes_append]
  rfl

lemma render_textItems (w : Text) (rest : List Text) (h : ∀ w' ∈ w :: rest, Quotable w') :
    (textItems w rest).render =
      codes ((ascii ",").intercalate ((w :: rest).map (fun w => ascii "\"" ++ w ++ ascii "\""))) := by
  induction rest generalizing w with
  | nil =>
    rw [textItems, Json.Items.render, render_textDoc (h w List.mem_cons_self), List.map_singleton,
      List.intercalate_singleton, codes_quoted]
    simp [Json.noSpace]
  | cons w' rest ih =>
    rw [List.forall_mem_cons] at h
    rw [textItems, Json.Items.render, render_textDoc h.1, ih w' h.2]
    simp only [List.map_cons, List.intercalate_cons_cons, codes_append, Json.noSpace, List.append_nil, List.nil_append,
      List.append_assoc, List.cons_append]
    rfl

lemma render_closingMembers {data : SensorData} (h : ∀ w ∈ data.warnings, Quotable w) : (closingMembers data).render =
    codes (ascii "\"valid\":" ++ ascii (if data.valid then "true" else "false") ++
      (if data.warnings.isEmpty then []
        else ascii ",\"warnings\":[" ++
          (ascii ",").intercalate (data.warnings.map (fun w => ascii "\"" ++ w ++ ascii "\"")) ++
          ascii "]")) := by
  have hbool : codes (ascii (if data.valid then "true" else "false")) = (Json.Doc.bool data.valid).render := by
    cases data.valid with
    | true => rfl
    | false => rfl
  unfold closingMembers
  split
  · rename_i hempty
    rw [hempty, List.isEmpty_nil, if_pos rfl, List.append_nil, codes_append, hbool, Json.Members.render,
      render_plainKey]
    exact List.append_nil _
  · rename_i w rest hwarnings
    rw [hwarnings] at h ⊢
    rw [List.isEmpty_cons, if_neg Bool.false_ne_true, codes_append, codes_append, codes_append, codes_append,
      ← render_textItems w rest h, hbool]
    simp only [Json.Members.render, render_plainKey, Json.Doc.render, Json.noSpace, List.append_nil, List.append_assoc]
    rfl

/-- The names of the members before `valid`, as the source writes them. -/
lemma codes_keys :
    codes (ascii "\"device_id\":") = (plainKey "device_id").render ∧
    codes (ascii "\"cmd\":") = (plainKey "cmd").render ∧
    codes (ascii "\"temperature_c\":") = (plainKey "temperature_c").render ∧
    codes (ascii "\"humidity_percent\":") = (plainKey "humidity_percent").render ∧
    codes (ascii "\"gas_ppm\":") = (plainKey "gas_ppm").render ∧
    codes (ascii "\"battery_mv\":") = (plainKey "battery_mv").render ∧
    codes (ascii "\"status\":") = (plainKey "status").render ∧
    codes (ascii "\"sequence\":") = (plainKey "sequence").render := by
  simp only [render_plainKey]
  exact ⟨rfl, rfl, rfl, rfl, rfl, rfl, rfl, rfl⟩

/-- The text of a reading is the text of its document. -/
lemma render_sensorMembers {data : SensorData} (h : ∀ w ∈ data.warnings, Quotable w) :
    (Json.Doc.object (sensorMembers data)).render = codes (sensorDataToJson data) := by
  have hcomma : codes (ascii ",") = [44] := rfl
  have hopen : codes (ascii "\x7b") = [123] := rfl
  have hclose : codes (ascii "\x7d") = [125] := rfl
  unfold sensorMembers sensorDataToJson
  simp only [codes_append, codes_keys, hcomma, hopen, hclose]
  simp only [Json.Doc.render, Json.Members.render, decimalDoc, tenthsDoc, Json.noSpace, List.append_nil]
  rw [render_closingMembers h]
  simp only [codes_append, List.append_assoc]
  exact List.singleton_append.symm

/-! ### Reading it back -/

def natField (members : List (Json.Str × Json.Value)) (name : String) : Option Nat :=
  match members.lookup (Json.str name) with
  | some (.number s) => some (readNat s)
  | _ => none

def tenthsField (members : List (Json.Str × Json.Value)) (name : String) : Option Tenths :=
  match members.lookup (Json.str name) with
  | some (.number s) => some ⟨readTenths s⟩
  | _ => none

def boolField (members : List (Json.Str × Json.Value)) (name : String) : Option Bool :=
  match members.lookup (Json.str name) with
  | some (.bool b) => some b
  | _ => none

def textOf : Json.Value → Option Text
  | .string s => some (s.map UInt8.ofNat)
  | _ => none

/-- A list that is not there is empty. -/
def textsField (members : List (Json.Str × Json.Value)) (name : String) : Option (List Text) :=
  match members.lookup (Json.str name) with
  | some (.array items) => items.mapM textOf
  | some _ => none
  | none => some []

/-- The reading that an object describes. -/
def sensorOfJson : Json.Value → Option SensorData
  | .object members => do
    return {
      deviceId := .ofNat (← natField members "device_id")
      cmd := .ofNat (← natField members "cmd")
      temperatureC := ← tenthsField members "temperature_c"
      humidityPercent := ← tenthsField members "humidity_percent"
      gasPpm := .ofNat (← natField members "gas_ppm")
      batteryMv := .ofNat (← natField members "battery_mv")
      status := .ofNat (← natField members "status")
      sequence := .ofNat (← natField members "sequence")
      valid := ← boolField members "valid"
      warnings := ← textsField members "warnings" }
  | _ => none

lemma decode_plainKey (name : String) (h : (Json.str name).all Json.isPlain = true) :
    Json.decode (plainKey name h).name = Json.str name :=
  Json.decode_plainPieces _ h

lemma textOf_textDoc {text : Text} (h : Quotable text) : textOf (textDoc text).value = some text := by
  rw [textDoc, dif_pos h, Json.Doc.value, Json.decode_plainPieces, textOf, codes, List.map_map]
  congr 1
  calc text.map (UInt8.ofNat ∘ UInt8.toNat) = text.map id := by
        apply List.map_congr_left
        intro byte _
        exact UInt8.ofNat_toNat
    _ = text := List.map_id text

/-- The members of the object, as the parser reads them. -/
lemma pairs_sensorMembers (data : SensorData) : (sensorMembers data).pairs =
    [(Json.str "device_id", .number (codes (decimal data.deviceId.toNat))),
      (Json.str "cmd", .number (codes (decimal data.cmd.toNat))),
      (Json.str "temperature_c", .number (codes data.temperatureC.print)),
      (Json.str "humidity_percent", .number (codes data.humidityPercent.print)),
      (Json.str "gas_ppm", .number (codes (decimal data.gasPpm.toNat))),
      (Json.str "battery_mv", .number (codes (decimal data.batteryMv.toNat))),
      (Json.str "status", .number (codes (decimal data.status.toNat))),
      (Json.str "sequence", .number (codes (decimal data.sequence.toNat))),
      (Json.str "valid", .bool data.valid)] ++
      (if data.warnings.isEmpty then []
        else [(Json.str "warnings", .array (data.warnings.map (fun w => (textDoc w).value)))]) := by
  have hitems : ∀ w rest, (textItems w rest).values = (w :: rest).map (fun w => (textDoc w).value) := by
    intro w rest
    induction rest generalizing w with
    | nil => rfl
    | cons w' rest ih =>
      rw [textItems, Json.Items.values, ih]
      rfl
  unfold sensorMembers closingMembers
  simp only [Json.Members.pairs, decode_plainKey, decimalDoc, tenthsDoc, Json.Doc.value]
  split
  · rename_i hempty
    rw [hempty]
    simp only [Json.Members.pairs, decode_plainKey, Json.Doc.value]
    rfl
  · rename_i w rest hwarnings
    rw [hwarnings]
    simp only [Json.Members.pairs, decode_plainKey, Json.Doc.value, hitems]
    rfl

lemma mapM_textDoc {texts : List Text} (h : ∀ w ∈ texts, Quotable w) :
    (texts.map (fun w => (textDoc w).value)).mapM textOf = some texts := by
  induction texts with
  | nil => rfl
  | cons w texts ih =>
    rw [List.forall_mem_cons] at h
    rw [List.map_cons, List.mapM_cons, textOf_textDoc h.1, ih h.2]
    rfl

lemma sensorOfJson_sensorMembers {data : SensorData} (h : ∀ w ∈ data.warnings, Quotable w) :
    sensorOfJson (Json.Doc.object (sensorMembers data)).value = some data := by
  have hwarnings : textsField (sensorMembers data).pairs "warnings" = some data.warnings := by
    rw [pairs_sensorMembers]
    split
    · rename_i hempty
      rw [List.isEmpty_iff.mp hempty]
      rfl
    · rw [← mapM_textDoc h]
      rfl
  rw [Json.Doc.value, sensorOfJson, hwarnings, pairs_sensorMembers]
  change some _ = _
  simp only [readNat_decimal, readTenths_print, UInt8.ofNat_toNat, UInt16.ofNat_toNat]

/-! ### One line -/

/-- No control character. -/
def printable (text : Text) : Bool :=
  text.all (fun byte => decide (32 ≤ byte.toNat))

lemma printable_append (s t : Text) : printable (s ++ t) = (printable s && printable t) := List.all_append

lemma printable_of_codes {p : Nat → Bool} {text : Text} (hp : ∀ c, p c = true → 32 ≤ c)
    (h : (codes text).all p = true) : printable text = true := by
  rw [codes, List.all_map, List.all_eq_true] at h
  rw [printable, List.all_eq_true]
  intro byte hbyte
  exact decide_eq_true (hp _ (h byte hbyte))

lemma printable_decimal (n : Nat) : printable (decimal n) = true := by
  apply printable_of_codes (p := Json.isDigit) _ (all_isDigit_decimal n)
  intro c hc
  simp only [Json.isDigit, Bool.and_eq_true, decide_eq_true_eq] at hc
  omega

lemma printable_print (a : Tenths) : printable a.print = true := by
  have hsign : printable (if a.tenths < 0 then ascii "-" else []) = true := by
    split
    · rfl
    · rfl
  simp only [Tenths.print, printable_append, hsign, printable_decimal]
  rfl

lemma printable_of_quotable {text : Text} (h : Quotable text) : printable text = true := by
  apply printable_of_codes _ h
  intro c hc
  exact (of_decide_eq_true hc).1

lemma printable_intercalate {texts : List Text} (h : ∀ text ∈ texts, printable text = true) :
    printable ((ascii ",").intercalate texts) = true := by
  induction texts with
  | nil => rfl
  | cons text texts ih =>
    rw [List.forall_mem_cons] at h
    cases texts with
    | nil =>
      rw [List.intercalate_singleton]
      exact h.1
    | cons text' texts =>
      rw [List.intercalate_cons_cons, printable_append, printable_append, h.1, ih h.2]
      rfl

lemma printable_sensorDataToJson {data : SensorData} (h : ∀ w ∈ data.warnings, Quotable w) :
    printable (sensorDataToJson data) = true := by
  have hbool : printable (ascii (if data.valid then "true" else "false")) = true := by
    split
    · rfl
    · rfl
  have hquoted : ∀ text ∈ data.warnings.map (fun w => ascii "\"" ++ w ++ ascii "\""), printable text = true := by
    rw [List.forall_mem_map]
    intro w hw
    rw [printable_append, printable_append, printable_of_quotable (h w hw)]
    rfl
  have hwarnings : printable (if data.warnings.isEmpty then [] else ascii ",\"warnings\":[" ++
      (ascii ",").intercalate (data.warnings.map (fun w => ascii "\"" ++ w ++ ascii "\"")) ++ ascii "]") = true := by
    split
    · rfl
    · rw [printable_append, printable_append, printable_intercalate hquoted]
      rfl
  unfold sensorDataToJson
  simp only [printable_append, printable_decimal, printable_print, hbool, hwarnings, Bool.and_true]
  rfl

lemma parse_sensorDataToJson {data : SensorData} (h : ∀ w ∈ data.warnings, Quotable w) :
    (Json.parse [] (codes (sensorDataToJson data))).bind sensorOfJson = some data := by
  have hparse := Json.parse_render [] Json.noSpace Json.noSpace (.object (sensorMembers data))
  simp only [Json.noSpace, List.nil_append, List.append_nil] at hparse
  rw [render_sensorMembers h] at hparse
  rw [hparse, Option.bind_some, sensorOfJson_sensorMembers h]

/-- The text of a reading is one JSON object on one line, from which the reading can be recovered. -/
theorem sensorDataToJson_round_trips {data : SensorData} (h : Produced data) :
    (∃ members, codes (sensorDataToJson data) = (Json.Doc.object members).render) ∧
    (∀ byte ∈ sensorDataToJson data, byte ≠ 9 ∧ byte ≠ 10 ∧ byte ≠ 13) ∧
    (Json.parse [] (codes (sensorDataToJson data))).bind sensorOfJson = some data ∧
    ∀ data', Produced data' → data' ≠ data → sensorDataToJson data' ≠ sensorDataToJson data := by
  have hquotable := h.quotable
  refine ⟨⟨_, (render_sensorMembers hquotable).symm⟩, ?_, parse_sensorDataToJson hquotable, ?_⟩
  · intro byte hbyte
    have hprintable := List.all_eq_true.mp (printable_sensorDataToJson hquotable) byte hbyte
    rw [decide_eq_true_eq] at hprintable
    refine ⟨?_, ?_, ?_⟩ <;>
      · rintro rfl
        exact absurd hprintable (by decide)
  · intro data' h' hne htext
    have hread := parse_sensorDataToJson h'.quotable
    rw [htext, parse_sensorDataToJson hquotable] at hread
    exact hne (Option.some.inj hread).symm

/-- A frame with a reading of -0.5 degrees from a device that reports a fault and a low battery. -/
def coldFrame : Frame where
  cmd := 1
  deviceId := 16
  payload := [0xFF, 0xFB, 0x02, 0x60, 0x01, 0x2C, 0x0B, 0x54, 0x03, 0x00, 0x02]
  crc := 0

theorem sensorDataToJson_round_trips_cold :
    (parseSensorData coldFrame).2.temperatureC = ⟨-5⟩ ∧ (parseSensorData coldFrame).2.warnings.length = 3 ∧
    (Json.parse [] (codes (sensorDataToJson (parseSensorData coldFrame).2))).bind sensorOfJson =
      some (parseSensorData coldFrame).2 :=
  ⟨by decide, by decide, (sensorDataToJson_round_trips (.uart coldFrame)).2.2.1⟩

end EdgeGateway
