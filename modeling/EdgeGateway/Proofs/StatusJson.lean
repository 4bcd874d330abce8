import EdgeGateway.Model.RuntimeStatus
import EdgeGateway.Proofs.HttpRequests
import EdgeGateway.Proofs.SensorJson

/-!
# The JSON texts of the status

What `health_json` and `readiness_json` print is a JSON object, from which the values can be recovered.
-/

namespace EdgeGateway

/-! ### Objects without whitespace -/

/-- A member whose name needs no escapes. -/
structure PlainField where
  name : String
  doc : Json.Doc
  plain : (Json.str name).all Json.isPlain = true

namespace PlainField

def key (f : PlainField) : Json.Key :=
  plainKey f.name f.plain

def members : PlainField → List PlainField → Json.Members
  | f, [] => .last f.key f.doc Json.noSpace
  | f, g :: rest => .cons f.key f.doc Json.noSpace (members g rest)

lemma pairs_members (f : PlainField) (rest : List PlainField) :
    (members f rest).pairs = (f :: rest).map (fun f => (Json.str f.name, f.doc.value)) := by
  induction rest generalizing f with
  | nil => rw [members, Json.Members.pairs, key, decode_plainKey, List.map_singleton]
  | cons g rest ih =>
    rw [members, Json.Members.pairs, key, decode_plainKey, ih]
    rfl

end PlainField

/-- The items of an array that is not empty. -/
def docItems : Json.Doc → List Json.Doc → Json.Items
  | d, [] => .last Json.noSpace d Json.noSpace
  | d, d' :: rest => .cons Json.noSpace d Json.noSpace (docItems d' rest)

def arrayDoc : List Json.Doc → Json.Doc
  | [] => .emptyArray Json.noSpace
  | d :: rest => .array (docItems d rest)

lemma render_arrayDoc (docs : List Json.Doc) :
    (arrayDoc docs).render = 91 :: (([44] : Json.Str).intercalate (docs.map Json.Doc.render) ++ [93]) := by
  have hitems : ∀ d rest, (docItems d rest).render =
      ([44] : Json.Str).intercalate ((d :: rest).map Json.Doc.render) := by
    intro d rest
    induction rest generalizing d with
    | nil => simp [docItems, Json.Items.render, Json.noSpace]
    | cons d' rest ih => simp [docItems, Json.Items.render, Json.noSpace, ih]
  cases docs with
  | nil => rfl
  | cons d rest => rw [arrayDoc, Json.Doc.render, hitems]

lemma value_arrayDoc (docs : List Json.Doc) : (arrayDoc docs).value = .array (docs.map Json.Doc.value) := by
  have hitems : ∀ d rest, (docItems d rest).values = (d :: rest).map Json.Doc.value := by
    intro d rest
    induction rest generalizing d with
    | nil => rfl
    | cons d' rest ih =>
      rw [docItems, Json.Items.values, ih]
      rfl
  cases docs with
  | nil => rfl
  | cons d rest => rw [arrayDoc, Json.Doc.value, hitems]

lemma codes_boolalpha (b : Bool) : codes (boolalpha b) = (Json.Doc.bool b).render := by
  cases b with
  | true => rfl
  | false => rfl

lemma codes_intercalate (texts : List Text) :
    codes ((ascii ",").intercalate texts) = ([44] : Json.Str).intercalate (texts.map codes) := by
  induction texts with
  | nil => rfl
  | cons text texts ih =>
    cases texts with
    | nil => simp
    | cons text' texts =>
      have hcomma : codes (ascii ",") = [44] := rfl
      simp only [List.intercalate_cons_cons, codes_append, ih, List.map_cons, hcomma]

def textField (members : List (Json.Str × Json.Value)) (name : String) : Option Text :=
  (members.lookup (Json.str name)).bind textOf

/-! ### Readiness -/

open RuntimeStatus

/-- The values of `checks`. -/
def checksMembers (r : Readiness) : Json.Members :=
  PlainField.members ⟨"config_loaded", .bool r.configLoaded, Eq.refl true⟩
    [⟨"cache_ready", .bool r.cacheReady, Eq.refl true⟩,
      ⟨"serial_workers_started", .bool r.workersStarted, Eq.refl true⟩]

def readinessMembers (s : RuntimeStatus) (r : Readiness) : Json.Members :=
  PlainField.members ⟨"ready", .bool r.isReady, Eq.refl true⟩
    [⟨"checks", .object (checksMembers r), Eq.refl true⟩,
      ⟨"serial_worker_count", decimalDoc r.serialWorkers, Eq.refl true⟩,
      ⟨"input_devices_total", decimalDoc r.inputDevices, Eq.refl true⟩,
      ⟨"mqtt_enabled", .bool s.mqttEnabled, Eq.refl true⟩,
      ⟨"tcp_enabled", .bool s.tcpEnabled, Eq.refl true⟩,
      ⟨"cache_backend", textDoc s.cacheBackend, Eq.refl true⟩]

/-- The readiness that an object describes. -/
def readinessOfJson : Json.Value → Option Readiness
  | .object members =>
    match members.lookup (Json.str "checks") with
    | some (.object checks) => do
      return {
        configLoaded := ← boolField checks "config_loaded"
        cacheReady := ← boolField checks "cache_ready"
        workersStarted := ← boolField checks "serial_workers_started"
        isReady := ← boolField members "ready"
        serialWorkers := ← natField members "serial_worker_count"
        inputDevices := ← natField members "input_devices_total" }
    | _ => none
  | _ => none

lemma render_readinessMembers {s : RuntimeStatus} (hbackend : Quotable s.cacheBackend) (r : Readiness) :
    (Json.Doc.object (readinessMembers s r)).render = codes (s.printReadiness r) := by
  have hready : codes (ascii "\x7b\"ready\":") = 123 :: 34 :: (Json.str "ready" ++ [34, 58]) := rfl
  have hchecks : codes (ascii ",\"checks\":\x7b\"config_loaded\":") =
      44 :: 34 :: (Json.str "checks" ++ 34 :: 58 :: 123 :: 34 :: (Json.str "config_loaded" ++ [34, 58])) := rfl
  have hcache : codes (ascii ",\"cache_ready\":") = 44 :: 34 :: (Json.str "cache_ready" ++ [34, 58]) := rfl
  have hworkers : codes (ascii ",\"serial_workers_started\":") =
      44 :: 34 :: (Json.str "serial_workers_started" ++ [34, 58]) := rfl
  have hclose : codes (ascii "\x7d") = [125] := rfl
  have hcount : codes (ascii ",\"serial_worker_count\":") =
      44 :: 34 :: (Json.str "serial_worker_count" ++ [34, 58]) := rfl
  have htotal : codes (ascii ",\"input_devices_total\":") =
      44 :: 34 :: (Json.str "input_devices_total" ++ [34, 58]) := rfl
  have hmqtt : codes (ascii ",\"mqtt_enabled\":") = 44 :: 34 :: (Json.str "mqtt_enabled" ++ [34, 58]) := rfl
  have htcp : codes (ascii ",\"tcp_enabled\":") = 44 :: 34 :: (Json.str "tcp_enabled" ++ [34, 58]) := rfl
  have hbackendkey : codes (ascii ",\"cache_backend\":\"") =
      44 :: 34 :: (Json.str "cache_backend" ++ [34, 58, 34]) := rfl
  have hend : codes (ascii "\"\x7d") = [34, 125] := rfl
  unfold printReadiness
  simp only [codes_append, codes_boolalpha, hready, hchecks, hcache, hworkers, hclose, hcount, htotal,
    hmqtt, htcp, hbackendkey, hend]
  simp only [readinessMembers, checksMembers, PlainField.members, PlainField.key, Json.Doc.render, Json.Members.render,
    decimalDoc, render_plainKey, render_textDoc hbackend, Json.noSpace, List.append_nil, List.append_assoc,
    List.cons_append, List.nil_append]

lemma parse_object {members : Json.Members} {text : Text} (hrender : (Json.Doc.object members).render = codes text) :
    Json.parse [] (codes text) = some (.object members.pairs) := by
  have hparse := Json.parse_render [] Json.noSpace Json.noSpace (.object members)
  simp only [Json.noSpace, List.nil_append, List.append_nil, hrender] at hparse
  rw [hparse, Json.Doc.value]

/-- The text of a readiness is one JSON object, from which it can be recovered. -/
lemma parse_printReadiness {s : RuntimeStatus} (hbackend : Quotable s.cacheBackend) (r : Readiness) :
    (Json.parse [] (codes (s.printReadiness r))).bind readinessOfJson = some r := by
  rw [parse_object (render_readinessMembers hbackend r), Option.bind_some, readinessMembers, PlainField.pairs_members]
  have hchecks : (checksMembers r).pairs =
      [(Json.str "config_loaded", .bool r.configLoaded), (Json.str "cache_ready", .bool r.cacheReady),
        (Json.str "serial_workers_started", .bool r.workersStarted)] := PlainField.pairs_members _ _
  simp only [List.map_cons, List.map_nil, Json.Doc.value, decimalDoc, hchecks]
  change some _ = _
  simp only [readNat_decimal]

/-! ### Health -/

def deviceMembers (device : DeviceHealthStatus) : Json.Members :=
  PlainField.members ⟨"device_id", decimalDoc device.deviceId.toNat, Eq.refl true⟩
    [⟨"protocol", textDoc device.protocol, Eq.refl true⟩,
      ⟨"online", .bool device.online, Eq.refl true⟩,
      ⟨"last_update", decimalDoc device.lastUpdateUnixSeconds, Eq.refl true⟩,
      ⟨"error_count", decimalDoc device.errorCount, Eq.refl true⟩]

def healthMembers (s : RuntimeStatus) (h : Health) : Json.Members :=
  PlainField.members ⟨"status", textDoc (ascii "ok"), Eq.refl true⟩
    [⟨"version", textDoc s.version, Eq.refl true⟩,
      ⟨"uptime_seconds", decimalDoc h.uptimeSeconds.toNat, Eq.refl true⟩,
      ⟨"serial_workers", decimalDoc h.serialWorkers, Eq.refl true⟩,
      ⟨"input_devices_total", decimalDoc h.inputDevices, Eq.refl true⟩,
      ⟨"device_online", decimalDoc h.devicesOnline, Eq.refl true⟩,
      ⟨"device_offline", decimalDoc h.devicesOffline, Eq.refl true⟩,
      ⟨"mqtt_enabled", .bool s.mqttEnabled, Eq.refl true⟩,
      ⟨"tcp_enabled", .bool s.tcpEnabled, Eq.refl true⟩,
      ⟨"cache_backend", textDoc s.cacheBackend, Eq.refl true⟩,
      ⟨"devices", arrayDoc (h.devices.map (fun device => .object (deviceMembers device))), Eq.refl true⟩]

/-- The device that an object describes. -/
def deviceOfJson : Json.Value → Option DeviceHealthStatus
  | .object members => do
    return {
      deviceId := .ofNat (← natField members "device_id")
      protocol := ← textField members "protocol"
      online := ← boolField members "online"
      lastUpdateUnixSeconds := ← natField members "last_update"
      errorCount := ← natField members "error_count" }
  | _ => none

/-- The health that an object describes. -/
def healthOfJson : Json.Value → Option Health
  | .object members =>
    match members.lookup (Json.str "devices") with
    | some (.array devices) => do
      return {
        devices := ← devices.mapM deviceOfJson
        uptimeSeconds := .ofNat (← natField members "uptime_seconds")
        serialWorkers := ← natField members "serial_workers"
        inputDevices := ← natField members "input_devices_total"
        devicesOnline := ← natField members "device_online"
        devicesOffline := ← natField members "device_offline" }
    | _ => none
  | _ => none

lemma render_deviceMembers {device : DeviceHealthStatus} (hprotocol : Quotable device.protocol) :
    (Json.Doc.object (deviceMembers device)).render = codes (deviceJson device) := by
  have hid : codes (ascii "\x7b\"device_id\":") = 123 :: 34 :: (Json.str "device_id" ++ [34, 58]) := rfl
  have hprotocolkey : codes (ascii ",\"protocol\":\"") = 44 :: 34 :: (Json.str "protocol" ++ [34, 58, 34]) := rfl
  have honline : codes (ascii "\",\"online\":") = 34 :: 44 :: 34 :: (Json.str "online" ++ [34, 58]) := rfl
  have hupdate : codes (ascii ",\"last_update\":") = 44 :: 34 :: (Json.str "last_update" ++ [34, 58]) := rfl
  have herrors : codes (ascii ",\"error_count\":") = 44 :: 34 :: (Json.str "error_count" ++ [34, 58]) := rfl
  have hclose : codes (ascii "\x7d") = [125] := rfl
  unfold deviceJson
  simp only [codes_append, codes_boolalpha, hid, hprotocolkey, honline, hupdate, herrors, hclose]
  simp only [deviceMembers, PlainField.members, PlainField.key, Json.Doc.render, Json.Members.render, decimalDoc,
    render_plainKey, render_textDoc hprotocol, Json.noSpace, List.append_nil, List.append_assoc, List.cons_append,
    List.nil_append]

lemma deviceOfJson_deviceMembers {device : DeviceHealthStatus} (hprotocol : Quotable device.protocol) :
    deviceOfJson (Json.Doc.object (deviceMembers device)).value = some device := by
  have htext : textField (deviceMembers device).pairs "protocol" = some device.protocol := by
    have hlookup : (deviceMembers device).pairs.lookup (Json.str "protocol") =
        some (textDoc device.protocol).value := by
      rw [deviceMembers, PlainField.pairs_members]
      simp only [List.map_cons, List.map_nil]
      rfl
    rw [textField, hlookup, Option.bind_some, textOf_textDoc hprotocol]
  rw [Json.Doc.value, deviceOfJson, htext, deviceMembers, PlainField.pairs_members]
  simp only [List.map_cons, List.map_nil, Json.Doc.value, decimalDoc]
  change some _ = _
  simp only [readNat_decimal, UInt32.ofNat_toNat]

lemma render_devices {devices : List DeviceHealthStatus} (hprotocols : ∀ device ∈ devices, Quotable device.protocol) :
    (arrayDoc (devices.map (fun device => .object (deviceMembers device)))).render =
      91 :: (codes ((ascii ",").intercalate (devices.map deviceJson)) ++ [93]) := by
  have hdevices : devices.map (Json.Doc.render ∘ fun device => .object (deviceMembers device)) =
      devices.map (codes ∘ deviceJson) := by
    apply List.map_congr_left
    intro device hdevice
    exact render_deviceMembers (hprotocols device hdevice)
  rw [render_arrayDoc, codes_intercalate, List.map_map, List.map_map, hdevices]

lemma mapM_deviceOfJson {devices : List DeviceHealthStatus}
    (hprotocols : ∀ device ∈ devices, Quotable device.protocol) :
    ((devices.map (fun device => Json.Doc.object (deviceMembers device))).map Json.Doc.value).mapM deviceOfJson =
      some devices := by
  induction devices with
  | nil => rfl
  | cons device devices ih =>
    rw [List.forall_mem_cons] at hprotocols
    rw [List.map_cons, List.map_cons, List.mapM_cons, deviceOfJson_deviceMembers hprotocols.1, ih hprotocols.2]
    rfl

/-- Texts that `health_json` can quote. -/
structure RuntimeStatus.Quotes (s : RuntimeStatus) (h : Health) : Prop where
  version : Quotable s.version
  cacheBackend : Quotable s.cacheBackend
  protocols : ∀ device ∈ h.devices, Quotable device.protocol

lemma render_healthMembers {s : RuntimeStatus} {h : Health} (hquotes : s.Quotes h) :
    (Json.Doc.object (healthMembers s h)).render = codes (s.printHealth h) := by
  have hok : Quotable (ascii "ok") := by decide
  have hstatus : codes (ascii "\x7b\"status\":\"ok\",\"version\":\"") =
      123 :: 34 :: (Json.str "status" ++ 34 :: 58 :: 34 :: (codes (ascii "ok") ++
        34 :: 44 :: 34 :: (Json.str "version" ++ [34, 58, 34]))) := rfl
  have huptime : codes (ascii "\",\"uptime_seconds\":") =
      34 :: 44 :: 34 :: (Json.str "uptime_seconds" ++ [34, 58]) := rfl
  have hworkers : codes (ascii ",\"serial_workers\":") = 44 :: 34 :: (Json.str "serial_workers" ++ [34, 58]) := rfl
  have htotal : codes (ascii ",\"input_devices_total\":") =
      44 :: 34 :: (Json.str "input_devices_total" ++ [34, 58]) := rfl
  have honline : codes (ascii ",\"device_online\":") = 44 :: 34 :: (Json.str "device_online" ++ [34, 58]) := rfl
  have hoffline : codes (ascii ",\"device_offline\":") = 44 :: 34 :: (Json.str "device_offline" ++ [34, 58]) := rfl
  have hmqtt : codes (ascii ",\"mqtt_enabled\":") = 44 :: 34 :: (Json.str "mqtt_enabled" ++ [34, 58]) := rfl
  have htcp : codes (ascii ",\"tcp_enabled\":") = 44 :: 34 :: (Json.str "tcp_enabled" ++ [34, 58]) := rfl
  have hbackend : codes (ascii ",\"cache_backend\":\"") =
      44 :: 34 :: (Json.str "cache_backend" ++ [34, 58, 34]) := rfl
  have hdevices : codes (ascii "\",\"devices\":[") = 34 :: 44 :: 34 :: (Json.str "devices" ++ [34, 58, 91]) := rfl
  have hclose : codes (ascii "]\x7d") = [93, 125] := rfl
  unfold printHealth
  simp only [codes_append, codes_boolalpha, hstatus, huptime, hworkers, htotal, honline, hoffline, hmqtt, htcp,
    hbackend, hdevices, hclose]
  simp only [healthMembers, PlainField.members, PlainField.key, Json.Doc.render, Json.Members.render, decimalDoc,
    render_plainKey, render_textDoc hok, render_textDoc hquotes.version, render_textDoc hquotes.cacheBackend,
    render_devices hquotes.protocols, Json.noSpace, List.append_nil, List.append_assoc, List.cons_append,
    List.nil_append]

/-- The text of a health is one JSON object, from which it can be recovered. -/
lemma parse_printHealth {s : RuntimeStatus} {h : Health} (hquotes : s.Quotes h) :
    (Json.parse [] (codes (s.printHealth h))).bind healthOfJson = some h := by
  have hdevices : (healthMembers s h).pairs.lookup (Json.str "devices") =
      some (.array ((h.devices.map (fun device => Json.Doc.object (deviceMembers device))).map Json.Doc.value)) := by
    rw [healthMembers, PlainField.pairs_members, ← value_arrayDoc]
    simp only [List.map_cons, List.map_nil]
    rfl
  rw [parse_object (render_healthMembers hquotes), Option.bind_some, healthOfJson, hdevices]
  dsimp only
  rw [mapM_deviceOfJson hquotes.protocols, healthMembers, PlainField.pairs_members]
  simp only [List.map_cons, List.map_nil, Json.Doc.value, decimalDoc]
  change some _ = _
  simp only [readNat_decimal, UInt64.ofNat_toNat]

/-! ### Answers -/

lemma jsonType_plain : 13 ∉ HttpServer.jsonType := by decide

/-- A client that reads a whole answer to `/ready` or `/health`, with whatever comes after it on the connection, finds
the status code and exactly the values that were loaded. -/
theorem RuntimeStatus.answers_read_back {s : RuntimeStatus} (hversion : Quotable s.version)
    (hbackend : Quotable s.cacheBackend) (rest : Text) :
    (∀ (ready : Bool) (r : Readiness), ∃ response,
      Http.parse contentLength (HttpServer.buildResponse (if ready then 200 else 503) HttpServer.jsonType
        (s.printReadiness r) ++ rest) = some (response, rest) ∧
      response.code = ascii (if ready then "200" else "503") ∧
      (Json.parse [] (codes response.body)).bind readinessOfJson = some r) ∧
    ∀ h : Health, (∀ device ∈ h.devices, Quotable device.protocol) → ∃ response,
      Http.parse contentLength (HttpServer.buildResponse 200 HttpServer.jsonType (s.printHealth h) ++ rest) =
        some (response, rest) ∧
      response.code = ascii "200" ∧
      (Json.parse [] (codes response.body)).bind healthOfJson = some h := by
  constructor
  · intro ready r
    refine ⟨httpResponse _ HttpServer.jsonType (s.printReadiness r), parse_buildResponse _ jsonType_plain _ rest, ?_,
      parse_printReadiness hbackend r⟩
    cases ready with
    | true => rfl
    | false => rfl
  · intro h hprotocols
    refine ⟨httpResponse 200 HttpServer.jsonType (s.printHealth h), parse_buildResponse 200 jsonType_plain _ rest, ?_,
      parse_printHealth ⟨hversion, hbackend, hprotocols⟩⟩
    rfl

/-- A gateway with one device on the bus. -/
theorem RuntimeStatus.answers_read_back_can : ∃ response,
    Http.parse contentLength (HttpServer.buildResponse 200 HttpServer.jsonType
      (RuntimeStatus.printHealth ⟨ascii "1.0", ascii "sqlite", true, false⟩
        ⟨[⟨7, ascii "can", true, 12, 3⟩], 60, 0, 1, 1, 0⟩) ++ ascii "HTTP") = some (response, ascii "HTTP") ∧
    response.code = ascii "200" ∧
    (Json.parse [] (codes response.body)).bind healthOfJson =
      some ⟨[⟨7, ascii "can", true, 12, 3⟩], 60, 0, 1, 1, 0⟩ := by
  refine (RuntimeStatus.answers_read_back (s := ⟨ascii "1.0", ascii "sqlite", true, false⟩) (by decide) (by decide)
    (ascii "HTTP")).2 _ ?_
  intro device hdevice
  rw [List.mem_singleton.mp hdevice]
  decide

end EdgeGateway
