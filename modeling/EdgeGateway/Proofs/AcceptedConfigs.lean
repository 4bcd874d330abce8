import EdgeGateway.Proofs.ModbusLoop

/-!
# What an accepted configuration promises

Inversion of the loader: what is known of a configuration that `load_gateway_config` accepted. The checks
are made section by section. What they leave open is a register range that runs past the last register or
is too short for the register map, and a serial port that two inputs share.
-/

namespace EdgeGateway
open CallTree

namespace Config

variable {α β : Type} {library : ConfigLibrary}

lemma bind_eq_ok {x : Loader α} {f : α → Loader β} {r : β} :
    (x >>= f) = .ok r ↔ ∃ a, x = .ok a ∧ f a = .ok r := by
  cases x with
  | error e => simp [bind, Except.bind]
  | ok a => simp [bind, Except.bind]

lemma require_eq_ok {condition : Bool} {message : String} :
    require condition message = .ok () ↔ condition = true := by
  cases condition with
  | true => simp [require]
  | false => simp [require]

/-- A check that was passed, and what comes after it. -/
lemma require_bind_eq_ok {condition : Bool} {message : String} {f : Unit → Loader β} {r : β} :
    (require condition message >>= f) = .ok r ↔ condition = true ∧ f () = .ok r := by
  rw [bind_eq_ok]
  constructor
  · rintro ⟨_, hcheck, hrest⟩
    exact ⟨require_eq_ok.mp hcheck, hrest⟩
  · rintro ⟨hcheck, hrest⟩
    exact ⟨(), require_eq_ok.mpr hcheck, hrest⟩

/-- A section is the default or what its loader made of the document. -/
lemma loadSection_eq_ok {root : YamlNode} {key : String} {load : YamlNode → α → Loader α} {value result : α}
    (h : loadSection library root key load value = .ok result) :
    result = value ∨ ∃ node, load node value = .ok result := by
  obtain ⟨child, -, hload⟩ := bind_eq_ok.mp h
  cases child with
  | none => exact .inl (Except.ok.inj hload).symm
  | some node => exact .inr ⟨node, hload⟩

/-- An accepted document was merged into the defaults, and the result passed the checks. -/
lemma loadGatewayConfig_eq_ok {file : Except Text YamlNode} {c₀ c : GatewayConfig}
    (h : loadGatewayConfig library file c₀ = .ok c) :
    ∃ root, file = .ok root ∧ mergeSections library root c₀ = .ok c ∧ checkConfig library c = .ok () := by
  cases file with
  | error what => cases h
  | ok root =>
    obtain ⟨-, hrest⟩ := require_bind_eq_ok.mp h
    obtain ⟨merged, hmerged, hrest⟩ := bind_eq_ok.mp hrest
    obtain ⟨_, hchecked, hsame⟩ := bind_eq_ok.mp hrest
    obtain rfl : merged = c := Except.ok.inj hsame
    exact ⟨root, rfl, hmerged, hchecked⟩

/-! ### The merged Modbus section -/

lemma toNat_ofInt {v : Int} (hlow : 0 ≤ v) (hhigh : v ≤ 65535) : ((UInt16.ofInt v).toNat : Int) = v := by
  unfold UInt16.ofInt
  rw [UInt16.toNat_ofNat']
  omega

/-- The loader bounds the number of registers. -/
lemma loadModbus_registerCount {node : YamlNode} {m m' : ModbusConfig} (h : loadModbus library node m = .ok m') :
    1 ≤ m'.registerCount.toNat ∧ m'.registerCount.toNat ≤ 125 := by
  unfold loadModbus at h
  -- the ten values are loaded before the three checks
  iterate 10
    rw [bind_eq_ok] at h
    obtain ⟨_, -, h⟩ := h
  obtain ⟨-, h⟩ := require_bind_eq_ok.mp h
  obtain ⟨-, h⟩ := require_bind_eq_ok.mp h
  obtain ⟨hrange, h⟩ := require_bind_eq_ok.mp h
  simp only [Bool.not_eq_true', Bool.or_eq_false_iff, decide_eq_false_iff_not, not_lt, gt_iff_lt] at hrange
  obtain ⟨⟨-, hone⟩, hmany⟩ := hrange
  rw [← Except.ok.inj h]
  have hcount := toNat_ofInt (by omega) (hmany.trans (by omega))
  dsimp only
  omega

lemma mergeSections_modbus {root : YamlNode} {c₀ c : GatewayConfig} (h : mergeSections library root c₀ = .ok c) :
    c.modbus = c₀.modbus ∨ ∃ node, loadModbus library node c₀.modbus = .ok c.modbus := by
  unfold mergeSections at h
  obtain ⟨serial, -, h⟩ := bind_eq_ok.mp h
  obtain ⟨modbus, hmodbus, h⟩ := bind_eq_ok.mp h
  iterate 6
    rw [bind_eq_ok] at h
    obtain ⟨_, -, h⟩ := h
  rw [← Except.ok.inj h]
  exact loadSection_eq_ok hmodbus

lemma registerCount_of_accepted {file : Except Text YamlNode} {c : GatewayConfig}
    (h : loadGatewayConfig library file {} = .ok c) :
    1 ≤ c.modbus.registerCount.toNat ∧ c.modbus.registerCount.toNat ≤ 125 := by
  obtain ⟨root, -, hmerged, -⟩ := loadGatewayConfig_eq_ok h
  rcases mergeSections_modbus hmerged with hdefault | ⟨node, hload⟩
  · rw [hdefault]
    decide
  · exact loadModbus_registerCount hload

/-! ### The checks -/

lemma checkConfig_serial {c : GatewayConfig} (h : checkConfig library c = .ok ()) : checkSerial c.serial = .ok () := by
  obtain ⟨_, hserial, -⟩ := bind_eq_ok.mp h
  exact hserial

lemma checkConfig_modbus {c : GatewayConfig} (h : checkConfig library c = .ok ()) : checkModbus c.modbus = .ok () := by
  obtain ⟨_, -, h⟩ := bind_eq_ok.mp h
  obtain ⟨_, hmodbus, -⟩ := bind_eq_ok.mp h
  exact hmodbus

lemma checkConfig_can {c : GatewayConfig} (h : checkConfig library c = .ok ()) : checkCan c.can = .ok () := by
  obtain ⟨_, -, h⟩ := bind_eq_ok.mp h
  obtain ⟨_, -, h⟩ := bind_eq_ok.mp h
  obtain ⟨_, hcan, -⟩ := bind_eq_ok.mp h
  exact hcan

/-- The loop over the serial devices passes if they are non-empty, different from each other and not seen
before. -/
lemma checkDevices_eq_ok {seen devices : List Text} :
    checkDevices seen devices = .ok () ↔
      (∀ device ∈ devices, device ≠ [] ∧ device ∉ seen) ∧ devices.Nodup := by
  induction devices generalizing seen with
  | nil => simp [checkDevices, pure, Except.pure]
  | cons device devices ih =>
    rw [checkDevices, require_bind_eq_ok, require_bind_eq_ok, ih]
    simp only [Bool.not_eq_true', List.mem_cons, not_or, List.nodup_cons, List.contains_eq_mem,
      decide_eq_false_iff_not, List.isEmpty_eq_false_iff, ne_eq]
    constructor
    · rintro ⟨hne, hseen, hrest, hnodup⟩
      refine ⟨?_, fun hmem => (hrest device hmem).2.1 rfl, hnodup⟩
      rintro other (rfl | hother)
      · exact ⟨hne, hseen⟩
      · exact ⟨(hrest other hother).1, (hrest other hother).2.2⟩
    · rintro ⟨hall, hfresh, hnodup⟩
      refine ⟨(hall device (.inl rfl)).1, (hall device (.inl rfl)).2, ?_, hnodup⟩
      intro other hother
      refine ⟨(hall other (.inr hother)).1, ?_, (hall other (.inr hother)).2⟩
      rintro rfl
      exact hfresh hother

lemma devices_of_accepted {file : Except Text YamlNode} {c₀ c : GatewayConfig}
    (h : loadGatewayConfig library file c₀ = .ok c) :
    (∀ device ∈ c.serial.devices, device ≠ []) ∧ c.serial.devices.Nodup := by
  obtain ⟨root, -, -, hchecked⟩ := loadGatewayConfig_eq_ok h
  obtain ⟨_, hdevices, -⟩ := bind_eq_ok.mp (checkConfig_serial hchecked)
  obtain ⟨hne, hnodup⟩ := checkDevices_eq_ok.mp hdevices
  exact ⟨fun device hdevice => (hne device hdevice).1, hnodup⟩

/-- An enabled Modbus section has a port and positive times. -/
lemma modbus_of_accepted {file : Except Text YamlNode} {c₀ c : GatewayConfig}
    (h : loadGatewayConfig library file c₀ = .ok c) (henabled : c.modbus.enabled = true) :
    c.modbus.port ≠ [] ∧ 1 ≤ c.modbus.pollIntervalMs ∧ 1 ≤ c.modbus.responseTimeoutMs := by
  obtain ⟨root, -, -, hchecked⟩ := loadGatewayConfig_eq_ok h
  have hmodbus := checkConfig_modbus hchecked
  unfold checkModbus at hmodbus
  rw [if_pos henabled] at hmodbus
  obtain ⟨hport, hrest⟩ := require_bind_eq_ok.mp hmodbus
  obtain ⟨-, hrest⟩ := require_bind_eq_ok.mp hrest
  have htimes := require_eq_ok.mp hrest
  simp only [Bool.not_eq_true', Bool.or_eq_false_iff, decide_eq_false_iff_not, not_lt] at htimes
  refine ⟨?_, htimes.1, htimes.2⟩
  intro hempty
  rw [hempty] at hport
  cases hport

lemma heartbeat_of_accepted {file : Except Text YamlNode} {c₀ c : GatewayConfig}
    (h : loadGatewayConfig library file c₀ = .ok c) : 1 ≤ c.can.heartbeatTimeoutSeconds := by
  obtain ⟨root, -, -, hchecked⟩ := loadGatewayConfig_eq_ok h
  obtain ⟨-, hrest⟩ := require_bind_eq_ok.mp (checkConfig_can hchecked)
  have hpositive := require_eq_ok.mp hrest
  simpa using hpositive

/-! ### Documents with plain values -/

/-- The value of a run of decimal digits. -/
def digitsValue (value : Text) : Option Int :=
  if value ≠ [] ∧ value.all (fun byte => 48 ≤ byte && byte ≤ 57) then
    some (value.foldl (fun n byte => 10 * n + (byte.toNat - 48)) 0)
  else
    none

def plainInt : YamlNode → Except Text Int
  | .scalar value =>
    match digitsValue value with
    | some n => if n < 2 ^ 31 ∧ -2 ^ 31 ≤ n then .ok n else .error (ascii "bad conversion")
    | none => .error (ascii "bad conversion")
  | _ => .error (ascii "bad conversion")

def plainBool : YamlNode → Except Text Bool
  | .scalar value =>
    if value = ascii "true" then .ok true
    else if value = ascii "false" then .ok false
    else .error (ascii "bad conversion")
  | _ => .error (ascii "bad conversion")

def plainString : YamlNode → Except Text Text
  | .scalar value => .ok value
  | _ => .error (ascii "bad conversion")

/-- The conversions on documents whose numbers are written in decimal digits and whose truth values are
`true` and `false`. -/
def plainLibrary : ConfigLibrary where
  asBool := plainBool
  asInt := plainInt
  asString := plainString
  asStrings
    | .sequence items => items.mapM plainString
    | _ => .error (ascii "bad conversion")
  badSubscript _ _ := ascii "operator[] call on a scalar"
  inetPton _ := false
  asInt_range := by
    intro node value h
    unfold plainInt at h
    split at h
    · split at h
      · split at h
        · rename_i hrange
          rw [← Except.ok.inj h]
          exact ⟨hrange.2, hrange.1⟩
        · cases h
      · cases h
    · cases h

/-- A document with one section of plain values. -/
def oneSection (name : String) (values : List (String × String)) : YamlNode :=
  .map [(.scalar (ascii name), .map (values.map (fun v => (.scalar (ascii v.1), .scalar (ascii v.2)))))]

end Config

/-! ### The serial ports of the inputs -/

namespace Gateway

/-- The paths of the serial ports that the registered inputs open. -/
def portPaths (c : Config.GatewayConfig) (argv : List Text) : List Text :=
  (inputs c (serialDevices argv c)).filterMap Input.portPath

lemma portPaths_eq (c : Config.GatewayConfig) (argv : List Text) :
    portPaths c argv = serialDevices argv c ++ if c.modbus.enabled then [c.modbus.port] else [] := by
  have huart : ∀ devices : List Text, (devices.map (fun device =>
      Input.uart { path := device, baudRate := c.serial.baudRate })).filterMap Input.portPath = devices := by
    intro devices
    induction devices with
    | nil => rfl
    | cons device devices ih => simp only [List.map_cons, List.filterMap_cons, Input.portPath, ih]
  unfold portPaths inputs
  rw [List.filterMap_append, List.filterMap_append, huart]
  cases c.modbus.enabled <;> cases c.can.enabled <;> exact List.append_nil _

/-- Without the third argument the serial devices are those of the configuration. -/
lemma serialDevices_cases (argv : List Text) (c : Config.GatewayConfig) :
    (∃ path, argv[2]? = some path ∧ serialDevices argv c = [path]) ∨
      argv[2]? = none ∧ serialDevices argv c = c.serial.devices := by
  rcases argv with _ | ⟨program, _ | ⟨configPath, _ | ⟨path, rest⟩⟩⟩
  · exact .inr ⟨rfl, rfl⟩
  · exact .inr ⟨rfl, rfl⟩
  · exact .inr ⟨rfl, rfl⟩
  · exact .inl ⟨path, rfl, rfl⟩

end Gateway

/-- The serial ports of the registered inputs are non-empty and pairwise different if and only if the
override, where it is given, is not empty and the port of an enabled Modbus section is not among the
serial devices in use. -/
theorem serial_ports_distinct_iff (library : ConfigLibrary) (file : Except Text YamlNode)
    (c : Config.GatewayConfig) (haccepted : Config.loadGatewayConfig library file {} = .ok c) (argv : List Text) :
    ((∀ path ∈ Gateway.portPaths c argv, path ≠ []) ∧ (Gateway.portPaths c argv).Nodup) ↔
      (∀ path, argv[2]? = some path → path ≠ []) ∧
      (c.modbus.enabled = true → c.modbus.port ∉ Gateway.serialDevices argv c) := by
  have hdevices : (Gateway.serialDevices argv c).Nodup ∧
      ((∀ path ∈ Gateway.serialDevices argv c, path ≠ []) ↔ ∀ path, argv[2]? = some path → path ≠ []) := by
    obtain ⟨hne, hnodup⟩ := Config.devices_of_accepted haccepted
    rcases Gateway.serialDevices_cases argv c with ⟨path, hthird, hdevices⟩ | ⟨hthird, hdevices⟩
    · rw [hdevices, hthird]
      refine ⟨List.nodup_singleton path, ?_⟩
      simp
    · rw [hdevices, hthird]
      refine ⟨hnodup, fun _ => nofun, fun _ => hne⟩
  rw [Gateway.portPaths_eq]
  by_cases henabled : c.modbus.enabled = true
  · obtain ⟨hport, -⟩ := Config.modbus_of_accepted haccepted henabled
    rw [if_pos henabled, List.nodup_append, ← hdevices.2]
    simp only [List.mem_append, List.mem_singleton, henabled, forall_const]
    constructor
    · rintro ⟨hne, -, -, hfresh⟩
      exact ⟨fun path hpath => hne path (.inl hpath), fun hmem => hfresh _ hmem _ rfl rfl⟩
    · rintro ⟨hne, hfresh⟩
      refine ⟨?_, hdevices.1, List.nodup_singleton _, ?_⟩
      · rintro path (hpath | rfl)
        · exact hne path hpath
        · exact hport
      · rintro path hpath _ rfl rfl
        exact hfresh hpath
  · rw [if_neg henabled, List.append_nil, ← hdevices.2]
    constructor
    · rintro ⟨hne, -⟩
      exact ⟨hne, fun h => absurd h henabled⟩
    · rintro ⟨hne, -⟩
      exact ⟨hne, hdevices.1⟩

/-- A configuration with Modbus on the port that is the default of the serial section. -/
def sharedPortConfig : Config.GatewayConfig :=
  { modbus := { enabled := true, port := ascii "/tmp/tty_gateway" } }

lemma sharedPortConfig_accepted : Config.loadGatewayConfig Config.plainLibrary
    (.ok (Config.oneSection "modbus" [("enabled", "true"), ("port", "/tmp/tty_gateway")])) {} =
      .ok sharedPortConfig := by
  rfl

/-- With the override the same configuration has two ports. -/
theorem serial_ports_distinct_iff_override :
    let argv := [ascii "edge_gateway", ascii "config/gateway.yaml", ascii "/dev/ttyS0"]
    Config.loadGatewayConfig Config.plainLibrary
      (.ok (Config.oneSection "modbus" [("enabled", "true"), ("port", "/tmp/tty_gateway")])) {} =
        .ok sharedPortConfig ∧
    (∀ path ∈ Gateway.portPaths sharedPortConfig argv, path ≠ []) ∧
      (Gateway.portPaths sharedPortConfig argv).Nodup := by
  intro argv
  refine ⟨sharedPortConfig_accepted, ?_⟩
  apply (serial_ports_distinct_iff _ _ _ sharedPortConfig_accepted argv).mpr
  refine ⟨?_, fun _ => by decide⟩
  intro path hpath
  rw [← Option.some.inj hpath]
  decide

/-- The document that enables Modbus on the default serial device is accepted, and both inputs open
`/tmp/tty_gateway`. -/
theorem modbus_shares_serial_port :
    ∃ c, Config.loadGatewayConfig Config.plainLibrary
        (.ok (Config.oneSection "modbus" [("enabled", "true"), ("port", "/tmp/tty_gateway")])) {} = .ok c ∧
      ¬((∀ path ∈ Gateway.portPaths c [ascii "edge_gateway"], path ≠ []) ∧
        (Gateway.portPaths c [ascii "edge_gateway"]).Nodup) := by
  refine ⟨sharedPortConfig, sharedPortConfig_accepted, ?_⟩
  rintro ⟨-, hnodup⟩
  exact absurd hnodup (by decide)

/-! ### The register range -/

namespace Modbus

/-- The registers that a request frame asks for exist: their numbers go up to 65535. -/
def RequestsExisting (frame : List UInt8) : Prop :=
  ∃ h : 6 ≤ frame.length,
    (readU16Be frame 2 (by omega)).toNat + (readU16Be frame 4 (by omega)).toNat ≤ 65536

lemma requestsExisting_buildReadRequest (request : ReadRequest) :
    RequestsExisting (buildReadRequest request) ↔
      request.startAddress.toNat + request.registerCount.toNat ≤ 65536 := by
  have hlength : 6 ≤ (buildReadRequest request).length := by
    simp [buildReadRequest, u16Be]
  have hstart : readU16Be (buildReadRequest request) 2 (by omega) = request.startAddress := word_u16Be _
  have hcount : readU16Be (buildReadRequest request) 4 (by omega) = request.registerCount := word_u16Be _
  constructor
  · rintro ⟨_, h⟩
    rwa [hstart, hcount] at h
  · intro h
    refine ⟨hlength, ?_⟩
    rwa [hstart, hcount]

/-- The register map needs six registers. -/
lemma registersToDeviceData_isOk (registers : List UInt16) (slaveId : UInt8) :
    (∃ data, registersToDeviceData { status := .ok, registers := registers } slaveId = .ok data) ↔
      6 ≤ registers.length := by
  unfold registersToDeviceData
  rw [if_neg (not_not.mpr rfl)]
  by_cases hsix : registers.length < 6
  · rw [dif_pos hsix]
    simp only [reduceCtorEq, exists_false, false_iff, not_le]
    exact hsix
  · rw [dif_neg hsix]
    simp only [Except.ok.injEq, exists_eq', true_iff]
    omega

end Modbus

/-- A slave that is asked and answers with these registers in time is read: in whatever pieces the response
arrives, every piece of it before the deadline, `read` returns a reading. And a `read` that is due asks it. -/
def PollGivesData (d : ModbusDevice) (registers : List UInt16) : Prop :=
  ∀ (wait : Int) (chunks : List (List UInt8)),
    chunks.flatten = Modbus.normalResponse d.options.request.slaveId d.options.request.function registers →
    (∀ chunk ∈ chunks, chunk ≠ []) →
    (∃ answer w, Exec (lineEnv (d.options.responseTimeoutMs * nanosecondsPerMillisecond)) (d.read wait)
      { chunks := chunks } answer w ∧ w.requested = true) ∧
    ∀ answer w, Exec (lineEnv (d.options.responseTimeoutMs * nanosecondsPerMillisecond)) (d.read wait)
      { chunks := chunks } answer w → w.requested = true → answer.1.code = .data ∧ answer.1.data.isSome

/-- The Modbus section works: the request stays within the registers, and every response to it gives a
reading. -/
def ModbusWorks (c : Config.ModbusConfig) : Prop :=
  Modbus.RequestsExisting (Modbus.buildReadRequest (Gateway.modbusOptions c).request) ∧
  ∀ d : ModbusDevice, d.options = Gateway.modbusOptions c → ∀ registers : List UInt16,
    registers.length = c.registerCount.toNat → PollGivesData d registers

section

variable {d : ModbusDevice} {registers : List UInt16}

/-- The outcome of a normal response whose registers are read as data. -/
lemma outcome_of_data (hcount : registers.length = d.options.request.registerCount.toNat)
    (hbound : registers.length ≤ 125) {data : DeviceData}
    (hdata : Modbus.registersToDeviceData { status := .ok, registers := registers } d.options.request.slaveId =
      .ok data) :
    d.outcome (Modbus.normalResponse d.options.request.slaveId d.options.request.function registers) =
      { code := .data, data := some (toSensorData data) } := by
  unfold ModbusDevice.outcome
  dsimp only
  rw [Modbus.parseReadResponse_normalResponse hcount (by omega), if_neg (not_not.mpr rfl), hdata]

/-- The outcome of a normal response whose registers are refused. -/
lemma outcome_of_refused (hcount : registers.length = d.options.request.registerCount.toNat)
    (hbound : registers.length ≤ 125) {error : Text}
    (herror : Modbus.registersToDeviceData { status := .ok, registers := registers } d.options.request.slaveId =
      .error error) :
    d.outcome (Modbus.normalResponse d.options.request.slaveId d.options.request.function registers) =
      { code := .protocolError, error := error } := by
  unfold ModbusDevice.outcome
  dsimp only
  rw [Modbus.parseReadResponse_normalResponse hcount (by omega), if_neg (not_not.mpr rfl), herror]

/-- A poll that is answered gives a reading if and only if the response has six registers. -/
lemma pollGivesData_iff (hcount : registers.length = d.options.request.registerCount.toNat)
    (hbound : registers.length ≤ 125) : PollGivesData d registers ↔ 6 ≤ registers.length := by
  have hread : ∀ wait chunks,
      chunks.flatten = Modbus.normalResponse d.options.request.slaveId d.options.request.function registers →
      (∀ chunk ∈ chunks, chunk ≠ []) →
      ∀ answer w, Exec (lineEnv (d.options.responseTimeoutMs * nanosecondsPerMillisecond)) (d.read wait)
        { chunks := chunks } answer w → w.requested = true →
        answer.1 =
          d.outcome (Modbus.normalResponse d.options.request.slaveId d.options.request.function registers) := by
    intro wait chunks hflatten hnonempty
    exact (wp_iff_exec _ _ _ _).mp (ModbusDevice.wp_read_line (hcount ▸ hbound) (.normal hcount) hflatten hnonempty
      d rfl wait)
  rw [← Modbus.registersToDeviceData_isOk registers d.options.request.slaveId]
  constructor
  · -- the response in one piece
    intro h
    have hflatten : [Modbus.normalResponse d.options.request.slaveId d.options.request.function registers].flatten =
        Modbus.normalResponse d.options.request.slaveId d.options.request.function registers := by
      rw [List.flatten_singleton]
    have hnonempty : ∀ chunk ∈
        [Modbus.normalResponse d.options.request.slaveId d.options.request.function registers], chunk ≠ [] := by
      intro chunk hchunk
      obtain rfl := List.mem_singleton.mp hchunk
      exact List.cons_ne_nil _ _
    obtain ⟨⟨answer, w, hexec, hrequested⟩, hall⟩ := h 0 _ hflatten hnonempty
    obtain ⟨hdata, -⟩ := hall answer w hexec hrequested
    rw [hread 0 _ hflatten hnonempty answer w hexec hrequested] at hdata
    cases hmap : Modbus.registersToDeviceData { status := .ok, registers := registers } d.options.request.slaveId with
    | ok data => exact ⟨data, rfl⟩
    | error error =>
      rw [outcome_of_refused hcount hbound hmap] at hdata
      cases hdata
  · rintro ⟨data, hmap⟩ wait chunks hflatten hnonempty
    refine ⟨d.exists_read_requested wait _ chunks, ?_⟩
    intro answer w hexec hrequested
    rw [hread wait chunks hflatten hnonempty answer w hexec hrequested, outcome_of_data hcount hbound hmap]
    exact ⟨rfl, rfl⟩

end

end EdgeGateway
