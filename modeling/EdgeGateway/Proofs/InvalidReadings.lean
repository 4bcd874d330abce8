import EdgeGateway.Proofs.OneReading

/-!
# Readings that are out of range

What the counters and the device's own error count make of a reading that is framed correctly and fails
the validation. The UART device refuses it inside `read`. The other two devices hand it over, and
`publish_sensor_data` refuses it.
-/

namespace EdgeGateway
open CallTree Scanning

/-- What the arrival of a reading adds to three counters and to the error count of the device. -/
structure Accounting where
  framesParsed : Nat
  framesInvalid : Nat
  protocolErrors : Nat
  errorCount : Nat
deriving DecidableEq

/-- The pass over a started device can be completed, and however it is completed, it adds these
amounts. -/
def PassAccounts {σ : Type} (ok : Ledger → (o : WorkerOp) → o.Ans → Prop) (m : DeviceManager)
    (interface : DeviceInterface σ) (d : σ) (amounts : Accounting) : Prop :=
  (∃ w l, Exec (ledgerEnv ok) (m.runDevice interface ⟨true, d⟩) {} w l) ∧
  ∀ w l, Exec (ledgerEnv ok) (m.runDevice interface ⟨true, d⟩) {} w l →
    l.added .framesParsed = amounts.framesParsed ∧ l.added .framesInvalid = amounts.framesInvalid ∧
    l.added .protocolError = amounts.protocolErrors ∧
    (interface.getDeviceStatus w.input).errorCount =
      (interface.getDeviceStatus d).errorCount + amounts.errorCount

/-- No pass adds two different amounts. -/
lemma PassAccounts.unique {σ : Type} {ok : Ledger → (o : WorkerOp) → o.Ans → Prop} {m : DeviceManager}
    {interface : DeviceInterface σ} {d : σ} {amounts amounts' : Accounting}
    (h : PassAccounts ok m interface d amounts) (h' : PassAccounts ok m interface d amounts') :
    amounts = amounts' := by
  obtain ⟨⟨w, l, hexec⟩, hall⟩ := h
  obtain ⟨hparsed, hinvalid, hprotocol, hcount⟩ := hall w l hexec
  obtain ⟨hparsed', hinvalid', hprotocol', hcount'⟩ := h'.2 w l hexec
  obtain ⟨parsed, invalid, protocol, count⟩ := amounts
  obtain ⟨parsed', invalid', protocol', count'⟩ := amounts'
  have hsame : count = count' := Nat.add_left_cancel (hcount.symm.trans hcount')
  rw [Accounting.mk.injEq]
  exact ⟨hparsed.symm.trans hparsed', hinvalid.symm.trans hinvalid', hprotocol.symm.trans hprotocol', hsame⟩

section

variable {σ : Type} {interface : DeviceInterface σ} {ok : Ledger → (o : WorkerOp) → o.Ans → Prop} {l : Ledger}
  {d : σ} {m : DeviceManager}

/-- A pass whose `read` does not fail the transport delivers and reports what the result says. -/
lemma wp_readInput_entries (hdata : m.dataHandler.isSome) (herror : m.errorHandler.isSome)
    {protocol : ProtocolType} {out : List SensorData} {reports : List (ProtocolType × ProtocolErrorStats)}
    {count : Nat}
    (hread : wp (deviceEnv ok) (interface.read 250 d) (fun answer _ =>
      answer.1.code ≠ .transportError ∧ handed answer.1 = out ∧
      (interface.getDeviceStatus answer.2).protocol = protocol ∧ reported answer.1 protocol = reports ∧
      (interface.getDeviceStatus answer.2).errorCount = count) l) :
    wp (ledgerEnv ok) (m.readInput interface d) (fun w l' =>
      l'.delivered = l.delivered ++ out ∧ l'.reports = l.reports ++ reports ∧
      (interface.getDeviceStatus w.input).errorCount = count) l := by
  have hframe : wp (deviceEnv ok) (interface.read 250 d) (fun _ l' =>
      l'.delivered = l.delivered ∧ l'.reports = l.reports) l :=
    wp_device_frame _ (fun _ _ _ => ⟨rfl, rfl⟩)
  unfold DeviceManager.readInput
  rw [wp_bind, wp_device]
  apply wp_mono _ (wp_and _ hread hframe)
  rintro ⟨result, d'⟩ l₁ ⟨⟨hcode, hhanded, hprotocol, hreported, hcount⟩, hdelivered, hreports⟩
  change wp _ (m.handleResult interface result d') _ l₁
  have hprotocol : (interface.getDeviceStatus d').protocol = protocol := hprotocol
  unfold DeviceManager.handleResult
  rw [wp_bind]
  apply wp_handOver
  intro delivered published recorded hdelivered'
  rw [wp_bind]
  apply wp_report
  intro reports' charged hreports'
  apply wp_endPass
  · intro htransport
    exact absurd htransport hcode
  · intro _
    refine ⟨?_, ?_, hcount⟩
    · change delivered = _
      rw [hdelivered' hdata, hdelivered, hhanded]
    · change reports' = _
      rw [hreports' herror, hprotocol, ← hreported, ← hreports]

/-- The amounts of what a pass delivers and reports. -/
def amountsOf (out : List SensorData) (reports : List (ProtocolType × ProtocolErrorStats)) (count : Nat) :
    Accounting where
  framesParsed := out.length
  framesInvalid := (reports.map (fun r => r.2.invalidFrameCount)).sum
  protocolErrors := (out.map (fun data => dataCharge data .protocolError)).sum +
    (reports.map (fun r => reportSize r.2)).sum
  errorCount := count

lemma passAccounts {interval : Int} {topicPrefix : Text} {protocol : ProtocolType} {out : List SensorData}
    {reports : List (ProtocolType × ProtocolErrorStats)} {count : Nat}
    (hanswer : ∀ l o, ¬IsTerminate o → ∃ a, ok l o a)
    (hends : (interface.read 250 d).Avoids DeviceTerminates)
    (hstop : ∀ d, (interface.stop d).Avoids DeviceTerminates)
    (hread : wp (deviceEnv ok) (interface.read 250 d) (fun answer _ =>
      answer.1.code ≠ .transportError ∧ handed answer.1 = out ∧
      (interface.getDeviceStatus answer.2).protocol = protocol ∧ reported answer.1 protocol = reports ∧
      (interface.getDeviceStatus answer.2).errorCount = (interface.getDeviceStatus d).errorCount + count) {}) :
    PassAccounts ok (Gateway.deviceManager interval topicPrefix) interface d (amountsOf out reports count) := by
  refine ⟨?_, ?_⟩
  · apply exists_exec _ (readInput_avoids _ hends hstop)
    intro l o ho
    obtain ⟨a, ha⟩ := hanswer l o ho
    exact ⟨a, _, ha, rfl⟩
  · intro w l hexec
    have hentries := (wp_iff_exec _ _ _ _).mp
      (wp_readInput_entries (m := Gateway.deviceManager interval topicPrefix) rfl rfl hread) w l hexec
    obtain ⟨hdelivered, hreports, hcount⟩ := hentries
    rw [List.nil_append] at hdelivered hreports
    have hentered : Entered topicPrefix l :=
      (wp_iff_exec _ _ _ _).mp ((entered_empty topicPrefix).runDevice interface ⟨true, d⟩) w l hexec
    have hadded : ∀ c : Counter, ¬c.IsTcp → l.added c =
        (out.map (fun data => dataCharge data c)).sum + (reports.map (fun r => charge r.1 r.2 c)).sum := by
      intro c hc
      rw [Ledger.added, hentered.recorded c hc, hentered.charged c, hdelivered, hreports]
    refine ⟨?_, ?_, ?_, hcount⟩
    · rw [hadded _ (by simp [Counter.IsTcp])]
      simp [dataCharge, charge, amountsOf]
    · rw [hadded _ (by simp [Counter.IsTcp])]
      simp [dataCharge, charge, amountsOf]
    · rw [hadded _ (by simp [Counter.IsTcp])]
      rfl

end

/-! ### The three paths -/

/-- A device that hands over a reading reports nothing. -/
lemma HandsOver.entries {data : SensorData} {before after : DeviceStatus} {result : DeviceReadResult}
    (h : HandsOver data before result after) :
    result.code ≠ .transportError ∧ EdgeGateway.handed result = [data] ∧ after.protocol = before.protocol ∧
      reported result before.protocol = [] ∧ after.errorCount = before.errorCount + 0 := by
  have hcode : result.code = .data := by rw [h.result]
  refine ⟨?_, h.handed_eq, h.protocol, ?_, h.errorCount⟩
  · rw [hcode]
    decide
  · rw [h.result]
    rfl

lemma RawReading.amountsOf_delivered {r : RawReading} (hinvalid : ¬r.InRange) :
    amountsOf [validateSensorDataImpl r.toData] [] 0 = ⟨1, 0, 1, 0⟩ := by
  have hvalid : (validateSensorDataImpl r.toData).valid = false := by
    rw [r.validate_toData.1]
    exact decide_eq_false hinvalid
  simp [amountsOf, dataCharge, hvalid]

lemma RawReading.sessionRejected_encode {r : RawReading} (hinvalid : ¬r.InRange) :
    sessionRejected r.uartFrame.encode = 1 := by
  have hnone : reading r.uartFrame.toFrame = none := by
    rw [reading, r.parseSensorData_uartFrame, r.validate_toData.1, decide_eq_false hinvalid]
  rw [sessionRejected_eq, scan_encode]
  simp [hnone]

lemma scan_encode_errors (f : WireFrame) : (frameScanner.scan f.encode).errors = [] := by
  have hverdict : frameScanner.verdict f.encode = .emit f f.encode.length := by
    have h := frameVerdict_encode f []
    rwa [List.append_nil] at h
  obtain ⟨-, herrs, -⟩ := frameScanner.scanFrom_values 0 (0 + f.encode.length) []
  rw [Scanner.scan, Scanner.scanFrom_emit _ hverdict, List.drop_length, Outcome.andThen]
  change [] ++ _ = []
  rw [← herrs, List.nil_append]
  change (frameScanner.scan []).errors = []
  rw [scan_nil]

/-- The UART device refuses the frame and counts it. -/
lemma UartDevice.wp_read_invalid {d : UartDevice} (hpending : d.pending = []) (hsynced : Synced d.parser [])
    {r : RawReading} (hinvalid : ¬r.InRange) :
    wp (deviceEnv (PortDelivers r.uartFrame.encode)) (UartDevice.interface.read 250 d) (fun answer _ =>
      answer.1.code ≠ .transportError ∧ handed answer.1 = [] ∧ answer.2.status.protocol = d.status.protocol ∧
      reported answer.1 d.status.protocol = [(d.status.protocol, { genericErrors := 1 })] ∧
      answer.2.status.errorCount = d.status.errorCount + 1) {} := by
  apply UartDevice.wp_read_delivered hpending r.uartFrame.encode_ne_nil
  intro l
  obtain ⟨stats, d', hreceive, -, hreadings, hrejected, hprotocol, hcount, hcrc, hlength, hoverflow⟩ :=
    d.receive_eq r.uartFrame.encode hsynced hpending
  rw [List.nil_append] at hreadings hrejected hcrc hlength
  rw [sessionReadings_nil, List.nil_append, r.sessionReadings_encode, if_neg hinvalid] at hreadings
  rw [sessionRejected_nil, Nat.zero_add, RawReading.sessionRejected_encode hinvalid] at hrejected
  rw [scan_encode_errors, scan_nil, List.count_nil, Nat.zero_add] at hcrc hlength
  have hstats : stats = { genericErrors := 1 } := by
    obtain ⟨crcErrors, lengthErrors, overflowBytes, genericErrors⟩ := stats
    rw [ProtocolErrorStats.mk.injEq]
    exact ⟨hcrc.symm, hlength.symm, hoverflow, hrejected.symm⟩
  subst hstats
  rw [hreceive]
  apply UartDevice.wp_deliver
  · intro _ _
    exact ⟨nofun, rfl, hprotocol, rfl, hcount⟩
  · intro _ hempty
    cases hempty
  · intro data rest now l' hdata _
    rw [hdata] at hreadings
    cases hreadings

section

variable (r : RawReading) (interval : Int) (topicPrefix : Text)

/-- However a reading arrives, it adds the same amounts. A CAN frame carries it if its battery voltage is
a multiple of 100 mV that fits into a byte. -/
def AccountedAlike (uart : UartDevice) (modbus : ModbusDevice) (start : Int) (can : CanDevice) : Prop :=
  ∃ amounts,
    PassAccounts (PortDelivers r.uartFrame.encode) (Gateway.deviceManager interval topicPrefix)
      UartDevice.interface uart amounts ∧
    PassAccounts
      (SlaveAnswers start (modbus.options.responseTimeoutMs * nanosecondsPerMillisecond)
        (r.modbusResponse modbus.options.request.function))
      (Gateway.deviceManager interval topicPrefix) ModbusDevice.interface modbus amounts ∧
    (r.battery % 100 = 0 → r.battery ≤ 25500 → ∀ canId : UInt32, canId ≤ 0x7FF →
      canId &&& 0xFF = r.deviceId.toUInt32 →
      PassAccounts (CanDelivers (r.canFrame canId)) (Gateway.deviceManager interval topicPrefix)
        CanDevice.interface can amounts)

variable {r}

lemma uart_accounts (hinvalid : ¬r.InRange) {d : UartDevice} (hpending : d.pending = [])
    (hsynced : Synced d.parser []) :
    PassAccounts (PortDelivers r.uartFrame.encode) (Gateway.deviceManager interval topicPrefix)
      UartDevice.interface d ⟨0, 1, 1, 1⟩ := by
  change PassAccounts _ _ _ _ (amountsOf [] [(d.status.protocol, { genericErrors := 1 })] 1)
  exact passAccounts (portDelivers_answers _) (UartDevice.read_avoids hpending hsynced 250)
    (fun _ => ⟨id, fun _ => trivial⟩) (UartDevice.wp_read_invalid hpending hsynced hinvalid)

lemma modbus_accounts (hinvalid : ¬r.InRange) {d : ModbusDevice}
    (hslave : d.options.request.slaveId = r.deviceId) (hcount : d.options.request.registerCount = 6)
    (htimeout : 0 < d.options.responseTimeoutMs) {start : Int} (hdue : d.nextPoll ≤ start) :
    PassAccounts
      (SlaveAnswers start (d.options.responseTimeoutMs * nanosecondsPerMillisecond)
        (r.modbusResponse d.options.request.function))
      (Gateway.deviceManager interval topicPrefix) ModbusDevice.interface d ⟨1, 0, 1, 0⟩ := by
  have hpositive : 0 < d.options.responseTimeoutMs * nanosecondsPerMillisecond := by
    unfold nanosecondsPerMillisecond
    omega
  rw [← RawReading.amountsOf_delivered hinvalid]
  exact passAccounts (slaveAnswers_answers hpositive _) (ModbusDevice.read_avoids d 250)
    (fun _ => ⟨id, fun _ => trivial⟩)
    (wp_mono _ (ModbusDevice.wp_read_reading hslave hcount hdue) (fun _ _ h => h.entries))

lemma can_accounts (hinvalid : ¬r.InRange) (d : CanDevice) {canId : UInt32} (hid : canId ≤ 0x7FF)
    (hlow : canId &&& 0xFF = r.deviceId.toUInt32) (hmultiple : r.battery % 100 = 0)
    (hbound : r.battery ≤ 25500) :
    PassAccounts (CanDelivers (r.canFrame canId)) (Gateway.deviceManager interval topicPrefix)
      CanDevice.interface d ⟨1, 0, 1, 0⟩ := by
  have hinvalid' : ¬{ r with sequence := 0 }.InRange := hinvalid
  rw [← RawReading.amountsOf_delivered hinvalid']
  exact passAccounts (canDelivers_answers _) (CanDevice.read_avoids d 250)
    (fun _ => ⟨id, fun _ => trivial⟩)
    (wp_mono _ (CanDevice.wp_read_reading hid hlow hmultiple hbound) (fun _ _ h => h.entries))

end

/-- No reading that fails the validation is accounted alike: over UART it is an invalid frame and an error
of the device, over Modbus and CAN it is a parsed frame and no error of the device. -/
theorem invalid_reading_accounted_unlike (r : RawReading) (hinvalid : ¬r.InRange) (interval : Int)
    (topicPrefix : Text) (uart : UartDevice) (hpending : uart.pending = []) (hsynced : Synced uart.parser [])
    (modbus : ModbusDevice) (hslave : modbus.options.request.slaveId = r.deviceId)
    (hcount : modbus.options.request.registerCount = 6) (htimeout : 0 < modbus.options.responseTimeoutMs)
    (start : Int) (hdue : modbus.nextPoll ≤ start) (can : CanDevice) :
    ¬AccountedAlike r interval topicPrefix uart modbus start can ∧
    PassAccounts (PortDelivers r.uartFrame.encode) (Gateway.deviceManager interval topicPrefix)
      UartDevice.interface uart ⟨0, 1, 1, 1⟩ ∧
    PassAccounts
      (SlaveAnswers start (modbus.options.responseTimeoutMs * nanosecondsPerMillisecond)
        (r.modbusResponse modbus.options.request.function))
      (Gateway.deviceManager interval topicPrefix) ModbusDevice.interface modbus ⟨1, 0, 1, 0⟩ ∧
    (r.battery % 100 = 0 → r.battery ≤ 25500 → ∀ canId : UInt32, canId ≤ 0x7FF →
      canId &&& 0xFF = r.deviceId.toUInt32 →
      PassAccounts (CanDelivers (r.canFrame canId)) (Gateway.deviceManager interval topicPrefix)
        CanDevice.interface can ⟨1, 0, 1, 0⟩) := by
  have huart := uart_accounts interval topicPrefix hinvalid hpending hsynced
  have hmodbus := modbus_accounts interval topicPrefix hinvalid hslave hcount htimeout hdue
  refine ⟨?_, huart, hmodbus, ?_⟩
  · rintro ⟨amounts, huart', hmodbus', -⟩
    have hsame : (⟨0, 1, 1, 1⟩ : Accounting) = ⟨1, 0, 1, 0⟩ :=
      (huart.unique huart').trans (hmodbus'.unique hmodbus)
    exact absurd hsame (by decide)
  · intro hmultiple hbound canId hid hlow
    exact can_accounts interval topicPrefix hinvalid can hid hlow hmultiple hbound

/-- Ninety degrees, five above the range. -/
def hotReading : RawReading :=
  ⟨7, 900, 455, 120, 3700, 0, 9⟩

theorem invalid_reading_accounted_unlike_hot :
    ¬hotReading.InRange ∧
    PassAccounts (PortDelivers hotReading.uartFrame.encode) (Gateway.deviceManager 3 (ascii "gateway"))
      UartDevice.interface openedUart ⟨0, 1, 1, 1⟩ ∧
    PassAccounts (CanDelivers (hotReading.canFrame 0x107)) (Gateway.deviceManager 3 (ascii "gateway"))
      CanDevice.interface { interfaceName := ascii "can0" } ⟨1, 0, 1, 0⟩ := by
  have hpaths := invalid_reading_accounted_unlike hotReading (by decide) 3 (ascii "gateway") openedUart rfl
    (synced_reset _) frostModbus rfl rfl (by decide) 0 (le_refl _) { interfaceName := ascii "can0" }
  exact ⟨by decide, hpaths.2.1, hpaths.2.2.2 (by decide) (by decide) 0x107 (by decide) (by decide)⟩

/-- The reading of ninety degrees is not accounted alike. -/
theorem hot_reading_accounted_unlike :
    ¬AccountedAlike hotReading 3 (ascii "gateway") openedUart frostModbus 0 { interfaceName := ascii "can0" } := by
  rintro ⟨amounts, huart, hmodbus, -⟩
  have hzero := huart.unique (uart_accounts 3 (ascii "gateway") (by decide) rfl (synced_reset _))
  have hone := hmodbus.unique (modbus_accounts 3 (ascii "gateway") (by decide) rfl rfl (by decide) (le_refl _))
  rw [hzero] at hone
  exact absurd hone (by decide)

end EdgeGateway
