import EdgeGateway.Proofs.ModbusPoll

/-!
# One reading, one message

A reading that arrives over UART, Modbus or CAN is published as the same message, or on none of the
three paths.
-/

namespace EdgeGateway
open CallTree Scanning

/-! ### What a pass publishes -/

/-- The pass over a started device can be completed, and however it is completed, it publishes `out`. -/
def PassPublishes {σ : Type} (ok : Ledger → (o : WorkerOp) → o.Ans → Prop) (m : DeviceManager)
    (interface : DeviceInterface σ) (d : σ) (out : List (Text × Text)) : Prop :=
  (∃ w l, Exec (ledgerEnv ok) (m.runDevice interface ⟨true, d⟩) {} w l) ∧
  ∀ w l, Exec (ledgerEnv ok) (m.runDevice interface ⟨true, d⟩) {} w l → l.published = out

section

variable {σ : Type} {interface : DeviceInterface σ} {ok : Ledger → (o : WorkerOp) → o.Ans → Prop} {l : Ledger}
  {d : σ}

/-- What `read` hands over is delivered. -/
lemma wp_readInput_delivered {m : DeviceManager} (hset : m.dataHandler.isSome) {out : List SensorData}
    (hread : wp (deviceEnv ok) (interface.read 250 d) (fun answer _ => handed answer.1 = out) l) :
    wp (ledgerEnv ok) (m.readInput interface d) (fun _ l' => l'.delivered = l.delivered ++ out) l := by
  have hframe : wp (deviceEnv ok) (interface.read 250 d) (fun _ l' => l'.delivered = l.delivered) l :=
    wp_device_frame _ (fun _ _ _ => rfl)
  unfold DeviceManager.readInput
  rw [wp_bind, wp_device]
  apply wp_mono _ (wp_and _ hread hframe)
  rintro ⟨result, d'⟩ l₁ ⟨hhanded, hsame⟩
  change wp _ (m.handleResult interface result d') _ l₁
  have hhanded : handed result = out := hhanded
  unfold DeviceManager.handleResult
  rw [wp_bind]
  apply wp_handOver
  intro delivered published recorded hdelivered
  rw [wp_bind]
  apply wp_report
  intro reports charged _
  have hout : delivered = l.delivered ++ out := by
    rw [hdelivered hset, hhanded, hsame]
  apply wp_endPass
  · intro _
    exact wp_device_frame _ (fun _ _ _ => hout)
  · intro _
    exact hout

/-- A pass publishes what it delivers, as far as it is valid. -/
lemma passPublishes {interval : Int} {topicPrefix : Text} {out : List SensorData}
    (hanswer : ∀ l o, ¬IsTerminate o → ∃ a, ok l o a)
    (hends : (interface.read 250 d).Avoids DeviceTerminates)
    (hstop : ∀ d, (interface.stop d).Avoids DeviceTerminates)
    (hread : wp (deviceEnv ok) (interface.read 250 d) (fun answer _ => handed answer.1 = out) {}) :
    PassPublishes ok (Gateway.deviceManager interval topicPrefix) interface d
      (out.flatMap (publication topicPrefix)) := by
  constructor
  · apply exists_exec _ (readInput_avoids _ hends hstop)
    intro l o ho
    obtain ⟨a, ha⟩ := hanswer l o ho
    exact ⟨a, _, ha, rfl⟩
  · intro w l hexec
    have hdelivered : l.delivered = out :=
      (wp_iff_exec _ _ _ _).mp (wp_readInput_delivered (m := Gateway.deviceManager interval topicPrefix) rfl hread)
        w l hexec
    have hentered : Entered topicPrefix l :=
      (wp_iff_exec _ _ _ _).mp ((entered_empty topicPrefix).runDevice interface ⟨true, d⟩) w l hexec
    rw [hentered.published, hdelivered]

end

/-- What is published of a reading. -/
def RawReading.message (r : RawReading) (topicPrefix : Text) : List (Text × Text) :=
  if r.InRange then
    [(topicPrefix ++ ascii "/" ++ decimal r.deviceId.toNat ++ ascii "/data", sensorDataToJson r.toData)]
  else
    []

lemma RawReading.publication_eq (r : RawReading) (topicPrefix : Text) :
    publication topicPrefix (validateSensorDataImpl r.toData) = r.message topicPrefix := by
  obtain ⟨hvalid, hdata⟩ := r.validate_toData
  unfold publication RawReading.message
  rw [hvalid]
  by_cases hrange : r.InRange
  · rw [if_pos (decide_eq_true hrange), if_pos hrange, hdata hrange]
    rfl
  · rw [if_neg (by simpa using hrange), if_neg hrange]

/-! ### The UART path -/

/-- A port that delivers `bytes` in one piece. -/
def PortDelivers (bytes : List UInt8) (_ : Ledger) : (o : WorkerOp) → o.Ans → Prop
  | .device (.readSome _) => fun (answer : Except Text (List UInt8)) => answer = .ok bytes
  | _ => fun _ => True

lemma portDelivers_answers (bytes : List UInt8) (l : Ledger) (o : WorkerOp) (h : ¬IsTerminate o) :
    ∃ a, PortDelivers bytes l o a := by
  obtain ⟨a⟩ := exists_answer h
  unfold PortDelivers
  split
  · exact ⟨.ok bytes, rfl⟩
  · exact ⟨a, trivial⟩

/-- A frame at the front of a stream is extracted first. -/
lemma framesOf_scan_encode_append (f : WireFrame) (s : List UInt8) :
    framesOf (frameScanner.scan (f.encode ++ s)) = f.toFrame :: framesOf (frameScanner.scan s) := by
  rw [Scanner.scan, Scanner.scanFrom_emit _ (frameVerdict_encode f s), List.drop_left, framesOf_andThen,
    framesOf_scanFrom _ 0]
  rfl

lemma scan_encode (f : WireFrame) : framesOf (frameScanner.scan f.encode) = [f.toFrame] := by
  rw [← List.append_nil f.encode, framesOf_scan_encode_append, scan_nil]
  rfl

lemma RawReading.sessionReadings_encode (r : RawReading) :
    sessionReadings r.uartFrame.encode =
      if r.InRange then [validateSensorDataImpl r.toData] else [] := by
  rw [sessionReadings_eq, scan_encode, List.filterMap_cons, List.filterMap_nil, reading,
    r.parseSensorData_uartFrame, r.validate_toData.1]
  by_cases hrange : r.InRange
  · simp [hrange]
  · simp [hrange]

/-- A device with nothing pending reads the bytes and takes the frames out of them. -/
lemma UartDevice.wp_read_delivered {d : UartDevice} (hpending : d.pending = []) {bytes : List UInt8}
    (hbytes : bytes ≠ []) {Q : DeviceReadResult × UartDevice → Ledger → Prop}
    (hreceive : ∀ l, wp (deviceEnv (PortDelivers bytes)) (d.receive bytes) Q l) :
    wp (deviceEnv (PortDelivers bytes)) (UartDevice.interface.read 250 d) Q {} := by
  apply UartDevice.wp_read
  · intro data rest hpending'
    rw [hpending] at hpending'
    cases hpending'
  · intro error l _ hread
    obtain ⟨hanswer, -⟩ := hread
    cases hanswer
  · intro l _ hread
    obtain ⟨hanswer, -⟩ := hread
    exact absurd (Except.ok.inj hanswer).symm hbytes
  · intro byte rest l _ hread
    obtain ⟨hanswer, -⟩ := hread
    have hall : byte :: rest = bytes := Except.ok.inj hanswer
    rw [hall]
    exact hreceive l

lemma UartDevice.wp_read_reading {d : UartDevice} (hpending : d.pending = []) (hsynced : Synced d.parser [])
    (r : RawReading) :
    wp (deviceEnv (PortDelivers r.uartFrame.encode)) (UartDevice.interface.read 250 d) (fun answer _ =>
      handed answer.1 = if r.InRange then [validateSensorDataImpl r.toData] else []) {} := by
  apply UartDevice.wp_read_delivered hpending r.uartFrame.encode_ne_nil
  intro l
  obtain ⟨stats, d', hreceive, -, hreadings, -⟩ := d.receive_eq r.uartFrame.encode hsynced hpending
  rw [List.nil_append, sessionReadings_nil, List.nil_append, r.sessionReadings_encode] at hreadings
  rw [hreceive]
  apply UartDevice.wp_deliver
  · intro hnone _
    rw [hreadings, hnone]
    rfl
  · intro hnone _
    rw [hreadings, hnone]
    rfl
  · intro data rest now l' hdata _
    rw [hreadings, hdata]
    rw [hdata] at hreadings
    by_cases hrange : r.InRange
    · rw [if_pos hrange] at hreadings
      rw [← (List.cons.inj hreadings).2]
      rfl
    · rw [if_neg hrange] at hreadings
      cases hreadings

theorem uart_path (r : RawReading) (interval : Int) (topicPrefix : Text) {d : UartDevice}
    (hpending : d.pending = []) (hsynced : Synced d.parser []) :
    PassPublishes (PortDelivers r.uartFrame.encode) (Gateway.deviceManager interval topicPrefix)
      UartDevice.interface d (r.message topicPrefix) := by
  have hout : (if r.InRange then [validateSensorDataImpl r.toData] else []).flatMap (publication topicPrefix) =
      r.message topicPrefix := by
    rw [← r.publication_eq]
    by_cases hrange : r.InRange
    · rw [if_pos hrange, List.flatMap_singleton]
    · rw [if_neg hrange, publication, r.validate_toData.1, if_neg (by simpa using hrange)]
      rfl
  rw [← hout]
  exact passPublishes (portDelivers_answers _) (UartDevice.read_avoids hpending hsynced 250)
    (fun _ => ⟨id, fun _ => trivial⟩) (UartDevice.wp_read_reading hpending hsynced r)

/-! ### The CAN path -/

/-- An interface that delivers `frame`. -/
def CanDelivers (frame : RawCanFrame) (_ : Ledger) : (o : WorkerOp) → o.Ans → Prop
  | .device (.receiveCan _) => fun (answer : CanReceive) => answer = .received frame
  | _ => fun _ => True

lemma canDelivers_answers (frame : RawCanFrame) (l : Ledger) (o : WorkerOp) (h : ¬IsTerminate o) :
    ∃ a, CanDelivers frame l o a := by
  obtain ⟨a⟩ := exists_answer h
  unfold CanDelivers
  split
  · exact ⟨.received frame, rfl⟩
  · exact ⟨a, trivial⟩

/-- The data that the CAN path makes of a frame. -/
def canReading (frame : Canbus.CanFrame) : Except Text SensorData :=
  (Canbus.parseSensorFrame frame).map toSensorData

lemma CanDevice.wp_read_reading {d : CanDevice} {r : RawReading} {canId : UInt32} (hid : canId ≤ 0x7FF)
    (hlow : canId &&& 0xFF = r.deviceId.toUInt32) (hmultiple : r.battery % 100 = 0)
    (hbound : r.battery ≤ 25500) :
    wp (deviceEnv (CanDelivers (r.canFrame canId))) (CanDevice.interface.read 250 d)
      (fun answer _ => HandsOver (validateSensorDataImpl { r with sequence := 0 }.toData) d.status answer.1
        answer.2.status) {} := by
  obtain ⟨hflags, hextended, hmask, -⟩ := RawReading.standard_id hid
  change wp _ (readFrame 250 >>= _) _ _
  rw [wp_bind]
  unfold readFrame
  rw [wp_bind]
  intro answer l' hreceive
  obtain ⟨hanswer, -⟩ := hreceive
  obtain rfl : answer = .received (r.canFrame canId) := hanswer
  have hclear : (r.canFrame canId).canId &&& (canRtrFlag ||| canErrFlag) = 0 := hflags
  have hstandard : (r.canFrame canId).canId &&& canEffFlag = 0 := hextended
  have hsame : (r.canFrame canId).canId &&& canSffMask = canId := hmask
  rw [wp_ret]
  dsimp only
  rw [if_neg (not_not.mpr hclear), Prog.pure_eq, wp_ret]
  simp only [hstandard, hsame, ne_eq, not_true_eq_false, decide_false, Bool.false_eq_true, if_false]
  have hparse : Canbus.parseSensorFrame
      ⟨canId, false, (r.canFrame canId).canDlc, (r.canFrame canId).data⟩ =
      .ok ({ r with sequence := 0 }.toDeviceData .socketCan) :=
    r.parseSensorFrame_canFrame hid hlow hmultiple hbound
  rw [hparse]
  intro now l'' _
  exact ⟨rfl, rfl, rfl⟩

theorem can_path (r : RawReading) (interval : Int) (topicPrefix : Text) (d : CanDevice) {canId : UInt32}
    (hid : canId ≤ 0x7FF) (hlow : canId &&& 0xFF = r.deviceId.toUInt32) (hmultiple : r.battery % 100 = 0)
    (hbound : r.battery ≤ 25500) :
    PassPublishes (CanDelivers (r.canFrame canId)) (Gateway.deviceManager interval topicPrefix)
      CanDevice.interface d ({ r with sequence := 0 }.message topicPrefix) := by
  rw [← RawReading.publication_eq, ← List.flatMap_singleton (publication topicPrefix)]
  exact passPublishes (canDelivers_answers _) (CanDevice.read_avoids d 250)
    (fun _ => ⟨id, fun _ => trivial⟩)
    (wp_mono _ (CanDevice.wp_read_reading hid hlow hmultiple hbound) (fun _ _ h => h.handed_eq))

/-! ### The Modbus path -/

lemma RawReading.answers_registers {d : ModbusDevice} {r : RawReading} {result : DeviceReadResult}
    {after : DeviceStatus} (hslave : d.options.request.slaveId = r.deviceId)
    (h : d.Answers r.registers result after) :
    HandsOver (validateSensorDataImpl r.toData) d.status result after := by
  unfold ModbusDevice.Answers at h
  rw [hslave, r.registersToDeviceData_registers] at h
  exact h

/-- A due poll hands over the reading that the slave answers with. -/
lemma ModbusDevice.wp_read_reading {d : ModbusDevice} {r : RawReading}
    (hslave : d.options.request.slaveId = r.deviceId) (hcount : d.options.request.registerCount = 6)
    {start : Int} (hdue : d.nextPoll ≤ start) :
    wp (deviceEnv (SlaveAnswers start (d.options.responseTimeoutMs * nanosecondsPerMillisecond)
        (r.modbusResponse d.options.request.function)))
      (ModbusDevice.interface.read 250 d)
      (fun answer _ => HandsOver (validateSensorDataImpl r.toData) d.status answer.1 answer.2.status) {} := by
  have hsix : r.registers.length = d.options.request.registerCount.toNat := by
    rw [hcount]
    rfl
  have hbound : r.registers.length ≤ 125 := by
    change 6 ≤ 125
    omega
  rw [r.modbusResponse_eq, ← hslave]
  apply wp_mono _ (ModbusDevice.wp_read_normal hsix hbound hdue)
  intro answer _ h
  exact RawReading.answers_registers hslave h

theorem modbus_path (r : RawReading) (interval : Int) (topicPrefix : Text) {d : ModbusDevice}
    (hslave : d.options.request.slaveId = r.deviceId) (hcount : d.options.request.registerCount = 6)
    (htimeout : 0 < d.options.responseTimeoutMs) {start : Int} (hdue : d.nextPoll ≤ start) :
    PassPublishes
      (SlaveAnswers start (d.options.responseTimeoutMs * nanosecondsPerMillisecond)
        (r.modbusResponse d.options.request.function))
      (Gateway.deviceManager interval topicPrefix) ModbusDevice.interface d (r.message topicPrefix) := by
  have hpositive : 0 < d.options.responseTimeoutMs * nanosecondsPerMillisecond := by
    unfold nanosecondsPerMillisecond
    omega
  rw [← RawReading.publication_eq, ← List.flatMap_singleton (publication topicPrefix)]
  exact passPublishes (slaveAnswers_answers hpositive _) (ModbusDevice.read_avoids d 250)
    (fun _ => ⟨id, fun _ => trivial⟩)
    (wp_mono _ (ModbusDevice.wp_read_reading hslave hcount hdue) (fun _ _ h => h.handed_eq))

/-- The data that the Modbus path makes of a response. -/
def modbusReading (request : Modbus.ReadRequest) (response : List UInt8) : Except Text SensorData :=
  (Modbus.registersToDeviceData (Modbus.parseReadResponse response request) request.slaveId).map toSensorData

/-- One reading, three protocols: the decoders give the same data, but for the sequence number that a
CAN frame does not carry, and each path publishes the same message if the reading is in range, and none
otherwise. -/
theorem one_reading_one_message (r : RawReading) (interval : Int) (topicPrefix : Text)
    (uart : UartDevice) (hpending : uart.pending = []) (hsynced : Synced uart.parser [])
    (modbus : ModbusDevice) (hslave : modbus.options.request.slaveId = r.deviceId)
    (hcount : modbus.options.request.registerCount = 6) (htimeout : 0 < modbus.options.responseTimeoutMs)
    (start : Int) (hdue : modbus.nextPoll ≤ start) (can : CanDevice) :
    (∃ data, parseSensorData r.uartFrame.toFrame = (data.valid, data) ∧
      modbusReading modbus.options.request (r.modbusResponse modbus.options.request.function) = .ok data ∧
      (r.battery % 100 = 0 → r.battery ≤ 25500 → ∀ canId : UInt32, canId ≤ 0x7FF →
        canId &&& 0xFF = r.deviceId.toUInt32 →
        canReading { id := canId, dlc := 8, data := r.canData } = .ok { data with sequence := 0 })) ∧
    PassPublishes (PortDelivers r.uartFrame.encode) (Gateway.deviceManager interval topicPrefix)
      UartDevice.interface uart (r.message topicPrefix) ∧
    PassPublishes
      (SlaveAnswers start (modbus.options.responseTimeoutMs * nanosecondsPerMillisecond)
        (r.modbusResponse modbus.options.request.function))
      (Gateway.deviceManager interval topicPrefix) ModbusDevice.interface modbus (r.message topicPrefix) ∧
    (r.battery % 100 = 0 → r.battery ≤ 25500 → ∀ canId : UInt32, canId ≤ 0x7FF →
      canId &&& 0xFF = r.deviceId.toUInt32 →
      PassPublishes (CanDelivers (r.canFrame canId)) (Gateway.deviceManager interval topicPrefix)
        CanDevice.interface can ({ r with sequence := 0 }.message topicPrefix)) := by
  refine ⟨⟨validateSensorDataImpl r.toData, r.parseSensorData_uartFrame, ?_, ?_⟩,
    uart_path r interval topicPrefix hpending hsynced,
    modbus_path r interval topicPrefix hslave hcount htimeout hdue, ?_⟩
  · have hsix : r.registers.length = modbus.options.request.registerCount.toNat := by
      rw [hcount]
      rfl
    have hbound : r.registers.length ≤ 125 := by
      change 6 ≤ 125
      omega
    rw [modbusReading, r.modbusResponse_eq, ← hslave, Modbus.parseReadResponse_normalResponse hsix (by omega), hslave,
      r.registersToDeviceData_registers]
    exact congrArg Except.ok (r.toSensorData_toDeviceData .modbusRtu)
  · intro hmultiple hbound canId hid hlow
    rw [canReading, r.parseSensorFrame_canFrame hid hlow hmultiple hbound]
    change Except.ok (toSensorData _) = _
    rw [RawReading.toSensorData_toDeviceData, r.validate_sequence]
  · intro hmultiple hbound canId hid hlow
    exact can_path r interval topicPrefix can hid hlow hmultiple hbound

/-- Frost, in range. -/
def frostReading : RawReading :=
  ⟨7, -125, 455, 120, 3700, 0, 9⟩

/-- A UART device that has just been opened. -/
def openedUart : UartDevice :=
  { path := ascii "/dev/ttyUSB0", baudRate := 115200, parser := FrameParser.fresh.reset }

/-- A Modbus device for the slave that took the reading. -/
def frostModbus : ModbusDevice :=
  { options := { port := ascii "/dev/ttyUSB1", request := { slaveId := 7 } } }

theorem one_reading_one_message_frost :
    frostReading.InRange ∧
    PassPublishes (PortDelivers frostReading.uartFrame.encode) (Gateway.deviceManager 3 (ascii "gateway"))
      UartDevice.interface openedUart (frostReading.message (ascii "gateway")) ∧
    PassPublishes (SlaveAnswers 0 500000000 (frostReading.modbusResponse .readHoldingRegisters))
      (Gateway.deviceManager 3 (ascii "gateway")) ModbusDevice.interface frostModbus
      (frostReading.message (ascii "gateway")) ∧
    PassPublishes (CanDelivers (frostReading.canFrame 0x107)) (Gateway.deviceManager 3 (ascii "gateway"))
      CanDevice.interface { interfaceName := ascii "can0" }
      ({ frostReading with sequence := 0 }.message (ascii "gateway")) := by
  have hpaths := one_reading_one_message frostReading 3 (ascii "gateway") openedUart rfl (synced_reset _)
    frostModbus rfl rfl (by decide) 0 (le_refl _) { interfaceName := ascii "can0" }
  exact ⟨by decide, hpaths.2.1, hpaths.2.2.1, hpaths.2.2.2 (by decide) (by decide) 0x107 (by decide) (by decide)⟩

end EdgeGateway
