import EdgeGateway.Proofs.FrameStream
import EdgeGateway.Proofs.GatewayHandlers

/-!
# The UART worker

What a worker over a UART device does to its ledger, whatever the port answers: the readings it hands
over, and the errors it counts and reports.
-/

namespace EdgeGateway
open CallTree Scanning

/-- The reading in a frame, if `parse_sensor_data` accepts it. -/
def reading (frame : Frame) : Option SensorData :=
  match parseSensorData frame with
  | (true, data) => some data
  | (false, _) => none

/-- The readings in the frames that a fresh parser extracts. -/
def sessionReadings (bytes : List UInt8) : List SensorData :=
  match FrameParser.parseStream bytes with
  | .ok frames => frames.filterMap reading
  | .error _ => []

/-- The number of frames that a fresh parser extracts and `parse_sensor_data` rejects. -/
def sessionRejected (bytes : List UInt8) : Nat :=
  match FrameParser.parseStream bytes with
  | .ok frames => frames.countP (fun frame => (reading frame).isNone)
  | .error _ => 0

/-- The parser holds what a scan of `s` leaves, and its counts have been taken. -/
structure Synced (p : FrameParser) (s : List UInt8) : Prop where
  pending : p.buffer.contents = (frameScanner.scan s).pending
  crc : p.crcErrorCount = 0
  length : p.lengthErrorCount = 0
  overflow : p.overflowByteCount = 0

lemma scan_nil : frameScanner.scan [] = ⟨[], [], 0, []⟩ :=
  frameScanner.scanFrom_need rfl

lemma synced_reset (p : FrameParser) : Synced p.reset [] := by
  refine ⟨?_, rfl, rfl, rfl⟩
  rw [scan_nil]
  exact ByteRingBuffer.contents_clear _

lemma Synced.feed {p : FrameParser} {s : List UInt8} (h : Synced p s) (bytes : List UInt8) :
    ∃ p' frames, p.feed bytes = .ok (p', frames) ∧ p'.overflowByteCount = 0 ∧
      framesOf (frameScanner.scan (s ++ bytes)) = framesOf (frameScanner.scan s) ++ frames ∧
      Synced ⟨p'.buffer, 0, 0, 0⟩ (s ++ bytes) ∧
      (frameScanner.scan (s ++ bytes)).errors.count .crc =
        (frameScanner.scan s).errors.count .crc + p'.crcErrorCount ∧
      (frameScanner.scan (s ++ bytes)).errors.count .length =
        (frameScanner.scan s).errors.count .length + p'.lengthErrorCount := by
  have hdrained : p.Drained := by
    unfold FrameParser.Drained
    rw [h.pending]
    exact frameScanner.verdict_pending 0 s
  obtain ⟨p', hfeed, hadv⟩ := p.feed_spec hdrained bytes
  obtain ⟨-, herrs, hpend⟩ := frameScanner.scanFrom_values 0
    (frameScanner.scanFrom 0 s).position (p.buffer.contents ++ bytes)
  have hscan : frameScanner.scan (s ++ bytes) = (frameScanner.scan s).andThen
      (frameScanner.scanFrom (frameScanner.scanFrom 0 s).position (p.buffer.contents ++ bytes)) := by
    rw [h.pending]
    exact frameScanner.scanFrom_append 0 s bytes
  refine ⟨p', _, hfeed, hadv.overflow.trans h.overflow, ?_, ⟨?_, rfl, rfl, rfl⟩, ?_, ?_⟩
  · rw [hscan, framesOf_andThen, framesOf_scanFrom 0 (frameScanner.scanFrom 0 s).position]
  · rw [hscan]
    exact hadv.contents.trans hpend
  · rw [hscan, Outcome.andThen, List.count_append, hadv.crc, h.crc, Nat.zero_add, herrs]
  · rw [hscan, Outcome.andThen, List.count_append, hadv.length, h.length, Nat.zero_add, herrs]

lemma parseStream_eq_scan (s : List UInt8) :
    FrameParser.parseStream s = .ok (framesOf (frameScanner.scan s)) := by
  obtain ⟨p', hfeed, -⟩ := FrameParser.fresh.feed_spec FrameParser.drained_fresh s
  have hcontents : FrameParser.fresh.buffer.contents = [] := ByteRingBuffer.contents_empty _
  rw [hcontents, List.nil_append] at hfeed
  rw [FrameParser.parseStream, hfeed]
  rfl

lemma sessionReadings_eq (s : List UInt8) :
    sessionReadings s = (framesOf (frameScanner.scan s)).filterMap reading := by
  rw [sessionReadings, parseStream_eq_scan]

lemma sessionRejected_eq (s : List UInt8) :
    sessionRejected s = (framesOf (frameScanner.scan s)).countP (fun frame => (reading frame).isNone) := by
  rw [sessionRejected, parseStream_eq_scan]

lemma sessionReadings_nil : sessionReadings [] = [] := by
  rw [sessionReadings_eq, scan_nil]
  rfl

lemma sessionRejected_nil : sessionRejected [] = 0 := by
  rw [sessionRejected_eq, scan_nil]
  rfl

namespace UartDevice

lemma takeFrames_eq (pending : List SensorData) (stats : ProtocolErrorStats) (frames : List Frame) :
    takeFrames pending stats frames =
      (pending ++ frames.filterMap reading,
        { stats with
          genericErrors := stats.genericErrors + frames.countP (fun frame => (reading frame).isNone) }) := by
  induction frames generalizing pending stats with
  | nil => simp [takeFrames]
  | cons frame frames ih =>
    unfold takeFrames
    split
    · rename_i data hparse
      have hreading : reading frame = some data := by rw [reading, hparse]
      rw [ih]
      simp [hreading]
    · rename_i data hparse
      have hreading : reading frame = none := by rw [reading, hparse]
      rw [ih]
      simp [hreading, Nat.add_assoc, Nat.add_comm 1]

/-- After bytes are received: the statistics of the call, and the device with the new readings in
`pending_`, before one of them is handed over. -/
lemma receive_eq (d : UartDevice) {s : List UInt8} (bytes : List UInt8) (h : Synced d.parser s)
    (hpending : d.pending = []) :
    ∃ (stats : ProtocolErrorStats) (d' : UartDevice), d.receive bytes = d'.deliver stats ∧
      Synced d'.parser (s ++ bytes) ∧
      sessionReadings (s ++ bytes) = sessionReadings s ++ d'.pending ∧
      sessionRejected (s ++ bytes) = sessionRejected s + stats.genericErrors ∧
      d'.status.protocol = d.status.protocol ∧
      d'.status.errorCount = d.status.errorCount + stats.total ∧
      (frameScanner.scan (s ++ bytes)).errors.count .crc =
        (frameScanner.scan s).errors.count .crc + stats.crcErrors ∧
      (frameScanner.scan (s ++ bytes)).errors.count .length =
        (frameScanner.scan s).errors.count .length + stats.lengthErrors ∧
      stats.overflowBytes = 0 := by
  obtain ⟨p', frames, hfeed, hoverflow, hframes, hsynced, hcrc, hlength⟩ := h.feed bytes
  unfold receive
  rw [hfeed]
  simp only [FrameParser.takeCrcErrorCount, FrameParser.takeLengthErrorCount,
    FrameParser.takeOverflowByteCount, takeFrames_eq, hpending, List.nil_append, Nat.zero_add]
  refine ⟨_, _, rfl, ?_, ?_, ?_, ?_, ?_, hcrc, hlength, hoverflow⟩
  · split
    · exact hsynced
    · exact hsynced
  · rw [sessionReadings_eq, sessionReadings_eq, hframes, List.filterMap_append]
    split
    · rfl
    · rfl
  · rw [sessionRejected_eq, sessionRejected_eq, hframes, List.countP_append]
  · split
    · rfl
    · rfl
  · split
    · rfl
    · rename_i hempty
      simp only [Bool.not_eq_true, Bool.not_eq_false', ProtocolErrorStats.isEmpty, beq_iff_eq] at hempty
      rw [hempty]
      rfl

end UartDevice

/-- What `read` reports with statistics: nothing when they are empty. -/
def reportsOf (stats : ProtocolErrorStats) : List ProtocolErrorStats :=
  if stats.isEmpty then [] else [stats]

lemma sum_reportSize_reportsOf (stats : ProtocolErrorStats) :
    ((reportsOf stats).map reportSize).sum = stats.total := by
  unfold reportsOf
  by_cases hempty : stats.isEmpty
  · have htotal : stats.total = 0 := by simpa [ProtocolErrorStats.isEmpty] using hempty
    rw [if_pos hempty, htotal]
    rfl
  · rw [if_neg hempty]
    simp [reportSize, hempty]

lemma sum_genericErrors_reportsOf (stats : ProtocolErrorStats) :
    ((reportsOf stats).map ProtocolErrorStats.genericErrors).sum = stats.genericErrors := by
  unfold reportsOf
  by_cases hempty : stats.isEmpty
  · have htotal : stats.total = 0 := by simpa [ProtocolErrorStats.isEmpty] using hempty
    have hgeneric : stats.genericErrors = 0 := by
      unfold ProtocolErrorStats.total at htotal
      omega
    rw [if_pos hempty, hgeneric]
    rfl
  · rw [if_neg hempty]
    simp

/-- The books of a UART worker between two passes. -/
structure UartBooks (m : DeviceManager) (w : Worker UartDevice) (l : Ledger) : Prop where
  data : m.dataHandler.isSome → l.delivered ++ w.input.pending = l.sessions.flatMap sessionReadings
  synced : w.started = true → ∃ earlier current, l.sessions = earlier ++ [current] ∧
    Synced w.input.parser current
  protocol : w.input.status.protocol = .uart
  errors : m.errorHandler.isSome → ∃ stats : List ProtocolErrorStats,
    l.reports = stats.map (fun s => (.uart, s)) ∧
    w.input.status.errorCount = (stats.map reportSize).sum ∧
    (stats.map ProtocolErrorStats.genericErrors).sum = (l.sessions.map sessionRejected).sum

lemma uartBooks_new (m : DeviceManager) (path : Text) (baudRate : Int) :
    UartBooks m { input := { path := path, baudRate := baudRate } } {} := by
  refine ⟨fun _ => rfl, ?_, rfl, fun _ => ⟨[], rfl, rfl, rfl⟩⟩
  intro h
  cases h

section

variable {m : DeviceManager} {d d' : UartDevice} {l l' : Ledger} {started started' : Bool}

/-- Books stay in order when a part of the pending and new readings is delivered, and when what is
reported is what the device counted. -/
lemma UartBooks.advance (h : UartBooks m ⟨started, d⟩ l) (out fresh : List SensorData)
    (stats : List ProtocolErrorStats)
    (hdelivered : m.dataHandler.isSome → l'.delivered = l.delivered ++ out)
    (hpending : out ++ d'.pending = d.pending ++ fresh)
    (hreadings : l'.sessions.flatMap sessionReadings = l.sessions.flatMap sessionReadings ++ fresh)
    (hreports : m.errorHandler.isSome → l'.reports = l.reports ++ stats.map (fun s => (.uart, s)))
    (hcount : d'.status.errorCount = d.status.errorCount + (stats.map reportSize).sum)
    (hrejected : (l'.sessions.map sessionRejected).sum =
      (l.sessions.map sessionRejected).sum + (stats.map ProtocolErrorStats.genericErrors).sum)
    (hprotocol : d'.status.protocol = d.status.protocol)
    (hsynced : started' = true → ∃ earlier current, l'.sessions = earlier ++ [current] ∧
      Synced d'.parser current) :
    UartBooks m ⟨started', d'⟩ l' := by
  refine ⟨?_, hsynced, hprotocol.trans h.protocol, ?_⟩
  · intro hset
    have hdata : l.delivered ++ d.pending = _ := h.data hset
    calc l'.delivered ++ d'.pending = l.delivered ++ (out ++ d'.pending) := by
          rw [hdelivered hset, List.append_assoc]
      _ = l.delivered ++ d.pending ++ fresh := by rw [hpending, List.append_assoc]
      _ = l'.sessions.flatMap sessionReadings := by rw [hdata, hreadings]
  · intro hset
    obtain ⟨earlier, hearlier, hsize, hgeneric⟩ := h.errors hset
    have hsize : d.status.errorCount = (earlier.map reportSize).sum := hsize
    refine ⟨earlier ++ stats, ?_, ?_, ?_⟩
    · rw [hreports hset, hearlier, List.map_append]
    · rw [List.map_append, List.sum_append, ← hsize]
      exact hcount
    · rw [List.map_append, List.sum_append, hgeneric, hrejected]

end

section

variable {ok : Ledger → (o : WorkerOp) → o.Ans → Prop} {m : DeviceManager} {d : UartDevice} {l : Ledger}

lemma UartDevice.wp_read {W : Type} {R : Env deviceSignature W} {w : W} {timeout : Int}
    {Q : DeviceReadResult × UartDevice → W → Prop}
    (hdata : ∀ data rest, d.pending = data :: rest →
      Q ({ code := .data, data := some data }, { d with pending := rest }) w)
    (hfailed : ∀ error w', d.pending = [] → R w (.readSome timeout) (.error error) w' →
      wp R (d.recordErrors 1).stop (fun d' => Q ({ code := .transportError, error := error }, d')) w')
    (hnothing : ∀ w', d.pending = [] → R w (.readSome timeout) (.ok []) w' → Q ({}, d) w')
    (hbytes : ∀ byte bytes w', d.pending = [] → R w (.readSome timeout) (.ok (byte :: bytes)) w' →
      wp R (d.receive (byte :: bytes)) Q w') :
    wp R (d.read timeout) Q w := by
  unfold UartDevice.read
  cases hpending : d.pending with
  | cons data rest => exact hdata data rest hpending
  | nil =>
    rw [wp_bind]
    intro answer w' hread
    match answer with
    | .error error =>
      rw [wp_ret, wp_bind]
      exact hfailed error w' hpending hread
    | .ok [] => exact hnothing w' hpending hread
    | .ok (byte :: bytes) => exact hbytes byte bytes w' hpending hread

lemma UartDevice.wp_deliver {W : Type} {R : Env deviceSignature W} {w : W} {stats : ProtocolErrorStats}
    {Q : DeviceReadResult × UartDevice → W → Prop}
    (hrejected : d.pending = [] → stats.isEmpty = false →
      Q ({ code := .protocolError, error := ascii "UART frame rejected", errorStats := stats }, d) w)
    (hnothing : d.pending = [] → stats.isEmpty = true → Q ({}, d) w)
    (hdata : ∀ data rest now w', d.pending = data :: rest → R w .unixSeconds now w' →
      Q ({ code := .data
           data := some data
           error := if stats.isEmpty then [] else ascii "UART frame rejected"
           errorStats := stats },
        { d with
          pending := rest
          status :=
            { d.status with
              deviceId := data.deviceId.toUInt32
              online := true
              lastUpdateUnixSeconds := now } }) w') :
    wp R (d.deliver stats) Q w := by
  unfold UartDevice.deliver
  cases hpending : d.pending with
  | nil =>
    cases hempty : stats.isEmpty with
    | true => exact hnothing hpending hempty
    | false => exact hrejected hpending hempty
  | cons data rest =>
    rw [wp_bind]
    intro now w' hnow
    exact hdata data rest now w' hpending hnow

lemma UartDevice.wp_stop {Q : UartDevice → Ledger → Prop} (hQ : Q (d.setOnline false) l) :
    wp (deviceEnv ok) d.stop Q l := by
  intro _ l' hclose
  obtain ⟨-, rfl⟩ := hclose
  exact hQ

/-- The result of `read` is handed over and reported, and the pass ends. -/
lemma UartBooks.handle {result : DeviceReadResult} {d' : UartDevice} {l' : Ledger}
    (h : UartBooks m ⟨true, d⟩ l) (fresh : List SensorData) (stats : List ProtocolErrorStats)
    (hdelivered : l'.delivered = l.delivered) (hreports : l'.reports = l.reports)
    (hhanded : handed result ++ d'.pending = d.pending ++ fresh)
    (hreadings : l'.sessions.flatMap sessionReadings = l.sessions.flatMap sessionReadings ++ fresh)
    (hreported : reported result .uart = stats.map (fun s => (.uart, s)))
    (hcount : d'.status.errorCount = d.status.errorCount + (stats.map reportSize).sum)
    (hrejected : (l'.sessions.map sessionRejected).sum =
      (l.sessions.map sessionRejected).sum + (stats.map ProtocolErrorStats.genericErrors).sum)
    (hprotocol : d'.status.protocol = d.status.protocol)
    (hsynced : result.code ≠ .transportError → ∃ earlier current, l'.sessions = earlier ++ [current] ∧
      Synced d'.parser current) :
    wp (ledgerEnv ok) (m.handleResult UartDevice.interface result d') (UartBooks m) l' := by
  have huart : (UartDevice.interface.getDeviceStatus d').protocol = .uart := hprotocol.trans h.protocol
  unfold DeviceManager.handleResult
  rw [wp_bind]
  apply wp_handOver
  intro delivered published recorded hdelivered'
  rw [wp_bind]
  apply wp_report
  intro reports charged hreports'
  rw [huart, hreported] at hreports'
  have hout : m.dataHandler.isSome → delivered = l.delivered ++ handed result := by
    rw [← hdelivered]
    exact hdelivered'
  have hin : m.errorHandler.isSome → reports = l.reports ++ stats.map (fun s => (.uart, s)) := by
    rw [← hreports]
    exact hreports'
  apply wp_endPass
  · intro htransport
    apply UartDevice.wp_stop
    exact h.advance (handed result) fresh stats hout hhanded hreadings hin hcount hrejected hprotocol
      (fun hstarted => by cases hstarted)
  · intro hgo
    exact h.advance (handed result) fresh stats hout hhanded hreadings hin hcount hrejected hprotocol
      (fun _ => hsynced hgo)

/-- More bytes in the current session. -/
lemma Ledger.sessions_receive {earlier : List (List UInt8)} {current : List UInt8}
    (h : l.sessions = earlier ++ [current]) (bytes : List UInt8) :
    (l.receive bytes).sessions = earlier ++ [current ++ bytes] := by
  simp [Ledger.receive, h]

/-- The bytes received are parsed, and what comes of them is handed over and reported. -/
lemma UartBooks.wp_receive (h : UartBooks m ⟨true, d⟩ l) {earlier : List (List UInt8)} {current : List UInt8}
    (hsessions : l.sessions = earlier ++ [current]) (hsynced : Synced d.parser current)
    (hpending : d.pending = []) (bytes : List UInt8) :
    wp (deviceEnv ok) (d.receive bytes)
      (fun answer => wp (ledgerEnv ok) (m.handleResult UartDevice.interface answer.1 answer.2) (UartBooks m))
      (l.receive bytes) := by
  obtain ⟨stats, d', hreceive, hsynced', hreadings, hrejected, hprotocol, hcount, -⟩ :=
    d.receive_eq bytes hsynced hpending
  have hreceived := Ledger.sessions_receive hsessions bytes
  have hflat : (l.receive bytes).sessions.flatMap sessionReadings =
      l.sessions.flatMap sessionReadings ++ d'.pending := by
    rw [hreceived, hsessions, List.flatMap_append, List.flatMap_append, List.append_assoc]
    simp [hreadings]
  have hsum : ((l.receive bytes).sessions.map sessionRejected).sum =
      (l.sessions.map sessionRejected).sum + stats.genericErrors := by
    rw [hreceived, hsessions]
    simp [hrejected, Nat.add_assoc]
  -- the three ways in which the call can end differ only in the result
  have hend : ∀ (result : DeviceReadResult) (d'' : UartDevice),
      handed result ++ d''.pending = d'.pending →
      reported result .uart = (reportsOf stats).map (fun s => (.uart, s)) →
      d''.parser = d'.parser → d''.status.errorCount = d'.status.errorCount →
      d''.status.protocol = d'.status.protocol →
      wp (ledgerEnv ok) (m.handleResult UartDevice.interface result d'') (UartBooks m)
        (l.receive bytes) := by
    intro result d'' hhanded hreported hparser hcount' hprotocol'
    apply h.handle d'.pending (reportsOf stats)
    · rfl
    · rfl
    · rw [hpending, hhanded]
      rfl
    · exact hflat
    · exact hreported
    · rw [hcount', hcount, sum_reportSize_reportsOf]
    · rw [hsum, sum_genericErrors_reportsOf]
    · exact hprotocol'.trans hprotocol
    · exact fun _ => ⟨earlier, _, hreceived, hparser ▸ hsynced'⟩
  rw [hreceive]
  apply UartDevice.wp_deliver
  · intro hpending' hstats
    apply hend _ d' _ _ rfl rfl rfl
    · rfl
    · simp [reported, DeviceManager.reportError, reportsOf, hstats]
  · intro hpending' hstats
    have hnone : reportsOf stats = [] := if_pos hstats
    apply hend _ d' _ _ rfl rfl rfl
    · rfl
    · rw [hnone]
      rfl
  · intro data rest now l₂ hpending' hnow
    obtain ⟨-, rfl⟩ := hnow
    apply hend
    · rw [hpending']
      rfl
    · cases hstats : stats.isEmpty with
      | true => simp [reported, DeviceManager.reportError, reportsOf, hstats]
      | false => simp [reported, DeviceManager.reportError, reportsOf, hstats]
    · rfl
    · rfl
    · rfl

lemma wp_readInput_uart (h : UartBooks m ⟨true, d⟩ l) :
    wp (ledgerEnv ok) (m.readInput UartDevice.interface d) (UartBooks m) l := by
  obtain ⟨earlier, current, hsessions, hsynced⟩ := h.synced rfl
  unfold DeviceManager.readInput
  rw [wp_bind, wp_device]
  apply UartDevice.wp_read
  · intro data rest hpending
    apply h.handle [] []
    · rfl
    · rfl
    · rw [hpending, List.append_nil]
      rfl
    · rw [List.append_nil]
    · rfl
    · rfl
    · rfl
    · rfl
    · exact fun _ => ⟨earlier, current, hsessions, hsynced⟩
  · intro error l₁ hpending hread
    obtain ⟨-, rfl⟩ := hread
    apply UartDevice.wp_stop
    apply h.handle [] [{}]
    · rfl
    · rfl
    · exact (List.append_nil _).symm
    · exact (List.append_nil _).symm
    · rfl
    · rfl
    · rfl
    · rfl
    · intro hcode
      exact absurd rfl hcode
  · intro l₁ hpending hread
    obtain ⟨-, rfl⟩ := hread
    have hreceived := Ledger.sessions_receive hsessions []
    rw [List.append_nil, ← hsessions] at hreceived
    apply h.handle [] []
    · rfl
    · rfl
    · rw [hpending]
      rfl
    · rw [List.append_nil]
      exact congrArg (List.flatMap sessionReadings) hreceived
    · rfl
    · rfl
    · exact congrArg (fun sessions => (sessions.map sessionRejected).sum) hreceived
    · rfl
    · exact fun _ => ⟨earlier, current, hreceived.trans hsessions, hsynced⟩
  · intro byte bytes l₁ hpending hread
    obtain ⟨-, rfl⟩ := hread
    exact h.wp_receive hsessions hsynced hpending (byte :: bytes)

/-- A pass keeps the books in order. -/
theorem wp_runDevice_uart {w : Worker UartDevice} (h : UartBooks m w l) :
    wp (ledgerEnv ok) (m.runDevice UartDevice.interface w) (UartBooks m) l := by
  obtain ⟨started, d⟩ := w
  apply wp_runDevice
  · intro hstarted
    obtain rfl : started = true := hstarted
    exact wp_readInput_uart h
  · intro _ answer l₁ hopen
    obtain ⟨-, rfl⟩ := hopen
    match answer with
    | some error =>
      refine ⟨nofun, fun error' _ reports charged hreports => ?_⟩
      refine h.advance [] [] [{}] ?_ ?_ ?_ ?_ rfl rfl rfl ?_
      · exact fun _ => (List.append_nil _).symm
      · exact (List.append_nil _).symm
      · exact (List.append_nil _).symm
      · intro hset
        have hprotocol : d.status.protocol = .uart := h.protocol
        change reports = _
        rw [hreports hset]
        change l.reports ++ [(d.status.protocol, _)] = _
        rw [hprotocol]
        rfl
      · intro hstarted
        cases hstarted
    | none =>
      refine ⟨fun _ => ?_, nofun⟩
      apply wp_readInput_uart
      refine h.advance [] [] [] ?_ ?_ ?_ ?_ rfl ?_ rfl ?_
      · exact fun _ => (List.append_nil _).symm
      · exact (List.append_nil _).symm
      · simp [Ledger.noteDevice, sessionReadings_nil]
      · exact fun _ => (List.append_nil _).symm
      · simp [Ledger.noteDevice, sessionRejected_nil]
      · exact fun _ => ⟨l.sessions, [], rfl, synced_reset _⟩

end

/-- However the port opens, fails and answers, what was handed over and what is still pending are the
readings of the sessions, each session parsed by itself, in order and each once. -/
theorem uart_delivers_sessions (m : DeviceManager) (hhandler : m.dataHandler.isSome)
    (path : Text) (baudRate : Int) {w : Worker UartDevice} {l : Ledger}
    (hrun : Loop (ledgerEnv (fun _ _ _ => True)) (m.runDevice UartDevice.interface)
      { input := { path := path, baudRate := baudRate } } {} w l) :
    l.delivered ++ w.input.pending = l.sessions.flatMap sessionReadings :=
  (hrun.invariant (fun _ _ h => wp_runDevice_uart h) (uartBooks_new m path baudRate)).data hhandler

/-- A report of device 7 with a sequence number. -/
def sensorReport (sequence : UInt8) : WireFrame where
  cmd := 1
  deviceId := 7
  payload := [0, 235, 1, 199, 0, 120, 14, 116, 0, 0, sequence]
  payload_le := by simp

/-- The rest of a frame that was cut, and three whole ones. -/
def afterBreak : List UInt8 :=
  (sensorReport 1).encode.drop 9 ++ (sensorReport 2).encode ++ (sensorReport 3).encode ++
    (sensorReport 4).encode

/-- A port that cannot be opened at first, and whose line breaks inside of a frame: the rest of it comes in after
the reconnect. -/
def brokenLine (l : Ledger) : (o : WorkerOp) → Option o.Ans
  | .device (.openPort _ _) => some (if l.reports = [] then some (ascii "no such device") else none)
  | .device (.readSome _) => some (match l.sessions with
      | [[]] => .ok ((sensorReport 1).encode.take 9)
      | [_] => .error (ascii "input/output error")
      | [_, []] => .ok afterBreak
      | _ => .ok [])
  | .device .closePort => some ()
  | .device .unixSeconds => some (1700000000 : Nat)
  | .sleepFor _ => some ()
  | .handleData _ _ => some ()
  | .handleError _ _ _ _ => some ()
  | .inDataHandler (.publish _ _) => some ([] : List PublishOutcome)
  | .inDataHandler (.record _ _) => some ()
  | .inDataHandler (.log _ _ _) => some ()
  | .inErrorHandler (.record _ _) => some ()
  | .inErrorHandler (.log _ _ _) => some ()
  | _ => none

/-- The worker of the gateway on this port, for a number of passes. -/
def brokenLineRun (passes : Nat) : Option (Worker UartDevice × Ledger) :=
  Loop.follow (fun l o => (brokenLine l o).map (fun a => (a, l.note ⟨o, a⟩)))
    ((Gateway.deviceManager 3 (ascii "gateway")).runDevice UartDevice.interface) passes
    { input := { path := ascii "/dev/ttyUSB0", baudRate := 115200 } } {}

/-- The cut frame is lost, two of the others are handed over and the last one is pending. -/
theorem uart_delivers_sessions_broken_line :
    ∃ w l, Loop (ledgerEnv (fun _ _ _ => True))
        ((Gateway.deviceManager 3 (ascii "gateway")).runDevice UartDevice.interface)
        { input := { path := ascii "/dev/ttyUSB0", baudRate := 115200 } } {} w l ∧
      l.sessions = [(sensorReport 1).encode.take 9, afterBreak] ∧
      l.delivered.map SensorData.sequence = [2, 3] ∧ w.input.pending.map SensorData.sequence = [4] ∧
      l.delivered ++ w.input.pending = l.sessions.flatMap sessionReadings := by
  have hrun : (brokenLineRun 5).map (fun x =>
      (x.2.sessions, x.2.delivered.map SensorData.sequence, x.1.input.pending.map SensorData.sequence)) =
        some ([(sensorReport 1).encode.take 9, afterBreak], [2, 3], [4]) := by
    decide +kernel
  obtain ⟨⟨w, l⟩, hfollow, hresult⟩ := Option.map_eq_some_iff.mp hrun
  obtain ⟨hsessions, hrest⟩ := Prod.mk.inj hresult
  obtain ⟨hdelivered, hpending⟩ := Prod.mk.inj hrest
  have hloop : Loop (ledgerEnv (fun _ _ _ => True))
      ((Gateway.deviceManager 3 (ascii "gateway")).runDevice UartDevice.interface)
      { input := { path := ascii "/dev/ttyUSB0", baudRate := 115200 } } {} w l := by
    apply loop_of_follow _ hfollow
    intro l o a l' hanswer
    obtain ⟨_, -, heq⟩ := Option.map_eq_some_iff.mp hanswer
    obtain ⟨rfl, rfl⟩ := Prod.mk.inj heq
    exact ⟨trivial, rfl⟩
  exact ⟨w, l, hloop, hsessions, hdelivered, hpending,
    uart_delivers_sessions (Gateway.deviceManager 3 (ascii "gateway")) rfl _ _ hloop⟩

end EdgeGateway
