import EdgeGateway.Proofs.CompletePasses
import EdgeGateway.Proofs.Readings

/-!
# A poll that is answered

A slave that answers a poll with a normal response before the timeout. However the response is cut into
pieces, `read` collects it whole and returns the reading in its registers.
-/

namespace EdgeGateway
open CallTree

/-- `read` returned `data` without an error, and the status of the device counts none. -/
structure HandsOver (data : SensorData) (before : DeviceStatus) (result : DeviceReadResult) (after : DeviceStatus) :
    Prop where
  result : result = { code := .data, data := some data }
  protocol : after.protocol = before.protocol
  errorCount : after.errorCount = before.errorCount

lemma HandsOver.handed_eq {data : SensorData} {before after : DeviceStatus} {result : DeviceReadResult}
    (h : HandsOver data before result after) : handed result = [data] := by
  rw [h.result]
  rfl

/-- A slave that answers with `response` before the timeout, in whatever pieces. The clock starts at
`start`, and what was received so far are the bytes of the ledger. -/
def SlaveAnswers (start timeout : Int) (response : List UInt8) (l : Ledger) : (o : WorkerOp) → o.Ans → Prop
  | .device .steadyNow => fun (now : Int) => start ≤ now ∧ now < start + timeout
  | .device .discardInput => fun (error : Option Text) => error = none
  | .device (.writeAll _) => fun (error : Option Text) => error = none
  | .device (.readSome _) => fun (answer : Except Text (List UInt8)) =>
      response.drop l.sessions.flatten.length ≠ [] →
        ∃ byte bytes, answer = .ok (byte :: bytes) ∧ byte :: bytes <+: response.drop l.sessions.flatten.length
  | _ => fun _ => True

lemma slaveAnswers_answers {start timeout : Int} (htimeout : 0 < timeout) (response : List UInt8) (l : Ledger)
    (o : WorkerOp) (h : ¬IsTerminate o) : ∃ a, SlaveAnswers start timeout response l o a := by
  obtain ⟨a⟩ := exists_answer h
  unfold SlaveAnswers
  split
  · exact ⟨start, le_refl _, by omega⟩
  · exact ⟨none, rfl⟩
  · exact ⟨none, rfl⟩
  · refine ⟨.ok (response.drop l.sessions.flatten.length), fun hmore => ?_⟩
    obtain ⟨byte, bytes, heq⟩ := List.exists_cons_of_ne_nil hmore
    rw [heq]
    exact ⟨byte, bytes, rfl, List.prefix_rfl⟩
  · exact ⟨a, trivial⟩

lemma Ledger.length_receive (l : Ledger) (bytes : List UInt8) :
    (l.receive bytes).sessions.flatten.length = l.sessions.flatten.length + bytes.length := by
  unfold Ledger.receive
  rcases List.eq_nil_or_concat l.sessions with hnil | ⟨earlier, current, hsessions⟩
  · simp [hnil]
  · simp [hsessions]
    omega

namespace ModbusDevice

/-- The size of a response is known from its third byte on. -/
lemma updateExpectedSize_of_front {slave function count : UInt8} {rest received : List UInt8}
    (hfunction : function &&& 0x80 = 0) (hreceived : received <+: slave :: function :: count :: rest)
    (size : ExpectedSize) :
    (received.length < 3 → updateExpectedSize received size = size) ∧
    (3 ≤ received.length → (updateExpectedSize received size).val = 3 + count.toNat + 2) := by
  match received with
  | [] => exact ⟨fun _ => rfl, nofun⟩
  | [_] => exact ⟨fun _ => rfl, nofun⟩
  | [_, f] =>
    obtain ⟨t, ht⟩ := hreceived
    simp only [List.cons_append, List.cons.injEq] at ht
    obtain ⟨-, rfl, -⟩ := ht
    refine ⟨fun _ => ?_, nofun⟩
    simp [updateExpectedSize, hfunction]
  | _ :: f :: c :: tail =>
    obtain ⟨t, ht⟩ := hreceived
    simp only [List.cons_append, List.cons.injEq] at ht
    obtain ⟨-, rfl, rfl, -⟩ := ht
    refine ⟨fun hshort => ?_, fun _ => ?_⟩
    · simp only [List.length_cons] at hshort
      omega
    · simp [updateExpectedSize, hfunction]

variable {start timeout deadline : Int}

/-- What the collection of a response needs of the world: the clock stays before the deadline, and every
call for bytes gets some of those that are missing. `arrived` says how a world with the first bytes of the
response looks. -/
structure Supplies {W : Type} (R : Env deviceSignature W) (deadline : Int) (response : List UInt8)
    (arrived : List UInt8 → W → Prop) : Prop where
  clock : ∀ {received : List UInt8} {w w' : W} {now : Int}, arrived received w → R w .steadyNow now w' →
    now < deadline ∧ arrived received w'
  bytes : ∀ {received : List UInt8} {w w' : W} {wait : Int} {answer : Except Text (List UInt8)},
    arrived received w → received <+: response → received.length < response.length →
    R w (.readSome wait) answer w' →
    ∃ byte rest, answer = .ok (byte :: rest) ∧ received ++ byte :: rest <+: response ∧
      arrived (received ++ byte :: rest) w'

/-- The same, but only the check of the loop must not find the deadline passed, and only while something is
missing. `checked` says how the world looks between the check and the call for bytes. -/
structure Feeds {W : Type} (R : Env deviceSignature W) (deadline : Int) (response : List UInt8)
    (arrived checked : List UInt8 → W → Prop) : Prop where
  check : ∀ {received : List UInt8} {w w' : W} {now : Int}, arrived received w → R w .steadyNow now w' →
    (received.length < response.length → now < deadline) ∧ checked received w'
  clock : ∀ {received : List UInt8} {w w' : W} {now : Int}, checked received w → R w .steadyNow now w' →
    checked received w'
  bytes : ∀ {received : List UInt8} {w w' : W} {wait : Int} {answer : Except Text (List UInt8)},
    checked received w → received <+: response → received.length < response.length →
    R w (.readSome wait) answer w' →
    ∃ byte rest, answer = .ok (byte :: rest) ∧ received ++ byte :: rest <+: response ∧
      arrived (received ++ byte :: rest) w'

lemma Supplies.feeds {W : Type} {R : Env deviceSignature W} {response : List UInt8}
    {arrived : List UInt8 → W → Prop} (h : Supplies R deadline response arrived) :
    Feeds R deadline response arrived arrived where
  check := by
    intro received w w' now harrived hnow
    obtain ⟨hlate, harrived'⟩ := h.clock harrived hnow
    exact ⟨fun _ => hlate, harrived'⟩
  clock harrived hnow := (h.clock harrived hnow).2
  bytes := h.bytes

/-- A response whose length the loop works out from its first three bytes. -/
structure Announces (response : List UInt8) : Prop where
  five_le : 5 ≤ response.length
  early : ∀ {received : List UInt8} {size : ExpectedSize}, received <+: response → received.length < 3 →
    size.val = 5 → (updateExpectedSize received size).val = 5
  known : ∀ {received : List UInt8} {size : ExpectedSize}, received <+: response → 3 ≤ received.length →
    (updateExpectedSize received size).val = response.length

/-- A response that announces its length is collected whole, however it is cut into pieces. -/
theorem wp_collectResponse {W : Type} {R : Env deviceSignature W} {arrived checked : List UInt8 → W → Prop}
    {response : List UInt8} (hannounces : Announces response) (hfeed : Feeds R deadline response arrived checked)
    {received : List UInt8} (hreceived : received <+: response) {size : ExpectedSize} {w : W}
    (harrived : arrived received w) (hshort : received.length < 3 → size.val = 5)
    (hlong : 3 ≤ received.length → size.val = response.length) :
    wp R (collectResponse deadline received size)
      (fun answer w' => answer = .ok response ∧ checked response w') w := by
  have hfive := hannounces.five_le
  induction hmissing : response.length - received.length using Nat.strongRecOn generalizing received size w with
  | _ n ih =>
    rw [collectResponse, wp_bind]
    intro now w₁ hnow
    obtain ⟨hlate, hchecked₁⟩ := hfeed.check harrived hnow
    rw [wp_ret]
    by_cases hmore : now < deadline ∧ received.length < size.val
    · rw [dif_pos hmore, wp_bind]
      intro now' w₂ hnow'
      have hchecked₂ := hfeed.clock hchecked₁ hnow'
      rw [wp_ret, wp_bind]
      intro answer w₃ hread
      have hless : received.length < response.length := by
        by_cases hfew : received.length < 3
        · omega
        · rw [← hlong (not_lt.mp hfew)]
          exact hmore.2
      obtain ⟨byte, bytes, rfl, hnext, harrived₃⟩ := hfeed.bytes hchecked₂ hreceived hless hread
      have hgrown : received.length < (received ++ byte :: bytes).length := by simp
      rw [wp_ret]
      apply ih _ _ hnext harrived₃ _ (hannounces.known hnext) rfl
      · omega
      · intro hfew
        exact hannounces.early hnext hfew (hshort (by omega))
    · rw [dif_neg hmore]
      have hwhole : response.length ≤ received.length := by
        by_contra hless
        have hall : size.val ≤ received.length := not_lt.mp (fun h => hmore ⟨hlate (not_le.mp hless), h⟩)
        by_cases hfew : received.length < 3
        · have := hshort hfew
          omega
        · have := hlong (not_lt.mp hfew)
          omega
      obtain rfl : received = response := hreceived.eq_of_length_le hwhole
      exact ⟨rfl, hchecked₁⟩

lemma announces_normalResponse (slaveId : UInt8) (function : Modbus.FunctionCode) {registers : List UInt16}
    (hbound : registers.length ≤ 125) : Announces (Modbus.normalResponse slaveId function registers) := by
  have hfunction : function.code &&& 0x80 = 0 := by
    cases function with
    | readHoldingRegisters => rfl
    | readInputRegisters => rfl
  have hshape : Modbus.normalResponse slaveId function registers =
      slaveId :: function.code :: UInt8.ofNat (registers.length * 2) :: (registers.flatMap u16Be ++
        crcBytes (crc16Modbus (Modbus.responseBody slaveId function registers))) := rfl
  have hcount : (UInt8.ofNat (registers.length * 2)).toNat = registers.length * 2 := by
    rw [UInt8.toNat_ofNat']
    omega
  have hlength : (Modbus.normalResponse slaveId function registers).length =
      3 + (UInt8.ofNat (registers.length * 2)).toNat + 2 := by
    rw [hshape, List.length_cons, List.length_cons, List.length_cons, List.length_append,
      Modbus.length_flatMap_u16Be, hcount]
    change _ + 2 + 1 + 1 + 1 = _
    omega
  constructor
  · omega
  · intro received size hreceived hfew hsize
    rw [(updateExpectedSize_of_front hfunction (hshape ▸ hreceived) size).1 hfew]
    exact hsize
  · intro received size hreceived hknown
    rw [hlength]
    exact (updateExpectedSize_of_front hfunction (hshape ▸ hreceived) size).2 hknown

lemma wp_collectResponse_normal {W : Type} {R : Env deviceSignature W} {arrived : List UInt8 → W → Prop}
    (slaveId : UInt8) (function : Modbus.FunctionCode) {registers : List UInt16}
    (hbound : registers.length ≤ 125)
    (hsupply : Supplies R deadline (Modbus.normalResponse slaveId function registers) arrived) {w : W}
    (harrived : arrived [] w) :
    wp R (collectResponse deadline [] ⟨5, by decide⟩) (fun answer w' =>
      answer = .ok (Modbus.normalResponse slaveId function registers) ∧
      arrived (Modbus.normalResponse slaveId function registers) w') w :=
  wp_collectResponse (announces_normalResponse slaveId function hbound) hsupply.feeds List.nil_prefix harrived
    (fun _ => rfl) nofun

/-- A slave that answers before the timeout supplies the response. -/
lemma supplies_slaveAnswers {response : List UInt8} (hdeadline : start + timeout ≤ deadline) :
    Supplies (deviceEnv (SlaveAnswers start timeout response)) deadline response
      (fun received l => l.sessions.flatten.length = received.length) where
  clock := by
    rintro received l l' now hledger ⟨⟨-, hend⟩, rfl⟩
    exact ⟨lt_of_lt_of_le hend hdeadline, hledger⟩
  bytes := by
    rintro received l l' wait answer hledger hreceived hless ⟨hpiece, rfl⟩
    have hdrop : response.drop l.sessions.flatten.length ≠ [] := by
      rw [hledger, ne_eq, List.drop_eq_nil_iff]
      omega
    obtain ⟨byte, bytes, rfl, hprefix⟩ := hpiece hdrop
    refine ⟨byte, bytes, rfl, ?_, ?_⟩
    · obtain ⟨later, hlater⟩ := hreceived
      rw [hledger, ← hlater, List.drop_left] at hprefix
      rw [← hlater]
      exact List.prefix_append_right_inj received |>.mpr hprefix
    · change (l.receive (byte :: bytes)).sessions.flatten.length = _
      rw [Ledger.length_receive, List.length_append, ← hledger]

/-- The answer of `read` to a normal response with these registers. -/
def Answers (d : ModbusDevice) (registers : List UInt16) (result : DeviceReadResult) (after : DeviceStatus) : Prop :=
  match Modbus.registersToDeviceData { status := .ok, registers := registers } d.options.request.slaveId with
  | .ok data => HandsOver (toSensorData data) d.status result after
  | .error error => result = { code := .protocolError, error := error }

lemma wp_decode_normal {d : ModbusDevice} {registers : List UInt16}
    (hcount : registers.length = d.options.request.registerCount.toNat) (hbound : registers.length ≤ 125)
    {W : Type} {R : Env deviceSignature W} {w : W} :
    wp R (d.decode (Modbus.normalResponse d.options.request.slaveId d.options.request.function registers))
      (fun answer _ => d.Answers registers answer.1 answer.2.status) w := by
  unfold decode Answers
  dsimp only
  rw [Modbus.parseReadResponse_normalResponse hcount (by omega), if_neg (not_not.mpr rfl)]
  cases Modbus.registersToDeviceData { status := .ok, registers := registers } d.options.request.slaveId with
  | error error => exact rfl
  | ok data =>
    intro now l' _
    exact ⟨rfl, rfl, rfl⟩

/-- A due poll that is answered. -/
theorem wp_read_normal {d : ModbusDevice} {registers : List UInt16}
    (hcount : registers.length = d.options.request.registerCount.toNat) (hbound : registers.length ≤ 125)
    {start : Int} (hdue : d.nextPoll ≤ start) {wait : Int} :
    wp (deviceEnv (SlaveAnswers start (d.options.responseTimeoutMs * nanosecondsPerMillisecond)
        (Modbus.normalResponse d.options.request.slaveId d.options.request.function registers)))
      (d.read wait) (fun answer _ => d.Answers registers answer.1 answer.2.status) {} := by
  intro now l₁ hnow
  obtain ⟨⟨hstart, hend⟩, rfl⟩ := hnow
  change wp _ (ite _ _ _) _ _
  have hlate : ¬now < d.nextPoll := not_lt.mpr (le_trans hdue hstart)
  rw [if_neg hlate]
  intro discarded l₂ hdiscarded
  obtain ⟨hnone, rfl⟩ := hdiscarded
  obtain rfl : discarded = none := hnone
  intro written l₃ hwritten
  obtain ⟨hnone, rfl⟩ := hwritten
  obtain rfl : written = none := hnone
  intro now' l₄ hnow'
  obtain ⟨⟨hstart', -⟩, rfl⟩ := hnow'
  change wp _ (collectResponse (now' + d.options.responseTimeoutMs * nanosecondsPerMillisecond) [] _ >>= _) _ _
  rw [wp_bind]
  have hdeadline : start + d.options.responseTimeoutMs * nanosecondsPerMillisecond ≤
      now' + d.options.responseTimeoutMs * nanosecondsPerMillisecond := Int.add_le_add_right hstart' _
  apply wp_mono _ (wp_collectResponse_normal d.options.request.slaveId d.options.request.function hbound
    (supplies_slaveAnswers hdeadline) rfl)
  rintro answer l' ⟨rfl, -⟩
  exact wp_decode_normal
    (d := { d with nextPoll := now + d.options.pollIntervalMs * nanosecondsPerMillisecond }) hcount hbound

end ModbusDevice

end EdgeGateway
