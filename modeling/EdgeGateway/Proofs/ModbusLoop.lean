import EdgeGateway.Proofs.ModbusGrammar
import EdgeGateway.Proofs.ModbusPoll
import EdgeGateway.Proofs.ModbusWorker

/-!
# The response loop of a Modbus poll

The loop in which `ModbusDevice::read` collects a response: it does not matter how the response is cut
into chunks, and how long it waits for each of them depends on when the thread looks at the clock.
-/

namespace EdgeGateway
open CallTree

namespace Modbus

/-- The responses of a slave that follows the protocol. -/
inductive Conforming (request : ReadRequest) : List UInt8 → Prop where
  | normal {registers : List UInt16} : registers.length = request.registerCount.toNat →
      Conforming request (normalResponse request.slaveId request.function registers)
  | exception (code : UInt8) : Conforming request (exceptionFrame request.slaveId request.function code)

end Modbus

/-! ### Chunks -/

/-- A serial line with the chunks that are still to come in and the number of reads so far. `checked` says
whether the loop has looked at the clock since the last read. -/
structure Line where
  chunks : List (List UInt8)
  reads : Nat := 0
  requested : Bool := false
  deadline : Option Int := none
  checked : Bool := false

/-- The line answers a request with its chunks. The first look at the clock after the request sets the
deadline, and all chunks arrive before it: no check of the loop finds it passed while one is missing. The second
look of a pass, which the time to wait is worked out from, may be later. -/
def lineEnv (timeout : Int) : Env deviceSignature Line
  | w, .steadyNow => fun (now : Int) w' =>
      match w.deadline with
      | some deadline =>
        (w.checked = false → w.chunks ≠ [] → now < deadline) ∧ w' = { w with checked := true }
      | none => w' = if w.requested then { w with deadline := some (now + timeout) } else w
  | w, .discardInput => fun (error : Option Text) w' => error = none ∧ w' = w
  | w, .writeAll _ => fun (error : Option Text) w' => error = none ∧ w' = { w with requested := true }
  | w, .readSome _ => fun (answer : Except Text (List UInt8)) w' =>
      (∀ chunk rest, w.chunks = chunk :: rest → answer = .ok chunk) ∧
        w' = { w with chunks := w.chunks.tail, reads := w.reads + 1, checked := false }
  | w, _ => fun _ w' => w' = w

/-- A look at the clock while the loop runs. -/
lemma lineEnv_look {timeout deadline now : Int} {w w' : Line} (hdeadline : w.deadline = some deadline)
    (h : lineEnv timeout w .steadyNow now w') :
    (w.checked = false → w.chunks ≠ [] → now < deadline) ∧ w' = { w with checked := true } := by
  obtain ⟨chunks, reads, requested, _, checked⟩ := w
  obtain rfl := hdeadline
  exact h

/-- Every call of a device gets an answer. -/
lemma lineEnv_answers (timeout : Int) (w : Line) (o : DeviceOp) (h : ¬DeviceTerminates o) :
    ∃ a w', lineEnv timeout w o a w' := by
  obtain ⟨a⟩ := exists_answer h
  cases o with
  | steadyNow =>
    cases hdeadline : w.deadline with
    | none =>
      refine ⟨(0 : Int), if w.requested then { w with deadline := some (0 + timeout) } else w, ?_⟩
      simp [lineEnv, hdeadline]
    | some deadline =>
      refine ⟨(deadline - 1 : Int), { w with checked := true }, ?_⟩
      simp [lineEnv, hdeadline]
  | readSome wait =>
    refine ⟨(.ok (w.chunks.headD []) : Except Text (List UInt8)), _, ?_, rfl⟩
    intro chunk rest heq
    rw [heq]
    rfl
  | discardInput => exact ⟨(none : Option Text), w, rfl, rfl⟩
  | writeAll data => exact ⟨(none : Option Text), _, rfl, rfl⟩
  | terminate what => exact absurd trivial h
  | _ => exact ⟨a, w, rfl⟩

namespace ModbusDevice

lemma announces_exceptionFrame (slaveId : UInt8) (function : Modbus.FunctionCode) (code : UInt8) :
    Announces (Modbus.exceptionFrame slaveId function code) := by
  have hbit : (function.code ||| 0x80) &&& 0x80 ≠ 0 := by
    cases function with
    | readHoldingRegisters => decide
    | readInputRegisters => decide
  have hupdate : ∀ {received : List UInt8} {size : ExpectedSize},
      received <+: Modbus.exceptionFrame slaveId function code → 2 ≤ received.length →
      (updateExpectedSize received size).val = 5 := by
    intro received size hreceived htwo
    obtain ⟨first, tail, rfl⟩ := List.exists_cons_of_length_pos (Nat.zero_lt_two.trans_le htwo)
    obtain ⟨second, rest, rfl⟩ := List.exists_cons_of_length_pos (Nat.le_of_succ_le_succ htwo)
    obtain ⟨later, hlater⟩ := hreceived
    simp only [Modbus.exceptionFrame, Modbus.exceptionBody, List.cons_append, List.cons.injEq] at hlater
    obtain ⟨-, rfl, -⟩ := hlater
    simp [updateExpectedSize, hbit]
  constructor
  · exact le_refl 5
  · intro received size hreceived hfew hsize
    by_cases htwo : 2 ≤ received.length
    · exact hupdate hreceived htwo
    · cases received with
      | nil => exact hsize
      | cons first rest =>
        obtain rfl : rest = [] := List.length_eq_zero_iff.mp (by rw [List.length_cons] at htwo; omega)
        exact hsize
  · intro received size hreceived hknown
    exact hupdate hreceived (by omega)

lemma announces_conforming {request : Modbus.ReadRequest} (hcount : request.registerCount.toNat ≤ 125)
    {response : List UInt8} (h : Modbus.Conforming request response) : Announces response := by
  cases h with
  | normal hregisters => exact announces_normalResponse _ _ (by omega)
  | exception code => exact announces_exceptionFrame _ _ code

/-- How the line looks when the first bytes of the response have arrived. -/
structure Awaits (response : List UInt8) (deadline : Int) (chunks : Nat) (received : List UInt8) (w : Line) :
    Prop where
  flatten : received ++ w.chunks.flatten = response
  nonempty : ∀ chunk ∈ w.chunks, chunk ≠ []
  reads : w.reads + w.chunks.length = chunks
  deadline : w.deadline = some deadline

lemma Awaits.chunks_ne_nil {response : List UInt8} {deadline : Int} {n : Nat} {received : List UInt8} {w : Line}
    (h : Awaits response deadline n received w) (hless : received.length < response.length) : w.chunks ≠ [] := by
  intro hnil
  have hflatten := congrArg List.length h.flatten
  rw [hnil, List.flatten_nil, List.append_nil] at hflatten
  omega

lemma Awaits.looked {response : List UInt8} {deadline : Int} {n : Nat} {received : List UInt8} {w : Line}
    (h : Awaits response deadline n received w) : Awaits response deadline n received { w with checked := true } :=
  ⟨h.flatten, h.nonempty, h.reads, h.deadline⟩

lemma Awaits.done {response : List UInt8} {deadline : Int} {n : Nat} {w : Line}
    (h : Awaits response deadline n response w) : w.chunks = [] ∧ w.reads = n := by
  have hflatten : w.chunks.flatten = [] := List.append_right_eq_self.mp h.flatten
  have hnil : w.chunks = [] := by
    cases hchunks : w.chunks with
    | nil => rfl
    | cons chunk rest =>
      rw [hchunks, List.flatten_cons, List.append_eq_nil_iff] at hflatten
      exact absurd hflatten.1 (h.nonempty chunk (by simp [hchunks]))
  refine ⟨hnil, ?_⟩
  rw [← h.reads, hnil]
  rfl

lemma feeds_lineEnv (timeout deadline : Int) (response : List UInt8) (n : Nat) :
    Feeds (lineEnv timeout) deadline response
      (fun received w => Awaits response deadline n received w ∧ w.checked = false) (Awaits response deadline n) where
  check := by
    intro received w w' now hawaits hnow
    obtain ⟨hawaits, hunchecked⟩ := hawaits
    obtain ⟨hlate, rfl⟩ := lineEnv_look hawaits.deadline hnow
    exact ⟨fun hless => hlate hunchecked (hawaits.chunks_ne_nil hless), hawaits.looked⟩
  clock := by
    intro received w w' now hawaits hnow
    obtain ⟨-, rfl⟩ := lineEnv_look hawaits.deadline hnow
    exact hawaits.looked
  bytes := by
    rintro received w w' wait answer hawaits - hless ⟨hanswer, rfl⟩
    obtain ⟨chunk, rest, hchunks⟩ := List.exists_cons_of_ne_nil (hawaits.chunks_ne_nil hless)
    obtain ⟨byte, bytes, rfl⟩ := List.exists_cons_of_ne_nil (hawaits.nonempty chunk (by simp [hchunks]))
    have hflatten := hawaits.flatten
    have hreads := hawaits.reads
    rw [hchunks, List.flatten_cons, ← List.append_assoc] at hflatten
    rw [hchunks, List.length_cons] at hreads
    refine ⟨byte, bytes, hanswer _ _ hchunks, ⟨_, hflatten⟩, ?_, rfl⟩
    constructor
    · rw [hchunks]
      exact hflatten
    · intro other hother
      rw [hchunks] at hother
      exact hawaits.nonempty other (by simp [hchunks, show other ∈ rest from hother])
    · rw [hchunks, List.tail_cons]
      change w.reads + 1 + rest.length = n
      omega
    · exact hawaits.deadline

/-- What `read` returns for a response, all of it in one piece. -/
def outcome (d : ModbusDevice) (response : List UInt8) : DeviceReadResult :=
  let parsed := Modbus.parseReadResponse response d.options.request
  if parsed.status ≠ .ok then
    { code := .protocolError, error := parsed.error }
  else
    match Modbus.registersToDeviceData parsed d.options.request.slaveId with
    | .error error => { code := .protocolError, error := error }
    | .ok deviceData => { code := .data, data := some (toSensorData deviceData) }

lemma wp_decode_outcome (d : ModbusDevice) (response : List UInt8) {W : Type} {R : Env deviceSignature W} (w : W)
    (hclock : ∀ now w', R w .unixSeconds now w' → w' = w) :
    wp R (d.decode response) (fun answer w' => answer.1 = d.outcome response ∧ w' = w) w := by
  unfold decode outcome
  dsimp only
  by_cases hstatus : (Modbus.parseReadResponse response d.options.request).status ≠ .ok
  · rw [if_pos hstatus, if_pos hstatus]
    exact ⟨rfl, rfl⟩
  · rw [if_neg hstatus, if_neg hstatus]
    cases Modbus.registersToDeviceData (Modbus.parseReadResponse response d.options.request)
        d.options.request.slaveId with
    | error error => exact ⟨rfl, rfl⟩
    | ok data =>
      intro now w' hnow
      exact ⟨rfl, hclock now w' hnow⟩

section

variable {request : Modbus.ReadRequest} (hcount : request.registerCount.toNat ≤ 125) {response : List UInt8}
  (hconforming : Modbus.Conforming request response) {chunks : List (List UInt8)}
  (hflatten : chunks.flatten = response) (hnonempty : ∀ chunk ∈ chunks, chunk ≠ [])
include hcount hconforming hflatten hnonempty

lemma wp_collectResponse_line (timeout deadline : Int) :
    wp (lineEnv timeout) (collectResponse deadline [] ⟨5, by decide⟩)
      (fun answer w => answer = .ok response ∧ w.chunks = [] ∧ w.reads = chunks.length)
      { chunks := chunks, requested := true, deadline := some deadline } := by
  have hawaits : Awaits response deadline chunks.length []
      { chunks := chunks, requested := true, deadline := some deadline } :=
    ⟨hflatten, hnonempty, Nat.zero_add _, rfl⟩
  apply wp_mono _ (wp_collectResponse (announces_conforming hcount hconforming)
    (feeds_lineEnv timeout deadline response chunks.length) List.nil_prefix ⟨hawaits, rfl⟩ (fun _ => rfl) nofun)
  rintro answer w ⟨rfl, hawaits⟩
  exact ⟨rfl, hawaits.done⟩

lemma wp_poll_line (d : ModbusDevice) :
    wp (lineEnv (d.options.responseTimeoutMs * nanosecondsPerMillisecond)) d.poll
      (fun answer w => answer.1 = d.outcome response ∧ w.chunks = [] ∧ w.reads = chunks.length)
      { chunks := chunks } := by
  obtain ⟨byte, bytes, rfl⟩ : ∃ byte bytes, response = byte :: bytes := by
    apply List.exists_cons_of_ne_nil
    intro hnil
    have hfive := (announces_conforming hcount hconforming).five_le
    simp [hnil] at hfive
  intro discarded w₁ hdiscarded
  obtain ⟨hnone, rfl⟩ := hdiscarded
  obtain rfl : discarded = none := hnone
  intro written w₂ hwritten
  obtain ⟨hnone, rfl⟩ := hwritten
  obtain rfl : written = none := hnone
  intro now w₃ hnow
  obtain rfl : w₃ = _ := hnow
  change wp _ (collectResponse (now + d.options.responseTimeoutMs * nanosecondsPerMillisecond) [] _ >>= _) _ _
  rw [wp_bind]
  apply wp_mono _ (wp_collectResponse_line hcount hconforming hflatten hnonempty _ _)
  rintro answer w ⟨rfl, hdone⟩
  apply wp_mono _ (d.wp_decode_outcome (byte :: bytes) w (fun _ _ hkept => hkept))
  rintro answer w' ⟨houtcome, rfl⟩
  exact ⟨houtcome, hdone⟩

/-- A `read` that is due polls the slave, and one that is too early sends no request. -/
lemma wp_read_line (d : ModbusDevice) (hrequest : d.options.request = request) (wait : Int) :
    wp (lineEnv (d.options.responseTimeoutMs * nanosecondsPerMillisecond)) (d.read wait)
      (fun answer w => w.requested = true → answer.1 = d.outcome response) { chunks := chunks } := by
  subst hrequest
  intro now w₁ hnow
  obtain rfl : w₁ = { chunks := chunks } := hnow
  change wp _ (ite _ _ _) _ _
  split
  · intro _ w₂ hw₂
    obtain rfl : w₂ = { chunks := chunks } := hw₂
    exact nofun
  · apply wp_mono _ (wp_poll_line hcount hconforming hflatten hnonempty
      { d with nextPoll := now + d.options.pollIntervalMs * nanosecondsPerMillisecond })
    rintro answer w ⟨houtcome, -⟩ -
    exact houtcome

end

lemma lineEnv_requested {timeout : Int} {w w' : Line} {o : DeviceOp} {a : o.Ans} (hcall : lineEnv timeout w o a w')
    (h : w.requested = true) : w'.requested = true := by
  cases o with
  | steadyNow =>
    cases hdeadline : w.deadline with
    | some deadline =>
      obtain ⟨-, rfl⟩ := lineEnv_look hdeadline hcall
      exact h
    | none =>
      simp only [lineEnv, hdeadline, h, if_true] at hcall
      rw [hcall]
  | discardInput | readSome =>
    rw [hcall.2]
    exact h
  | writeAll data => rw [hcall.2]
  | _ =>
    obtain rfl := hcall
    exact h

lemma wp_requested {α : Type} (timeout : Int) (p : DeviceCall α) {w : Line} (h : w.requested = true) :
    wp (lineEnv timeout) p (fun _ w' => w'.requested = true) w := by
  induction p generalizing w with
  | ret r => exact h
  | call o k ih => exact fun a w' hcall => ih a (lineEnv_requested hcall h)

/-- A poll sends its request. -/
lemma wp_poll_requested (d : ModbusDevice) (timeout : Int) (chunks : List (List UInt8)) :
    wp (lineEnv timeout) d.poll (fun _ w => w.requested = true) { chunks := chunks } := by
  intro discarded w₁ hdiscarded
  obtain ⟨hnone, rfl⟩ := hdiscarded
  obtain rfl : discarded = none := hnone
  intro written w₂ hwritten
  obtain ⟨-, rfl⟩ := hwritten
  exact wp_requested timeout _ rfl

/-- A `read` that is due can send its request and come to its end. -/
lemma exists_read_requested (d : ModbusDevice) (wait timeout : Int) (chunks : List (List UInt8)) :
    ∃ answer w, Exec (lineEnv timeout) (d.read wait) { chunks := chunks } answer w ∧ w.requested = true := by
  obtain ⟨answer, w, hexec⟩ := exists_exec (lineEnv_answers timeout)
    (poll_avoids { d with nextPoll := d.nextPoll + d.options.pollIntervalMs * nanosecondsPerMillisecond })
    { chunks := chunks }
  have hlook : lineEnv timeout { chunks := chunks } .steadyNow d.nextPoll { chunks := chunks } := rfl
  refine ⟨answer, w, .call hlook ?_, (wp_iff_exec _ _ _ _).mp (wp_poll_requested _ timeout chunks) answer w hexec⟩
  change Exec _ (ite _ _ _) _ _ _
  rw [if_neg (lt_irrefl _)]
  exact hexec

/-- Counts the reads, whatever comes in. -/
def countEnv : Env deviceSignature Nat
  | n, .readSome _ => fun _ n' => n' = n + 1
  | n, _ => fun _ n' => n' = n

lemma wp_collectResponse_reads (deadline : Int) (response : List UInt8) (size : ExpectedSize) (n : Nat) :
    wp countEnv (collectResponse deadline response size) (fun _ n' => n' ≤ n + (260 - response.length)) n := by
  induction hmissing : 260 - response.length using Nat.strongRecOn generalizing response size n with
  | _ m ih =>
    have hsize := size.2
    rw [collectResponse, wp_bind]
    intro now n₁ hn₁
    obtain rfl : n₁ = n := hn₁
    rw [wp_ret]
    by_cases hmore : now < deadline ∧ response.length < size.val
    · rw [dif_pos hmore, wp_bind]
      intro now' n₂ hn₂
      obtain rfl : n₂ = n₁ := hn₂
      rw [wp_ret, wp_bind]
      intro answer n₃ hn₃
      obtain rfl : n₃ = n₂ + 1 := hn₃
      rw [wp_ret]
      cases answer with
      | error error =>
        change n₂ + 1 ≤ n₂ + m
        omega
      | ok bytes =>
        cases bytes with
        | nil =>
          change n₂ + 1 ≤ n₂ + m
          omega
        | cons byte bytes =>
          have hgrown : response.length < (response ++ byte :: bytes).length := by simp
          apply wp_mono _ (ih _ (by omega) (response ++ byte :: bytes) _ (n₂ + 1) rfl)
          intro _ n' hn'
          omega
    · rw [dif_neg hmore]
      change n₁ ≤ n₁ + m
      omega

end ModbusDevice

/-! ### Waits -/

/-- What an observer of the clock and the line notes: the last look at the clock, the first one after the
request, and for each read the look before it and the time to wait. -/
structure Waits where
  clock : Int
  requested : Bool := false
  start : Option Int := none
  reads : List (Int × Int) := []

namespace Waits

def note (w : Waits) : Event deviceSignature → Waits
  | ⟨.writeAll _, _⟩ => { w with requested := true }
  | ⟨.steadyNow, now⟩ =>
    { w with clock := now, start := if w.requested ∧ w.start = none then some now else w.start }
  | ⟨.readSome wait, _⟩ => { w with reads := w.reads ++ [(w.clock, wait)] }
  | _ => w

/-- The steady clock does not go back. -/
def Steady (w : Waits) : (o : DeviceOp) → o.Ans → Prop
  | .steadyNow => fun (now : Int) => w.clock ≤ now
  | _ => fun _ => True

/-- The times to wait are within the timeout, none of them negative. -/
def Bounded (timeoutMs : Int) (w : Waits) : Prop :=
  ∀ read ∈ w.reads, 0 ≤ read.2 ∧ read.2 ≤ timeoutMs

/-- The look at the clock before each read, from which the time to wait is worked out, is less than a
millisecond after the deadline. -/
def Punctual (timeoutMs : Int) (w : Waits) : Prop :=
  ∀ read ∈ w.reads, ∀ start, w.start = some start →
    read.1 < start + timeoutMs * nanosecondsPerMillisecond + nanosecondsPerMillisecond

/-- The loop runs with this deadline, and every wait was worked out from it. -/
structure From (start deadline : Int) (w : Waits) : Prop where
  started : w.start = some start
  clock : start ≤ w.clock
  reads : ∀ read ∈ w.reads, start ≤ read.1 ∧ read.2 = durationCastMilliseconds (deadline - read.1)

end Waits

/-- A difference to the deadline in whole milliseconds is negative from one millisecond after it on. -/
lemma durationCastMilliseconds_bounds {start now timeoutMs : Int} (hstart : start ≤ now) :
    (0 ≤ durationCastMilliseconds (start + timeoutMs * nanosecondsPerMillisecond - now) ∧
      durationCastMilliseconds (start + timeoutMs * nanosecondsPerMillisecond - now) ≤ timeoutMs) ↔
    now < start + timeoutMs * nanosecondsPerMillisecond + nanosecondsPerMillisecond := by
  unfold durationCastMilliseconds nanosecondsPerMillisecond
  rcases le_total 0 (start + timeoutMs * 1000000 - now) with hbefore | hafter
  · rw [Int.tdiv_eq_ediv_of_nonneg hbefore]
    omega
  · -- towards zero: less than a millisecond too late still counts as nothing
    have hneg : start + timeoutMs * 1000000 - now = -(now - (start + timeoutMs * 1000000)) := by omega
    rw [hneg, Int.neg_tdiv, Int.tdiv_eq_ediv_of_nonneg (by omega)]
    omega

lemma Waits.From.bounded_iff {start timeoutMs : Int} {w : Waits}
    (h : w.From start (start + timeoutMs * nanosecondsPerMillisecond)) :
    w.Bounded timeoutMs ↔ w.Punctual timeoutMs := by
  unfold Waits.Bounded Waits.Punctual
  rw [h.started]
  refine forall₂_congr (fun read hread => ?_)
  obtain ⟨hstart, hwait⟩ := h.reads read hread
  rw [hwait, durationCastMilliseconds_bounds hstart]
  constructor
  · intro hlate start' heq
    cases heq
    exact hlate
  · intro hlate
    exact hlate start rfl

namespace ModbusDevice

lemma wp_collectResponse_waits (start : Int) {deadline : Int} (response : List UInt8) (size : ExpectedSize) {w : Waits}
    (h : w.From start deadline) :
    wp (observing Waits.Steady Waits.note) (collectResponse deadline response size)
      (fun _ w' => w'.From start deadline) w := by
  have hlook : ∀ {w : Waits} {now : Int}, w.From start deadline → w.clock ≤ now →
      (w.note ⟨.steadyNow, now⟩).From start deadline := by
    intro w now h hsteady
    refine ⟨?_, le_trans h.clock hsteady, h.reads⟩
    simp [Waits.note, h.started]
  induction hmissing : 260 - response.length using Nat.strongRecOn generalizing response size w with
  | _ m ih =>
    have hsize := size.2
    rw [collectResponse, wp_bind]
    rintro now w₁ ⟨hsteady, rfl⟩
    rw [wp_ret]
    have h₁ := hlook h hsteady
    by_cases hmore : now < deadline ∧ response.length < size.val
    · rw [dif_pos hmore, wp_bind]
      rintro now' w₂ ⟨hsteady', rfl⟩
      have h₂ := hlook h₁ hsteady'
      rw [wp_ret, wp_bind]
      rintro answer w₃ ⟨-, rfl⟩
      have h₃ : (((w.note ⟨.steadyNow, now⟩).note ⟨.steadyNow, now'⟩).note
          ⟨.readSome (durationCastMilliseconds (deadline - now')), answer⟩).From start deadline := by
        refine ⟨h₂.started, h₂.clock, ?_⟩
        intro read hread
        rcases List.mem_append.mp hread with hearlier | hlast
        · exact h₂.reads read hearlier
        · obtain rfl := List.mem_singleton.mp hlast
          exact ⟨h₂.clock, rfl⟩
      rw [wp_ret]
      cases answer with
      | error error => exact h₃
      | ok bytes =>
        cases bytes with
        | nil => exact h₃
        | cons byte bytes =>
          have hgrown : response.length < (response ++ byte :: bytes).length := by simp
          exact ih _ (by omega) (response ++ byte :: bytes) _ h₃ rfl
    · rw [dif_neg hmore]
      exact h₁

/-- The waits of a whole call of `read`. -/
lemma wp_read_waits (d : ModbusDevice) (timeout t₀ : Int) :
    wp (observing Waits.Steady Waits.note) (d.read timeout)
      (fun _ w => w.reads = [] ∨
        ∃ start, w.From start (start + d.options.responseTimeoutMs * nanosecondsPerMillisecond))
      { clock := t₀ } := by
  rintro now w₁ ⟨-, rfl⟩
  change wp _ (ite _ _ _) _ _
  by_cases hearly : now < d.nextPoll
  · rw [if_pos hearly]
    rintro _ w₂ ⟨-, rfl⟩
    exact .inl rfl
  rw [if_neg hearly]
  rintro discarded w₂ ⟨-, rfl⟩
  match discarded with
  | some error =>
    rintro _ w₃ ⟨-, rfl⟩
    exact .inl rfl
  | none =>
    rintro written w₃ ⟨-, rfl⟩
    match written with
    | some error =>
      rintro _ w₄ ⟨-, rfl⟩
      exact .inl rfl
    | none =>
      rintro start w₄ ⟨-, rfl⟩
      change wp _ (collectResponse (start + d.options.responseTimeoutMs * nanosecondsPerMillisecond) [] _ >>= _) _ _
      rw [wp_bind]
      apply wp_mono _ (wp_collectResponse_waits start [] ⟨5, by decide⟩ ⟨rfl, le_refl start, by simp [Waits.note]⟩)
      intro answer w hfrom
      match answer with
      | .error error =>
        rintro _ w' ⟨-, rfl⟩
        exact .inr ⟨start, hfrom⟩
      | .ok [] => exact .inr ⟨start, hfrom⟩
      | .ok (byte :: bytes) =>
        apply wp_mono _ (wp_decode_outcome _ (byte :: bytes) w (fun _ _ hkept => hkept.2))
        rintro _ w' ⟨-, rfl⟩
        exact .inr ⟨start, hfrom⟩

/-- The waits of a call of `read` are all within the timeout if and only if the thread gets to work out
each of them before a millisecond has passed since the deadline. -/
theorem waits_bounded_iff (d : ModbusDevice) (timeout t₀ : Int)
    (answer : DeviceReadResult × ModbusDevice) (w : Waits)
    (hrun : Exec (observing Waits.Steady Waits.note) (d.read timeout) { clock := t₀ } answer w) :
    w.Bounded d.options.responseTimeoutMs ↔ w.Punctual d.options.responseTimeoutMs := by
  rcases (wp_iff_exec _ _ _ _).mp (d.wp_read_waits timeout t₀) answer w hrun with hnone | ⟨start, hfrom⟩
  · simp [Waits.Bounded, Waits.Punctual, hnone]
  · exact hfrom.bounded_iff

lemma exec_look {α : Type} {k : Int → DeviceCall α} {w w' : Waits} {r : α} (now : Int) (hsteady : w.clock ≤ now)
    (hrest : Exec (observing Waits.Steady Waits.note) (k now) (w.note ⟨.steadyNow, now⟩) r w') :
    Exec (observing Waits.Steady Waits.note) (.call (E := deviceSignature) .steadyNow k) w r w' :=
  .call ⟨hsteady, rfl⟩ hrest

/-- A slave that stays silent, polled by a thread that works out the time to wait at `now`. -/
lemma exec_read_late {now : Int} (hnow : 0 ≤ now) :
    Exec (observing Waits.Steady Waits.note) (defaultModbus.read 250) { clock := 0 }
      ({ code := .timeout, error := ascii "Modbus response timeout" }, unanswered)
      { clock := now
        requested := true
        start := some 0
        reads := [(now, durationCastMilliseconds (500000000 - now))] } := by
  have hloop : Exec (observing Waits.Steady Waits.note) (collectResponse 500000000 [] ⟨5, by decide⟩)
      { clock := 0, requested := true, start := some 0 } (.ok [])
      { clock := now
        requested := true
        start := some 0
        reads := [(now, durationCastMilliseconds (500000000 - now))] } := by
    rw [collectResponse]
    apply exec_look 0 (le_refl 0)
    apply exec_look now hnow
    refine .call (a := Except.ok []) ⟨trivial, rfl⟩ ?_
    exact .ret
  apply exec_look 0 (le_refl 0)
  refine .call (E := deviceSignature) (o := .discardInput) (a := none) ⟨trivial, rfl⟩ ?_
  refine .call (a := none) ⟨trivial, rfl⟩ ?_
  apply exec_look 0 (le_refl 0)
  apply Exec.bind (p := collectResponse 500000000 [] ⟨5, by decide⟩) hloop
  exact .ret

theorem waits_bounded_iff_at_once :
    Waits.Bounded 500 ⟨0, true, some 0, [(0, 500)]⟩ ↔ Waits.Punctual 500 ⟨0, true, some 0, [(0, 500)]⟩ :=
  waits_bounded_iff defaultModbus 250 0 _ _ (exec_read_late (le_refl 0))

/-- A thread that is held up for 502 ms between the check of the deadline and the next look at the clock
asks for -2 ms, which is forever. -/
theorem waits_unbounded :
    ¬∀ (d : ModbusDevice) (timeout t₀ : Int) (answer : DeviceReadResult × ModbusDevice) (w : Waits),
      1 ≤ d.options.responseTimeoutMs →
      Exec (observing Waits.Steady Waits.note) (d.read timeout) { clock := t₀ } answer w →
      w.Bounded d.options.responseTimeoutMs := by
  intro hclaim
  have hbounded := hclaim defaultModbus 250 0 _ _ (by decide)
    (exec_read_late (show (0 : Int) ≤ 502000000 by decide))
  have hwait := (hbounded _ (.head _)).1
  revert hwait
  decide

end ModbusDevice

end EdgeGateway
