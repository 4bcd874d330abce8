import EdgeGateway.Proofs.ErrorBooks

/-!
# The Modbus worker

The result of a call that waits for the next poll is that of a call without an answer. What the worker
reports are the errors of the device and these waits.
-/

namespace EdgeGateway
open CallTree

/-- The steady clock does not go back. -/
def SteadyClock (l : Ledger) : (o : WorkerOp) → o.Ans → Prop
  | .device .steadyNow => fun (now : Int) => ∀ t ∈ l.clock, t ≤ now
  | _ => fun _ => True

/-- A pass over a started device whose first reading of the clock is before the next poll. -/
def EarlyPass (w : Worker ModbusDevice) (l l' : Ledger) : Prop :=
  w.started = true ∧ ∃ now, l'.clock[l.clock.length]? = some now ∧ now < w.input.nextPoll

section

variable {ok : Ledger → (o : WorkerOp) → o.Ans → Prop} {m : DeviceManager} {d : ModbusDevice} {l : Ledger}

lemma ModbusDevice.stopsQuietly : StopsQuietly ok ModbusDevice.interface := by
  intro d l _ l' hclose
  obtain ⟨-, rfl⟩ := hclose
  exact ⟨rfl, rfl, rfl⟩

namespace ModbusDevice

variable {W : Type} {R : Env deviceSignature W} {w : W}

lemma wp_failTransport (error : Text) :
    wp R (d.failTransport error) (fun answer _ => Accounted d.status answer.2.status 0 answer.1) w := by
  intro _ w' _
  exact ⟨rfl, 1, rfl, rfl⟩

lemma wp_decode (response : List UInt8) :
    wp R (d.decode response) (fun answer _ => Accounted d.status answer.2.status 0 answer.1) w := by
  unfold decode
  dsimp only
  by_cases hstatus : (Modbus.parseReadResponse response d.options.request).status ≠ .ok
  · rw [if_pos hstatus]
    exact ⟨rfl, 1, rfl, rfl⟩
  · rw [if_neg hstatus]
    cases Modbus.registersToDeviceData _ _ with
    | error error => exact ⟨rfl, 1, rfl, rfl⟩
    | ok deviceData =>
      intro now w' _
      exact ⟨rfl, 0, rfl, rfl⟩

/-- A poll counts an error exactly when its result will be reported. -/
lemma wp_poll (hmodbus : d.status.protocol = .modbusRtu) :
    wp R d.poll (fun answer _ => Accounted d.status answer.2.status 0 answer.1) w := by
  unfold poll
  rw [wp_bind]
  intro discarded w₁ _
  cases discarded with
  | some error => exact wp_failTransport error
  | none =>
    rw [wp_ret, wp_bind]
    intro written w₂ _
    cases written with
    | some error => exact wp_failTransport error
    | none =>
      rw [wp_ret, wp_bind]
      intro now w₃ _
      dsimp only
      rw [wp_ret, wp_bind]
      apply wp_of_forall
      intro response w₄
      match response with
      | .error error => exact wp_failTransport error
      | .ok [] => exact ⟨rfl, 1, by rw [hmodbus]; rfl, rfl⟩
      | .ok (byte :: bytes) => exact wp_decode (byte :: bytes)

end ModbusDevice

/-- A call of `read` waits or polls, by the first reading of the clock. -/
lemma ModbusDevice.wp_read (hmodbus : d.status.protocol = .modbusRtu) {timeout : Int}
    {Q : DeviceReadResult × ModbusDevice → Ledger → Prop}
    (hwait : ∀ now, ok l (.device .steadyNow) now → now < d.nextPoll →
      Q ({}, d) { l with clock := l.clock ++ [now] })
    (hpoll : ∀ now, ok l (.device .steadyNow) now → ¬now < d.nextPoll →
      ∀ result d' sessions later, Accounted d.status d'.status 0 result →
      Q (result, d') { l with sessions := sessions, clock := l.clock ++ now :: later }) :
    wp (deviceEnv ok) (d.read timeout) Q l := by
  unfold ModbusDevice.read
  rw [wp_bind]
  intro now l' hnow
  obtain ⟨hok, rfl⟩ := hnow
  rw [wp_ret]
  by_cases hearly : now < d.nextPoll
  · rw [if_pos hearly, wp_bind]
    intro _ l' hsleep
    obtain ⟨-, rfl⟩ := hsleep
    exact hwait now hok hearly
  · rw [if_neg hearly]
    have hcounted : wp (deviceEnv ok)
        (poll { d with nextPoll := now + d.options.pollIntervalMs * nanosecondsPerMillisecond })
        (fun answer _ => Accounted d.status answer.2.status 0 answer.1) (l.noteDevice .steadyNow now) :=
      wp_poll hmodbus
    have hframe : wp (deviceEnv ok)
        (poll { d with nextPoll := now + d.options.pollIntervalMs * nanosecondsPerMillisecond })
        (fun _ l' => ∃ sessions later,
          l' = { l with sessions := sessions, clock := l.clock ++ now :: later })
        (l.noteDevice .steadyNow now) := by
      apply wp_device_frame
      intro _ sessions later
      refine ⟨sessions, later, ?_⟩
      simp [Ledger.noteDevice]
    apply wp_mono _ (wp_and _ hcounted hframe)
    rintro ⟨result, d'⟩ l' ⟨hresult, sessions, later, rfl⟩
    exact hpoll now hok hearly result d' sessions later hresult

/-- The books of a Modbus worker between two passes, with the number of early passes so far. -/
structure ModbusBooks (m : DeviceManager) (early : Nat) (w : Worker ModbusDevice) (l : Ledger) : Prop where
  protocol : w.input.status.protocol = .modbusRtu
  errors : Booked m w.input.status early l

lemma modbusBooks_new (m : DeviceManager) (options : ModbusDeviceOptions) :
    ModbusBooks m 0 { input := { options := options } } {} :=
  ⟨rfl, fun _ => rfl⟩

/-- The first reading of the clock decides whether the pass reports more than the device counts. -/
lemma ModbusBooks.wp_readInput {early : Nat} {started : Bool} (h : ModbusBooks m early ⟨started, d⟩ l) :
    wp (ledgerEnv ok) (m.readInput ModbusDevice.interface d) (fun w' l' =>
      ∃ now later, ok l (.device .steadyNow) now ∧ l'.clock = l.clock ++ now :: later ∧
        (¬now < d.nextPoll → ModbusBooks m early w' l') ∧
        (now < d.nextPoll → ModbusBooks m (early + 1) w' l')) l := by
  have hprotocol : d.status.protocol = .modbusRtu := h.protocol
  have hbooked : ∀ sessions clock, Booked m d.status early { l with sessions := sessions, clock := clock } :=
    fun _ _ => h.errors
  unfold DeviceManager.readInput
  rw [wp_bind, wp_device]
  apply ModbusDevice.wp_read hprotocol
  · intro now hok hearly
    have hwait : Accounted d.status d.status 1 {} := ⟨rfl, 0, by rw [hprotocol]; rfl, rfl⟩
    apply wp_mono _ ((hbooked l.sessions (l.clock ++ [now])).handle ModbusDevice.stopsQuietly hwait)
    rintro w' l' ⟨hprotocol', hbooked', -, hclock⟩
    refine ⟨now, [], hok, hclock, ?_, ?_⟩
    · intro hlate
      exact absurd hearly hlate
    · intro _
      exact ⟨hprotocol'.trans hprotocol, hbooked'⟩
  · intro now hok hlate result d' sessions later hresult
    apply wp_mono _ ((hbooked sessions (l.clock ++ now :: later)).handle ModbusDevice.stopsQuietly hresult)
    rintro w' l' ⟨hprotocol', hbooked', -, hclock⟩
    refine ⟨now, later, hok, hclock, ?_, ?_⟩
    · intro _
      exact ⟨hprotocol'.trans hprotocol, hbooked'⟩
    · intro hearly
      exact absurd hearly hlate

end

/-- A pass reports what the device counts in it, and one more error if it is early. -/
theorem wp_runDevice_modbus {m : DeviceManager} {early : Nat} {w : Worker ModbusDevice} {l : Ledger}
    (h : ModbusBooks m early w l) :
    wp (ledgerEnv SteadyClock) (m.runDevice ModbusDevice.interface w) (fun w' l' =>
      (¬EarlyPass w l l' → ModbusBooks m early w' l') ∧
      (EarlyPass w l l' → ModbusBooks m (early + 1) w' l')) l := by
  obtain ⟨started, d⟩ := w
  apply wp_runDevice
  · intro hstarted
    obtain rfl : started = true := hstarted
    apply wp_mono _ h.wp_readInput
    rintro w' l' ⟨now, later, -, hclock, hlate, hearly⟩
    have hfirst : l'.clock[l.clock.length]? = some now := by
      rw [hclock]
      simp
    constructor
    · intro hnot
      apply hlate
      intro hlt
      exact hnot ⟨rfl, now, hfirst, hlt⟩
    · rintro ⟨-, now', hnow', hlt⟩
      obtain rfl : now = now' := Option.some.inj (hfirst.symm.trans hnow')
      exact hearly hlt
  · intro hstopped
    obtain rfl : started = false := hstopped
    have hnever : ∀ l', ¬EarlyPass ⟨false, d⟩ l l' := by
      rintro l' ⟨hstarted, -⟩
      cases hstarted
    intro answer l₁ hopen
    obtain ⟨-, rfl⟩ := hopen
    match answer with
    | some error =>
      refine ⟨nofun, ?_⟩
      intro error' _ reports charged hreports
      constructor
      · intro _
        exact ⟨h.protocol, Booked.startFailed h.errors rfl rfl hreports⟩
      · intro hearly
        exact absurd hearly (hnever _)
    | none =>
      -- the clock is read again before the first poll, and has not gone back
      intro now l₂ hnow
      obtain ⟨-, rfl⟩ := hnow
      refine ⟨fun _ => ?_, nofun⟩
      have hstarted : ModbusBooks m early ⟨true, { d with nextPoll := now }.setOnline true⟩
          ((l.noteDevice (.openPort d.options.port d.options.baudRate) none).noteDevice .steadyNow now) :=
        ⟨h.protocol, h.errors⟩
      apply wp_mono _ hstarted.wp_readInput
      rintro w' l' ⟨now', later, hsteady, -, hlate, -⟩
      constructor
      · intro _
        apply hlate
        have hle : now ≤ now' := hsteady now (by simp [Ledger.noteDevice])
        exact not_lt.mpr hle
      · intro hearly
        exact absurd hearly (hnever _)

/-- The counter of Modbus errors agrees with the device if and only if no pass began before the next
poll was due. -/
theorem modbus_errors_agree_iff (interval : Int) (topicPrefix : Text) (options : ModbusDeviceOptions)
    {early : Nat} {w : Worker ModbusDevice} {l : Ledger}
    (hrun : CountedLoop (ledgerEnv SteadyClock)
      ((Gateway.deviceManager interval topicPrefix).runDevice ModbusDevice.interface) EarlyPass
      { input := { options := options } } {} early w l) :
    l.added .modbusError = w.input.status.errorCount ↔ early = 0 := by
  have hbooks : ModbusBooks _ early w l :=
    hrun.invariant (fun _ _ _ h => wp_runDevice_modbus h) (modbusBooks_new _ options)
  have hentered : Entered topicPrefix l :=
    hrun.loop.invariant (J := fun _ l => Entered topicPrefix l)
      (fun v _ h => h.runDevice ModbusDevice.interface v) (entered_empty topicPrefix)
  have hreports : l.reports = plainReports .modbusRtu (w.input.status.errorCount + early) := by
    rw [← hbooks.protocol]
    exact hbooks.errors rfl
  have hcounter : l.added .modbusError = w.input.status.errorCount + early := by
    rw [hentered.added_eq (by simp [Counter.IsTcp]) (fun _ => rfl), hreports, plainReports,
      List.map_replicate, List.sum_replicate]
    exact Nat.mul_one _
  rw [hcounter]
  omega

/-! ### A slave that does not answer -/

lemma exec_steadyNow {α : Type} {k : Int → DeviceCall α} {l l' : Ledger} {r : α} (now : Int)
    (hsteady : ∀ t ∈ l.clock, t ≤ now)
    (hrest : Exec (deviceEnv SteadyClock) (k now) { l with clock := l.clock ++ [now] } r l') :
    Exec (deviceEnv SteadyClock) (.call (E := deviceSignature) .steadyNow k) l r l' :=
  .call ⟨hsteady, rfl⟩ hrest

/-- A device with the default options. -/
def defaultModbus : ModbusDevice :=
  { options := { port := ascii "/dev/ttyUSB1" } }

/-- The same after a poll without an answer. -/
def unanswered : ModbusDevice :=
  { defaultModbus with nextPoll := 1000000000 }.recordError.setOnline false

/-- The ledger after that poll. -/
def pollLedger : Ledger where
  sessions := [[]]
  reports := [(.modbusRtu, {})]
  charged := Ledger.raise (Ledger.raise (fun _ => 0) .protocolError 1) .modbusError 1
  clock := [0, 0, 0, 0, 0]

/-- The ledger after a wait in the middle of the poll interval. -/
def waitLedger : Ledger where
  sessions := [[]]
  reports := [(.modbusRtu, {}), (.modbusRtu, {})]
  charged := Ledger.raise (Ledger.raise pollLedger.charged .protocolError 1) .modbusError 1
  clock := [0, 0, 0, 0, 0, 500000000]

lemma exec_collectResponse_silent :
    Exec (deviceEnv SteadyClock) (ModbusDevice.collectResponse 500000000 [] ⟨5, by decide⟩)
      { sessions := [[]], clock := [0, 0, 0] } (.ok []) { sessions := [[]], clock := [0, 0, 0, 0, 0] } := by
  rw [ModbusDevice.collectResponse]
  apply exec_steadyNow 0 (by simp)
  apply exec_steadyNow 0 (by simp)
  refine .call (a := Except.ok []) ⟨trivial, rfl⟩ ?_
  exact .ret

lemma exec_read_silent :
    Exec (deviceEnv SteadyClock)
      (ModbusDevice.interface.read 250 ({ defaultModbus with nextPoll := 0 }.setOnline true))
      { sessions := [[]], clock := [0] }
      ({ code := .timeout, error := ascii "Modbus response timeout" }, unanswered)
      { sessions := [[]], clock := [0, 0, 0, 0, 0] } := by
  apply exec_steadyNow 0 (by simp)
  refine .call (E := deviceSignature) (o := .discardInput) (a := none) ⟨trivial, rfl⟩ ?_
  refine .call (a := none) ⟨trivial, rfl⟩ ?_
  apply exec_steadyNow 0 (by simp [Ledger.noteDevice])
  apply Exec.bind (p := ModbusDevice.collectResponse 500000000 [] ⟨5, by decide⟩) exec_collectResponse_silent
  exact .ret

/-- A timeout of this device is reported and charged, counted or not. -/
lemma exec_timeout_handled (interval : Int) (topicPrefix : Text) (error : Text) (l : Ledger) :
    Exec (ledgerEnv SteadyClock)
      ((Gateway.deviceManager interval topicPrefix).handleResult ModbusDevice.interface
        { code := .timeout, error := error } unanswered)
      l ⟨true, unanswered⟩
      { l with
        reports := l.reports ++ [(.modbusRtu, {})]
        charged := Ledger.raise (Ledger.raise l.charged .protocolError 1) .modbusError 1 } := by
  refine .call (a := ()) ⟨trivial, rfl⟩ ?_
  refine .call (a := ()) ⟨trivial, rfl⟩ ?_
  refine .call (a := ()) ⟨trivial, rfl⟩ ?_
  refine .call (a := ()) ⟨trivial, rfl⟩ ?_
  exact .ret

lemma exec_poll_pass (interval : Int) (topicPrefix : Text) :
    Exec (ledgerEnv SteadyClock)
      ((Gateway.deviceManager interval topicPrefix).runDevice ModbusDevice.interface { input := defaultModbus })
      {} ⟨true, unanswered⟩ pollLedger := by
  have hstart : Exec (deviceEnv SteadyClock) (ModbusDevice.interface.start defaultModbus) {}
      (none, { defaultModbus with nextPoll := 0 }.setOnline true) { sessions := [[]], clock := [0] } := by
    refine .call (E := deviceSignature) (o := .openPort _ _) (a := none) ⟨trivial, rfl⟩ ?_
    apply exec_steadyNow 0 (by simp [Ledger.noteDevice])
    exact .ret
  apply Exec.bind (exec_device hstart)
  apply Exec.bind (exec_device exec_read_silent)
  exact exec_timeout_handled interval topicPrefix (ascii "Modbus response timeout") _

lemma exec_wait_pass (interval : Int) (topicPrefix : Text) :
    Exec (ledgerEnv SteadyClock)
      ((Gateway.deviceManager interval topicPrefix).runDevice ModbusDevice.interface ⟨true, unanswered⟩)
      pollLedger ⟨true, unanswered⟩ waitLedger := by
  have hread : Exec (deviceEnv SteadyClock) (ModbusDevice.interface.read 250 unanswered) pollLedger
      ({}, unanswered) { pollLedger with clock := [0, 0, 0, 0, 0, 500000000] } := by
    apply exec_steadyNow 500000000 (by simp [pollLedger])
    refine .call (E := deviceSignature) (o := .sleepFor 250) (a := ()) ⟨trivial, rfl⟩ ?_
    exact .ret
  apply Exec.bind (exec_device hread)
  exact exec_timeout_handled interval topicPrefix [] _

lemma run_poll_and_wait (interval : Int) (topicPrefix : Text) :
    CountedLoop (ledgerEnv SteadyClock)
      ((Gateway.deviceManager interval topicPrefix).runDevice ModbusDevice.interface) EarlyPass
      { input := defaultModbus } {} 1 ⟨true, unanswered⟩ waitLedger := by
  apply CountedLoop.marked _ (exec_wait_pass interval topicPrefix)
  · exact ⟨rfl, 500000000, rfl, by decide⟩
  · apply CountedLoop.pass .start (exec_poll_pass interval topicPrefix)
    rintro ⟨hstarted, -⟩
    cases hstarted

theorem modbus_errors_agree_iff_wait :
    waitLedger.added .modbusError = unanswered.status.errorCount ↔ 1 = 0 :=
  modbus_errors_agree_iff 3 (ascii "gateway") _ (run_poll_and_wait 3 (ascii "gateway"))

/-- One error of the device, and two in the metrics: the poll without an answer and the wait after it. -/
theorem wait_counted_as_error :
    Loop (ledgerEnv SteadyClock)
      ((Gateway.deviceManager 3 (ascii "gateway")).runDevice ModbusDevice.interface)
      { input := { options := { port := ascii "/dev/ttyUSB1" } } } {} ⟨true, unanswered⟩ waitLedger ∧
    waitLedger.added .modbusError = 2 ∧ unanswered.status.errorCount = 1 :=
  ⟨(run_poll_and_wait 3 (ascii "gateway")).loop, rfl, rfl⟩

end EdgeGateway
