import EdgeGateway.Model.DeviceWorkers
import EdgeGateway.Proofs.Ledger

/-!
# The protocol between the manager, its workers and the devices

The manager stops the devices from its own thread while the workers start, read and stop them. What a worker
has done so far decides which calls it may make next.
-/

namespace EdgeGateway
open CallTree

/-! ### The two levels of `run_device` -/

namespace DeviceManager

variable {σ α β : Type}

/-- The steps of a pass as the calls of a device and the handlers make them. Inside of the loop `running_`
was `true`. -/
def unfoldCalls (m : DeviceManager) (interface : DeviceInterface σ) : RunCall α → σ → WorkerCall (α × σ)
  | .ret r, s => return (r, s)
  | .call .loadRunning k, s => m.unfoldCalls interface (k true) s
  | .call (.call .start) k, s => do
    let (error, s) ← WorkerCall.device (interface.start s)
    m.unfoldCalls interface (k error) s
  | .call (.call (.read timeout)) k, s => do
    let (result, s) ← WorkerCall.device (interface.read timeout s)
    m.unfoldCalls interface (k result) s
  | .call (.call .stop) k, s => do
    let s ← WorkerCall.device (interface.stop s)
    m.unfoldCalls interface (k ()) s
  | .call (.call .getDeviceStatus) k, s => m.unfoldCalls interface (k (interface.getDeviceStatus s)) s
  | .call (.handleData data protocol) k, s => do
    m.callDataHandler data protocol
    m.unfoldCalls interface (k ()) s
  | .call (.handleError protocol code error stats) k, s => do
    m.callErrorHandler protocol code error stats
    m.unfoldCalls interface (k ()) s
  | .call (.sleepFor seconds) k, s => do
    WorkerCall.sleepFor seconds
    m.unfoldCalls interface (k ()) s

variable (m : DeviceManager) (interface : DeviceInterface σ)

lemma unfoldCalls_bind (p : RunCall α) (f : α → RunCall β) (s : σ) :
    m.unfoldCalls interface (p >>= f) s =
      m.unfoldCalls interface p s >>= fun r => m.unfoldCalls interface (f r.1) r.2 := by
  induction p generalizing s with
  | ret r => rfl
  | call o k ih =>
    rw [Prog.call_bind]
    match o with
    | .loadRunning => exact ih true s
    | .call .start => simp only [unfoldCalls, Prog.bind_assoc, ih]
    | .call (.read timeout) => simp only [unfoldCalls, Prog.bind_assoc, ih]
    | .call .stop => simp only [unfoldCalls, Prog.bind_assoc, ih]
    | .call .getDeviceStatus => exact ih _ s
    | .handleData data protocol => simp only [unfoldCalls, Prog.bind_assoc, ih]
    | .handleError protocol code error stats => simp only [unfoldCalls, Prog.bind_assoc, ih]
    | .sleepFor seconds => simp only [unfoldCalls, Prog.bind_assoc, ih]

lemma unfoldCalls_handData (result : DeviceReadResult) (protocol : ProtocolType) (s : σ) :
    m.unfoldCalls interface (m.handData result protocol) s = m.handOver result protocol >>= fun _ => .ret ((), s) := by
  obtain ⟨code, data, error, stats⟩ := result
  cases code with
  | data =>
    cases data with
    | none => rfl
    | some data =>
      change m.unfoldCalls interface (ite _ _ _) s = m.callDataHandler data protocol >>= _
      by_cases hset : m.dataHandler.isSome = true
      · rw [if_pos hset]
        rfl
      · rw [if_neg hset, callDataHandler, Option.not_isSome_iff_eq_none.mp hset]
        rfl
  | timeout => rfl
  | protocolError => rfl
  | transportError => rfl

lemma unfoldCalls_handError (result : DeviceReadResult) (protocol : ProtocolType) (s : σ) :
    m.unfoldCalls interface (m.handError result protocol) s = m.report result protocol >>= fun _ => .ret ((), s) := by
  unfold handError report
  by_cases hreport : reportError result protocol = true
  · rw [hreport, Bool.true_and, if_pos rfl]
    by_cases hset : m.errorHandler.isSome = true
    · rw [if_pos hset]
      rfl
    · rw [if_neg hset, callErrorHandler, Option.not_isSome_iff_eq_none.mp hset]
      rfl
  · rw [Bool.not_eq_true] at hreport
    rw [hreport]
    rfl

lemma unfoldCalls_reportStart (error : Text) (s : σ) :
    m.unfoldCalls interface (m.reportStart error) s =
      m.callErrorHandler (interface.getDeviceStatus s).protocol .transportError error {} >>= fun _ => .ret ((), s) := by
  unfold reportStart
  by_cases hset : m.errorHandler.isSome = true
  · rw [if_pos hset]
    rfl
  · rw [if_neg hset, callErrorHandler, Option.not_isSome_iff_eq_none.mp hset]
    rfl

/-- A pass over a started device, at both levels. -/
lemma unfoldCalls_readPass (s : σ) :
    (m.unfoldCalls interface m.readPass s >>= fun r => .ret ⟨r.1, r.2⟩) = m.readInput interface s := by
  unfold readPass readInput
  change (WorkerCall.device _ >>= _) >>= _ = _
  rw [Prog.bind_assoc]
  congr 1
  funext ⟨result, s'⟩
  let protocol := (interface.getDeviceStatus s').protocol
  change (m.unfoldCalls interface (m.handData result protocol >>= fun _ => m.handError result protocol >>= fun _ =>
      if result.code = .transportError then call .stop >>= fun _ => .ret false else .ret true) s' >>=
    fun r => .ret ⟨r.1, r.2⟩) = m.handOver result protocol >>= fun _ => m.report result protocol >>= fun _ =>
      endPass interface result s'
  rw [unfoldCalls_bind, unfoldCalls_handData, Prog.bind_assoc, Prog.bind_assoc]
  congr 1
  funext _
  change (m.unfoldCalls interface (m.handError result protocol >>= _) s' >>= _) = _
  rw [unfoldCalls_bind, unfoldCalls_handError, Prog.bind_assoc, Prog.bind_assoc]
  congr 1
  funext _
  unfold endPass
  by_cases htransport : result.code = .transportError
  · rw [if_pos htransport, if_pos htransport]
    change (WorkerCall.device _ >>= _) >>= _ = _
    rw [Prog.bind_assoc]
    rfl
  · rw [if_neg htransport, if_neg htransport]
    rfl

/-- `run_device` over the virtual functions, with the functions of the device and the handlers put in, is
`run_device` over the calls that these make. -/
theorem runDevice_eq_unfoldCalls (w : Worker σ) :
    m.runDevice interface w = m.unfoldCalls interface (m.pass w.started) w.input >>= fun r => .ret ⟨r.1, r.2⟩ := by
  obtain ⟨started, s⟩ := w
  cases started with
  | true => exact (m.unfoldCalls_readPass interface s).symm
  | false =>
    change (WorkerCall.device _ >>= _) = (WorkerCall.device _ >>= _) >>= _
    rw [Prog.bind_assoc]
    congr 1
    funext ⟨error, s'⟩
    cases error with
    | none => exact (m.unfoldCalls_readPass interface s').symm
    | some error =>
      change _ = m.unfoldCalls interface (m.reportStart error >>= _) s' >>= _
      rw [unfoldCalls_bind, unfoldCalls_reportStart, Prog.bind_assoc, Prog.bind_assoc]
      rfl

end DeviceManager

/-! ### What a worker may do -/

/-- What the error handler is told. -/
abbrev ErrorReport :=
  ProtocolType × ReadCode × Text × ProtocolErrorStats

/-- What a worker has done, as far as it decides what comes next. -/
structure Duty where
  /-- The most recent `start` returned `true`, and no transport error was returned since. -/
  readable : Bool := false
  /-- A transport error was returned, and `stop` was not called since. -/
  stopDue : Bool := false
  /-- The last result, or failure to start, as long as the protocol was not asked for. -/
  last : Option DeviceReadResult := none
  dataDue : List SensorData := []
  dataHanded : List SensorData := []
  errorsDue : List ErrorReport := []
  errorsHanded : List ErrorReport := []

/-- Results that are errors. Only a Modbus device is expected to answer. -/
def isError (result : DeviceReadResult) (protocol : ProtocolType) : Bool :=
  match result.code with
  | .data => false
  | .timeout => protocol = .modbusRtu
  | .protocolError => true
  | .transportError => true

/-- The report about a result, if there is one. -/
def errorReport (result : Option DeviceReadResult) (protocol : ProtocolType) : List ErrorReport :=
  match result with
  | none => []
  | some result =>
    if isError result protocol || !result.errorStats.isEmpty then
      [(protocol, result.code, result.error, result.errorStats)]
    else
      []

namespace Duty

def noteCall (d : Duty) (o : InterfaceOp) : o.Ans → Duty :=
  match o with
  | .start => fun (error : Option Text) =>
      match error with
      | none => { d with readable := true }
      | some error => { d with readable := false, last := some { code := .transportError, error := error } }
  | .read _ => fun (result : DeviceReadResult) =>
      { d with
        readable := d.readable && result.code ≠ .transportError
        stopDue := d.stopDue || result.code = .transportError
        last := some result
        dataDue := d.dataDue ++ handed result }
  | .stop => fun _ => { d with stopDue := false }
  | .getDeviceStatus => fun (status : DeviceStatus) =>
      { d with last := none, errorsDue := d.errorsDue ++ errorReport d.last status.protocol }

def note (d : Duty) (e : Event runSignature) : Duty :=
  match e with
  | ⟨.call o, a⟩ => d.noteCall o a
  | ⟨.handleData data _, _⟩ => { d with dataHanded := d.dataHanded ++ [data] }
  | ⟨.handleError protocol code error stats, _⟩ =>
      { d with errorsHanded := d.errorsHanded ++ [(protocol, code, error, stats)] }
  | ⟨.loadRunning, _⟩ => d
  | ⟨.sleepFor _, _⟩ => d

/-- Everything that is due was handed over, to the handlers that there are. -/
structure Balanced (m : DeviceManager) (d : Duty) : Prop where
  data : m.dataHandler.isSome → d.dataHanded = d.dataDue
  errors : m.errorHandler.isSome → d.last = none ∧ d.errorsHanded = d.errorsDue

/-- What may come next. A handler gets what is due next, and the device is started and read only when
everything was handed over. -/
def Allowed (m : DeviceManager) (d : Duty) (e : Event runSignature) : Prop :=
  match e with
  | ⟨.loadRunning, _⟩ => d.Balanced m
  | ⟨.call .start, _⟩ => d.stopDue = false ∧ d.Balanced m
  | ⟨.call (.read _), _⟩ => d.readable = true ∧ d.Balanced m
  | ⟨.handleData data _, _⟩ => d.dataHanded ++ [data] <+: d.dataDue
  | ⟨.handleError protocol code error stats, _⟩ => d.errorsHanded ++ [(protocol, code, error, stats)] <+: d.errorsDue
  | _ => True

end Duty

abbrev RunHistory :=
  List (Event runSignature)

def duty (h : RunHistory) : Duty :=
  h.foldl Duty.note {}

lemma duty_append (h : RunHistory) (e : Event runSignature) : duty (h ++ [e]) = (duty h).note e := by
  unfold duty
  rw [List.foldl_append]
  rfl

/-- Every step of a worker was allowed by those before it. -/
abbrev Lawful (m : DeviceManager) : RunHistory → Prop :=
  Justified (fun before e => (duty before).Allowed m e)

section

variable {m : DeviceManager} {h : RunHistory}

/-- The duties of a worker between two passes. -/
structure Rested (m : DeviceManager) (started : Bool) (d : Duty) : Prop where
  readable : d.readable = started
  stopDue : d.stopDue = false
  balanced : d.Balanced m

/-- The steps of a worker with any answers. -/
abbrev runEnv : Env runSignature RunHistory :=
  recording (E := runSignature) (fun _ _ _ => True)

/-- The steps are lawful, and at the end the duties are those given. -/
abbrev lawfully {α : Type} (m : DeviceManager) (p : DeviceManager.RunCall α) (Q : α → Duty → Prop) (h : RunHistory) :
    Prop :=
  always runEnv (Lawful m) p (fun r h' => Lawful m h' ∧ Q r (duty h')) h

lemma lawfully_perform {o : RunOp} (hlawful : Lawful m h) (hallowed : ∀ a, (duty h).Allowed m ⟨o, a⟩)
    {Q : o.Ans → Duty → Prop} (hQ : ∀ a, Q a ((duty h).note ⟨o, a⟩)) :
    lawfully m (Prog.perform (E := runSignature) o) Q h := by
  refine ⟨hlawful, ?_⟩
  rintro a h' ⟨-, rfl⟩
  have hnext := hlawful.append (hallowed a)
  refine ⟨hnext, hnext, ?_⟩
  rw [duty_append]
  exact hQ a

lemma lawfully_ret {α : Type} {r : α} (hlawful : Lawful m h) {Q : α → Duty → Prop} (hQ : Q r (duty h)) :
    lawfully m (.ret r) Q h :=
  ⟨hlawful, hlawful, hQ⟩

lemma lawfully_bind {α β : Type} {p : DeviceManager.RunCall α} {f : α → DeviceManager.RunCall β}
    {P : α → Duty → Prop} {Q : β → Duty → Prop} (hp : lawfully m p P h)
    (hf : ∀ r h', Lawful m h' → P r (duty h') → lawfully m (f r) Q h') : lawfully m (p >>= f) Q h := by
  apply always_bind
  apply always_mono _ hp
  rintro r h' ⟨hlawful, hP⟩
  exact hf r h' hlawful hP

lemma errorReport_some (result : DeviceReadResult) (protocol : ProtocolType) :
    errorReport (some result) protocol =
      if DeviceManager.reportError result protocol then [(protocol, result.code, result.error, result.errorStats)]
      else [] := by
  have heq : (isError result protocol || !result.errorStats.isEmpty) = DeviceManager.reportError result protocol := by
    unfold isError DeviceManager.reportError
    cases result.code <;> simp [Bool.or_comm]
  simp only [errorReport, heq]

/-- The duties of a worker that has read, with what is still to be handed over. -/
structure AfterRead (m : DeviceManager) (started : Bool) (data : List SensorData) (errors : List ErrorReport)
    (d : Duty) : Prop where
  readable : d.readable = started
  stopDue : d.stopDue = !started
  last : d.last = none
  data : m.dataHandler.isSome → d.dataDue = d.dataHanded ++ data
  errors : m.errorHandler.isSome → d.errorsDue = d.errorsHanded ++ errors

lemma AfterRead.balanced {started : Bool} {d : Duty} (hd : AfterRead m started [] [] d) : d.Balanced m := by
  constructor
  · intro hset
    rw [hd.data hset, List.append_nil]
  · intro hset
    rw [hd.errors hset, List.append_nil]
    exact ⟨hd.last, rfl⟩

lemma lawfully_handData {result : DeviceReadResult} {protocol : ProtocolType} {started : Bool}
    {errors : List ErrorReport} (hlawful : Lawful m h) (hd : AfterRead m started (handed result) errors (duty h)) :
    lawfully m (m.handData result protocol) (fun _ => AfterRead m started [] errors) h := by
  have hnothing : handed result = [] → lawfully m (.ret ()) (fun _ => AfterRead m started [] errors) h := by
    intro hhanded
    rw [hhanded] at hd
    exact lawfully_ret hlawful hd
  obtain ⟨code, data, error, stats⟩ := result
  cases code with
  | data =>
    cases data with
    | none => exact hnothing rfl
    | some data =>
      change lawfully m (ite _ _ _) _ h
      by_cases hset : m.dataHandler.isSome = true
      · rw [if_pos hset]
        have hdue : (duty h).dataDue = (duty h).dataHanded ++ [data] := hd.data hset
        apply lawfully_perform hlawful
        · intro _
          change _ <+: _
          rw [hdue]
        · intro _
          refine ⟨hd.readable, hd.stopDue, hd.last, ?_, hd.errors⟩
          intro _
          rw [List.append_nil]
          exact hdue
      · rw [if_neg hset]
        exact lawfully_ret hlawful ⟨hd.readable, hd.stopDue, hd.last, fun h => absurd h hset, hd.errors⟩
  | timeout => exact hnothing rfl
  | protocolError => exact hnothing rfl
  | transportError => exact hnothing rfl

/-- The error handler gets the one report that is due. -/
lemma lawfully_handleError {protocol : ProtocolType} {code : ReadCode} {error : Text} {stats : ProtocolErrorStats}
    {started : Bool} (hlawful : Lawful m h)
    (hd : AfterRead m started [] [(protocol, code, error, stats)] (duty h)) (hset : m.errorHandler.isSome) :
    lawfully m (Prog.perform (E := runSignature) (.handleError protocol code error stats))
      (fun _ => AfterRead m started [] []) h := by
  have hdue := hd.errors hset
  apply lawfully_perform hlawful
  · intro _
    change _ <+: _
    rw [hdue]
  · intro _
    refine ⟨hd.readable, hd.stopDue, hd.last, hd.data, ?_⟩
    intro _
    rw [List.append_nil]
    exact hdue

lemma lawfully_handError {result : DeviceReadResult} {protocol : ProtocolType} {started : Bool}
    (hlawful : Lawful m h) (hd : AfterRead m started [] (errorReport (some result) protocol) (duty h)) :
    lawfully m (m.handError result protocol) (fun _ => AfterRead m started [] []) h := by
  rw [errorReport_some] at hd
  unfold DeviceManager.handError
  by_cases hreport : DeviceManager.reportError result protocol = true
  · rw [if_pos hreport] at hd
    rw [hreport, Bool.true_and]
    by_cases hset : m.errorHandler.isSome = true
    · rw [if_pos hset]
      exact lawfully_handleError hlawful hd hset
    · rw [if_neg hset]
      exact lawfully_ret hlawful ⟨hd.readable, hd.stopDue, hd.last, hd.data, fun h => absurd h hset⟩
  · rw [if_neg hreport] at hd
    rw [Bool.not_eq_true] at hreport
    rw [hreport]
    exact lawfully_ret hlawful hd

lemma lawfully_readPass (hlawful : Lawful m h) (hd : Rested m true (duty h)) :
    lawfully m m.readPass (fun started => Rested m started) h := by
  unfold DeviceManager.readPass
  apply lawfully_bind (P := fun result d => AfterRead m (result.code ≠ .transportError) (handed result) []
    { d with last := none } ∧ d.last = some result)
  · apply lawfully_perform (o := .call (.read 250)) hlawful (fun _ => ⟨hd.readable, hd.balanced⟩)
    intro (result : DeviceReadResult)
    refine ⟨⟨?_, ?_, rfl, ?_, ?_⟩, rfl⟩
    · change ((duty h).readable && _) = _
      rw [hd.readable, Bool.true_and]
    · change ((duty h).stopDue || _) = _
      rw [hd.stopDue, Bool.false_or]
      simp
    · intro hset
      change (duty h).dataDue ++ _ = _
      rw [← hd.balanced.data hset]
      rfl
    · intro hset
      change (duty h).errorsDue = _
      rw [← (hd.balanced.errors hset).2, List.append_nil]
      rfl
  · intro result h₁ hlawful₁ ⟨hd₁, hlast⟩
    apply lawfully_bind (P := fun status => AfterRead m (result.code ≠ .transportError) (handed result)
      (errorReport (some result) status.protocol))
    · apply lawfully_perform (o := .call .getDeviceStatus) hlawful₁ (fun _ => trivial)
      intro (status : DeviceStatus)
      refine ⟨hd₁.readable, hd₁.stopDue, rfl, hd₁.data, ?_⟩
      intro hset
      change (duty h₁).errorsDue ++ errorReport (duty h₁).last status.protocol = _
      rw [hd₁.errors hset, hlast, List.append_nil]
      rfl
    · intro status h₂ hlawful₂ hd₂
      apply lawfully_bind (lawfully_handData hlawful₂ hd₂)
      intro _ h₃ hlawful₃ hd₃
      apply lawfully_bind (lawfully_handError hlawful₃ hd₃)
      intro _ h₄ hlawful₄ hd₄
      by_cases htransport : result.code = .transportError
      · rw [if_pos htransport]
        apply lawfully_bind (P := fun _ => Rested m false)
        · apply lawfully_perform (o := .call .stop) hlawful₄ (fun _ => trivial)
          intro _
          have hreadable : (duty h₄).readable = false := by
            rw [hd₄.readable]
            simp [htransport]
          exact ⟨hreadable, rfl, hd₄.balanced.data, hd₄.balanced.errors⟩
        · exact fun _ _ hlawful₅ hd₅ => lawfully_ret hlawful₅ hd₅
      · rw [if_neg htransport]
        apply lawfully_ret hlawful₄
        refine ⟨?_, ?_, hd₄.balanced⟩
        · rw [hd₄.readable]
          simp [htransport]
        · rw [hd₄.stopDue]
          simp [htransport]

/-- A failure to start is reported as a transport error. -/
lemma lawfully_reportStart {error : Text} (hlawful : Lawful m h) (hreadable : (duty h).readable = false)
    (hstopDue : (duty h).stopDue = false)
    (hlast : (duty h).last = some { code := .transportError, error := error })
    (hdata : m.dataHandler.isSome → (duty h).dataHanded = (duty h).dataDue)
    (herrors : m.errorHandler.isSome → (duty h).errorsHanded = (duty h).errorsDue) :
    lawfully m (m.reportStart error) (fun _ => Rested m false) h := by
  unfold DeviceManager.reportStart
  by_cases hset : m.errorHandler.isSome = true
  · rw [if_pos hset]
    apply lawfully_bind (P := fun status d => d.readable = false ∧ d.stopDue = false ∧ d.last = none ∧
      (m.dataHandler.isSome → d.dataHanded = d.dataDue) ∧
      d.errorsDue = d.errorsHanded ++ [(status.protocol, .transportError, error, ({} : ProtocolErrorStats))])
    · apply lawfully_perform (o := .call .getDeviceStatus) hlawful (fun _ => trivial)
      intro (status : DeviceStatus)
      refine ⟨hreadable, hstopDue, rfl, hdata, ?_⟩
      change (duty h).errorsDue ++ errorReport (duty h).last status.protocol = _
      rw [← herrors hset, hlast]
      rfl
    · intro status h₁ hlawful₁ ⟨hreadable₁, hstopDue₁, hlast₁, hdata₁, herrors₁⟩
      apply lawfully_perform (o := .handleError status.protocol .transportError error {}) hlawful₁
      · intro _
        change _ <+: _
        rw [herrors₁]
      · exact fun _ => ⟨hreadable₁, hstopDue₁, hdata₁, fun _ => ⟨hlast₁, herrors₁.symm⟩⟩
  · rw [if_neg hset]
    exact lawfully_ret hlawful ⟨hreadable, hstopDue, hdata, fun h => absurd h hset⟩

/-- A whole pass of `run_device`. -/
theorem lawfully_pass {started : Bool} (hlawful : Lawful m h) (hd : Rested m started (duty h)) :
    lawfully m (m.pass started) (fun started => Rested m started) h := by
  cases started with
  | true => exact lawfully_readPass hlawful hd
  | false =>
    apply lawfully_bind (p := DeviceManager.call .start) (P := fun (error : Option Text) d =>
      match error with
      | none => Rested m true d
      | some error => d.readable = false ∧ d.stopDue = false ∧
          d.last = some { code := .transportError, error := error } ∧
          (m.dataHandler.isSome → d.dataHanded = d.dataDue) ∧ (m.errorHandler.isSome → d.errorsHanded = d.errorsDue))
    · apply lawfully_perform (o := .call .start) hlawful (fun _ => ⟨hd.stopDue, hd.balanced⟩)
      intro (error : Option Text)
      cases error with
      | none => exact ⟨rfl, hd.stopDue, hd.balanced.data, hd.balanced.errors⟩
      | some error => exact ⟨rfl, hd.stopDue, rfl, hd.balanced.data, fun hset => (hd.balanced.errors hset).2⟩
    · intro (error : Option Text) h₁ hlawful₁ hd₁
      cases error with
      | none => exact lawfully_readPass hlawful₁ hd₁
      | some error =>
        obtain ⟨hreadable, hstopDue, hlast, hdata, herrors⟩ := hd₁
        apply lawfully_bind (lawfully_reportStart hlawful₁ hreadable hstopDue hlast hdata herrors)
        intro _ h₂ hlawful₂ hd₂
        apply lawfully_bind (P := fun _ => Rested m false)
        · apply lawfully_perform (o := .sleepFor m.reconnectInterval) hlawful₂ (fun _ => trivial)
          exact fun _ => ⟨hd₂.readable, hd₂.stopDue, hd₂.balanced.data, hd₂.balanced.errors⟩
        · exact fun _ _ hlawful₃ hd₃ => lawfully_ret hlawful₃ hd₃

end

end EdgeGateway
