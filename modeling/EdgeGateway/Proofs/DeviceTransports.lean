import EdgeGateway.Proofs.Descriptors
import EdgeGateway.Proofs.WorkerProtocol

/-!
# Devices and their descriptors

Seen from a device, its worker holds nothing, a serial port or a CAN socket. A device asks for its transport
only while it is open, and what the system calls do to descriptors follows what the device asked for. So the
workers keep to the descriptors they opened, in every interleaving.
-/

namespace EdgeGateway
open CallTree Handles

/-- What a worker holds, as its device sees it. -/
inductive Holding where
  | nothing
  | port
  | can
deriving DecidableEq

namespace Holding

/-- What is held after a call of a device. -/
def after (a : Holding) (o : DeviceOp) : o.Ans → Holding :=
  match o with
  | .openPort _ _ => fun (error : Option Text) => if error.isNone then .port else .nothing
  | .openCan _ => fun (error : Option Text) => if error.isNone then .can else .nothing
  | .closePort => fun _ => .nothing
  | .closeCan => fun _ => .nothing
  | _ => fun _ => a

/-- A transport is used while it is open, and a serial port is opened at the speed of the device. -/
def Allows (speed : UInt32) (a : Holding) : DeviceOp → Prop
  | .openPort _ baudRate => SerialPort.toSpeed baudRate = speed ∧ a ≠ .can
  | .closePort => a ≠ .can
  | .readSome _ => a = .port
  | .discardInput => a = .port
  | .writeAll _ => a = .port
  | .openCan _ => a ≠ .port
  | .closeCan => a ≠ .port
  | .receiveCan _ => a = .can
  | _ => True

def deviceEnv : Env deviceSignature Holding :=
  fun a o x a' => a' = a.after o x

def workerEnv : Env workerSignature Holding :=
  fun a o x a' =>
    match o, x with
    | .device o, x => deviceEnv a o x a'
    | _, _ => a' = a

def WorkerAllows (speed : UInt32) (a : Holding) : WorkerOp → Prop
  | .device o => a.Allows speed o
  | _ => True

end Holding

/-- The transport of a device. -/
def Input.holding : Input → Holding
  | .uart _ => .port
  | .modbus _ => .port
  | .can _ => .can

/-! ### The system calls follow the devices -/

section

variable {ι : Type} {speed : ι → UInt32} {i : ι} {h : HostWorld ι} {a : Holding} {t : Transports}

/-- What the descriptors are for something that is held. -/
def Holding.Describes (speed : UInt32) (a : Holding) (t : Transports) (held : Option (Int × DescriptorState)) : Prop :=
  match a with
  | .nothing => Closed t.port.fd held ∧ Closed t.can.socketFd held
  | .port => PortReady speed t.port.fd held ∧ t.can.socketFd < 0
  | .can => SocketReady t.can.socketFd held ∧ t.port.fd < 0

/-- The descriptors of a worker are those for what it holds. -/
def Follows (speed : ι → UInt32) (i : ι) (a : Holding) (t : Transports) (h : HostWorld ι) : Prop :=
  ∃ held, a.Describes (speed i) t held ∧ Owns (hostEffect speed) i held h

lemma stable_follows (a : Holding) (t : Transports) :
    Stable (Others (hostEffect speed) i) (Follows speed i a t) := by
  intro h h' hothers hfollows
  obtain ⟨held, hdescribes, howns⟩ := hfollows
  exact ⟨held, hdescribes, stable_owns held h h' hothers howns⟩

/-- One call of a device, made by its worker. -/
abbrev FollowsDevice (speed : ι → UInt32) (i : ι) (passes : Nat) (a : Holding) (o : DeviceOp) (t : Transports)
    (h : HostWorld ι) : Prop :=
  secure (hostEnv speed i) (Others (hostEffect speed) i) (Adds (hostEffect speed) i) (Transports.device passes o t)
    (Simulated Holding.deviceEnv (Follows speed i) a o) h

variable {α : Type}

/-- A program of a transport, and what its worker then makes of the result. -/
lemma secure_onSys {p : SysCall α} {P : α → Option (Int × DescriptorState) → Prop} {o : DeviceOp}
    {f : α → HostCall (o.Ans × Transports)} (answer : α → o.Ans) (rest : α → Transports)
    (hp : SysSecure speed i p (Leaves speed i P) h) (hf : ∀ r, f r = .ret (answer r, rest r))
    (hdescribes : ∀ r held, P r held → (a.after o (answer r)).Describes (speed i) (rest r) held) :
    secure (hostEnv speed i) (Others (hostEffect speed) i) (Adds (hostEffect speed) i) (Transports.onSys p >>= f)
      (Simulated Holding.deviceEnv (Follows speed i) a o) h := by
  have hhost : secure (hostEnv speed i) (Others (hostEffect speed) i) (Adds (hostEffect speed) i)
      (Transports.onSys p) (Leaves speed i P) h :=
    secure_embed (E := sysSignature) (G := hostSignature) (fun _ _ _ _ hr => hr) hp
  apply secure_bind
  apply secure_mono hhost
  intro r h hleaves
  obtain ⟨held, hP, howns⟩ := hleaves
  rw [hf]
  have hstable := @stable_follows ι speed i (a.after o (answer r)) (rest r)
  intro h' hrely
  exact ⟨_, rfl, hstable.reflTransGen hrely ⟨held, hdescribes r held hP, howns⟩⟩

/-- A call that has nothing to do with descriptors. -/
lemma secure_passOn {o : HostOp} (hquiet : ∀ x, hostEffect speed i ⟨o, x⟩ = .nothing)
    {Q : o.Ans × Transports → HostWorld ι → Prop} (hfollows : Follows speed i a t h)
    (hQ : ∀ x h, Follows speed i a t h → Q (x, t) h) :
    secure (hostEnv speed i) (Others (hostEffect speed) i) (Adds (hostEffect speed) i)
      (Prog.perform (E := hostSignature) o >>= fun x => pure (x, t)) Q h := by
  apply secure_call (stable_follows a t) hfollows
  intro h x h' hfollows hr
  obtain ⟨held, hdescribes, howns⟩ := hfollows
  obtain ⟨-, rfl⟩ := hr
  have hstep := howns.quiet (hquiet x)
  refine ⟨⟨⟨o, x⟩, hstep.1, rfl⟩, ?_⟩
  intro h' hrely
  exact hQ x h' ((stable_follows a t).reflTransGen hrely ⟨held, hdescribes, hstep.2⟩)

/-- The port of a worker that holds no CAN socket. -/
lemma Holding.Describes.port_held {held : Option (Int × DescriptorState)} (hdescribes : a.Describes (speed i) t held)
    (hcan : a ≠ .can) :
    t.can.socketFd < 0 ∧ (Closed t.port.fd held ∨ 0 ≤ t.port.fd ∧ ∃ x, held = some (t.port.fd, x)) := by
  cases a with
  | nothing => exact ⟨hdescribes.2.1, .inl hdescribes.1⟩
  | port =>
    obtain ⟨⟨hfd, x, -, hheld⟩, hclosed⟩ := hdescribes
    exact ⟨hclosed, .inr ⟨hfd, x, hheld⟩⟩
  | can => exact absurd rfl hcan

/-- The CAN socket of a worker that holds no port. -/
lemma Holding.Describes.can_held {held : Option (Int × DescriptorState)} (hdescribes : a.Describes (speed i) t held)
    (hport : a ≠ .port) :
    t.port.fd < 0 ∧
      (Closed t.can.socketFd held ∨ 0 ≤ t.can.socketFd ∧ ∃ x, held = some (t.can.socketFd, x)) := by
  cases a with
  | nothing => exact ⟨hdescribes.1.1, .inl hdescribes.2⟩
  | port => exact absurd rfl hport
  | can =>
    obtain ⟨⟨hfd, hheld⟩, hclosed⟩ := hdescribes
    exact ⟨hclosed, .inr ⟨hfd, _, hheld⟩⟩

/-- Every call that the device is allowed to make leads to the descriptors for what it then holds. -/
lemma secure_device (passes : Nat) {o : DeviceOp} (hallows : a.Allows (speed i) o)
    (hfollows : Follows speed i a t h) : FollowsDevice speed i passes a o t h := by
  obtain ⟨held, hdescribes, howns⟩ := hfollows
  cases o with
  | openPort path baudRate =>
    obtain ⟨hspeed, hcan⟩ := hallows
    obtain ⟨hclosed, hheld⟩ := hdescribes.port_held hcan
    apply secure_onSys (o := .openPort path baudRate) (fun r => r.1) (fun r => { t with port := r.2 })
      (SerialPort.secure_openPort hheld howns path hspeed) (fun _ => rfl)
    intro r held hopened
    rcases hopened with ⟨herror, hready⟩ | ⟨herror, hport⟩
    · rw [Holding.after, herror]
      exact ⟨hready, hclosed⟩
    · dsimp only [Holding.after]
      rw [if_neg (mt Option.isNone_iff_eq_none.mp herror)]
      exact ⟨hport, hclosed, hport.2⟩
  | closePort =>
    obtain ⟨hclosed, hheld⟩ := hdescribes.port_held hallows
    apply secure_onSys (o := .closePort) (fun _ => ()) (fun port => { t with port := port })
      (SerialPort.secure_closePort hheld howns) (fun _ => rfl)
    intro port held hport
    exact ⟨hport, hclosed, hport.2⟩
  | readSome timeout =>
    obtain rfl : a = .port := hallows
    exact secure_onSys id (fun _ => t) (SerialPort.secure_readSome hdescribes.1 howns _ timeout passes)
      (fun _ => rfl) (fun _ _ hready => ⟨hready, hdescribes.2⟩)
  | discardInput =>
    obtain rfl : a = .port := hallows
    exact secure_onSys id (fun _ => t) (SerialPort.secure_discardInput hdescribes.1 howns)
      (fun _ => rfl) (fun _ _ hready => ⟨hready, hdescribes.2⟩)
  | writeAll data =>
    obtain rfl : a = .port := hallows
    exact secure_onSys id (fun _ => t) (SerialPort.secure_writeAll hdescribes.1 howns data 0 passes)
      (fun _ => rfl) (fun _ _ hready => ⟨hready, hdescribes.2⟩)
  | openCan interfaceName =>
    obtain ⟨hclosed, hheld⟩ := hdescribes.can_held hallows
    apply secure_onSys (o := .openCan interfaceName) (fun r => r.1) (fun r => { t with can := r.2 })
      (SocketCanDevice.secure_openDevice hheld howns interfaceName) (fun _ => rfl)
    intro r held hopened
    rcases hopened with ⟨herror, hready⟩ | ⟨herror, hsocket⟩
    · rw [Holding.after, herror]
      exact ⟨hready, hclosed⟩
    · dsimp only [Holding.after]
      rw [if_neg (mt Option.isNone_iff_eq_none.mp herror)]
      exact ⟨⟨hclosed, hsocket.2⟩, hsocket⟩
  | closeCan =>
    obtain ⟨hclosed, hheld⟩ := hdescribes.can_held hallows
    apply secure_onSys (o := .closeCan) (fun _ => ()) (fun can => { t with can := can })
      (SocketCanDevice.secure_closeDevice hheld howns) (fun _ => rfl)
    intro can held hsocket
    exact ⟨⟨hclosed, hsocket.2⟩, hsocket⟩
  | receiveCan timeout =>
    obtain rfl : a = .can := hallows
    exact secure_onSys id (fun _ => t) (SocketCanDevice.secure_receive hdescribes.1 howns timeout passes)
      (fun _ => rfl) (fun _ _ hready => ⟨hready, hdescribes.2⟩)
  | steadyNow | unixSeconds | sleepFor | terminate =>
    exact secure_passOn (fun _ => rfl) ⟨held, hdescribes, howns⟩ (fun _ _ hfollows => ⟨a, rfl, hfollows⟩)

lemma secure_transportWorker (passes : Nat) {o : WorkerOp} (hallows : a.WorkerAllows (speed i) o)
    (hfollows : Follows speed i a t h) :
    secure (hostEnv speed i) (Others (hostEffect speed) i) (Adds (hostEffect speed) i)
      (Transports.worker passes o t) (Simulated Holding.workerEnv (Follows speed i) a o) h := by
  cases o with
  | device o => exact secure_device passes hallows hfollows
  | sleepFor | handleData | handleError | inDataHandler | inErrorHandler =>
    exact secure_passOn (fun _ => rfl) hfollows (fun _ _ hfollows => ⟨a, rfl, hfollows⟩)

end

/-! ### The devices keep to their transports -/

section

variable {α : Type} {speed : UInt32} {a : Holding}

/-- A program of a device that asks for its transport only while it is open. -/
abbrev Keeps (speed : UInt32) (p : DeviceCall α) (Q : α → Holding → Prop) (a : Holding) : Prop :=
  guarded Holding.deviceEnv (Holding.Allows speed) p Q a

lemma keeps_call {o : DeviceOp} {k : o.Ans → DeviceCall α} {Q : α → Holding → Prop}
    (hallows : a.Allows speed o) (hrest : ∀ x, Keeps speed (k x) Q (a.after o x)) :
    Keeps speed (Prog.perform (E := deviceSignature) o >>= k) Q a := by
  refine ⟨hallows, ?_⟩
  intro x a' hafter
  rw [show a' = a.after o x from hafter]
  exact hrest x

/-- The transport is open after `start` unless it returned an error. -/
def Started {σ : Type} (held : Holding) (r : Option Text × σ) (a : Holding) : Prop :=
  a = if r.1.isNone then held else .nothing

/-- The transport is open after `read` unless the result is a transport error. -/
def Reads {σ : Type} (held : Holding) (r : DeviceReadResult × σ) (a : Holding) : Prop :=
  a = if r.1.code = .transportError then .nothing else held

namespace UartDevice

variable {d : UartDevice}

/-- The device goes on with the same serial port. -/
def SamePort (d d' : UartDevice) : Prop :=
  d'.baudRate = d.baudRate

lemma keeps_start (hspeed : SerialPort.toSpeed d.baudRate = speed) :
    Keeps speed d.start (fun r a => Started .port r a ∧ d.SamePort r.2) .nothing := by
  have hallows : Holding.nothing.Allows speed (.openPort d.path d.baudRate) := ⟨hspeed, nofun⟩
  apply keeps_call hallows
  intro error
  cases error with
  | none => exact ⟨rfl, rfl⟩
  | some error => exact ⟨rfl, rfl⟩

lemma keeps_stop (hport : a ≠ .can) : Keeps speed d.stop (fun d' a => a = .nothing ∧ d.SamePort d') a := by
  apply keeps_call (o := .closePort) hport
  intro x
  exact ⟨rfl, rfl⟩

lemma keeps_deliver (stats : ProtocolErrorStats) :
    Keeps speed (d.deliver stats) (fun r a => Reads .port r a ∧ d.SamePort r.2) .port := by
  unfold deliver
  split
  · split
    · exact ⟨rfl, rfl⟩
    · exact ⟨rfl, rfl⟩
  · apply keeps_call (o := .unixSeconds) trivial
    intro now
    exact ⟨rfl, rfl⟩

lemma keeps_read (timeout : Int) :
    Keeps speed (d.read timeout) (fun r a => Reads .port r a ∧ d.SamePort r.2) .port := by
  unfold read
  split
  · exact ⟨rfl, rfl⟩
  apply keeps_call (o := .readSome timeout) rfl
  intro answer
  match answer with
  | .error error =>
    apply guarded_bind
    apply guarded_mono (keeps_stop (a := .port) nofun)
    intro d' a hstopped
    exact ⟨hstopped.1, hstopped.2⟩
  | .ok [] => exact ⟨rfl, rfl⟩
  | .ok (byte :: bytes) =>
    change Keeps speed (d.receive (byte :: bytes)) _ _
    unfold receive
    split
    · exact ⟨trivial, fun x => x.elim⟩
    · apply guarded_mono (keeps_deliver _)
      intro r a hread
      refine ⟨hread.1, hread.2.trans ?_⟩
      split
      · rfl
      · rfl

end UartDevice

namespace ModbusDevice

variable {d : ModbusDevice}

def SamePort (d d' : ModbusDevice) : Prop :=
  d'.options.baudRate = d.options.baudRate

lemma keeps_start (hspeed : SerialPort.toSpeed d.options.baudRate = speed) :
    Keeps speed d.start (fun r a => Started .port r a ∧ d.SamePort r.2) .nothing := by
  have hallows : Holding.nothing.Allows speed (.openPort d.options.port d.options.baudRate) := ⟨hspeed, nofun⟩
  apply keeps_call hallows
  intro error
  cases error with
  | none =>
    apply keeps_call (o := .steadyNow) trivial
    intro now
    exact ⟨rfl, rfl⟩
  | some error => exact ⟨rfl, rfl⟩

lemma keeps_stop (hport : a ≠ .can) : Keeps speed d.stop (fun d' a => a = .nothing ∧ d.SamePort d') a := by
  apply keeps_call (o := .closePort) hport
  intro x
  exact ⟨rfl, rfl⟩

lemma keeps_failTransport (error : Text) :
    Keeps speed (d.failTransport error) (fun r a => Reads .port r a ∧ d.SamePort r.2) .port := by
  apply guarded_bind
  apply guarded_mono (keeps_stop (a := .port) nofun)
  intro d' a hstopped
  exact ⟨hstopped.1, hstopped.2⟩

lemma keeps_collectResponse (deadline : Int) (response : List UInt8) (expectedSize : ExpectedSize) :
    Keeps speed (collectResponse deadline response expectedSize) (fun _ a => a = .port) .port := by
  induction response, expectedSize using collectResponse.induct deadline with
  | case1 response expectedSize ih =>
    rw [collectResponse]
    apply keeps_call (o := .steadyNow) trivial
    intro now
    split
    · rename_i hmore
      apply keeps_call (o := .steadyNow) trivial
      intro again
      apply keeps_call (o := .readSome _) rfl
      intro answer
      match answer with
      | .error error => exact rfl
      | .ok [] => exact rfl
      | .ok (byte :: bytes) => exact ih now hmore byte bytes
    · exact rfl

lemma keeps_decode (response : List UInt8) :
    Keeps speed (d.decode response) (fun r a => Reads .port r a ∧ d.SamePort r.2) .port := by
  unfold decode
  dsimp only
  split
  · exact ⟨rfl, rfl⟩
  split
  · exact ⟨rfl, rfl⟩
  · apply keeps_call (o := .unixSeconds) trivial
    intro now
    exact ⟨rfl, rfl⟩

lemma keeps_poll : Keeps speed d.poll (fun r a => Reads .port r a ∧ d.SamePort r.2) .port := by
  apply keeps_call (o := .discardInput) rfl
  intro discarded
  cases discarded with
  | some error => exact keeps_failTransport error
  | none =>
    apply keeps_call (o := .writeAll _) rfl
    intro written
    cases written with
    | some error => exact keeps_failTransport error
    | none =>
      apply keeps_call (o := .steadyNow) trivial
      intro now
      apply guarded_bind
      apply guarded_mono (keeps_collectResponse _ _ _)
      intro response a hport
      rw [hport]
      match response with
      | .error error => exact keeps_failTransport error
      | .ok [] => exact ⟨rfl, rfl⟩
      | .ok (byte :: bytes) => exact keeps_decode (byte :: bytes)

lemma keeps_read (timeout : Int) :
    Keeps speed (d.read timeout) (fun r a => Reads .port r a ∧ d.SamePort r.2) .port := by
  apply keeps_call (o := .steadyNow) trivial
  intro now
  split
  · apply keeps_call (o := .sleepFor _) trivial
    intro slept
    exact ⟨rfl, rfl⟩
  · exact guarded_mono keeps_poll (fun _ _ hread => hread)

end ModbusDevice

namespace CanDevice

variable {d : CanDevice}

lemma keeps_start : Keeps speed d.start (Started .can) .nothing := by
  apply keeps_call (o := .openCan d.interfaceName) (nofun : Holding.nothing ≠ .port)
  intro error
  cases error with
  | none => exact rfl
  | some error => exact rfl

lemma keeps_stop (hcan : a ≠ .port) : Keeps speed d.stop (fun _ a => a = .nothing) a := by
  apply keeps_call (o := .closeCan) hcan
  intro x
  exact rfl

lemma keeps_readFrame (timeout : Int) : Keeps speed (readFrame timeout) (fun _ a => a = .can) .can := by
  apply keeps_call (o := .receiveCan timeout) rfl
  intro answer
  cases answer with
  | nothing => exact rfl
  | failed error => exact rfl
  | received frame =>
    dsimp only
    split
    · exact rfl
    · exact rfl

lemma keeps_read (timeout : Int) : Keeps speed (d.read timeout) (Reads .can) .can := by
  apply guarded_bind
  apply guarded_mono (keeps_readFrame timeout)
  intro answer a hcan
  rw [hcan]
  cases answer with
  | nothing => exact rfl
  | failed error =>
    apply guarded_bind
    apply guarded_mono (keeps_stop (a := .can) nofun)
    intro d' a hstopped
    exact hstopped
  | rejected error => exact rfl
  | frame frame =>
    dsimp only
    split
    · exact rfl
    · apply keeps_call (o := .unixSeconds) trivial
      intro now
      exact rfl

end CanDevice

namespace Input

variable {input : Input}

/-- The device goes on with the same transport. -/
def SameTransport (input input' : Input) : Prop :=
  input'.holding = input.holding ∧ input'.speed = input.speed

lemma SameTransport.trans {input' input'' : Input} (h : input.SameTransport input')
    (h' : input'.SameTransport input'') : input.SameTransport input'' :=
  ⟨h'.1.trans h.1, h'.2.trans h.2⟩

lemma keeps_start :
    Keeps input.speed (interface.start input)
      (fun r a => Started input.holding r a ∧ input.SameTransport r.2) .nothing := by
  cases input with
  | uart d =>
    apply guarded_bind
    apply guarded_mono (UartDevice.keeps_start rfl)
    intro r a hstarted
    exact ⟨hstarted.1, rfl, congrArg SerialPort.toSpeed hstarted.2⟩
  | modbus d =>
    apply guarded_bind
    apply guarded_mono (ModbusDevice.keeps_start rfl)
    intro r a hstarted
    exact ⟨hstarted.1, rfl, congrArg SerialPort.toSpeed hstarted.2⟩
  | can d =>
    apply guarded_bind
    apply guarded_mono CanDevice.keeps_start
    intro r a hstarted
    exact ⟨hstarted, rfl, rfl⟩

lemma keeps_stop (ha : a = input.holding ∨ a = .nothing) :
    Keeps speed (interface.stop input) (fun input' a => a = .nothing ∧ input.SameTransport input') a := by
  cases input with
  | uart d =>
    have hport : a ≠ .can := by rcases ha with rfl | rfl <;> nofun
    apply guarded_bind
    apply guarded_mono (UartDevice.keeps_stop hport)
    intro d' a hstopped
    exact ⟨hstopped.1, rfl, congrArg SerialPort.toSpeed hstopped.2⟩
  | modbus d =>
    have hport : a ≠ .can := by rcases ha with rfl | rfl <;> nofun
    apply guarded_bind
    apply guarded_mono (ModbusDevice.keeps_stop hport)
    intro d' a hstopped
    exact ⟨hstopped.1, rfl, congrArg SerialPort.toSpeed hstopped.2⟩
  | can d =>
    have hcan : a ≠ .port := by rcases ha with rfl | rfl <;> nofun
    apply guarded_bind
    apply guarded_mono (CanDevice.keeps_stop hcan)
    intro d' a hstopped
    exact ⟨hstopped, rfl, rfl⟩

lemma keeps_read (timeout : Int) :
    Keeps input.speed (interface.read timeout input)
      (fun r a => Reads input.holding r a ∧ input.SameTransport r.2) input.holding := by
  cases input with
  | uart d =>
    apply guarded_bind
    apply guarded_mono (UartDevice.keeps_read timeout)
    intro r a hread
    exact ⟨hread.1, rfl, congrArg SerialPort.toSpeed hread.2⟩
  | modbus d =>
    apply guarded_bind
    apply guarded_mono (ModbusDevice.keeps_read timeout)
    intro r a hread
    exact ⟨hread.1, rfl, congrArg SerialPort.toSpeed hread.2⟩
  | can d =>
    apply guarded_bind
    apply guarded_mono (CanDevice.keeps_read timeout)
    intro r a hread
    exact ⟨hread, rfl, rfl⟩

end Input

end

/-! ### A pass of a worker -/

section

variable {α β : Type} {speed : UInt32} {a : Holding}

/-- A program of a worker that keeps to the transport of its device. -/
abbrev WorkerKeeps (speed : UInt32) (p : WorkerCall α) (Q : α → Holding → Prop) (a : Holding) : Prop :=
  guarded Holding.workerEnv (Holding.WorkerAllows speed) p Q a

/-- The worker goes on when its device has returned. -/
lemma workerKeeps_device {p : DeviceCall β} {f : β → WorkerCall α} {Q : α → Holding → Prop} {S : β → Holding → Prop}
    (h : Keeps speed p S a) (hrest : ∀ r a', S r a' → WorkerKeeps speed (f r) Q a') :
    WorkerKeeps speed (WorkerCall.device p >>= f) Q a := by
  have hdevice : WorkerKeeps speed (WorkerCall.device p) S a :=
    guarded_embed (E := deviceSignature) (G := workerSignature) (fun _ _ hallows => hallows) (fun _ _ _ _ hr => hr) h
  exact guarded_bind (guarded_mono hdevice hrest)

/-- The calls of a worker outside of its device. -/
def AsksDevice : WorkerOp → Prop
  | .device _ => True
  | _ => False

lemma workerKeeps_quiet {p : WorkerCall β} {f : β → WorkerCall α} {Q : α → Holding → Prop} (hp : p.Avoids AsksDevice)
    (hrest : ∀ r, WorkerKeeps speed (f r) Q a) : WorkerKeeps speed (p >>= f) Q a := by
  apply guarded_bind
  apply guarded_of_quiet hp _ hrest
  intro a o hquiet
  cases o with
  | device o => exact absurd trivial hquiet
  | sleepFor | handleData | handleError | inDataHandler | inErrorHandler =>
    exact ⟨trivial, fun _ _ hr => hr⟩

variable (m : DeviceManager)

lemma callErrorHandler_quiet (protocol : ProtocolType) (code : ReadCode) (error : Text) (stats : ProtocolErrorStats) :
    (m.callErrorHandler protocol code error stats).Avoids AsksDevice := by
  unfold DeviceManager.callErrorHandler
  split
  · trivial
  · exact ⟨id, fun _ => Prog.avoids_embed (Prog.avoids_of_forall (fun _ => id) _)⟩

lemma callDataHandler_quiet (data : SensorData) (protocol : ProtocolType) :
    (m.callDataHandler data protocol).Avoids AsksDevice := by
  unfold DeviceManager.callDataHandler
  split
  · trivial
  · exact ⟨id, fun _ => Prog.avoids_embed (Prog.avoids_of_forall (fun _ => id) _)⟩

/-- Between two passes the transport of a worker is open while the device is started. -/
def AtRest (input : Input) (w : Worker Input) (a : Holding) : Prop :=
  a = (if w.started then input.holding else .nothing) ∧ input.SameTransport w.input

variable {input : Input} {w : Worker Input}

/-- Whether a transport is open after a virtual call of its device. -/
def openAfter (isOpen : Bool) : (o : RunOp) → o.Ans → Bool
  | .call .start, (error : Option Text) => error.isNone
  | .call (.read _), (result : DeviceReadResult) => result.code ≠ .transportError
  | .call .stop, _ => false
  | _, _ => isOpen

/-- A device is started while its transport is closed, and read while it is open. -/
def OpenAllows (isOpen : Bool) : RunOp → Prop
  | .call .start => isOpen = false
  | .call (.read _) => isOpen = true
  | _ => True

/-- A part of a pass, seen from the virtual calls. -/
abbrev KeepsOpen (p : DeviceManager.RunCall α) (Q : α → Bool → Prop) (isOpen : Bool) : Prop :=
  guarded (fun isOpen o x isOpen' => isOpen' = openAfter isOpen o x) OpenAllows p Q isOpen

def CallsDevice : RunOp → Prop
  | .call _ => True
  | _ => False

lemma keepsOpen_quiet {p : DeviceManager.RunCall β} {f : β → DeviceManager.RunCall α} (hp : p.Avoids CallsDevice)
    {Q : α → Bool → Prop} {isOpen : Bool} (hrest : ∀ r, KeepsOpen (f r) Q isOpen) : KeepsOpen (p >>= f) Q isOpen := by
  apply guarded_bind
  apply guarded_of_quiet hp _ hrest
  intro isOpen o hquiet
  cases o with
  | call o => exact absurd trivial hquiet
  | loadRunning | handleData | handleError | sleepFor => exact ⟨trivial, fun _ _ hr => hr⟩

lemma handData_quiet (result : DeviceReadResult) (protocol : ProtocolType) :
    (m.handData result protocol).Avoids CallsDevice := by
  unfold DeviceManager.handData
  split
  · split_ifs
    · exact ⟨id, fun _ => trivial⟩
    · trivial
  · trivial

lemma handError_quiet (result : DeviceReadResult) (protocol : ProtocolType) :
    (m.handError result protocol).Avoids CallsDevice := by
  unfold DeviceManager.handError
  split_ifs
  · exact ⟨id, fun _ => trivial⟩
  · trivial

lemma keepsOpen_readPass : KeepsOpen m.readPass (fun started isOpen => isOpen = started) true := by
  refine ⟨rfl, ?_⟩
  rintro (result : DeviceReadResult) _ rfl
  refine ⟨trivial, ?_⟩
  rintro (status : DeviceStatus) _ rfl
  apply keepsOpen_quiet (handData_quiet m result status.protocol)
  intro _
  apply keepsOpen_quiet (handError_quiet m result status.protocol)
  intro _
  by_cases hcode : result.code = .transportError
  · rw [if_pos hcode]
    refine ⟨trivial, ?_⟩
    rintro _ _ rfl
    exact rfl
  · rw [if_neg hcode]
    exact decide_eq_true hcode

/-- One pass of the loop, seen from the virtual calls. -/
lemma keepsOpen_pass (started : Bool) :
    KeepsOpen (m.pass started) (fun started isOpen => isOpen = started) started := by
  cases started with
  | true => exact keepsOpen_readPass m
  | false =>
    refine ⟨rfl, ?_⟩
    rintro (error : Option Text) _ rfl
    cases error with
    | none => exact keepsOpen_readPass m
    | some error =>
      apply guarded_bind (p := m.reportStart error)
      have hquiet : KeepsOpen (m.reportStart error) (fun _ isOpen => isOpen = false) false := by
        unfold DeviceManager.reportStart
        split_ifs
        · refine ⟨trivial, ?_⟩
          rintro status _ rfl
          refine ⟨trivial, ?_⟩
          rintro _ _ rfl
          exact rfl
        · exact rfl
      apply guarded_mono hquiet
      rintro _ _ rfl
      refine ⟨trivial, ?_⟩
      rintro _ _ rfl
      exact rfl

/-- What is held while the transport of a device is open or closed. -/
def Input.held (input : Input) (isOpen : Bool) : Holding :=
  if isOpen then input.holding else .nothing

/-- The devices carry out the virtual calls, and nothing else opens or closes a transport. -/
lemma workerKeeps_unfoldCalls {p : DeviceManager.RunCall α} {Q : α → Bool → Prop} {isOpen : Bool} {s : Input}
    (hsame : input.SameTransport s) (hp : KeepsOpen p Q isOpen) :
    WorkerKeeps input.speed (m.unfoldCalls Input.interface p s)
      (fun r a => input.SameTransport r.2 ∧ ∃ isOpen, Q r.1 isOpen ∧ a = input.held isOpen) (input.held isOpen) := by
  induction p generalizing s isOpen with
  | ret r => exact ⟨hsame, isOpen, hp, rfl⟩
  | call o k ih =>
    obtain ⟨hallows, hrest⟩ := hp
    match o with
    | .loadRunning => exact ih true hsame (hrest true isOpen rfl)
    | .call .getDeviceStatus => exact ih _ hsame (hrest _ isOpen rfl)
    | .handleData data protocol =>
      apply workerKeeps_quiet (callDataHandler_quiet m data protocol)
      intro _
      exact ih () hsame (hrest () isOpen rfl)
    | .handleError protocol code error stats =>
      apply workerKeeps_quiet (callErrorHandler_quiet m protocol code error stats)
      intro _
      exact ih () hsame (hrest () isOpen rfl)
    | .sleepFor seconds =>
      have hsleep : (WorkerCall.sleepFor seconds).Avoids AsksDevice := ⟨id, fun _ => trivial⟩
      apply workerKeeps_quiet hsleep
      intro _
      exact ih () hsame (hrest () isOpen rfl)
    | .call .start =>
      obtain rfl : isOpen = false := hallows
      have hstart := @Input.keeps_start s
      rw [hsame.1, hsame.2] at hstart
      apply workerKeeps_device hstart
      intro r a hr
      rw [show a = input.held r.1.isNone from hr.1]
      exact ih r.1 (hsame.trans hr.2) (hrest r.1 _ rfl)
    | .call (.read timeout) =>
      obtain rfl : isOpen = true := hallows
      have hread := @Input.keeps_read s timeout
      rw [hsame.1, hsame.2] at hread
      apply workerKeeps_device hread
      intro r a hr
      have hheld : a = input.held (openAfter true (.call (.read timeout)) r.1) := by
        rw [show a = _ from hr.1]
        simp [Input.held, openAfter]
      rw [hheld]
      exact ih r.1 (hsame.trans hr.2) (hrest r.1 _ rfl)
    | .call .stop =>
      have hheld : input.held isOpen = s.holding ∨ input.held isOpen = .nothing := by
        rw [hsame.1]
        cases isOpen with
        | true => exact .inl rfl
        | false => exact .inr rfl
      apply workerKeeps_device (Input.keeps_stop hheld)
      intro s' a hstopped
      rw [show a = input.held false from hstopped.1]
      exact ih () (hsame.trans hstopped.2) (hrest () _ rfl)

/-- One pass of the loop. -/
lemma workerKeeps_runDevice (hw : AtRest input w a) :
    WorkerKeeps input.speed (m.runDevice Input.interface w) (AtRest input) a := by
  obtain ⟨ha, hsame⟩ := hw
  rw [m.runDevice_eq_unfoldCalls, show a = input.held w.started from ha]
  apply guarded_bind
  apply guarded_mono (workerKeeps_unfoldCalls m hsame (keepsOpen_pass m w.started))
  intro r a hr
  obtain ⟨hsame', isOpen, hopen, hheld⟩ := hr
  rw [hopen] at hheld
  exact ⟨hheld, hsame'⟩

/-- The call of `stop` when the loop has ended. -/
lemma workerKeeps_stop (hw : AtRest input w a) :
    WorkerKeeps speed (WorkerCall.device (Input.interface.stop w.input) >>= fun input' =>
      pure (⟨false, input'⟩ : Worker Input)) (AtRest input) a := by
  obtain ⟨ha, hsame⟩ := hw
  have hheld : a = w.input.holding ∨ a = .nothing := by
    rw [hsame.1]
    split at ha
    · exact .inl ha
    · exact .inr ha
  apply workerKeeps_device (Input.keeps_stop hheld)
  intro input' a hstopped
  exact ⟨hstopped.1, hsame.trans hstopped.2⟩

end

/-! ### All workers together -/

section

variable {ι : Type}

/-- What a worker keeps between two programs of its own. -/
def HostRested (inputs : ι → Input) (i : ι) (s : HostState) (h : HostWorld ι) : Prop :=
  ∃ a, AtRest (inputs i) s.1 a ∧ Follows (fun i => (inputs i).speed) i a s.2 h

/-- A worker has a descriptor for everything but nothing. -/
lemma Follows.holds_iff {speed : ι → UInt32} {i : ι} {a : Holding} {t : Transports} {h : HostWorld ι}
    (hfollows : Follows speed i a t h) : (∃ d x, table (hostEffect speed) h d = some (i, x)) ↔ a ≠ .nothing := by
  obtain ⟨held, hdescribes, howns⟩ := hfollows
  have hholds : (∃ d x, table (hostEffect speed) h d = some (i, x)) ↔ ∃ d x, held = some (d, x) :=
    exists_congr (fun d => exists_congr (fun x => howns d x))
  rw [hholds]
  cases a with
  | nothing => simp [hdescribes.1.2]
  | port =>
    obtain ⟨-, x, -, hheld⟩ := hdescribes.1
    simp [hheld]
  | can => simp [hdescribes.1.2]

lemma Input.holding_ne (input : Input) : input.holding ≠ .nothing := by
  cases input with
  | uart | modbus | can => nofun

lemma secured_host (m : DeviceManager) (inputs : ι → Input) :
    Threads.Secured (hostEnv (fun i => (inputs i).speed)) (fun _ s _ p => HostBegins m s p) (fun _ _ => False)
      (Others (hostEffect (fun i => (inputs i).speed))) (Adds (hostEffect (fun i => (inputs i).speed)))
      (HostRested inputs) where
  relied hij _ _ hadds := ⟨_, hij, hadds⟩
  outside _ _ _ hother := hother.elim
  stable i s := by
    intro h h' hothers hrested
    obtain ⟨a, ha, hfollows⟩ := hrested
    exact ⟨a, ha, stable_follows a s.2 h h' hothers hfollows⟩
  programs := by
    intro i s h p hbegins hrested
    obtain ⟨a, ha, hfollows⟩ := hrested
    have hsimulated := fun passes => fun o a t h =>
      @secure_transportWorker ι (fun i => (inputs i).speed) i h a t passes o
    cases hbegins with
    | pass passes =>
      exact secure_implement stable_follows (hsimulated passes) (workerKeeps_runDevice m ha) hfollows
    | stop passes =>
      exact secure_implement stable_follows (hsimulated passes) (workerKeeps_stop ha) hfollows

lemma hostRested_start (inputs : ι → Input) (i : ι) : HostRested inputs i ({ input := inputs i }, {}) [] := by
  have hclosed : Closed (-1) (none : Option (Int × DescriptorState)) := ⟨by decide, rfl⟩
  exact ⟨.nothing, ⟨rfl, rfl, rfl⟩, none, ⟨hclosed, hclosed⟩, owns_nil _ i⟩

/-- In every interleaving of the workers each call on a descriptor is proper: nobody but the worker that opened
it uses or closes it, a serial port is configured raw at its speed before bytes are exchanged, a CAN socket is
bound before frames are received, and a worker opens a descriptor only when it holds none. Between two passes a
worker holds a descriptor as long as its device is started. These are the calls of the workers: the calls of `stop`
that the manager makes on running devices from its own thread are no part of the runs. -/
theorem descriptors_owned [DecidableEq ι] (m : DeviceManager) (inputs : ι → Input)
    {T : Threads ι hostSignature HostState (HostWorld ι)}
    (hrun : Relation.ReflTransGen (HostStep m inputs) (hostStart inputs) T) :
    Justified (Proper (hostEffect (fun i => (inputs i).speed))) T.world ∧
      (∀ i d x d' x', table (hostEffect (fun i => (inputs i).speed)) T.world d = some (i, x) →
        table (hostEffect (fun i => (inputs i).speed)) T.world d' = some (i, x') → d = d') ∧
      ∀ i s, T.thread i = .between s →
        ((∃ d x, table (hostEffect (fun i => (inputs i).speed)) T.world d = some (i, x)) ↔ s.1.started = true) := by
  have hsecured := secured_host m inputs
  have hstart : ∀ i, Threads.Knows (Others (hostEffect (fun i => (inputs i).speed)) i)
      (Adds (hostEffect (fun i => (inputs i).speed)) i) (hostEnv (fun i => (inputs i).speed) i)
      (HostRested inputs i) (hostStart inputs).world ((hostStart inputs).thread i) := hostRested_start inputs
  have hproper : Justified (Proper (hostEffect (fun i => (inputs i).speed))) T.world :=
    hsecured.invariant (fun hadds => hadds.justified) (fun hother => hother.elim) hstart .nil hrun
  refine ⟨hproper, ?_, ?_⟩
  · intro i d x d' x' hd hd'
    obtain ⟨held, howns⟩ := exists_owns hproper i
    exact howns.unique hd hd'
  · intro i s hs
    have hknown := hsecured.knows hstart hrun i
    rw [hs] at hknown
    obtain ⟨a, ⟨ha, -⟩, hfollows⟩ := hknown
    rw [hfollows.holds_iff, ha]
    cases s.1.started with
    | true => simp [Input.holding_ne]
    | false => simp

/-- A UART device and a CAN device. -/
def portAndSocket : Bool → Input
  | true => .uart { path := ascii "/dev/ttyUSB0", baudRate := 9600 }
  | false => .can { interfaceName := ascii "can0" }

/-- What the calls of these two workers do. -/
abbrev portAndSocketEffect : Bool → Event hostSignature → Effect Int DescriptorState :=
  hostEffect (fun i => (portAndSocket i).speed)

/-- The settings of a terminal in cooked mode. -/
def cookedTermios : Termios where
  iflag := 0x500
  oflag := 0x5
  cflag := 0xBF
  lflag := 0x8A3B
  ispeed := 0xF
  ospeed := 0xF
  vmin := 1
  vtime := 0

def isPoll : Event hostSignature → Bool
  | ⟨.sys (.poll _ _), _⟩ => true
  | _ => false

def isClose : Event hostSignature → Bool
  | ⟨.sys (.close _), _⟩ => true
  | _ => false

/-- The smaller of two descriptors that is free. -/
def freeDescriptor (h : HostWorld Bool) : Option Int :=
  [3, 4].find? (fun fd => (table portAndSocketEffect h fd).isNone)

/-- Both devices have something to read at first. Then the serial line is silent and the CAN interface goes down. -/
def hostAnswer (i : Bool) (h : HostWorld Bool) : (o : HostOp) → Option o.Ans
  | .sys (.openSerial _) => freeDescriptor h
  | .sys .socketCan => freeDescriptor h
  | .sys (.tcgetattr _) => some (some cookedTermios)
  | .sys (.tcsetattr _ _) => some 0
  | .sys (.tcflush _) => some 0
  | .sys (.poll _ _) =>
    if (ofThread i h).countP isPoll = 0 then some ⟨1, 0, 1⟩ else if i then some ⟨0, 0, 0⟩ else some ⟨1, 0, pollErr⟩
  | .sys (.read _ _) => some (.ok [0xAA, 0x55, 0x0D])
  | .sys (.ioctlIndex _ _) => some (some 2)
  | .sys (.bindCan _ _) => some 0
  | .sys (.recvCan _) => some ⟨16, ⟨0x123, 8, Vector.replicate 8 0⟩⟩
  | .sys (.close _) => some ()
  | .sys .strerror => some (ascii "error")
  | .sys (.write _ _) => none
  | .sys .spin => none
  | .worker (.device .unixSeconds) => some 1700000000
  | .worker _ => none

lemma fresh_of_freeDescriptor {h : HostWorld Bool} {fd : Int} (hfd : freeDescriptor h = some fd) :
    table portAndSocketEffect h fd = none :=
  Option.isNone_iff_eq_none.mp (List.find?_some (p := fun fd => (table portAndSocketEffect h fd).isNone) hfd)

lemma hostEnv_of_answer {i : Bool} {h : HostWorld Bool} {o : HostOp} {x : o.Ans} (hx : hostAnswer i h o = some x) :
    hostEnv (fun i => (portAndSocket i).speed) i h o x (h ++ [(i, ⟨o, x⟩)]) := by
  refine ⟨?_, rfl⟩
  cases o with
  | worker o => trivial
  | sys o =>
    cases o with
    | openSerial | socketCan => exact fun _ => fresh_of_freeDescriptor hx
    | tcgetattr | tcsetattr | tcflush | write | poll | read | close | ioctlIndex | bindCan | recvCan | strerror |
      spin => trivial

/-- The workers take turns as the schedule says. -/
def portAndSocketRun (schedule : List Bool) : Option (Threads Bool hostSignature HostState (HostWorld Bool)) :=
  Threads.follow (fun i h o => (hostAnswer i h o).map (fun x => (x, h ++ [(i, ⟨o, x⟩)])))
    (fun _ s _ => some (((⟨3, none, none⟩ : DeviceManager).runDevice Input.interface s.1).implement
      (Transports.worker 2) s.2))
    schedule (hostStart portAndSocket)

/-- Two passes of each worker. -/
def portAndSocketSchedule : List Bool :=
  (List.replicate 7 [true, false]).flatten ++ [false] ++ (List.replicate 3 [true, false]).flatten ++ [false]

/-- The serial port is configured and used, and the CAN socket is bound, used and closed again. -/
theorem descriptors_owned_port_and_socket :
    ∃ T : Threads Bool hostSignature HostState (HostWorld Bool),
      Relation.ReflTransGen (HostStep ⟨3, none, none⟩ portAndSocket) (hostStart portAndSocket) T ∧
      table portAndSocketEffect T.world 3 =
        some (true, .configured (SerialPort.settings cookedTermios (SerialPort.toSpeed 9600))) ∧
      table portAndSocketEffect T.world 4 = none ∧
      (ofThread true T.world).countP isPoll = 2 ∧ (ofThread false T.world).countP isPoll = 2 ∧
      (ofThread false T.world).countP isClose = 1 ∧
      Justified (Proper portAndSocketEffect) T.world ∧
      (∀ i d x d' x', table portAndSocketEffect T.world d = some (i, x) →
        table portAndSocketEffect T.world d' = some (i, x') → d = d') ∧
      ∀ i, ∃ s, T.thread i = .between s ∧ s.1.started = i ∧
        ((∃ d x, table portAndSocketEffect T.world d = some (i, x)) ↔ s.1.started = true) := by
  have hresult : (portAndSocketRun portAndSocketSchedule).map (fun T =>
      ([table portAndSocketEffect T.world 3, table portAndSocketEffect T.world 4],
        [(ofThread true T.world).countP isPoll, (ofThread false T.world).countP isPoll,
          (ofThread false T.world).countP isClose],
        [true, false].map (fun i => (T.thread i).rest?.map (fun s => s.1.started)))) =
        some ([some (true, .configured (SerialPort.settings cookedTermios (SerialPort.toSpeed 9600))), none],
          [2, 2, 1], [some true, some false]) := by
    decide +kernel
  obtain ⟨T, hfollow, heq⟩ := Option.map_eq_some_iff.mp hresult
  simp only [Prod.mk.injEq, List.cons.injEq, List.map_cons, and_true] at heq
  obtain ⟨⟨hport, hsocket⟩, ⟨hpolls, hpolls', hcloses⟩, hserial, hcan, -⟩ := heq
  obtain ⟨serial, hserial, hstarted⟩ := Option.map_eq_some_iff.mp hserial
  obtain ⟨can, hcan, hstopped⟩ := Option.map_eq_some_iff.mp hcan
  have hrun : Relation.ReflTransGen (HostStep ⟨3, none, none⟩ portAndSocket) (hostStart portAndSocket) T := by
    apply Threads.run_of_follow _ _ hfollow
    · intro i h o x h' hanswer
      obtain ⟨x, hx, heq⟩ := Option.map_eq_some_iff.mp hanswer
      cases heq
      exact hostEnv_of_answer hx
    · intro i s h p hp
      cases hp
      exact .pass 2
  obtain ⟨hproper, hone, hholds⟩ := descriptors_owned ⟨3, none, none⟩ portAndSocket hrun
  refine ⟨T, hrun, hport, hsocket, hpolls, hpolls', hcloses, hproper, hone, ?_⟩
  intro i
  cases i with
  | true => exact ⟨serial, Thread.eq_between hserial, hstarted, hholds true serial (Thread.eq_between hserial)⟩
  | false => exact ⟨can, Thread.eq_between hcan, hstopped, hholds false can (Thread.eq_between hcan)⟩

end

end EdgeGateway
