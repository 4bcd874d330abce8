import EdgeGateway.Lib.Handles
import EdgeGateway.Model.Gateway
import EdgeGateway.Model.Transports

/-!
# The descriptors of the devices

Several workers run side by side in one process, each with its own device, over system calls that answer as
they like. A descriptor is opened by a worker that holds none, it is configured before it is used, nobody but
its worker touches it, and it is closed once, before the next one is opened.
-/

namespace EdgeGateway
open CallTree Handles

/-! ### Raw settings -/

/-- Raw bytes, eight data bits, no parity, one stop bit and no flow control, at one speed, and reads that do
not wait. -/
structure RawSettings (speed : UInt32) (tty : Termios) : Prop where
  input : tty.iflag &&& Termios.cookedInput = 0
  output : tty.oflag &&& Termios.opost = 0
  local_ : tty.lflag &&& Termios.cookedLocal = 0
  control : tty.cflag &&& (Termios.csize ||| Termios.parenb ||| Termios.cstopb ||| Termios.crtscts |||
    Termios.clocal ||| Termios.cread) = Termios.cs8 ||| Termios.clocal ||| Termios.cread
  ispeed : tty.ispeed = speed
  ospeed : tty.ospeed = speed
  vmin : tty.vmin = 0
  vtime : tty.vtime = 0

lemma and_not_and (x bits : UInt32) : x &&& ~~~bits &&& bits = 0 := by
  apply UInt32.toBitVec_inj.mp
  ext i hi
  simp

/-- Whatever the settings were that `open_port` found. -/
lemma rawSettings_settings (tty : Termios) (speed : UInt32) : RawSettings speed (SerialPort.settings tty speed) where
  input := and_not_and tty.iflag _
  output := and_not_and tty.oflag _
  local_ := and_not_and tty.lflag _
  control := by
    apply UInt32.toBitVec_inj.mp
    ext i hi
    simp only [SerialPort.settings, Termios.cfsetospeed, Termios.cfsetispeed, Termios.cfmakeraw, Termios.csize,
      Termios.parenb, Termios.cstopb, Termios.crtscts, Termios.clocal, Termios.cread, Termios.cs8,
      UInt32.toBitVec_and, UInt32.toBitVec_or, UInt32.toBitVec_not, BitVec.getElem_and, BitVec.getElem_or,
      BitVec.getElem_not]
    interval_cases i <;> simp
  ispeed := rfl
  ospeed := rfl
  vmin := rfl
  vtime := rfl

/-! ### What the system calls do to descriptors -/

/-- How far a descriptor has been prepared. -/
inductive DescriptorState where
  | opened
  | configured (tty : Termios)
  | bound
deriving DecidableEq

/-- A serial port at its speed, with raw settings. -/
def Configured (speed : UInt32) (x : DescriptorState) : Prop :=
  ∃ tty, RawSettings speed tty ∧ x = .configured tty

/-- A new descriptor, unless the call failed. -/
def opensDescriptor (fd : Int) : Effect Int DescriptorState :=
  if 0 ≤ fd then .opens fd .opened else .nothing

/-- Bytes are exchanged with a serial port that has been configured, and frames with a CAN socket that has been
bound. -/
def sysEffect (speed : UInt32) (o : SysOp) : o.Ans → Effect Int DescriptorState :=
  match o with
  | .openSerial _ => fun (fd : Int) => opensDescriptor fd
  | .tcgetattr fd => fun _ => .uses fd (fun _ => True) id
  | .tcsetattr fd tty => fun (result : Int) =>
      .uses fd (fun _ => True) (fun x => if result = 0 then .configured tty else x)
  | .tcflush fd => fun _ => .uses fd (Configured speed) id
  | .write fd _ => fun _ => .uses fd (Configured speed) id
  | .poll fd _ => fun _ => .uses fd (fun x => Configured speed x ∨ x = .bound) id
  | .read fd _ => fun _ => .uses fd (Configured speed) id
  | .close fd => fun _ => .closes fd
  | .socketCan => fun (fd : Int) => opensDescriptor fd
  | .ioctlIndex fd _ => fun _ => .uses fd (fun _ => True) id
  | .bindCan fd _ => fun (result : Int) => .uses fd (fun _ => True) (fun x => if result < 0 then x else .bound)
  | .recvCan fd => fun _ => .uses fd (· = .bound) id
  | .strerror => fun _ => .nothing
  | .spin => fun _ => .nothing

section

variable {ι : Type}

/-- `speed` is the one that the device of a worker is configured for. -/
def hostEffect (speed : ι → UInt32) (i : ι) : Event hostSignature → Effect Int DescriptorState
  | ⟨.sys o, a⟩ => sysEffect (speed i) o a
  | ⟨.worker _, _⟩ => .nothing

/-- All calls of all workers, in the order in which they were made. -/
abbrev HostWorld (ι : Type) :=
  List (ι × Event hostSignature)

/-- The system never gives out a descriptor that is in use. -/
def FreshDescriptor (speed : ι → UInt32) (h : HostWorld ι) (o : HostOp) : o.Ans → Prop :=
  match o with
  | .sys (.openSerial _) => fun (fd : Int) => 0 ≤ fd → table (hostEffect speed) h fd = none
  | .sys .socketCan => fun (fd : Int) => 0 ≤ fd → table (hostEffect speed) h fd = none
  | _ => fun _ => True

def hostEnv (speed : ι → UInt32) (i : ι) : Env hostSignature (HostWorld ι) :=
  fun h o a h' => FreshDescriptor speed h o a ∧ h' = h ++ [(i, ⟨o, a⟩)]

/-- The speed of the serial port of a device. -/
def Input.speed : Input → UInt32
  | .uart d => SerialPort.toSpeed d.baudRate
  | .modbus d => SerialPort.toSpeed d.options.baudRate
  | .can _ => 0

/-- The variables of a worker between two passes. -/
abbrev HostState := Worker Input × Transports

/-- What a worker can begin: a pass of its loop, or the call of `stop` at its end. -/
inductive HostBegins (m : DeviceManager) (s : HostState) : HostCall HostState → Prop where
  | pass (passes : Nat) :
      HostBegins m s ((m.runDevice Input.interface s.1).implement (Transports.worker passes) s.2)
  | stop (passes : Nat) :
      HostBegins m s ((WorkerCall.device (Input.interface.stop s.1.input) >>= fun input =>
        pure (⟨false, input⟩ : Worker Input)).implement (Transports.worker passes) s.2)

/-- The workers before their first pass. -/
def hostStart (inputs : ι → Input) : Threads ι hostSignature HostState (HostWorld ι) where
  thread i := .between ({ input := inputs i }, {})
  world := []

def HostStep [DecidableEq ι] (m : DeviceManager) (inputs : ι → Input) :
    Threads ι hostSignature HostState (HostWorld ι) → Threads ι hostSignature HostState (HostWorld ι) → Prop :=
  Threads.Step (hostEnv (fun i => (inputs i).speed)) (fun _ s _ p => HostBegins m s p) (fun _ _ => False)

/-! ### One system call -/

variable {speed : ι → UInt32} {i : ι} {h : HostWorld ι} {held : Option (Int × DescriptorState)} {α : Type}

/-- What a transport sees of the world of its worker. -/
def sysEnv (speed : ι → UInt32) (i : ι) : Env sysSignature (HostWorld ι) :=
  fun h o a h' => hostEnv speed i h (.sys o) a h'

/-- A transport at work beside the other workers. -/
abbrev SysSecure (speed : ι → UInt32) (i : ι) (p : SysCall α) (Q : α → HostWorld ι → Prop) (h : HostWorld ι) : Prop :=
  secure (sysEnv speed i) (Others (hostEffect speed) i) (Adds (hostEffect speed) i) p Q h

/-- The worker holds something that `P` allows for the result. -/
def Leaves (speed : ι → UInt32) (i : ι) (P : α → Option (Int × DescriptorState) → Prop) (r : α) (h : HostWorld ι) :
    Prop :=
  ∃ held, P r held ∧ Owns (hostEffect speed) i held h

lemma stable_leaves (P : α → Option (Int × DescriptorState) → Prop) (r : α) :
    Stable (Others (hostEffect speed) i) (Leaves speed i P r) := by
  intro h h' hothers hleaves
  obtain ⟨held, hP, howns⟩ := hleaves
  exact ⟨held, hP, stable_owns held h h' hothers howns⟩

lemma secure_leave {P : α → Option (Int × DescriptorState) → Prop} {r : α}
    (howns : Owns (hostEffect speed) i held h) (hP : P r held) : SysSecure speed i (.ret r) (Leaves speed i P) h :=
  secure_ret (stable_leaves P r) ⟨held, hP, howns⟩

/-- A call that turns what the worker holds into `next`, and what comes after it. -/
lemma secure_sys {o : SysOp} {k : o.Ans → SysCall α} {Q : α → HostWorld ι → Prop}
    (next : o.Ans → Option (Int × DescriptorState)) (howns : Owns (hostEffect speed) i held h)
    (hcall : ∀ (h : HostWorld ι) a, Owns (hostEffect speed) i held h → FreshDescriptor speed h (.sys o) a →
      Proper (hostEffect speed) h (i, ⟨.sys o, a⟩) ∧
        Owns (hostEffect speed) i (next a) (h ++ [(i, ⟨.sys o, a⟩)]))
    (hrest : ∀ a h, Owns (hostEffect speed) i (next a) h → SysSecure speed i (k a) Q h) :
    SysSecure speed i (SysCall.perform o >>= k) Q h := by
  apply secure_call (stable_owns held) howns
  intro h a h' howns hr
  obtain ⟨hfresh, rfl⟩ := hr
  have hstep := hcall h a howns hfresh
  exact ⟨⟨⟨.sys o, a⟩, hstep.1, rfl⟩, hrest a _ hstep.2⟩

lemma secure_spin {Q : α → HostWorld ι → Prop} : SysSecure speed i SysCall.spin Q h :=
  fun _ _ a => a.elim

lemma secure_strerror {k : Text → SysCall α} {Q : α → HostWorld ι → Prop}
    (howns : Owns (hostEffect speed) i held h)
    (hrest : ∀ error h, Owns (hostEffect speed) i held h → SysSecure speed i (k error) Q h) :
    SysSecure speed i (SysCall.perform .strerror >>= k) Q h :=
  secure_sys (fun _ => held) howns (fun _ _ howns _ => howns.quiet rfl) hrest

section

variable {fd : Int} {x : DescriptorState} (howns : Owns (hostEffect speed) i (some (fd, x)) h)
include howns

lemma secure_close {k : Unit → SysCall α} {Q : α → HostWorld ι → Prop}
    (hrest : ∀ h, Owns (hostEffect speed) i none h → SysSecure speed i (k ()) Q h) :
    SysSecure speed i (SysCall.perform (.close fd) >>= k) Q h :=
  secure_sys (o := .close fd) (fun _ => none) howns (fun _ _ howns _ => howns.closed rfl) (fun _ => hrest)

/-- A use of the descriptor that leaves its state alone. -/
lemma secure_use {o : SysOp} {ready : DescriptorState → Prop} {k : o.Ans → SysCall α} {Q : α → HostWorld ι → Prop}
    (heffect : ∀ a, sysEffect (speed i) o a = .uses fd ready id) (hready : ready x)
    (hrest : ∀ a h, Owns (hostEffect speed) i (some (fd, x)) h → SysSecure speed i (k a) Q h) :
    SysSecure speed i (SysCall.perform o >>= k) Q h := by
  apply secure_sys (fun _ => some (fd, x)) howns _ hrest
  intro h a howns _
  have huses : hostEffect speed i ⟨.sys o, a⟩ = .uses fd ready id := heffect a
  exact howns.used huses hready

end

/-- A new descriptor for a worker that holds none. -/
lemma secure_open {o : SysOp} {k : o.Ans → SysCall α} {Q : α → HostWorld ι → Prop} (toFd : o.Ans → Int)
    (heffect : ∀ a, sysEffect (speed i) o a = opensDescriptor (toFd a))
    (hfresh : ∀ (h : HostWorld ι) a, FreshDescriptor speed h (.sys o) a → 0 ≤ toFd a →
      table (hostEffect speed) h (toFd a) = none)
    (howns : Owns (hostEffect speed) i none h)
    (hopened : ∀ a h, 0 ≤ toFd a → Owns (hostEffect speed) i (some (toFd a, .opened)) h → SysSecure speed i (k a) Q h)
    (hfailed : ∀ a h, toFd a < 0 → Owns (hostEffect speed) i none h → SysSecure speed i (k a) Q h) :
    SysSecure speed i (SysCall.perform o >>= k) Q h := by
  apply secure_sys (fun a => if 0 ≤ toFd a then some (toFd a, .opened) else none) howns
  · intro h a howns hfree
    have hopens : hostEffect speed i ⟨.sys o, a⟩ = opensDescriptor (toFd a) := heffect a
    unfold opensDescriptor at hopens
    by_cases hfd : 0 ≤ toFd a
    · rw [if_pos hfd] at hopens ⊢
      exact howns.opened hopens (hfresh h a hfree hfd)
    · rw [if_neg hfd] at hopens ⊢
      exact howns.quiet hopens
  · intro a h howns
    by_cases hfd : 0 ≤ toFd a
    · rw [if_pos hfd] at howns
      exact hopened a h hfd howns
    · rw [if_neg hfd] at howns
      exact hfailed a h (not_le.mp hfd) howns

/-! ### The serial port -/

/-- What is left of a transport that has been closed. -/
def Closed (fd : Int) (held : Option (Int × DescriptorState)) : Prop :=
  fd < 0 ∧ held = none

/-- A serial port ready for use. -/
def PortReady (speed : UInt32) (fd : Int) (held : Option (Int × DescriptorState)) : Prop :=
  0 ≤ fd ∧ ∃ x, Configured speed x ∧ held = some (fd, x)

namespace SerialPort

variable {p : SerialPort}

lemma secure_closePort (hheld : Closed p.fd held ∨ 0 ≤ p.fd ∧ ∃ x, held = some (p.fd, x))
    (howns : Owns (hostEffect speed) i held h) :
    SysSecure speed i p.closePort (Leaves speed i (fun p' => Closed p'.fd)) h := by
  unfold closePort
  rcases hheld with ⟨hfd, rfl⟩ | ⟨hfd, x, rfl⟩
  · rw [if_neg (not_le.mpr hfd)]
    exact secure_leave howns ⟨hfd, rfl⟩
  · rw [if_pos hfd]
    apply secure_close howns
    intro h howns
    exact secure_leave howns ⟨by decide, rfl⟩

lemma secure_abandon {x : DescriptorState} (hfd : 0 ≤ p.fd) (howns : Owns (hostEffect speed) i (some (p.fd, x)) h) :
    SysSecure speed i p.abandon (Leaves speed i (fun r held => r.1 ≠ none ∧ Closed r.2.fd held)) h := by
  unfold abandon
  apply secure_strerror howns
  intro error h howns
  apply secure_bind
  apply secure_mono (secure_closePort (.inr ⟨hfd, x, rfl⟩) howns)
  intro p' h hleaves
  obtain ⟨held, hclosed, howns⟩ := hleaves
  exact secure_leave howns ⟨by simp, hclosed⟩

/-- After `open_port` the port is ready, or it is closed. -/
def Opened (speed : UInt32) (r : Option Text × SerialPort) (held : Option (Int × DescriptorState)) : Prop :=
  (r.1 = none ∧ PortReady speed r.2.fd held) ∨ (r.1 ≠ none ∧ Closed r.2.fd held)

lemma secure_configure (hfd : 0 ≤ p.fd) (howns : Owns (hostEffect speed) i (some (p.fd, .opened)) h) :
    SysSecure speed i (p.configure (speed i)) (Leaves speed i (Opened (speed i))) h := by
  have habandon : ∀ {x h}, Owns (hostEffect speed) i (some (p.fd, x)) h →
      SysSecure speed i p.abandon (Leaves speed i (Opened (speed i))) h := by
    intro x h howns
    apply secure_mono (secure_abandon hfd howns)
    intro r h hleaves
    obtain ⟨held, hclosed, howns⟩ := hleaves
    exact ⟨held, .inr hclosed, howns⟩
  unfold configure
  apply secure_use howns (fun _ => rfl) trivial
  intro found h howns
  cases found with
  | none => exact habandon howns
  | some tty =>
    apply secure_sys (o := .tcsetattr p.fd (settings tty (speed i)))
      (fun result => some (p.fd, if result = 0 then .configured (settings tty (speed i)) else .opened)) howns
    · intro h result howns _
      have huses : hostEffect speed i ⟨.sys (.tcsetattr p.fd (settings tty (speed i))), result⟩ =
          .uses p.fd (fun _ => True) _ := rfl
      exact howns.used huses trivial
    · intro result h howns
      by_cases hset : result = 0
      · rw [if_pos hset] at howns
        rw [if_neg (not_not.mpr hset)]
        exact secure_leave howns (.inl ⟨rfl, hfd, _, ⟨_, rawSettings_settings tty (speed i), rfl⟩, rfl⟩)
      · rw [if_neg hset] at howns
        rw [if_pos hset]
        exact habandon howns

lemma secure_openPort (hheld : Closed p.fd held ∨ 0 ≤ p.fd ∧ ∃ x, held = some (p.fd, x))
    (howns : Owns (hostEffect speed) i held h) (path : Text) {baudRate : Int} (hspeed : toSpeed baudRate = speed i) :
    SysSecure speed i (p.openPort path baudRate) (Leaves speed i (Opened (speed i))) h := by
  unfold openPort
  apply secure_bind
  apply secure_mono (secure_closePort hheld howns)
  intro p' h hleaves
  obtain ⟨held, ⟨hfd, rfl⟩, howns⟩ := hleaves
  dsimp only
  rw [hspeed]
  by_cases hzero : speed i = 0
  · rw [if_pos hzero]
    exact secure_leave howns (.inr ⟨by simp, hfd, rfl⟩)
  rw [if_neg hzero]
  apply secure_open (o := .openSerial (cString path)) id (fun _ => rfl) (fun _ _ hfresh => hfresh) howns
  · intro fd h hfd howns
    change 0 ≤ fd at hfd
    rw [if_neg (not_lt.mpr hfd)]
    exact secure_configure (p := { p' with fd := fd }) hfd howns
  · intro fd h hfd howns
    change fd < 0 at hfd
    rw [if_pos hfd]
    apply secure_strerror howns
    intro error h howns
    exact secure_leave howns (.inr ⟨by simp, hfd, rfl⟩)

/-- The other calls leave a port that is ready as it is. -/
def StaysReady (speed : UInt32) (fd : Int) (_ : α) (held : Option (Int × DescriptorState)) : Prop :=
  PortReady speed fd held

lemma secure_discardInput (hheld : PortReady (speed i) p.fd held) (howns : Owns (hostEffect speed) i held h) :
    SysSecure speed i p.discardInput (Leaves speed i (StaysReady (speed i) p.fd)) h := by
  obtain ⟨hfd, x, hx, rfl⟩ := hheld
  have hready : PortReady (speed i) p.fd (some (p.fd, x)) := ⟨hfd, x, hx, rfl⟩
  unfold discardInput
  rw [if_neg (not_lt.mpr hfd)]
  apply secure_use howns (fun _ => rfl) hx
  intro result h howns
  split
  · apply secure_strerror howns
    intro error h howns
    exact secure_leave howns hready
  · exact secure_leave howns hready

lemma secure_writeAll (hheld : PortReady (speed i) p.fd held) (howns : Owns (hostEffect speed) i held h)
    (data : List UInt8) (written passes : Nat) :
    SysSecure speed i (p.writeAll data written passes) (Leaves speed i (StaysReady (speed i) p.fd)) h := by
  obtain ⟨hfd, x, hx, rfl⟩ := hheld
  have hready : PortReady (speed i) p.fd (some (p.fd, x)) := ⟨hfd, x, hx, rfl⟩
  induction passes generalizing written h with
  | zero => exact secure_spin
  | succ passes ih =>
    rw [writeAll]
    by_cases hmore : written < data.length
    · rw [if_pos hmore]
      apply secure_use howns (fun _ => rfl) hx
      intro answer h howns
      split
      · exact ih _ howns
      · split
        · exact ih _ howns
        · split
          · exact secure_leave howns hready
          · apply secure_strerror howns
            intro error h howns
            exact secure_leave howns hready
    · rw [if_neg hmore]
      exact secure_leave howns hready

end SerialPort

/-- The loop around `poll` uses the descriptor and nothing else. -/
lemma secure_pollUninterrupted {fd : Int} {x : DescriptorState} (hready : Configured (speed i) x ∨ x = .bound)
    (howns : Owns (hostEffect speed) i (some (fd, x)) h) (timeout : Int) (passes : Nat) :
    SysSecure speed i (pollUninterrupted fd timeout passes)
      (fun _ => Owns (hostEffect speed) i (some (fd, x))) h := by
  induction passes generalizing h with
  | zero => exact secure_spin
  | succ passes ih =>
    rw [pollUninterrupted]
    apply secure_use howns (fun _ => rfl) hready
    intro ready h howns
    split
    · exact ih howns
    · exact secure_ret (stable_owns _) howns

lemma SerialPort.secure_readSome {p : SerialPort} (hheld : PortReady (speed i) p.fd held)
    (howns : Owns (hostEffect speed) i held h) (capacity : Nat) (timeout : Int) (passes : Nat) :
    SysSecure speed i (p.readSome capacity timeout passes) (Leaves speed i (StaysReady (speed i) p.fd)) h := by
  obtain ⟨hfd, x, hx, rfl⟩ := hheld
  have hready : PortReady (speed i) p.fd (some (p.fd, x)) := ⟨hfd, x, hx, rfl⟩
  unfold readSome
  apply secure_bind
  apply secure_mono (secure_pollUninterrupted (.inl hx) howns timeout passes)
  intro ready h howns
  split
  · exact secure_leave howns hready
  split
  · apply secure_strerror howns
    intro error h howns
    exact secure_leave howns hready
  split
  · exact secure_leave howns hready
  unfold receive
  apply secure_use howns (fun _ => rfl) hx
  intro answer h howns
  cases answer with
  | error errno =>
    dsimp only
    split
    · exact secure_leave howns hready
    · apply secure_strerror howns
      intro error h howns
      exact secure_leave howns hready
  | ok bytes => exact secure_leave howns hready

/-! ### The CAN socket -/

/-- A CAN socket ready for use. -/
def SocketReady (fd : Int) (held : Option (Int × DescriptorState)) : Prop :=
  0 ≤ fd ∧ held = some (fd, .bound)

namespace SocketCanDevice

variable {d : SocketCanDevice}

lemma secure_closeDevice (hheld : Closed d.socketFd held ∨ 0 ≤ d.socketFd ∧ ∃ x, held = some (d.socketFd, x))
    (howns : Owns (hostEffect speed) i held h) :
    SysSecure speed i d.closeDevice (Leaves speed i (fun d' => Closed d'.socketFd)) h := by
  unfold closeDevice
  rcases hheld with ⟨hfd, rfl⟩ | ⟨hfd, x, rfl⟩
  · rw [if_neg (not_le.mpr hfd)]
    exact secure_leave howns ⟨hfd, rfl⟩
  · rw [if_pos hfd]
    apply secure_close howns
    intro h howns
    exact secure_leave howns ⟨by decide, rfl⟩

/-- After `open_device` the socket is ready, or it is closed. -/
def Opened (r : Option Text × SocketCanDevice) (held : Option (Int × DescriptorState)) : Prop :=
  (r.1 = none ∧ SocketReady r.2.socketFd held) ∨ (r.1 ≠ none ∧ Closed r.2.socketFd held)

lemma secure_abandon {x : DescriptorState} (hfd : 0 ≤ d.socketFd)
    (howns : Owns (hostEffect speed) i (some (d.socketFd, x)) h) :
    SysSecure speed i d.abandon (Leaves speed i Opened) h := by
  unfold abandon
  apply secure_strerror howns
  intro error h howns
  apply secure_bind
  apply secure_mono (secure_closeDevice (.inr ⟨hfd, x, rfl⟩) howns)
  intro d' h hleaves
  obtain ⟨held, hclosed, howns⟩ := hleaves
  exact secure_leave howns (.inr ⟨by simp, hclosed⟩)

lemma secure_openDevice (hheld : Closed d.socketFd held ∨ 0 ≤ d.socketFd ∧ ∃ x, held = some (d.socketFd, x))
    (howns : Owns (hostEffect speed) i held h) (interfaceName : Text) :
    SysSecure speed i (d.openDevice interfaceName) (Leaves speed i Opened) h := by
  unfold openDevice
  apply secure_bind
  apply secure_mono (secure_closeDevice hheld howns)
  intro d' h hleaves
  obtain ⟨held, ⟨-, rfl⟩, howns⟩ := hleaves
  dsimp only
  apply secure_open (o := .socketCan) id (fun _ => rfl) (fun _ _ hfresh => hfresh) howns
  · intro fd h hfd howns
    change 0 ≤ fd at hfd
    rw [if_neg (not_lt.mpr hfd)]
    apply secure_use howns (fun _ => rfl) trivial
    intro found h howns
    cases found with
    | none => exact secure_abandon (d := { d' with socketFd := fd }) hfd howns
    | some index =>
      apply secure_sys (o := .bindCan fd index)
        (fun result => some (fd, if result < 0 then .opened else .bound)) howns
      · intro h result howns _
        have huses : hostEffect speed i ⟨.sys (.bindCan fd index), result⟩ = .uses fd (fun _ => True) _ := rfl
        exact howns.used huses trivial
      · intro result h howns
        by_cases hbound : result < 0
        · rw [if_pos hbound] at howns ⊢
          exact secure_abandon (d := { d' with socketFd := fd }) hfd howns
        · rw [if_neg hbound] at howns ⊢
          exact secure_leave howns (.inl ⟨rfl, hfd, rfl⟩)
  · intro fd h hfd howns
    change fd < 0 at hfd
    rw [if_pos hfd]
    apply secure_strerror howns
    intro error h howns
    exact secure_leave howns (.inr ⟨by simp, hfd, rfl⟩)

lemma secure_receive (hheld : SocketReady d.socketFd held) (howns : Owns (hostEffect speed) i held h) (timeout : Int)
    (passes : Nat) :
    SysSecure speed i (d.receive timeout passes) (Leaves speed i (fun _ => SocketReady d.socketFd)) h := by
  obtain ⟨hfd, rfl⟩ := hheld
  have hready : SocketReady d.socketFd (some (d.socketFd, .bound)) := ⟨hfd, rfl⟩
  unfold receive
  apply secure_bind
  apply secure_mono (secure_pollUninterrupted (.inr rfl) howns timeout passes)
  intro ready h howns
  split
  · exact secure_leave howns hready
  split
  · apply secure_strerror howns
    intro error h howns
    exact secure_leave howns hready
  split
  · exact secure_leave howns hready
  have huses : ∀ answer, sysEffect (speed i) (.recvCan d.socketFd) answer = .uses d.socketFd (· = .bound) id :=
    fun _ => rfl
  apply secure_use howns huses rfl
  intro answer h howns
  split
  · split
    · apply secure_strerror howns
      intro error h howns
      exact secure_leave howns hready
    · exact secure_leave howns hready
  · exact secure_leave howns hready

end SocketCanDevice

end

end EdgeGateway
