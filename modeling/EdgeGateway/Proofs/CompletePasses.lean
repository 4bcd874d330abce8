import EdgeGateway.Proofs.UartWorker

/-!
# Passes that end

An exception that nobody catches would end the process in the middle of a pass. No device throws one, so
that every pass whose calls are answered is completed.
-/

namespace EdgeGateway
open CallTree

def IsTerminate : WorkerOp → Prop
  | .device (.terminate _) => True
  | _ => False

/-- The devices' view of it. -/
abbrev DeviceTerminates (o : DeviceOp) : Prop :=
  IsTerminate (.device o)

lemma device_avoids {α : Type} {p : DeviceCall α} (h : p.Avoids DeviceTerminates) :
    (WorkerCall.device p).Avoids IsTerminate := by
  unfold WorkerCall.device
  exact Prog.avoids_embed h

lemma exists_handler_answer (o : HandlerOp) : Nonempty o.Ans := by
  cases o with
  | record counter count => exact ⟨()⟩
  | publish topic payload => exact ⟨([] : List PublishOutcome)⟩
  | log level component message => exact ⟨()⟩

lemma exists_answer {o : WorkerOp} (h : ¬IsTerminate o) : Nonempty o.Ans := by
  cases o with
  | device o =>
    cases o with
    | terminate what => exact absurd trivial h
    | openPort path baudRate => exact ⟨(none : Option Text)⟩
    | closePort => exact ⟨()⟩
    | readSome timeout => exact ⟨(.ok [] : Except Text (List UInt8))⟩
    | discardInput => exact ⟨(none : Option Text)⟩
    | writeAll data => exact ⟨(none : Option Text)⟩
    | openCan interfaceName => exact ⟨(none : Option Text)⟩
    | closeCan => exact ⟨()⟩
    | receiveCan timeout => exact ⟨CanReceive.nothing⟩
    | steadyNow => exact ⟨(0 : Int)⟩
    | unixSeconds => exact ⟨(0 : Nat)⟩
    | sleepFor milliseconds => exact ⟨()⟩
  | sleepFor seconds => exact ⟨()⟩
  | handleData data protocol => exact ⟨()⟩
  | handleError protocol code error stats => exact ⟨()⟩
  | inDataHandler o => exact exists_handler_answer o
  | inErrorHandler o => exact exists_handler_answer o

section

variable {σ : Type} {interface : DeviceInterface σ} (m : DeviceManager)

lemma handOver_avoids (result : DeviceReadResult) (protocol : ProtocolType) :
    (m.handOver result protocol).Avoids IsTerminate := by
  unfold DeviceManager.handOver
  split
  · unfold DeviceManager.callDataHandler
    cases m.dataHandler with
    | none => trivial
    | some handler =>
      refine ⟨id, fun _ => ?_⟩
      exact Prog.avoids_embed (Prog.avoids_of_forall (fun _ => id) _)
  · trivial

lemma report_avoids (result : DeviceReadResult) (protocol : ProtocolType) :
    (m.report result protocol).Avoids IsTerminate := by
  unfold DeviceManager.report
  split
  · unfold DeviceManager.callErrorHandler
    cases m.errorHandler with
    | none => trivial
    | some handler =>
      refine ⟨id, fun _ => ?_⟩
      exact Prog.avoids_embed (Prog.avoids_of_forall (fun _ => id) _)
  · trivial

/-- A pass over a started device ends if the device neither fails to read nor to stop. -/
lemma readInput_avoids {d : σ} (hread : (interface.read 250 d).Avoids DeviceTerminates)
    (hstop : ∀ d, (interface.stop d).Avoids DeviceTerminates) :
    (m.readInput interface d).Avoids IsTerminate := by
  apply Prog.avoids_bind (device_avoids hread)
  rintro ⟨result, d'⟩
  apply Prog.avoids_bind (handOver_avoids m result _)
  intro _
  apply Prog.avoids_bind (report_avoids m result _)
  intro _
  unfold DeviceManager.endPass
  split
  · exact Prog.avoids_bind (device_avoids (hstop d')) (fun _ => trivial)
  · trivial

end

/-! ### The devices -/

lemma UartDevice.deliver_avoids (d : UartDevice) (stats : ProtocolErrorStats) :
    (d.deliver stats).Avoids DeviceTerminates := by
  unfold UartDevice.deliver
  split
  · split
    · trivial
    · trivial
  · exact ⟨id, fun _ => trivial⟩

lemma UartDevice.read_avoids {d : UartDevice} (hpending : d.pending = []) {s : List UInt8}
    (hsynced : Synced d.parser s) (timeout : Int) : (d.read timeout).Avoids DeviceTerminates := by
  unfold UartDevice.read
  rw [hpending]
  refine ⟨id, fun answer => ?_⟩
  match answer with
  | .error error => exact ⟨id, fun _ => trivial⟩
  | .ok [] => trivial
  | .ok (byte :: bytes) =>
    obtain ⟨stats, d', hreceive, -⟩ := d.receive_eq (byte :: bytes) hsynced hpending
    change (d.receive (byte :: bytes)).Avoids _
    rw [hreceive]
    exact d'.deliver_avoids stats

lemma CanDevice.read_avoids (d : CanDevice) (timeout : Int) : (d.read timeout).Avoids DeviceTerminates := by
  apply Prog.avoids_bind
  · have hreceive : (DeviceCall.receiveCan timeout).Avoids DeviceTerminates := ⟨id, fun _ => trivial⟩
    apply Prog.avoids_bind hreceive
    intro answer
    match answer with
    | .nothing => trivial
    | .failed error => trivial
    | .received frame =>
      dsimp only
      split
      · trivial
      · trivial
  · intro answer
    match answer with
    | .nothing => trivial
    | .failed error => exact ⟨id, fun _ => trivial⟩
    | .rejected error => trivial
    | .frame frame =>
      dsimp only
      split
      · trivial
      · exact ⟨id, fun _ => trivial⟩

namespace ModbusDevice

lemma collectResponse_avoids (deadline : Int) (response : List UInt8) (size : ExpectedSize) :
    (collectResponse deadline response size).Avoids DeviceTerminates := by
  fun_induction collectResponse deadline response size with
  | case1 response size ih =>
    refine ⟨id, fun now => ?_⟩
    change Prog.Avoids _ (dite _ _ _)
    by_cases hmore : now < deadline ∧ response.length < size.val
    · rw [dif_pos hmore]
      refine ⟨id, fun _ => ⟨id, fun answer => ?_⟩⟩
      match answer with
      | .error error => trivial
      | .ok [] => trivial
      | .ok (byte :: bytes) => exact ih now hmore byte bytes
    · rw [dif_neg hmore]
      trivial

lemma failTransport_avoids (d : ModbusDevice) (error : Text) :
    (d.failTransport error).Avoids DeviceTerminates :=
  ⟨id, fun _ => trivial⟩

lemma decode_avoids (d : ModbusDevice) (response : List UInt8) :
    (d.decode response).Avoids DeviceTerminates := by
  unfold decode
  dsimp only
  split
  · trivial
  · split
    · trivial
    · exact ⟨id, fun _ => trivial⟩

lemma poll_avoids (d : ModbusDevice) : d.poll.Avoids DeviceTerminates := by
  refine ⟨id, fun discarded => ?_⟩
  match discarded with
  | some error => exact d.failTransport_avoids error
  | none =>
    refine ⟨id, fun written => ?_⟩
    match written with
    | some error => exact d.failTransport_avoids error
    | none =>
      refine ⟨id, fun now => ?_⟩
      apply Prog.avoids_bind (collectResponse_avoids _ [] ⟨5, by decide⟩)
      intro answer
      match answer with
      | .error error => exact d.failTransport_avoids error
      | .ok [] => trivial
      | .ok (byte :: bytes) => exact d.decode_avoids (byte :: bytes)

lemma read_avoids (d : ModbusDevice) (timeout : Int) : (d.read timeout).Avoids DeviceTerminates := by
  refine ⟨id, fun now => ?_⟩
  change Prog.Avoids _ (ite _ _ _)
  split
  · exact ⟨id, fun _ => trivial⟩
  · exact poll_avoids _

end ModbusDevice

end EdgeGateway
