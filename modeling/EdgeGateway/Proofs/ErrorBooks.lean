import EdgeGateway.Proofs.GatewayHandlers

/-!
# Devices that count one error at a time

The CAN and the Modbus device leave the statistics of their results empty: what they report is one error
a call. What their workers report is compared with what the devices count.
-/

namespace EdgeGateway
open CallTree

/-- Reports without statistics. -/
def plainReports (protocol : ProtocolType) (count : Nat) : List (ProtocolType × ProtocolErrorStats) :=
  List.replicate count (protocol, {})

/-- What was reported are the errors that the device counted, and `extra` more. -/
def Booked (m : DeviceManager) (status : DeviceStatus) (extra : Nat) (l : Ledger) : Prop :=
  m.errorHandler.isSome → l.reports = plainReports status.protocol (status.errorCount + extra)

/-- What a result reports are the errors that the device counted in the call, and `extra` more. -/
structure Accounted (before after : DeviceStatus) (extra : Nat) (result : DeviceReadResult) : Prop where
  protocol : after.protocol = before.protocol
  errors : ∃ k, reported result before.protocol = plainReports before.protocol (k + extra) ∧
    after.errorCount = before.errorCount + k

section

variable {σ : Type} {ok : Ledger → (o : WorkerOp) → o.Ans → Prop} {m : DeviceManager} {l l' : Ledger}
  {before after : DeviceStatus} {n : Nat}

lemma Booked.advance (h : Booked m before n l) (k extra : Nat)
    (hreports : m.errorHandler.isSome → l'.reports = l.reports ++ plainReports before.protocol (k + extra))
    (hcount : after.errorCount = before.errorCount + k) (hprotocol : after.protocol = before.protocol) :
    Booked m after (n + extra) l' := by
  intro hset
  have hsize : after.errorCount + (n + extra) = before.errorCount + n + (k + extra) := by omega
  rw [hreports hset, h hset, hprotocol, hsize]
  exact List.replicate_append_replicate

/-- Stopping a device leaves its error count and the ledger as they are. -/
def StopsQuietly (ok : Ledger → (o : WorkerOp) → o.Ans → Prop) (interface : DeviceInterface σ) : Prop :=
  ∀ d l, wp (deviceEnv ok) (interface.stop d) (fun d' l' => l' = l ∧
    (interface.getDeviceStatus d').protocol = (interface.getDeviceStatus d).protocol ∧
    (interface.getDeviceStatus d').errorCount = (interface.getDeviceStatus d).errorCount) l

/-- The result of a call is handed over and reported, and the pass ends. -/
lemma Booked.handle {interface : DeviceInterface σ} {result : DeviceReadResult} {d : σ} {extra : Nat}
    (hstop : StopsQuietly ok interface) (h : Booked m before n l)
    (hresult : Accounted before (interface.getDeviceStatus d) extra result) :
    wp (ledgerEnv ok) (m.handleResult interface result d) (fun w l' =>
      (interface.getDeviceStatus w.input).protocol = before.protocol ∧
      Booked m (interface.getDeviceStatus w.input) (n + extra) l' ∧
      l'.sessions = l.sessions ∧ l'.clock = l.clock) l := by
  obtain ⟨hprotocol, k, hreported, hcount⟩ := hresult
  unfold DeviceManager.handleResult
  rw [wp_bind]
  apply wp_handOver
  intro delivered published recorded _
  rw [wp_bind]
  apply wp_report
  intro reports charged hreports
  rw [hprotocol, hreported] at hreports
  apply wp_endPass
  · intro _
    apply wp_mono _ (hstop d _)
    rintro d' l' ⟨rfl, hprotocol', hcount'⟩
    exact ⟨hprotocol'.trans hprotocol, h.advance k extra hreports (hcount'.trans hcount) (hprotocol'.trans hprotocol),
      rfl, rfl⟩
  · intro _
    exact ⟨hprotocol, h.advance k extra hreports hcount hprotocol, rfl, rfl⟩

/-- A device that could not be started counts one error, and one is reported. -/
lemma Booked.startFailed (h : Booked m before n l) {reports : List (ProtocolType × ProtocolErrorStats)}
    {charged : Counter → Nat} (hprotocol : after.protocol = before.protocol)
    (hcount : after.errorCount = before.errorCount + 1)
    (hreports : m.errorHandler.isSome → reports = l.reports ++ [(after.protocol, ({} : ProtocolErrorStats))]) :
    Booked m after n { l with reports := reports, charged := charged } := by
  apply h.advance 1 0 _ hcount hprotocol
  intro hset
  rw [← hprotocol]
  exact hreports hset

end

/-! ### The CAN device -/

section

variable {ok : Ledger → (o : WorkerOp) → o.Ans → Prop} {l : Ledger}

lemma CanDevice.stopsQuietly : StopsQuietly ok CanDevice.interface := by
  intro d l _ l' hclose
  obtain ⟨-, rfl⟩ := hclose
  exact ⟨rfl, rfl, rfl⟩

lemma CanDevice.wp_read {d : CanDevice} (hcan : d.status.protocol = .socketCan) {timeout : Int} :
    wp (deviceEnv ok) (d.read timeout)
      (fun answer l' => l' = l ∧ Accounted d.status answer.2.status 0 answer.1) l := by
  unfold CanDevice.read
  rw [wp_bind]
  unfold readFrame
  rw [wp_bind]
  intro answer l' hreceive
  obtain ⟨-, rfl⟩ := hreceive
  match answer with
  | .nothing => exact ⟨rfl, rfl, 0, by rw [hcan]; rfl, rfl⟩
  | .failed error =>
    change wp (deviceEnv ok) (d.recordError.stop >>= _) _ _
    rw [wp_bind]
    intro _ l'' hclose
    obtain ⟨-, rfl⟩ := hclose
    exact ⟨rfl, rfl, 1, rfl, rfl⟩
  | .received frame =>
    rw [wp_ret]
    dsimp only
    by_cases hflags : frame.canId &&& (canRtrFlag ||| canErrFlag) ≠ 0
    · rw [if_pos hflags]
      exact ⟨rfl, rfl, 1, rfl, rfl⟩
    · rw [if_neg hflags, Prog.pure_eq, wp_ret]
      dsimp only
      cases Canbus.parseSensorFrame _ with
      | error error => exact ⟨rfl, rfl, 1, rfl, rfl⟩
      | ok deviceData =>
        dsimp only
        rw [wp_bind]
        intro now l'' hnow
        obtain ⟨-, rfl⟩ := hnow
        exact ⟨rfl, rfl, 0, rfl, rfl⟩

end

end EdgeGateway
