import EdgeGateway.Model.TcpPublisher
import EdgeGateway.Proofs.TcpLines

/-!
# JSON Lines from many threads

The workers send through one client, and each call holds the mutex of the publisher. The lines of different threads
do not run into each other, and a thread is told that its line was published exactly if all of it was sent.
-/

namespace EdgeGateway
open CallTree

/-- Threads that send messages without newlines through a client that is not connected yet. -/
abbrev TcpThreadsRun {ι : Type} [DecidableEq ι] (host : Text) (port : UInt16)
    (T : Threads ι (lockSignature (memberSignature tcpSignature TcpClient)) (List (TcpPublishRequest × PublishStatus))
      (Monitor ι (TcpClient × Network))) : Prop :=
  ObjectRun (memberEnv networkEnv) TcpPublisher.publish (fun _ q => newline ∉ q.payload)
    ⟨fun _ => .between [], ⟨none, (⟨host, port, -1⟩, {})⟩⟩ T

/-- A message and whether it was published. -/
def sentLine (call : TcpPublishRequest × PublishStatus) : Text × Bool :=
  (call.1.payload, call.2 = .published)

lemma exec_sendJson {q : TcpPublishRequest} {w w' : TcpClient × Network} {status : PublishStatus}
    (h : Exec (memberEnv networkEnv) (TcpPublisher.publish q) w status w') :
    Exec networkEnv (w.1.sendJson q.payload q.passes) w.2 (some (sentLine (q, status)).2, w'.1) w'.2 := by
  obtain ⟨⟨sent, c⟩, hexec, heq⟩ := Exec.of_map h.of_method
  obtain ⟨hstatus, rfl⟩ := Prod.mk.inj heq
  cases sent with
  | none => cases hstatus
  | some sent =>
    cases Option.some.inj hstatus
    cases sent <;> exact hexec

/-- Calls that are served one after the other are calls of the client. -/
lemma tcpRun_of_served {c : TcpClient} {n : Network} {calls : List (TcpPublishRequest × PublishStatus)}
    (hcalls : ∀ call ∈ calls, newline ∉ call.1.payload) {w : TcpClient × Network}
    (h : Served (memberEnv networkEnv) TcpPublisher.publish (c, n) calls w) :
    TcpRun c n (calls.map sentLine) w.1 w.2 := by
  induction h with
  | start => exact .start
  | next _ hexec ih =>
    rw [List.forall_mem_append] at hcalls
    rw [List.map_append]
    exact (ih hcalls.1).sendJson (hcalls.2 _ (List.mem_singleton.mpr rfl)) (exec_sendJson hexec)

/-- However the threads take turns and whatever the network does, whenever no thread is inside of a call: what was
sent consists of the lines for which a thread was told `published`, in one order that keeps the order of every thread,
and of beginnings of lines for which a thread was told `failed`, each of them at the end of a connection. -/
theorem tcp_lines_across_threads {ι : Type} [DecidableEq ι] (host : Text) (port : UInt16)
    {T : Threads ι (lockSignature (memberSignature tcpSignature TcpClient)) (List (TcpPublishRequest × PublishStatus))
      (Monitor ι (TcpClient × Network))} (hrun : TcpThreadsRun host port T) (hfree : T.world.owner = none) :
    ∃ calls : List (ι × TcpPublishRequest × PublishStatus),
      (∀ i results, T.thread i = .between results → ofThread i calls = results) ∧
      LinesFramed ((calls.map Prod.snd).map sentLine) T.world.resource.2 := by
  obtain ⟨calls, w, hlinear⟩ := exists_linearized hrun
  refine ⟨calls, hlinear.own, ?_⟩
  have hcalls : ∀ call ∈ calls.map Prod.snd, newline ∉ call.1.payload := by
    intro call hcall
    obtain ⟨c, hc, rfl⟩ := List.mem_map.mp hcall
    exact hlinear.allowed c hc
  have htcp := tcpRun_of_served hcalls hlinear.served
  obtain ⟨carried, hframed, -⟩ := htcp.framed (framed_start host port)
  rw [List.nil_append] at hframed
  rw [hlinear.free hfree]
  exact hframed.linesFramed htcp.newline_free

lemma exec_publish_tcp {q : TcpPublishRequest} {c c' : TcpClient} {n n' : Network} {sent : Bool}
    (hexec : Exec networkEnv (c.sendJson q.payload q.passes) n (some sent, c') n') :
    Exec (memberEnv networkEnv) (TcpPublisher.publish q) (c, n) (TcpPublisher.statusOf sent) (c', n') :=
  exec_method (hexec.bind .ret)

/-- One thread loses the first connection after one byte, and another one sends its line on the next. -/
theorem tcp_lines_across_threads_reconnect :
    ∃ (T : Threads Bool (lockSignature (memberSignature tcpSignature TcpClient))
          (List (TcpPublishRequest × PublishStatus)) (Monitor Bool (TcpClient × Network)))
        (calls : List (Bool × TcpPublishRequest × PublishStatus)),
      T.world.resource.2.streams = [ascii "[", ascii "[2]\n"] ∧
      LinesFramed ((calls.map Prod.snd).map sentLine) T.world.resource.2 := by
  let c : TcpClient := ⟨ascii "localhost", 9000, -1⟩
  let n₁ : Network := (Network.connect {} 3 |>.send 3 (ascii "[")).close 3
  have hfirst : Exec networkEnv (c.sendJson (ascii "[1]") 5) {} (some false, c) n₁ :=
    exec_run networkEnv_lossyNetwork (c.sendJson (ascii "[1]") 5) {}
  have hsecond : Exec networkEnv (c.sendJson (ascii "[2]") 5) n₁ (some true, { c with socketFd := 3 })
      ((n₁.connect 3).send 3 (ascii "[2]\n")) :=
    exec_run networkEnv_lossyNetwork (c.sendJson (ascii "[2]") 5) n₁
  have hlost : TcpThreadsRun (ι := Bool) c.host c.port _ :=
    run_of_call true rfl rfl (q := ⟨[], ascii "[1]", 5⟩) (by decide) (exec_publish_tcp hfirst)
  have hsent := hlost.trans
    (run_of_call false rfl rfl (q := ⟨[], ascii "[2]", 5⟩) (by decide) (exec_publish_tcp hsecond))
  obtain ⟨calls, _, hframed⟩ := tcp_lines_across_threads c.host c.port hsent rfl
  exact ⟨_, calls, rfl, hframed⟩

end EdgeGateway
