import EdgeGateway.Lib.Implementation
import EdgeGateway.Proofs.MetricsText

/-!
# Connections of the HTTP server

The server on a network that connects, sends and receives as it likes, beside threads that change what it shows.
Connections are served one at a time, each is closed once, and what is sent on one is the beginning of one
response to the request that was received on it.
-/

namespace EdgeGateway
open CallTree

/-! ### The network -/

/-- A connection that was accepted. -/
structure Visit where
  received : List UInt8 := []
  sent : List UInt8 := []
  closed : Bool := false

structure HttpWorld where
  /-- The connections, in the order of accepting. -/
  visits : List Visit := []
  /-- The connection behind a descriptor. -/
  visit : Int → Option Nat := fun _ => none
  /-- Whether a call was made on a descriptor that is not open. -/
  stray : Bool := false

namespace HttpWorld

def accept (w : HttpWorld) (fd : Int) : HttpWorld :=
  { w with
    visits := w.visits ++ [{}]
    visit := Function.update w.visit fd (some w.visits.length) }

/-- Something happens on the connection of a descriptor. -/
def on (w : HttpWorld) (fd : Int) (change : Visit → Visit) : HttpWorld :=
  match w.visit fd with
  | none => { w with stray := true }
  | some i => { w with visits := w.visits.modify i change }

def close (w : HttpWorld) (fd : Int) : HttpWorld :=
  { w.on fd (fun v => { v with closed := true }) with visit := Function.update w.visit fd none }

end HttpWorld

/-- Calls answer as they like, but a new descriptor is not in use, `recv` gives no more than it was asked for, and
what `send` returns is the number of bytes it has taken. -/
def httpWorldEnv : Env httpSignature HttpWorld := fun w o =>
  match o with
  | .accept => fun (answer : AcceptAnswer) w' =>
      (0 ≤ answer.clientFd → w.visit answer.clientFd = none) ∧
        w' = if 0 ≤ answer.clientFd then w.accept answer.clientFd else w
  | .poll fd => fun _ w' => w' = w.on fd id
  | .recv fd capacity => fun (bytes : List UInt8) w' =>
      bytes.length ≤ capacity ∧ w' = w.on fd (fun v => { v with received := v.received ++ bytes })
  | .send fd data => fun (answer : SendAnswer) w' =>
      answer.result ≤ data.length ∧
        w' = w.on fd (fun v => { v with sent := v.sent ++ data.take answer.result.toNat })
  | .close fd => fun _ w' => w' = w.close fd
  | _ => fun _ w' => w' = w

/-! ### Answers -/

/-- The text of the metrics with these values. -/
def printMetrics (values : List Nat) : Text :=
  (List.zipWith RuntimeMetrics.writeMetric RuntimeMetrics.families values).flatten

/-- What the server can answer to the bytes of a request. Which of them it is depends on the beginning of the
bytes, and the values are those that were loaded. -/
inductive Answers (s : HttpServer) (request : List UInt8) : Text → Prop where
  | health (h : RuntimeStatus.Health) : ascii "GET /health " <+: request →
      Answers s request (HttpServer.buildResponse 200 HttpServer.jsonType (s.runtimeStatus.printHealth h))
  | ready (ready : Bool) (r : RuntimeStatus.Readiness) : ascii "GET /ready " <+: request →
      Answers s request (HttpServer.buildResponse (if ready then 200 else 503) HttpServer.jsonType
        (s.runtimeStatus.printReadiness r))
  | metrics (values : List Nat) : ascii "GET /metrics " <+: request →
      values.length = RuntimeMetrics.families.length →
      Answers s request (HttpServer.buildResponse 200 HttpServer.metricsType (printMetrics values))
  | notFound : ¬ascii "GET /health " <+: request → ¬ascii "GET /ready " <+: request →
      ¬ascii "GET /metrics " <+: request →
      Answers s request (HttpServer.buildResponse 404 HttpServer.jsonType HttpServer.notFoundBody)

/-- What was sent is the beginning of an answer to what was received. -/
def Visit.Answered (s : HttpServer) (v : Visit) : Prop :=
  v.sent = [] ∨ v.received ≠ [] ∧ ∃ text, Answers s v.received text ∧ v.sent <+: text

namespace HttpServer

variable (s : HttpServer)

lemma returns_status {α : Type} {p : StatusCall α} {Q : α → Prop} (h : p.Returns Q) :
    (HttpCall.status p).Returns Q :=
  Prog.returns_embed h

lemma returns_healthJson : (s.runtimeStatus.healthJson s.startedAtSeconds).Returns
    (fun text => ∃ h, text = s.runtimeStatus.printHealth h) :=
  Prog.returns_bind (Prog.returns_true _) (fun h _ => Prog.returns_pure ⟨h, rfl⟩)

lemma returns_readinessJson :
    s.runtimeStatus.readinessJson.Returns (fun text => ∃ r, text = s.runtimeStatus.printReadiness r) :=
  Prog.returns_bind (Prog.returns_true _) (fun r _ => Prog.returns_pure ⟨r, rfl⟩)

lemma returns_renderPrometheus : (RuntimeMetrics.renderPrometheus s.startedAtSeconds).Returns
    (fun text => ∃ values, values.length = RuntimeMetrics.families.length ∧ text = printMetrics values) := by
  unfold RuntimeMetrics.renderPrometheus printMetrics
  generalize RuntimeMetrics.families = families
  induction families with
  | nil => exact Prog.returns_pure ⟨[], rfl, rfl⟩
  | cons family families ih =>
    rw [RuntimeMetrics.renderFamilies]
    apply Prog.returns_bind (Prog.returns_true _)
    intro value _
    apply Prog.returns_bind ih
    rintro text ⟨values, hlength, rfl⟩
    exact Prog.returns_pure ⟨value :: values, by rw [List.length_cons, List.length_cons, hlength], rfl⟩

lemma returns_readyResponse : s.readyResponse.Returns
    (fun text => ∃ (ready : Bool) (r : RuntimeStatus.Readiness),
      text = buildResponse (if ready then 200 else 503) jsonType (s.runtimeStatus.printReadiness r)) := by
  have hready := Prog.returns_true (HttpCall.status RuntimeStatus.ready)
  have hreadiness := returns_status (returns_readinessJson s)
  unfold readyResponse
  split
  · apply Prog.returns_bind hready
    intro ready _
    apply Prog.returns_bind hreadiness
    rintro body ⟨r, hbody⟩
    rw [hbody]
    exact Prog.returns_pure ⟨ready, r, rfl⟩
  · apply Prog.returns_bind hreadiness
    rintro body ⟨r, hbody⟩
    rw [hbody]
    apply Prog.returns_bind hready
    intro ready _
    exact Prog.returns_pure ⟨ready, r, rfl⟩

/-- Every answer is one for the path. -/
lemma returns_respond (request : List UInt8) : (s.respond (requestPath request)).Returns (Answers s request) := by
  have hhealth : requestPath request = ascii "/health" ↔ ascii "GET /health " <+: request :=
    requestPath_eq_iff (by decide) (by decide) (by decide) request
  have hready : requestPath request = ascii "/ready" ↔ ascii "GET /ready " <+: request :=
    requestPath_eq_iff (by decide) (by decide) (by decide) request
  have hmetrics : requestPath request = ascii "/metrics" ↔ ascii "GET /metrics " <+: request :=
    requestPath_eq_iff (by decide) (by decide) (by decide) request
  unfold respond
  split_ifs with h₁ h₂ h₃
  · apply Prog.returns_bind (returns_status (returns_healthJson s))
    rintro body ⟨h, hbody⟩
    rw [hbody]
    exact Prog.returns_pure (.health h (hhealth.mp h₁))
  · constructor
    intro text hreturn
    obtain ⟨ready, r, htext⟩ := (returns_readyResponse s).of_canReturn hreturn
    rw [htext]
    exact .ready ready r (hready.mp h₂)
  · apply Prog.returns_bind (returns_status (returns_renderPrometheus s))
    rintro body ⟨values, hlength, hbody⟩
    rw [hbody]
    exact Prog.returns_pure (.metrics values (hmetrics.mp h₃) hlength)
  · exact Prog.returns_pure (.notFound (mt hhealth.mpr h₁) (mt hready.mpr h₂) (mt hmetrics.mpr h₃))

end HttpServer

/-! ### One connection -/

/-- Between any two calls: at most the last connection is open. -/
structure ServedInOrder (s : HttpServer) (w : HttpWorld) : Prop where
  stray : w.stray = false
  closed : ∀ v ∈ w.visits.dropLast, v.closed = true
  answered : ∀ v ∈ w.visits, v.Answered s

/-- Between two connections. -/
structure Resting (s : HttpServer) (w : HttpWorld) : Prop where
  stray : w.stray = false
  visits : ∀ v ∈ w.visits, v.closed = true ∧ v.Answered s

/-- Connection `v` is served through `fd`. -/
structure Serving (s : HttpServer) (fd : Int) (earlier : List Visit) (v : Visit) (w : HttpWorld) : Prop where
  stray : w.stray = false
  visits : w.visits = earlier ++ [v]
  current : w.visit fd = some earlier.length
  earlier : ∀ u ∈ earlier, u.closed = true ∧ u.Answered s
  answered : v.Answered s

section

variable {s : HttpServer} {w : HttpWorld} {fd : Int} {earlier : List Visit} {v : Visit}

lemma Resting.orderly (h : Resting s w) : ServedInOrder s w where
  stray := h.stray
  closed := fun v hv => (h.visits v (List.mem_of_mem_dropLast hv)).1
  answered := fun v hv => (h.visits v hv).2

lemma Serving.orderly (h : Serving s fd earlier v w) : ServedInOrder s w where
  stray := h.stray
  closed := by
    rw [h.visits, List.dropLast_concat]
    exact fun u hu => (h.earlier u hu).1
  answered := by
    intro u hu
    rw [h.visits, List.mem_append, List.mem_singleton] at hu
    rcases hu with hu | rfl
    · exact (h.earlier u hu).2
    · exact h.answered

lemma Resting.accept (h : Resting s w) (fd : Int) : Serving s fd w.visits {} (w.accept fd) where
  stray := h.stray
  visits := rfl
  current := Function.update_self ..
  earlier := h.visits
  answered := .inl rfl

lemma HttpWorld.on_current (h : Serving s fd earlier v w) (change : Visit → Visit) :
    w.on fd change = { w with visits := earlier ++ [change v] } := by
  unfold HttpWorld.on
  rw [h.current]
  dsimp only
  rw [h.visits, List.modify_eq_take_drop, List.take_left, List.drop_left]
  rfl

lemma Serving.on (h : Serving s fd earlier v w) (change : Visit → Visit) (hv : (change v).Answered s) :
    Serving s fd earlier (change v) (w.on fd change) := by
  rw [HttpWorld.on_current h]
  exact ⟨h.stray, rfl, h.current, h.earlier, hv⟩

lemma Serving.close (h : Serving s fd earlier v w) : Resting s (w.close fd) := by
  unfold HttpWorld.close
  rw [HttpWorld.on_current h]
  refine ⟨h.stray, ?_⟩
  intro u hu
  rw [List.mem_append, List.mem_singleton] at hu
  rcases hu with hu | rfl
  · exact h.earlier u hu
  · exact ⟨rfl, h.answered⟩

/-- The calls on connections. -/
def OnConnection : HttpOp → Prop
  | .accept => True
  | .poll _ => True
  | .recv _ _ => True
  | .send _ _ => True
  | .close _ => True
  | _ => False

/-- A program over the connections that keeps them in order. -/
abbrev KeepsOrder {α : Type} (s : HttpServer) (p : HttpCall α) (Q : α → HttpWorld → Prop) (w : HttpWorld) : Prop :=
  always httpWorldEnv (ServedInOrder s) p Q w

lemma keepsOrder_quiet {α : Type} {p : HttpCall α} (hp : p.Avoids OnConnection) {Q : α → Prop} (hreturns : p.Returns Q)
    (hw : ServedInOrder s w) : KeepsOrder s p (fun r w' => Q r ∧ w' = w) w := by
  apply always_of_quiet hp _ hreturns hw
  intro w o x w' hquiet hr
  cases o with
  | accept | poll | recv | send | close => exact absurd trivial hquiet
  | status | loadRunning | strerror | log | spin => exact hr

lemma status_avoids {α : Type} (p : StatusCall α) : (HttpCall.status p).Avoids OnConnection :=
  Prog.avoids_embed (Prog.avoids_of_forall (fun _ => id) p)

lemma respond_avoids (s : HttpServer) (path : Text) : (s.respond path).Avoids OnConnection := by
  unfold HttpServer.respond
  split_ifs
  · exact Prog.avoids_bind (status_avoids _) (fun _ => trivial)
  · unfold HttpServer.readyResponse
    split_ifs
    · exact Prog.avoids_bind (status_avoids _) (fun _ => Prog.avoids_bind (status_avoids _) (fun _ => trivial))
    · exact Prog.avoids_bind (status_avoids _) (fun _ => Prog.avoids_bind (status_avoids _) (fun _ => trivial))
  · exact Prog.avoids_bind (status_avoids _) (fun _ => trivial)
  · trivial

lemma keepsOrder_awaitRequest (h : Serving s fd earlier v w) (passes : Nat) :
    KeepsOrder s (HttpServer.awaitRequest fd passes) (fun _ w' => Serving s fd earlier v w') w := by
  induction passes generalizing w with
  | zero => exact ⟨h.orderly, fun x => x.elim⟩
  | succ passes ih =>
    refine ⟨h.orderly, ?_⟩
    intro running w' hr
    rw [show w' = w from hr]
    cases running with
    | false => exact ⟨h.orderly, h⟩
    | true =>
      refine ⟨h.orderly, ?_⟩
      intro answer w' hr
      rw [show w' = w.on fd id from hr]
      have hpolled : Serving s fd earlier v (w.on fd id) := h.on id h.answered
      change KeepsOrder s (ite _ _ (ite _ _ _)) _ _
      split_ifs
      · exact ⟨hpolled.orderly, hpolled⟩
      · exact ⟨hpolled.orderly, hpolled⟩
      · exact ih hpolled

/-- However the bytes are taken, they are the beginning of the response. -/
lemma keepsOrder_sendAll {response : Text} (hreceived : v.received ≠ []) (hanswers : Answers s v.received response)
    {sent : Nat} (hsent : v.sent = response.take sent) (h : Serving s fd earlier v w) (passes : Nat) :
    KeepsOrder s (HttpServer.sendAll fd response sent passes) (fun _ w' => ∃ v', Serving s fd earlier v' w') w := by
  induction passes generalizing w v sent with
  | zero => exact ⟨h.orderly, fun x => x.elim⟩
  | succ passes ih =>
    rw [HttpServer.sendAll]
    split_ifs with hmore
    · refine ⟨h.orderly, ?_⟩
      intro answer w' hr
      obtain ⟨-, rfl⟩ := hr
      have hnext : v.sent ++ (response.drop sent).take answer.result.toNat =
          response.take (sent + answer.result.toNat) := by
        rw [hsent, List.take_add]
      have hanswered : Visit.Answered s { v with sent := v.sent ++ (response.drop sent).take answer.result.toNat } := by
        refine .inr ⟨hreceived, response, hanswers, ?_⟩
        rw [hnext]
        exact List.take_prefix _ _
      have hnow := h.on (fun v => { v with sent := v.sent ++ (response.drop sent).take answer.result.toNat }) hanswered
      have hrest := fun (next : Nat) (hnext : _ = response.take next) =>
        ih (v := { v with sent := v.sent ++ (response.drop sent).take answer.result.toNat }) hreceived hanswers
          hnext hnow
      change KeepsOrder s (ite _ _ (ite _ _ _)) _ _
      split_ifs with hagain hfailed
      · have hzero : answer.result.toNat = 0 := by omega
        apply hrest
        rw [hnext, hzero, Nat.add_zero]
      · exact ⟨hnow.orderly, _, hnow⟩
      · exact hrest _ hnext
    · exact ⟨h.orderly, v, h⟩

lemma keepsOrder_answerRequest (hfresh : v.sent = []) (hreceived : v.received ≠ []) (h : Serving s fd earlier v w)
    (passes : Nat) :
    KeepsOrder s (s.answerRequest fd v.received passes) (fun _ w' => ∃ v', Serving s fd earlier v' w') w := by
  have hlog : ∀ message, (HttpCall.perform (.log .debug (ascii "http") message)).Avoids OnConnection :=
    fun _ => ⟨id, fun _ => trivial⟩
  apply always_bind
  apply always_mono _ (keepsOrder_quiet (hlog _) (Prog.returns_true _) h.orderly)
  rintro _ w' ⟨-, rfl⟩
  apply always_bind
  apply always_mono _ (keepsOrder_quiet (respond_avoids s _) (HttpServer.returns_respond s v.received) h.orderly)
  rintro response w' ⟨hanswers, rfl⟩
  apply always_bind
  have hnone : v.sent = response.take 0 := hfresh
  apply always_mono _ (keepsOrder_sendAll hreceived hanswers hnone h passes)
  rintro complete w' ⟨v', h'⟩
  cases complete with
  | true => exact ⟨h'.orderly, v', h'⟩
  | false =>
    apply always_mono _ (keepsOrder_quiet (hlog _) (Prog.returns_true _) h'.orderly)
    rintro _ w'' ⟨-, rfl⟩
    exact ⟨v', h'⟩

lemma keepsOrder_handleClient (h : Serving s fd earlier {} w) (passes : Nat) :
    KeepsOrder s (s.handleClient fd passes) (fun _ w' => ∃ v', Serving s fd earlier v' w') w := by
  apply always_bind
  apply always_mono _ (keepsOrder_awaitRequest h passes)
  intro goOn w' h
  cases goOn with
  | false => exact ⟨h.orderly, {}, h⟩
  | true =>
    refine ⟨h.orderly, ?_⟩
    intro running w' hr
    rw [show w' = _ from hr]
    cases running with
    | false => exact ⟨h.orderly, {}, h⟩
    | true =>
      refine ⟨h.orderly, ?_⟩
      intro request w' hr
      obtain ⟨-, rfl⟩ := hr
      have hnow := h.on (fun v => { v with received := v.received ++ request }) (.inl rfl)
      change KeepsOrder s (ite _ _ _) _ _
      split_ifs with hsome
      · exact keepsOrder_answerRequest rfl hsome hnow passes
      · exact ⟨hnow.orderly, _, hnow⟩

/-- The loop of `serve`. -/
lemma keepsOrder_serve (h : Resting s w) (inner passes : Nat) :
    KeepsOrder s (s.serve inner passes) (fun _ w' => Resting s w') w := by
  induction passes generalizing w with
  | zero => exact ⟨h.orderly, fun x => x.elim⟩
  | succ passes ih =>
    refine ⟨h.orderly, ?_⟩
    intro running w' hr
    rw [show w' = w from hr]
    cases running with
    | false => exact ⟨h.orderly, h⟩
    | true =>
      refine ⟨h.orderly, ?_⟩
      intro answer w' hr
      obtain ⟨-, rfl⟩ := hr
      change KeepsOrder s (ite _ _ _) _ _
      by_cases hfailed : answer.clientFd < 0
      · rw [if_pos hfailed, if_neg (not_le.mpr hfailed)]
        split_ifs
        · exact ih h
        · refine ⟨h.orderly, ?_⟩
          intro running w' hr
          rw [show w' = w from hr]
          change KeepsOrder s (ite _ _ _) _ _
          split_ifs
          · exact ⟨h.orderly, h⟩
          · refine ⟨h.orderly, ?_⟩
            intro error w' hr
            rw [show w' = w from hr]
            refine ⟨h.orderly, ?_⟩
            intro x w' hr
            rw [show w' = w from hr]
            exact ih h
      · rw [if_neg hfailed, if_pos (not_lt.mp hfailed)]
        apply always_bind
        apply always_mono _ (keepsOrder_handleClient (h.accept answer.clientFd) inner)
        rintro _ w' ⟨v, hserved⟩
        refine ⟨hserved.orderly, ?_⟩
        intro x w'' hr
        rw [show w'' = _ from hr]
        exact ih hserved.close

lemma resting_empty (s : HttpServer) : Resting s {} :=
  ⟨rfl, fun _ hv => absurd hv List.not_mem_nil⟩

end

/-- However clients connect and whatever they send, the server serves them one at a time. It never touches a
descriptor that is not open, so that none is closed twice, every connection is closed before the next one is
accepted and before `serve` returns, and what a client has got is the beginning of one answer to the bytes that
were received from it. -/
theorem visits_answered (s : HttpServer) (inner passes : Nat) :
    (∀ w, Reaches httpWorldEnv (s.serve inner passes) {} w →
      w.stray = false ∧ (∀ v ∈ w.visits.dropLast, v.closed = true) ∧
        ∀ v ∈ w.visits, v.sent ≠ [] → v.received ≠ [] ∧ ∃ text, Answers s v.received text ∧ v.sent <+: text) ∧
    ∀ w, Exec httpWorldEnv (s.serve inner passes) {} () w → ∀ v ∈ w.visits, v.closed = true := by
  have hserve := keepsOrder_serve (resting_empty s) inner passes
  constructor
  · intro w hreach
    have horderly := always_reaches hserve hreach
    refine ⟨horderly.stray, horderly.closed, ?_⟩
    intro v hv hsent
    exact (horderly.answered v hv).resolve_left hsent
  · intro w hexec v hv
    exact ((always_exec hserve hexec).2.visits v hv).1

end EdgeGateway
