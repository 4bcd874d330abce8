import EdgeGateway.Lib.Protocol
import EdgeGateway.Model.HttpLifecycle

/-!
# The HTTP server gives back what it took

Which calls are allowed on the listening socket and the worker of a server. Whatever its owner asks and whatever fails,
a socket is bound before it listens, a worker serves only a listening socket, each socket is closed once and each
worker is joined.
-/

namespace EdgeGateway
open CallTree

inductive ListenerStage where
  | created
  | bound
  | listening
deriving DecidableEq

/-- The open socket of a server, the flag that its worker looks at and whether there is a worker. -/
structure HttpSockets where
  listener : Option (Int × ListenerStage) := none
  running : Bool := false
  worker : Bool := false

namespace HttpSockets

def next (s : HttpSockets) : Event httpLifeSignature → Option HttpSockets
  | ⟨.storeRunning true, _⟩ =>
    match s.listener with
    | some (_, .listening) => if s.worker then none else some { s with running := true }
    | _ => none
  | ⟨.storeRunning false, _⟩ => some { s with running := false }
  | ⟨.socket, (fd : Int)⟩ =>
    if s.listener.isSome || s.worker then none
    else if fd < 0 then some s
    else some { s with listener := some (fd, .created) }
  | ⟨.reuseAddress fd, _⟩ => if s.listener = some (fd, .created) then some s else none
  | ⟨.bind fd _ _, (result : Int)⟩ =>
    if s.listener = some (fd, .created) then
      some (if result = 0 then { s with listener := some (fd, .bound) } else s)
    else
      none
  | ⟨.listen fd _, (result : Int)⟩ =>
    if s.listener = some (fd, .bound) then
      some (if result = 0 then { s with listener := some (fd, .listening) } else s)
    else
      none
  | ⟨.getsockname fd, _⟩ => if s.listener = some (fd, .listening) then some s else none
  | ⟨.spawn, what⟩ =>
    if s.running && !s.worker then some { s with worker := (what : Option Text).isNone } else none
  | ⟨.shutdown fd, _⟩ => if s.listener = some (fd, .listening) ∧ s.running = false then some s else none
  | ⟨.close fd, _⟩ =>
    match s.listener with
    | some (opened, _) => if opened = fd ∧ s.running = false then some { s with listener := none } else none
    | none => none
  | ⟨.join, _⟩ => if s.worker && s.listener.isNone && !s.running then some { s with worker := false } else none
  | _ => some s

end HttpSockets

/-- The members of a server between two calls of its owner: it is stopped, or it is serving. -/
inductive HttpMembers.Matches (m : HttpMembers) : HttpSockets → Prop where
  | stopped : m.running = false → m.worker = false → m.listenFd < 0 → Matches m {}
  | serving : m.running = true → m.worker = true → 0 ≤ m.listenFd →
      Matches m ⟨some (m.listenFd, .listening), true, true⟩

section

variable {α : Type}

/-- A part of the server that makes only allowed calls. -/
abbrev Proceeds (p : HttpLifeCall α) (Q : α → HttpSockets → Prop) (s : HttpSockets) : Prop :=
  obeys HttpSockets.next (fun _ _ _ => True) p Q s

/-- What `start` has done when it returns. -/
structure HttpMembers.Started (answer : StartResult × HttpMembers) (s : HttpSockets) : Prop where
  members : answer.2.Matches s
  message : answer.1.started = true ↔ answer.1.errorMessage = []

lemma HttpMembers.Started.failed {message : Text} (hmessage : message ≠ []) {m : HttpMembers} {s : HttpSockets}
    (hm : m.Matches s) : HttpMembers.Started (⟨false, message⟩, m) s :=
  ⟨hm, nofun, fun hnil => (hmessage hnil).elim⟩

lemma started_append_ne_nil {text : Text} (htext : text ≠ []) (rest : Text) : text ++ rest ≠ [] :=
  fun hnil => htext (List.append_eq_nil_iff.mp hnil).1

lemma HttpSockets.next_close (fd : Int) (stage : ListenerStage) (worker : Bool) (x : Unit) :
    HttpSockets.next ⟨some (fd, stage), false, worker⟩ ⟨.close fd, x⟩ = some ⟨none, false, worker⟩ :=
  if_pos ⟨rfl, rfl⟩

lemma proceeds_closeListener {m : HttpMembers} {message : Text} {stage : ListenerStage} (hmessage : message ≠ [])
    (hrunning : m.running = false) (hworker : m.worker = false) :
    Proceeds (HttpLife.closeListener m message) HttpMembers.Started ⟨some (m.listenFd, stage), false, false⟩ := by
  intro _ _
  refine ⟨_, rfl, ?_⟩
  intro _ _
  exact ⟨_, HttpSockets.next_close .., .failed hmessage (.stopped hrunning hworker (Int.negSucc_lt_zero 0))⟩

lemma proceeds_startWorker {host : Text} {m : HttpMembers} (hrunning : m.running = false) (hworker : m.worker = false)
    (hopen : 0 ≤ m.listenFd) :
    Proceeds (HttpLife.startWorker host m) HttpMembers.Started ⟨some (m.listenFd, .listening), false, false⟩ := by
  intro port _
  refine ⟨_, if_pos rfl, ?_⟩
  intro _ _
  refine ⟨_, rfl, ?_⟩
  intro what _
  refine ⟨_, rfl, ?_⟩
  cases what with
  | some what =>
    intro _ _
    refine ⟨_, rfl, ?_⟩
    intro _ _
    refine ⟨_, HttpSockets.next_close .., ?_⟩
    intro _ _
    have hmessage := started_append_ne_nil (show ascii "HTTP worker start failed: " ≠ [] by decide) what
    exact ⟨_, rfl, .failed hmessage (.stopped hrunning hworker (Int.negSucc_lt_zero 0))⟩
  | none =>
    intro _ _
    exact ⟨_, rfl, .serving rfl rfl hopen, fun _ => rfl, fun _ => rfl⟩

lemma proceeds_listen {host : Text} {m : HttpMembers} (hrunning : m.running = false) (hworker : m.worker = false)
    (hopen : 0 ≤ m.listenFd) :
    Proceeds (do
      if (← HttpLife.perform (.listen m.listenFd 16)) ≠ 0 then
        HttpLife.closeListener m (ascii "listen failed: " ++ (← HttpLife.perform .strerror))
      else
        HttpLife.startWorker host m) HttpMembers.Started ⟨some (m.listenFd, .bound), false, false⟩ := by
  intro result _
  refine ⟨_, if_pos rfl, ?_⟩
  change Proceeds (if result ≠ 0 then _ else _) _ (if result = 0 then _ else _)
  by_cases hzero : result = 0
  · rw [if_neg (not_not.mpr hzero), if_pos hzero]
    exact proceeds_startWorker hrunning hworker hopen
  · rw [if_pos hzero, if_neg hzero]
    intro error _
    have hmessage := started_append_ne_nil (show ascii "listen failed: " ≠ [] by decide) error
    exact ⟨_, rfl, proceeds_closeListener hmessage hrunning hworker⟩

lemma proceeds_listenOn {host : Text} {m : HttpMembers} (hrunning : m.running = false) (hworker : m.worker = false)
    (hopen : 0 ≤ m.listenFd) :
    Proceeds (HttpLife.listenOn host m) HttpMembers.Started ⟨some (m.listenFd, .created), false, false⟩ := by
  have haddress : Proceeds (if host = ascii "localhost" then return true else HttpLife.perform (.inetPton host))
      (fun _ s => s = ⟨some (m.listenFd, .created), false, false⟩) ⟨some (m.listenFd, .created), false, false⟩ := by
    split
    · exact rfl
    · exact fun _ _ => ⟨_, rfl, rfl⟩
  intro _ _
  refine ⟨_, if_pos rfl, ?_⟩
  apply obeys_bind (p := if host = ascii "localhost" then return true else HttpLife.perform (.inetPton host))
  apply obeys_mono haddress
  rintro valid _ rfl
  cases valid with
  | false =>
    have hmessage := started_append_ne_nil (show ascii "invalid HTTP IPv4 host: " ≠ [] by decide) host
    exact proceeds_closeListener hmessage hrunning hworker
  | true =>
    intro result _
    refine ⟨_, if_pos rfl, ?_⟩
    change Proceeds (if result ≠ 0 then _ else _) _ (if result = 0 then _ else _)
    by_cases hzero : result = 0
    · rw [if_neg (not_not.mpr hzero), if_pos hzero]
      exact proceeds_listen hrunning hworker hopen
    · rw [if_pos hzero, if_neg hzero]
      intro error _
      refine ⟨_, rfl, proceeds_closeListener ?_ hrunning hworker⟩
      simp only [List.append_assoc]
      exact started_append_ne_nil (show ascii "bind failed for " ≠ [] by decide) _

/-- A failed start leaves nothing behind, whichever of its calls failed. -/
lemma proceeds_start {host : Text} {m : HttpMembers} {s : HttpSockets} (hm : m.Matches s) :
    Proceeds (HttpLife.start host m) HttpMembers.Started s := by
  unfold HttpLife.start
  cases hm with
  | serving hrunning hworker hopen =>
    rw [if_pos hrunning]
    exact .failed (show ascii "HTTP server is already running" ≠ [] by decide) (.serving hrunning hworker hopen)
  | stopped hrunning hworker hclosed =>
    rw [if_neg (Bool.eq_false_iff.mp hrunning)]
    intro fd _
    by_cases hfailed : fd < 0
    · refine ⟨_, if_pos hfailed, ?_⟩
      change Proceeds (if fd < 0 then _ else _) _ _
      rw [if_pos hfailed]
      intro error _
      refine ⟨_, rfl, ?_⟩
      intro _ _
      have hmessage := started_append_ne_nil (show ascii "socket failed: " ≠ [] by decide) error
      exact ⟨_, rfl, .failed hmessage (.stopped hrunning hworker hfailed)⟩
    · refine ⟨_, if_neg hfailed, ?_⟩
      change Proceeds (if fd < 0 then _ else _) _ _
      rw [if_neg hfailed]
      have hopen : 0 ≤ fd := not_lt.mp hfailed
      exact proceeds_listenOn (m := { m with listenFd := fd }) hrunning hworker hopen

lemma closed_lt_zero (fd : Int) : (if fd ≥ 0 then -1 else fd) < 0 := by
  split <;> omega

lemma proceeds_stop {m : HttpMembers} {s : HttpSockets} (hm : m.Matches s) :
    Proceeds (HttpLife.stop m) (fun m' s' => s' = {} ∧ m'.Matches s') s := by
  unfold HttpLife.stop
  cases hm with
  | stopped hrunning hworker hclosed =>
    rw [if_neg (not_le.mpr hclosed), hworker, hrunning]
    intro _ _
    refine ⟨_, rfl, ?_⟩
    exact ⟨rfl, .stopped rfl rfl (closed_lt_zero m.listenFd)⟩
  | serving hrunning hworker hopen =>
    rw [if_pos hopen, hworker, hrunning]
    intro _ _
    refine ⟨_, rfl, ?_⟩
    intro _ _
    refine ⟨_, if_pos ⟨rfl, rfl⟩, ?_⟩
    intro _ _
    refine ⟨_, HttpSockets.next_close .., ?_⟩
    intro _ _
    refine ⟨_, rfl, ?_⟩
    intro _ _
    exact ⟨_, rfl, rfl, .stopped rfl rfl (closed_lt_zero m.listenFd)⟩

lemma proceeds_serveRequests {host : Text} {m : HttpMembers} {s : HttpSockets} (hm : m.Matches s)
    (requests : List HttpLife.Request) :
    Proceeds (HttpLife.serveRequests host m requests) (fun answer s' => answer.2.Matches s' ∧
      ∀ result ∈ answer.1, result.started = true ↔ result.errorMessage = []) s := by
  induction requests generalizing m s with
  | nil => exact ⟨hm, nofun⟩
  | cons request requests ih =>
    cases request with
    | start =>
      apply obeys_bind
      apply obeys_mono (proceeds_start hm)
      intro answer s' hstarted
      apply obeys_bind
      apply obeys_mono (ih hstarted.members)
      intro rest s'' hrest
      exact ⟨hrest.1, List.forall_mem_cons.mpr ⟨hstarted.message, hrest.2⟩⟩
    | stop =>
      apply obeys_bind
      apply obeys_mono (proceeds_stop hm)
      intro m' s' hstopped
      exact ih hstopped.2

end

/-- Whatever the owner of a server asks of it and whatever fails: only allowed calls are made, and when the server is
destroyed no socket is open and no worker is left. `start` says what went wrong exactly if it did not start. -/
theorem server_gives_back (host : Text) (port : UInt16) (requests : List HttpLife.Request) :
    (∀ h, Reaches (recording (Admits HttpSockets.next (fun _ _ _ => True) {})) (HttpLife.life host port requests) [] h →
      ∃ s, Protocol.after HttpSockets.next {} h = some s) ∧
    ∀ h results m, Exec (recording (Admits HttpSockets.next (fun _ _ _ => True) {}))
        (HttpLife.life host port requests) [] (results, m) h →
      Protocol.after HttpSockets.next {} h = some {} ∧
      ∀ result ∈ results, result.started = true ↔ result.errorMessage = [] := by
  have hlife : Proceeds (HttpLife.life host port requests) (fun answer s => s = {} ∧
      ∀ result ∈ answer.1, result.started = true ↔ result.errorMessage = []) {} := by
    apply obeys_bind
    apply obeys_mono (proceeds_serveRequests (.stopped rfl rfl (Int.negSucc_lt_zero 0)) requests)
    intro answer s hserved
    apply obeys_bind
    apply obeys_mono (proceeds_stop hserved.1)
    intro m s' hstopped
    exact ⟨hstopped.1, hserved.2⟩
  constructor
  · exact fun h hreach => obeys_reaches hlife rfl hreach
  · intro h results m hexec
    obtain ⟨s, hafter, rfl, hresults⟩ := obeys_exec hlife rfl hexec
    exact ⟨hafter, hresults⟩

end EdgeGateway
