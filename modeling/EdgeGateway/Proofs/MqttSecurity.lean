import EdgeGateway.Lib.Protocol
import EdgeGateway.Model.MqttSetup

/-!
# The MQTT client connects only as configured

What mosquitto holds for the client, and which calls are allowed on it. No connection is attempted before the
credentials and the TLS files of the configuration have been accepted, and what was taken is given back.
-/

namespace EdgeGateway
open CallTree

/-- What the configuration asks for. -/
def MqttClientOptions.credentials (options : MqttClientOptions) : Option (Text × Option Text) :=
  if options.username = [] then none
  else some (cString options.username, MqttClientOptions.cStringOrNull options.password)

def MqttClientOptions.tls (options : MqttClientOptions) : Option (Text × Option Text × Option Text) :=
  if options.tlsEnabled then
    some (cString options.caFile, MqttClientOptions.cStringOrNull options.certificateFile,
      MqttClientOptions.cStringOrNull options.privateKeyFile)
  else
    none

def MqttClientOptions.insecure (options : MqttClientOptions) : Option Bool :=
  if options.tlsEnabled then some options.tlsInsecure else none

/-- The client inside of mosquitto. -/
structure BrokerClient where
  credentials : Option (Text × Option Text) := none
  tls : Option (Text × Option Text × Option Text) := none
  insecure : Option Bool := none
  callbacks : List MqttCallback := []
  connecting : Bool := false
  looping : Bool := false

/-- The client may connect. -/
def BrokerClient.ready (options : MqttClientOptions) (b : BrokerClient) : Bool :=
  b.credentials = options.credentials && b.tls = options.tls && b.insecure = options.insecure &&
    b.callbacks = [.connect, .disconnect, .publish]

structure Mosquitto where
  initialized : Bool := false
  client : Option BrokerClient := none

namespace Mosquitto

/-- Something is set before the client connects. -/
def configure (m : Mosquitto) (change : BrokerClient → BrokerClient) : Option Mosquitto := do
  let b ← m.client
  if b.connecting then none else some { m with client := some (change b) }

def next (options : MqttClientOptions) (m : Mosquitto) : Event mosquittoSignature → Option Mosquitto
  | ⟨.libInit, error⟩ => if m.initialized then none else some { m with initialized := (error : Option Text).isNone }
  | ⟨.new, created⟩ =>
    if m.initialized && m.client.isNone then
      some { m with client := if (created : Bool) then some {} else none }
    else
      none
  | ⟨.usernamePwSet username password, none⟩ =>
    m.configure (fun b => { b with credentials := some (username, password) })
  | ⟨.usernamePwSet _ _, some _⟩ => m.configure id
  | ⟨.tlsSet caFile certificateFile privateKeyFile, none⟩ =>
    m.configure (fun b => { b with tls := some (caFile, certificateFile, privateKeyFile) })
  | ⟨.tlsSet _ _ _, some _⟩ => m.configure id
  | ⟨.tlsInsecureSet value, none⟩ => m.configure (fun b => { b with insecure := some value })
  | ⟨.tlsInsecureSet _, some _⟩ => m.configure id
  | ⟨.callbackSet callback, _⟩ => m.configure (fun b => { b with callbacks := b.callbacks ++ [callback] })
  | ⟨.reconnectDelaySet _ _ _, _⟩ => m.configure id
  | ⟨.connectAsync _ _ _, error⟩ => do
    let b ← m.client
    if b.ready options && !b.connecting then
      some { m with client := some { b with connecting := (error : Option Text).isNone } }
    else
      none
  | ⟨.loopStart, error⟩ => do
    let b ← m.client
    if b.connecting && !b.looping then
      some { m with client := some { b with looping := (error : Option Text).isNone } }
    else
      none
  | ⟨.disconnect, _⟩ => do
    let b ← m.client
    if b.looping then some m else none
  | ⟨.loopStop _, _⟩ => do
    let b ← m.client
    if b.looping then some { m with client := some { b with looping := false } } else none
  | ⟨.destroy, _⟩ => do
    let b ← m.client
    if b.looping then none else some { m with client := none }
  | ⟨.libCleanup, _⟩ => if m.initialized && m.client.isNone then some { m with initialized := false } else none
  | _ => some m

end Mosquitto

section

variable {options : MqttClientOptions} {α : Type}

/-- A part of the client that makes only allowed calls. -/
abbrev Guards (options : MqttClientOptions) (p : MosquittoCall α) (Q : α → Mosquitto → Prop) (m : Mosquitto) : Prop :=
  obeys (Mosquitto.next options) (fun _ _ _ => True) p Q m

/-- A client that has not been started. -/
structure Mosquitto.Idle (m : Mosquitto) : Prop where
  initialized : m.initialized = true
  client : ∃ b, m.client = some b ∧ b.looping = false

lemma guards_configureAuthentication :
    Guards options (MqttSetup.configureAuthentication options) (fun ok m => m.Idle ∧
      (ok = true → m = ⟨true, some { credentials := options.credentials }⟩)) ⟨true, some {}⟩ := by
  unfold MqttSetup.configureAuthentication MqttClientOptions.credentials
  by_cases hnone : options.username = []
  · rw [if_pos hnone, if_pos hnone]
    exact ⟨⟨rfl, _, rfl, rfl⟩, fun _ => rfl⟩
  · rw [if_neg hnone, if_neg hnone]
    intro result _
    cases result with
    | none => exact ⟨_, rfl, ⟨rfl, _, rfl, rfl⟩, fun _ => rfl⟩
    | some error => exact ⟨_, rfl, fun _ _ => ⟨_, rfl, ⟨rfl, _, rfl, rfl⟩, fun h => (Bool.false_ne_true h).elim⟩⟩

lemma guards_configureTls (credentials : Option (Text × Option Text)) :
    Guards options (MqttSetup.configureTls options) (fun ok m => m.Idle ∧
      (ok = true → m = ⟨true, some { credentials, tls := options.tls, insecure := options.insecure }⟩))
      ⟨true, some { credentials }⟩ := by
  unfold MqttSetup.configureTls MqttClientOptions.tls MqttClientOptions.insecure
  by_cases htls : options.tlsEnabled
  · rw [if_pos htls, if_pos htls, if_pos htls]
    intro result _
    cases result with
    | some error => exact ⟨_, rfl, fun _ _ => ⟨_, rfl, ⟨rfl, _, rfl, rfl⟩, fun h => (Bool.false_ne_true h).elim⟩⟩
    | none =>
      refine ⟨_, rfl, ?_⟩
      intro result _
      cases result with
      | some error => exact ⟨_, rfl, fun _ _ => ⟨_, rfl, ⟨rfl, _, rfl, rfl⟩, fun h => (Bool.false_ne_true h).elim⟩⟩
      | none => exact ⟨_, rfl, ⟨rfl, _, rfl, rfl⟩, fun _ => rfl⟩
  · rw [if_neg htls, if_neg htls, if_neg htls]
    exact ⟨⟨rfl, _, rfl, rfl⟩, fun _ => rfl⟩

/-- A client as configured, before its callbacks are set. -/
abbrev MqttClientOptions.secured (options : MqttClientOptions) : BrokerClient :=
  { credentials := options.credentials, tls := options.tls, insecure := options.insecure }

lemma guards_configureSecurity :
    Guards options (MqttSetup.configureSecurity options) (fun ok m => m.Idle ∧
      (ok = true → m = ⟨true, some options.secured⟩)) ⟨true, some {}⟩ := by
  apply obeys_bind
  apply obeys_mono guards_configureAuthentication
  intro ok m hm
  cases ok with
  | false => exact ⟨hm.1, fun h => (Bool.false_ne_true h).elim⟩
  | true =>
    rw [hm.2 rfl]
    exact guards_configureTls options.credentials

/-- Only a client as configured connects. -/
lemma guards_connect (host : Text) (port : UInt16) :
    Guards options (MqttSetup.connect host port options)
      (fun started m => m.initialized = true ∧ ∃ b, m.client = some b ∧ b.looping = started)
      ⟨true, some options.secured⟩ := by
  have hready : BrokerClient.ready options
      { options.secured with callbacks := [.connect, .disconnect, .publish] } = true := by
    simp [BrokerClient.ready]
  intro _ _
  refine ⟨_, rfl, ?_⟩
  intro _ _
  refine ⟨_, rfl, ?_⟩
  intro _ _
  refine ⟨_, rfl, ?_⟩
  intro result _
  cases result with
  | some error => exact ⟨_, rfl, fun _ _ => ⟨_, rfl, rfl, _, rfl, rfl⟩⟩
  | none =>
    refine ⟨_, rfl, ?_⟩
    intro result _
    have hnext : Mosquitto.next options
        ⟨true, some { options.secured with callbacks := [.connect, .disconnect, .publish] }⟩
        ⟨.connectAsync (cString host) port.toNat 60, result⟩ =
        some ⟨true, some { options.secured with
          callbacks := [.connect, .disconnect, .publish], connecting := Option.isNone result }⟩ :=
      if_pos (Bool.and_eq_true_iff.mpr ⟨hready, rfl⟩)
    refine ⟨_, hnext, ?_⟩
    cases result with
    | some error => exact fun _ _ => ⟨_, rfl, rfl, _, rfl, rfl⟩
    | none =>
      intro result _
      cases result with
      | some error => exact ⟨_, rfl, fun _ _ => ⟨_, rfl, rfl, _, rfl, rfl⟩⟩
      | none => exact ⟨_, rfl, fun _ _ => ⟨_, rfl, rfl, _, rfl, rfl⟩⟩

/-- The members of the client say what mosquitto holds. -/
structure Mosquitto.Held (handles : MqttHandles) (m : Mosquitto) : Prop where
  initialized : m.initialized = handles.libraryInitialized
  client : m.client.isSome = handles.client
  looping : ∀ b, m.client = some b → b.looping = handles.networkLoopStarted

lemma guards_initializeClient (host : Text) (port : UInt16) :
    Guards options (MqttSetup.initializeClient host port options) (fun handles m => m.Held handles) {} := by
  have hsome : ∀ {b b' : BrokerClient}, some b = some b' → b = b' := Option.some.inj
  intro result _
  cases result with
  | some error => exact ⟨_, rfl, fun _ _ => ⟨_, rfl, rfl, rfl, fun _ h => nomatch h⟩⟩
  | none =>
    refine ⟨_, rfl, ?_⟩
    intro created _
    cases created with
    | false => exact ⟨_, rfl, fun _ _ => ⟨_, rfl, rfl, rfl, fun _ h => nomatch h⟩⟩
    | true =>
      refine ⟨⟨true, some {}⟩, rfl, ?_⟩
      apply obeys_bind (p := MqttSetup.configureSecurity options)
      apply obeys_mono guards_configureSecurity
      intro ok m hm
      cases ok with
      | false =>
        obtain ⟨hinitialized, b, hb, hlooping⟩ := hm.1
        refine ⟨hinitialized, by rw [hb]; rfl, ?_⟩
        intro b' hb'
        rw [hb] at hb'
        rw [← hsome hb']
        exact hlooping
      | true =>
        rw [hm.2 rfl]
        apply obeys_bind (p := MqttSetup.connect host port options)
        apply obeys_mono (guards_connect host port)
        intro started m hm
        obtain ⟨hinitialized, b, hb, hlooping⟩ := hm
        refine ⟨hinitialized, by rw [hb]; rfl, ?_⟩
        intro b' hb'
        rw [hb] at hb'
        rw [← hsome hb']
        exact hlooping

lemma guards_libCleanup (initialized : Bool) :
    Guards options (if initialized then MqttSetup.perform .libCleanup else pure ()) (fun _ m => m = {})
      ⟨initialized, none⟩ := by
  cases initialized with
  | true => exact fun _ _ => ⟨_, rfl, rfl⟩
  | false => exact rfl

/-- What was taken is given back, the network loop first and the library last. -/
lemma guards_destruct {handles : MqttHandles} {m : Mosquitto} (hm : m.Held handles) :
    Guards options (MqttSetup.destruct handles) (fun _ m' => m' = {}) m := by
  obtain ⟨initialized, client⟩ := m
  obtain ⟨hinitialized, hclient, hlooping⟩ := hm
  intro _ _
  refine ⟨_, rfl, ?_⟩
  intro _ _
  refine ⟨_, rfl, ?_⟩
  rw [← hinitialized, ← hclient]
  cases client with
  | none => exact guards_libCleanup initialized
  | some b =>
    rw [← hlooping b rfl]
    cases hloop : b.looping with
    | true =>
      intro _ _
      refine ⟨⟨initialized, some b⟩, if_pos hloop, ?_⟩
      intro _ _
      refine ⟨⟨initialized, some { b with looping := false }⟩, if_pos hloop, ?_⟩
      intro _ _
      exact ⟨_, rfl, guards_libCleanup initialized⟩
    | false =>
      intro _ _
      refine ⟨⟨initialized, none⟩, if_neg (Bool.eq_false_iff.mp hloop), ?_⟩
      exact guards_libCleanup initialized

/-! ### What was accepted before -/

/-- What the client is set to has been accepted. -/
structure BrokerClient.Recorded (h : List (Event mosquittoSignature)) (b : BrokerClient) : Prop where
  credentials : ∀ username password, b.credentials = some (username, password) →
    ⟨.usernamePwSet username password, none⟩ ∈ h
  tls : ∀ caFile certificateFile privateKeyFile, b.tls = some (caFile, certificateFile, privateKeyFile) →
    ⟨.tlsSet caFile certificateFile privateKeyFile, none⟩ ∈ h
  insecure : ∀ value, b.insecure = some value → ⟨.tlsInsecureSet value, none⟩ ∈ h

def Mosquitto.Recorded (h : List (Event mosquittoSignature)) (m : Mosquitto) : Prop :=
  ∀ b, m.client = some b → b.Recorded h

lemma BrokerClient.Recorded.append {h : List (Event mosquittoSignature)} {b : BrokerClient} (hb : b.Recorded h)
    (e : Event mosquittoSignature) : b.Recorded (h ++ [e]) where
  credentials _ _ heq := List.mem_append_left _ (hb.credentials _ _ heq)
  tls _ _ _ heq := List.mem_append_left _ (hb.tls _ _ _ heq)
  insecure _ heq := List.mem_append_left _ (hb.insecure _ heq)

lemma Mosquitto.configure_eq_some {m m' : Mosquitto} {change : BrokerClient → BrokerClient}
    (hconfigure : m.configure change = some m') : ∃ b, m.client = some b ∧ m'.client = some (change b) := by
  unfold Mosquitto.configure at hconfigure
  rw [Option.bind_eq_bind, Option.bind_eq_some_iff] at hconfigure
  obtain ⟨b, hb, hchange⟩ := hconfigure
  split_ifs at hchange
  cases hchange
  exact ⟨b, hb, rfl⟩

lemma Mosquitto.Recorded.configure {h : List (Event mosquittoSignature)} {m m' : Mosquitto}
    {change : BrokerClient → BrokerClient} (hm : m.Recorded h) (hconfigure : m.configure change = some m')
    {h' : List (Event mosquittoSignature)} (hchange : ∀ b, b.Recorded h → (change b).Recorded h') : m'.Recorded h' := by
  obtain ⟨b, hb, hafter⟩ := Mosquitto.configure_eq_some hconfigure
  intro b' hb'
  rw [hafter] at hb'
  cases hb'
  exact hchange b (hm b hb)

lemma Mosquitto.Recorded.next {h : List (Event mosquittoSignature)} {m m' : Mosquitto}
    {e : Event mosquittoSignature} (hm : m.Recorded h) (hnext : m.next options e = some m') :
    m'.Recorded (h ++ [e]) := by
  have hkeep : ∀ b : BrokerClient, b.Recorded h → b.Recorded (h ++ [e]) := fun b hb => hb.append e
  have hlast : e ∈ h ++ [e] := List.mem_append_right _ (List.mem_singleton_self e)
  unfold Mosquitto.next at hnext
  split at hnext
  case h_1 | h_16 =>
    split_ifs at hnext
    cases hnext
    exact fun b hb => hkeep b (hm b hb)
  case h_2 =>
    split_ifs at hnext
    · cases hnext
      intro b hb
      cases hb
      exact ⟨fun _ _ heq => (nomatch heq), fun _ _ _ heq => (nomatch heq), fun _ heq => (nomatch heq)⟩
    · cases hnext
      exact fun b hb => nomatch hb
  case h_3 =>
    apply hm.configure hnext
    intro b hb
    refine { hkeep b hb with credentials := ?_ }
    intro username password heq
    cases heq
    exact hlast
  case h_5 =>
    apply hm.configure hnext
    intro b hb
    refine { hkeep b hb with tls := ?_ }
    intro caFile certificateFile privateKeyFile heq
    cases heq
    exact hlast
  case h_7 =>
    apply hm.configure hnext
    intro b hb
    refine { hkeep b hb with insecure := ?_ }
    intro value heq
    cases heq
    exact hlast
  case h_4 | h_6 | h_8 | h_10 => exact hm.configure hnext hkeep
  case h_9 => exact hm.configure hnext (fun b hb => { hkeep b hb with })
  case h_11 | h_12 | h_14 =>
    rw [Option.bind_eq_bind, Option.bind_eq_some_iff] at hnext
    obtain ⟨b, hb, hnext⟩ := hnext
    split_ifs at hnext
    cases hnext
    intro b' hb'
    cases hb'
    exact { hkeep b (hm b hb) with }
  case h_13 =>
    rw [Option.bind_eq_bind, Option.bind_eq_some_iff] at hnext
    obtain ⟨b, hb, hnext⟩ := hnext
    split_ifs at hnext
    cases hnext
    exact fun b hb => hkeep b (hm b hb)
  case h_15 =>
    rw [Option.bind_eq_bind, Option.bind_eq_some_iff] at hnext
    obtain ⟨b, hb, hnext⟩ := hnext
    split_ifs at hnext
    cases hnext
    exact fun b hb => nomatch hb
  case h_17 =>
    cases hnext
    exact fun b hb => hkeep b (hm b hb)

/-- A client that connects has been set to what the configuration asks for. -/
lemma ready_of_connectAsync {m m' : Mosquitto} {host : Text} {port : Int} {keepalive : Nat} {error : Option Text}
    (hnext : m.next options ⟨.connectAsync host port keepalive, error⟩ = some m') :
    ∃ b, m.client = some b ∧ b.credentials = options.credentials ∧ b.tls = options.tls ∧
      b.insecure = options.insecure := by
  change (m.client >>= _) = _ at hnext
  rw [Option.bind_eq_bind, Option.bind_eq_some_iff] at hnext
  obtain ⟨b, hb, hnext⟩ := hnext
  split_ifs at hnext with hready
  simp only [BrokerClient.ready, Bool.and_eq_true, decide_eq_true_eq] at hready
  exact ⟨b, hb, hready.1.1.1.1, hready.1.1.1.2, hready.1.1.2⟩

end

lemma guards_mqttLife (c : Config.MqttConfig) :
    Guards (Gateway.mqttOptions c) (Gateway.mqttLife c) (fun _ m => m = {}) {} := by
  apply obeys_bind
  apply obeys_mono (guards_initializeClient c.host c.port)
  intro handles m hm
  apply obeys_bind
  apply obeys_mono (guards_destruct hm)
  intro _ m' hm'
  exact hm'

/-- Whatever mosquitto answers: when the client asks for a connection, the user name and the password of the
configuration and, where TLS is enabled, its files and its policy have been accepted, each as the C string up to its
first NUL. When the client is gone, nothing is left of what it took. -/
theorem connects_as_configured (c : Config.MqttConfig) :
    (∀ h host port keepalive error,
      Reaches (recording (Admits (Mosquitto.next (Gateway.mqttOptions c)) (fun _ _ _ => True) {}))
        (Gateway.mqttLife c) [] (h ++ [⟨.connectAsync host port keepalive, error⟩]) →
      (c.username ≠ [] →
        ⟨.usernamePwSet (cString c.username) (MqttClientOptions.cStringOrNull c.password), none⟩ ∈ h) ∧
      (c.tls.enabled = true →
        ⟨.tlsSet (cString c.tls.caFile) (MqttClientOptions.cStringOrNull c.tls.certificateFile)
          (MqttClientOptions.cStringOrNull c.tls.privateKeyFile), none⟩ ∈ h ∧
        ⟨.tlsInsecureSet c.tls.insecure, none⟩ ∈ h)) ∧
    ∀ h handles, Exec (recording (Admits (Mosquitto.next (Gateway.mqttOptions c)) (fun _ _ _ => True) {}))
        (Gateway.mqttLife c) [] handles h →
      Protocol.after (Mosquitto.next (Gateway.mqttOptions c)) {} h = some {} := by
  constructor
  · intro h host port keepalive error hreach
    obtain ⟨m', hafter⟩ := obeys_reaches (guards_mqttLife c) rfl hreach
    obtain ⟨m, hbefore, hnext⟩ := Protocol.exists_after hafter
    have hrecorded : m.Recorded h :=
      Protocol.after_invariant (fun _ _ _ _ hm hnext => hm.next hnext) (fun _ hb => nomatch hb) hbefore
    obtain ⟨b, hb, hcredentials, htls, hinsecure⟩ := ready_of_connectAsync hnext
    constructor
    · intro husername
      exact (hrecorded b hb).credentials _ _ (hcredentials.trans (if_neg husername))
    · intro henabled
      exact ⟨(hrecorded b hb).tls _ _ _ (htls.trans (if_pos henabled)),
        (hrecorded b hb).insecure _ (hinsecure.trans (if_pos henabled))⟩
  · intro h handles hexec
    obtain ⟨m, hafter, hm⟩ := obeys_exec (guards_mqttLife c) rfl hexec
    rw [hafter, hm]

end EdgeGateway
