import EdgeGateway.Model.MqttClient
import EdgeGateway.Proofs.SqliteRows

/-!
# What a successful publish means

Any number of threads publish through the reliable publisher while the network thread runs the callbacks.
The set of acknowledged ids is shared, and late acknowledgements end up in it as well. Mosquitto is taken to
acknowledge a message at most once and to give no message an id that an earlier one still waits for. It gets
the topic as a C string, so it takes the message that was passed only if the topic has no NUL.
-/

namespace EdgeGateway
open CallTree

/-- What happens, in terms of the messages in the order in which mosquitto took them. A call of `publish`
that has handed over no message has none. -/
inductive MqttEvent where
  | called (message : CachedMessage)
  | accepted (message : CachedMessage) (number : Nat)
  | puback (number : Nat)
  | onPublish (number : Nat)
  | waitEnded (number : Option Nat)
  | returned (message : CachedMessage) (number : Option Nat) (result : Bool)

structure MqttWorld (ι : Type) where
  client : MqttClient := {}
  publisherLock : Option ι := none
  acknowledgmentLock : Option ι := none
  /-- The messages that mosquitto has taken, with their ids. -/
  messages : List (CachedMessage × Int) := []
  /-- The message that the call in progress has handed over. -/
  handed : Option Nat := none
  trace : List MqttEvent := []

section

variable {ι : Type}

namespace MqttWorld

def note (w : MqttWorld ι) (e : MqttEvent) : MqttWorld ι :=
  { w with trace := w.trace ++ [e] }

def take (w : MqttWorld ι) (message : CachedMessage) (messageId : Int) : MqttWorld ι :=
  { w with
    messages := w.messages ++ [(message, messageId)]
    trace := w.trace ++ [.accepted message w.messages.length] }

/-- No message with this id still waits for its `on_publish`. -/
def IdFree (w : MqttWorld ι) (messageId : Int) : Prop :=
  ∀ n m, w.messages[n]? = some (m, messageId) → .onPublish n ∈ w.trace

end MqttWorld

/-- The calls of thread `i`. A failed `mosquitto_publish` may have queued the message all the same. -/
def mqttEnv (i : ι) : Env mqttSignature (MqttWorld ι) := fun w o =>
  match o with
  | .lockPublisher => fun _ w' => w.publisherLock = none ∧ w' = { w with publisherLock := some i }
  | .unlockPublisher => fun _ w' => w' = { w with publisherLock := none }
  | .called message => fun _ w' => w' = { w with handed := none }.note (.called message)
  | .returned message result => fun _ w' => w' = w.note (.returned message w.handed result)
  | .loadConnected => fun (connected : Bool) w' => connected = w.client.connected ∧ w' = w
  | .lockAcknowledgments => fun _ w' =>
      w.acknowledgmentLock = none ∧ w' = { w with acknowledgmentLock := some i }
  | .unlockAcknowledgments => fun _ w' => w' = { w with acknowledgmentLock := none }
  | .clearAcknowledged => fun _ w' => w' = { w with client := { w.client with acknowledgedMessageIds := ∅ } }
  | .mosquittoPublish topic payload => fun (answer : Except Text Int) w' =>
      match answer with
      | .error _ => w' = w ∨ ∃ messageId, w.IdFree messageId ∧ w' = w.take ⟨topic, payload⟩ messageId
      | .ok messageId => w.IdFree messageId ∧
          w' = { w.take ⟨topic, payload⟩ messageId with handed := some w.messages.length }
  | .beginWait messageId => fun (ready : Bool) w' =>
      ready = (!w.client.connected || messageId ∈ w.client.acknowledgedMessageIds) ∧
      w' = if ready then w.note (.waitEnded w.handed) else { w with acknowledgmentLock := none }
  | .endWait _ => fun _ w' => w.acknowledgmentLock = none ∧
      w' = { w with acknowledgmentLock := some i }.note (.waitEnded w.handed)
  | .findAcknowledged messageId => fun (found : Bool) w' =>
      found = (messageId ∈ w.client.acknowledgedMessageIds : Bool) ∧ w' = w
  | .eraseAcknowledged messageId => fun _ w' =>
      w' = { w with client :=
        { w.client with acknowledgedMessageIds := w.client.acknowledgedMessageIds.erase messageId } }
  | .print _ => fun _ w' => w' = w
  | .publisher _ => fun _ w' => w' = w

/-- What the network thread does: the callbacks, and the arrival of a `PUBACK`. -/
inductive NetworkStep : MqttWorld ι → MqttWorld ι → Prop where
  | onConnect {w : MqttWorld ι} (resultCode : Int) : NetworkStep w { w with client := w.client.onConnect resultCode }
  | onDisconnect {w : MqttWorld ι} : NetworkStep w { w with client := w.client.onDisconnect }
  | puback {w : MqttWorld ι} {n : Nat} : n < w.messages.length → .puback n ∉ w.trace →
      NetworkStep w (w.note (.puback n))
  | onPublish {w : MqttWorld ι} {n : Nat} {message : CachedMessage} {messageId : Int} :
      w.acknowledgmentLock = none → w.messages[n]? = some (message, messageId) → .puback n ∈ w.trace →
      .onPublish n ∉ w.trace →
      NetworkStep w ({ w with client := w.client.onPublish messageId }.note (.onPublish n))

/-- The operations that a thread can begin. -/
inductive Publishes (client : Bool) (p : ReliablePublisher) : ι → Unit → MqttWorld ι → Prog mqttSignature Unit → Prop
  where
  | publish (i : ι) (w : MqttWorld ι) (message : CachedMessage) :
      Publishes client p i () w (MqttClient.locked client (p.publish message))
  | flushCache (i : ι) (w : MqttWorld ι) : Publishes client p i () w (MqttClient.locked client p.flushCache)

/-- How a result is explained by what happened before. The message was handed over during the call, and the
result says whether its `on_publish` ran before the wait was over. -/
def ReturnExplained (trace : List MqttEvent) (message : CachedMessage) (number : Option Nat) (result : Bool) : Prop :=
  match number with
  | none => result = false
  | some n => ∃ earlier before after,
      trace = earlier ++ .called message :: before ++ .waitEnded (some n) :: after ∧
      .accepted ⟨cString message.topic, message.payload⟩ n ∈ before ∧
      (result = true ↔ .onPublish n ∈ before) ∧ (result = true → .puback n ∈ before)

/-- Every result is explained. -/
def Truthful (trace : List MqttEvent) : Prop :=
  ∀ before after message number result, trace = before ++ .returned message number result :: after →
    ReturnExplained before message number result

/-- How a result ought to be explained: `true` says that the very message that was passed is acknowledged. -/
def ReturnMeant (trace : List MqttEvent) (message : CachedMessage) (number : Option Nat) (result : Bool) : Prop :=
  match number with
  | none => result = false
  | some n => ∃ earlier before after sent,
      trace = earlier ++ .called message :: before ++ .waitEnded (some n) :: after ∧ .accepted sent n ∈ before ∧
      (result = true ↔ .onPublish n ∈ before) ∧ (result = true → .puback n ∈ before ∧ sent = message)

/-- Every result means what it says. -/
def Meant (trace : List MqttEvent) : Prop :=
  ∀ before after message number result, trace = before ++ .returned message number result :: after →
    ReturnMeant before message number result

/-- No call of `publish` passes a topic with a NUL. -/
def PlainTopics (trace : List MqttEvent) : Prop :=
  ∀ message, .called message ∈ trace → 0 ∉ message.topic

/-! ### Events -/

/-- Only mosquitto's messages are acknowledged, and `on_publish` runs after the acknowledgement. -/
structure WellFormed (w : MqttWorld ι) : Prop where
  pubacks : ∀ n, .puback n ∈ w.trace → n < w.messages.length
  onPublishes : ∀ n, .onPublish n ∈ w.trace → .puback n ∈ w.trace

lemma ReturnExplained.later {trace : List MqttEvent} {message : CachedMessage} {number : Option Nat} {result : Bool}
    (h : ReturnExplained trace message number result) (e : MqttEvent) :
    ReturnExplained (trace ++ [e]) message number result := by
  cases number with
  | none => exact h
  | some n =>
    obtain ⟨earlier, before, after, rfl, hrest⟩ := h
    refine ⟨earlier, before, after ++ [e], ?_, hrest⟩
    simp

lemma Truthful.append {trace : List MqttEvent} (h : Truthful trace) {e : MqttEvent}
    (he : ∀ message number result, e = .returned message number result →
      ReturnExplained trace message number result) : Truthful (trace ++ [e]) := by
  have hall : Justified (fun before e => ∀ message number result, e = .returned message number result →
      ReturnExplained before message number result) trace := by
    rintro before _ after htrace message number result rfl
    exact h before after message number result htrace
  intro before after message number result htrace
  exact hall.append he before _ after htrace message number result rfl

/-! ### Rely and guarantee -/

/-- While thread `i` holds the mutex of the publisher, only the network thread does anything. -/
def mqttRely (i : ι) (w w' : MqttWorld ι) : Prop :=
  (WellFormed w → WellFormed w') ∧ (w.publisherLock = some i → NetworkStep w w')

/-- A thread does nothing while another one holds the mutex of the publisher. -/
structure MqttGuar (i : ι) (w w' : MqttWorld ι) : Prop where
  lock : w.publisherLock = none ∨ w.publisherLock = some i
  wellFormed : WellFormed w → WellFormed w'
  truthful : Truthful w.trace → Truthful w'.trace

lemma NetworkStep.wellFormed {w w' : MqttWorld ι} (hstep : NetworkStep w w') (h : WellFormed w) : WellFormed w' := by
  cases hstep with
  | onConnect => exact ⟨h.pubacks, h.onPublishes⟩
  | onDisconnect => exact ⟨h.pubacks, h.onPublishes⟩
  | @puback n hn _ =>
    constructor
    · intro k hk
      rcases List.mem_append.mp hk with hk | hk
      · exact h.pubacks k hk
      · rw [List.mem_singleton, MqttEvent.puback.injEq] at hk
        rw [hk]
        exact hn
    · intro k hk
      rcases List.mem_append.mp hk with hk | hk
      · exact List.mem_append_left _ (h.onPublishes k hk)
      · simp at hk
  | @onPublish n message messageId _ _ hpuback _ =>
    constructor
    · intro k hk
      rcases List.mem_append.mp hk with hk | hk
      · exact h.pubacks k hk
      · simp at hk
    · intro k hk
      apply List.mem_append_left
      rcases List.mem_append.mp hk with hk | hk
      · exact h.onPublishes k hk
      · rw [List.mem_singleton, MqttEvent.onPublish.injEq] at hk
        rw [hk]
        exact hpuback

lemma NetworkStep.truthful {w w' : MqttWorld ι} (hstep : NetworkStep w w') (h : Truthful w.trace) :
    Truthful w'.trace := by
  cases hstep with
  | onConnect => exact h
  | onDisconnect => exact h
  | puback => exact h.append nofun
  | onPublish => exact h.append nofun

/-- An event of a thread: it is neither an acknowledgement nor a result without an explanation. -/
structure OwnEvent (trace : List MqttEvent) (e : MqttEvent) : Prop where
  puback : ∀ n, e ≠ .puback n
  onPublish : ∀ n, e ≠ .onPublish n
  returned : ∀ message number result, e = .returned message number result →
    ReturnExplained trace message number result

section

variable {i : ι} {w w' : MqttWorld ι}

lemma mqttGuar_quiet (hlock : w.publisherLock = none ∨ w.publisherLock = some i)
    (hmessages : w'.messages = w.messages) (htrace : w'.trace = w.trace) : MqttGuar i w w' where
  lock := hlock
  wellFormed h := by
    constructor
    · rw [htrace, hmessages]
      exact h.pubacks
    · rw [htrace]
      exact h.onPublishes
  truthful h := by
    rw [htrace]
    exact h

lemma mqttGuar_event {e : MqttEvent} (hlock : w.publisherLock = some i)
    (hmessages : w.messages.length ≤ w'.messages.length) (htrace : w'.trace = w.trace ++ [e])
    (he : OwnEvent w.trace e) : MqttGuar i w w' where
  lock := .inr hlock
  wellFormed h := by
    constructor
    · intro n hn
      rw [htrace] at hn
      rcases List.mem_append.mp hn with hn | hn
      · exact lt_of_lt_of_le (h.pubacks n hn) hmessages
      · exact absurd (List.mem_singleton.mp hn).symm (he.puback n)
    · intro n hn
      rw [htrace] at hn ⊢
      rcases List.mem_append.mp hn with hn | hn
      · exact List.mem_append_left _ (h.onPublishes n hn)
      · exact absurd (List.mem_singleton.mp hn).symm (he.onPublish n)
  truthful h := by
    rw [htrace]
    exact h.append he.returned

/-- Something that the network thread cannot change is stable for the thread with the mutex. -/
lemma stable_of_network {P : MqttWorld ι → Prop} (hlock : ∀ w, P w → w.publisherLock = some i)
    (hstep : ∀ w w', P w → NetworkStep w w' → P w') : Stable (mqttRely i) P :=
  fun w w' hrely hw => hstep w w' hw (hrely.2 (hlock w hw))

end

/-! ### The phases of a call -/

/-- Thread `i` holds the mutex of the publisher. -/
structure Inside (i : ι) (w : MqttWorld ι) : Prop where
  lock : w.publisherLock = some i
  wellFormed : WellFormed w

/-- It has called `publish`, and no message was handed over yet. -/
structure Called (i : ι) (message : CachedMessage) (w : MqttWorld ι) : Prop extends Inside i w where
  handed : w.handed = none
  trace : ∃ earlier before, w.trace = earlier ++ .called message :: before

/-- Its message was handed over as number `n`. The id is in the set if and only if `on_publish` ran for this
message. -/
structure Sent (i : ι) (message : CachedMessage) (n : Nat) (messageId : Int) (w : MqttWorld ι) : Prop
    extends Inside i w where
  handed : w.handed = some n
  trace : ∃ earlier before, w.trace = earlier ++ .called message :: before ∧
    .accepted ⟨cString message.topic, message.payload⟩ n ∈ before ∧ .puback n ∉ earlier ∧ .onPublish n ∉ earlier
  mine : ∃ m, w.messages[n]? = some (m, messageId)
  others : ∀ k m, w.messages[k]? = some (m, messageId) → k ≠ n → .onPublish k ∈ w.trace
  found : messageId ∈ w.client.acknowledgedMessageIds ↔ .onPublish n ∈ w.trace

/-- The wait is over, and the mutex of the acknowledgements is held. -/
structure Waited (i : ι) (message : CachedMessage) (messageId : Int) (w : MqttWorld ι) : Prop extends Inside i w where
  locked : w.acknowledgmentLock = some i
  explained : ReturnExplained w.trace message w.handed (messageId ∈ w.client.acknowledgedMessageIds : Bool)

/-- The result is decided. -/
structure Decided (i : ι) (message : CachedMessage) (result : Bool) (w : MqttWorld ι) : Prop extends Inside i w where
  explained : ReturnExplained w.trace message w.handed result

section

variable {i : ι} {w w' : MqttWorld ι} {message : CachedMessage} {messageId : Int} {n : Nat} {result : Bool}

/-- What the network thread leaves alone. -/
structure NetworkFrame (w w' : MqttWorld ι) : Prop where
  publisherLock : w'.publisherLock = w.publisherLock
  acknowledgmentLock : w'.acknowledgmentLock = w.acknowledgmentLock
  messages : w'.messages = w.messages
  handed : w'.handed = w.handed
  trace : w'.trace = w.trace ∨ ∃ e, w'.trace = w.trace ++ [e]
  acknowledged : w.acknowledgmentLock ≠ none →
    w'.client.acknowledgedMessageIds = w.client.acknowledgedMessageIds

lemma NetworkStep.frame (hstep : NetworkStep w w') : NetworkFrame w w' := by
  cases hstep with
  | onConnect => exact ⟨rfl, rfl, rfl, rfl, .inl rfl, fun _ => rfl⟩
  | onDisconnect => exact ⟨rfl, rfl, rfl, rfl, .inl rfl, fun _ => rfl⟩
  | puback => exact ⟨rfl, rfl, rfl, rfl, .inr ⟨_, rfl⟩, fun _ => rfl⟩
  | onPublish hfree => exact ⟨rfl, rfl, rfl, rfl, .inr ⟨_, rfl⟩, fun hheld => absurd hfree hheld⟩

lemma NetworkFrame.explained (hframe : NetworkFrame w w')
    (h : ReturnExplained w.trace message w.handed result) : ReturnExplained w'.trace message w'.handed result := by
  rw [hframe.handed]
  rcases hframe.trace with htrace | ⟨e, htrace⟩
  · rw [htrace]
    exact h
  · rw [htrace]
    exact h.later e

lemma Inside.network (h : Inside i w) (hstep : NetworkStep w w') : Inside i w' :=
  ⟨hstep.frame.publisherLock.trans h.lock, hstep.wellFormed h.wellFormed⟩

lemma Called.network (h : Called i message w) (hstep : NetworkStep w w') : Called i message w' where
  toInside := h.toInside.network hstep
  handed := hstep.frame.handed.trans h.handed
  trace := by
    obtain ⟨earlier, before, htrace⟩ := h.trace
    rcases hstep.frame.trace with hsame | ⟨e, hlater⟩
    · exact ⟨earlier, before, hsame.trans htrace⟩
    · refine ⟨earlier, before ++ [e], ?_⟩
      rw [hlater, htrace]
      simp

lemma Waited.network (h : Waited i message messageId w) (hstep : NetworkStep w w') : Waited i message messageId w' where
  toInside := h.toInside.network hstep
  locked := hstep.frame.acknowledgmentLock.trans h.locked
  explained := by
    have hheld : w.acknowledgmentLock ≠ none := by
      rw [h.locked]
      exact nofun
    rw [hstep.frame.acknowledged hheld]
    exact hstep.frame.explained h.explained

lemma Decided.network (h : Decided i message result w) (hstep : NetworkStep w w') : Decided i message result w' :=
  ⟨h.toInside.network hstep, hstep.frame.explained h.explained⟩

/-- An acknowledgement of another message has another id: at most that of one whose `on_publish` is over. -/
lemma Sent.network (h : Sent i message n messageId w) (hstep : NetworkStep w w') : Sent i message n messageId w' where
  toInside := h.toInside.network hstep
  handed := hstep.frame.handed.trans h.handed
  trace := by
    obtain ⟨earlier, before, htrace, haccepted, hearlier⟩ := h.trace
    rcases hstep.frame.trace with hsame | ⟨e, hlater⟩
    · exact ⟨earlier, before, hsame.trans htrace, haccepted, hearlier⟩
    · refine ⟨earlier, before ++ [e], ?_, List.mem_append_left _ haccepted, hearlier⟩
      rw [hlater, htrace]
      simp
  mine := by
    rw [hstep.frame.messages]
    exact h.mine
  others := by
    intro k m hk hne
    rw [hstep.frame.messages] at hk
    have hover := h.others k m hk hne
    rcases hstep.frame.trace with hsame | ⟨e, hlater⟩
    · rw [hsame]
      exact hover
    · rw [hlater]
      exact List.mem_append_left _ hover
  found := by
    cases hstep with
    | onConnect => exact h.found
    | onDisconnect => exact h.found
    | puback =>
      change messageId ∈ w.client.acknowledgedMessageIds ↔ _ ∈ w.trace ++ _
      rw [List.mem_append, h.found]
      simp
    | @onPublish k m id _ hk _ hnew =>
      change messageId ∈ insert id w.client.acknowledgedMessageIds ↔ _ ∈ w.trace ++ _
      rw [Finset.mem_insert, List.mem_append, List.mem_singleton, MqttEvent.onPublish.injEq, h.found]
      have hsame : messageId = id ↔ n = k := by
        constructor
        · rintro rfl
          by_contra hne
          exact hnew (h.others k m hk (Ne.symm hne))
        · rintro rfl
          obtain ⟨m', hmine⟩ := h.mine
          rw [hk] at hmine
          exact (Prod.mk.inj (Option.some.inj hmine)).2.symm
      rw [hsame, or_comm]

/-- When the wait is over, the result is the one that the set shows. -/
lemma Sent.waited (h : Sent i message n messageId w) :
    ReturnExplained (w.trace ++ [.waitEnded w.handed]) message w.handed
      (messageId ∈ w.client.acknowledgedMessageIds : Bool) := by
  obtain ⟨earlier, before, htrace, haccepted, hpuback, honPublish⟩ := h.trace
  have hbefore : ∀ e, e ∉ earlier → e ≠ .called message → (e ∈ w.trace ↔ e ∈ before) := by
    intro e hnot hne
    rw [htrace, List.mem_append, List.mem_cons]
    exact ⟨fun h' => (h'.resolve_left hnot).resolve_left hne, fun h' => .inr (.inr h')⟩
  rw [h.handed]
  refine ⟨earlier, before, [], ?_, haccepted, ?_, ?_⟩
  · rw [htrace]
  · rw [decide_eq_true_iff, h.found, hbefore _ honPublish nofun]
  · intro hfound
    rw [decide_eq_true_iff, h.found] at hfound
    exact (hbefore _ hpuback nofun).mp (h.wellFormed.onPublishes n hfound)

/-! ### The program -/

lemma stable_inside : Stable (mqttRely i) (Inside i) :=
  stable_of_network (fun _ h => h.lock) (fun _ _ h hstep => h.network hstep)

lemma stable_called : Stable (mqttRely i) (Called i message) :=
  stable_of_network (fun _ h => h.lock) (fun _ _ h hstep => h.network hstep)

lemma stable_sent : Stable (mqttRely i) (fun w => ∃ n, Sent i message n messageId w) :=
  stable_of_network (fun _ ⟨_, h⟩ => h.lock) (fun _ _ ⟨n, h⟩ hstep => ⟨n, h.network hstep⟩)

lemma stable_waited : Stable (mqttRely i) (Waited i message messageId) :=
  stable_of_network (fun _ h => h.lock) (fun _ _ h hstep => h.network hstep)

lemma stable_decided : Stable (mqttRely i) (Decided i message result) :=
  stable_of_network (fun _ h => h.lock) (fun _ _ h hstep => h.network hstep)

/-- With the mutex of the acknowledgements, and the set as it was left. -/
def Locked (i : ι) (P : MqttWorld ι → Prop) (ids : Set (Finset Int)) (w : MqttWorld ι) : Prop :=
  P w ∧ w.acknowledgmentLock = some i ∧ w.client.acknowledgedMessageIds ∈ ids

lemma stable_locked {P : MqttWorld ι → Prop} (hlock : ∀ w, P w → w.publisherLock = some i)
    (hP : Stable (mqttRely i) P) (ids : Set (Finset Int)) : Stable (mqttRely i) (Locked i P ids) := by
  rintro w w' hrely ⟨hw, hheld, hids⟩
  have hframe := (hrely.2 (hlock w hw)).frame
  refine ⟨hP w w' hrely hw, hframe.acknowledgmentLock.trans hheld, ?_⟩
  rw [hframe.acknowledged (by rw [hheld]; exact nofun)]
  exact hids

abbrev mqttSecure {α : Type} (i : ι) (p : MqttClient.Call α) : (α → MqttWorld ι → Prop) → MqttWorld ι → Prop :=
  secure (mqttEnv i) (mqttRely i) (MqttGuar i) p

/-- A call that leaves the world as it is. -/
lemma secure_quiet {P : MqttWorld ι → Prop} (hP : Stable (mqttRely i) P) (hlock : ∀ w, P w → w.publisherLock = some i)
    {o : MqttOp} (hquiet : ∀ w a w', mqttEnv i w o a w' → w' = w) (hw : P w) :
    mqttSecure i (MqttClient.perform o) (fun _ => P) w := by
  apply secure_perform hP (fun _ => hP) hw
  intro w' a w'' hw' hr
  rw [hquiet w' a w'' hr]
  exact ⟨mqttGuar_quiet (.inr (hlock w' hw')) rfl rfl, hw'⟩

lemma secure_print {P : MqttWorld ι → Prop} (hP : Stable (mqttRely i) P) (hlock : ∀ w, P w → w.publisherLock = some i)
    {line : Text} (hw : P w) : mqttSecure i (MqttClient.print line) (fun _ => P) w :=
  secure_quiet hP hlock (fun _ _ _ h => h) hw

lemma secure_unlockAcknowledgments (hw : Decided i message result w) :
    mqttSecure i (MqttClient.perform .unlockAcknowledgments) (fun _ => Decided i message result) w := by
  apply secure_perform stable_decided (fun _ => stable_decided) hw
  rintro w' a w'' hw' rfl
  refine ⟨mqttGuar_quiet (.inr hw'.lock) rfl rfl, ?_⟩
  exact ⟨⟨hw'.lock, ⟨hw'.wellFormed.pubacks, hw'.wellFormed.onPublishes⟩⟩, hw'.explained⟩

lemma secure_waitFor (hw : Locked i (fun w => ∃ n, Sent i message n messageId w) Set.univ w) :
    mqttSecure i (MqttClient.waitFor messageId) (fun _ => Waited i message messageId) w := by
  have hsent : Stable (mqttRely i) (Locked i (fun w => ∃ n, Sent i message n messageId w) Set.univ) :=
    stable_locked (fun _ ⟨_, h⟩ => h.lock) stable_sent _
  have hover : ∀ {w' : MqttWorld ι} {n : Nat}, Sent i message n messageId w' →
      ∀ w'' : MqttWorld ι, w''.trace = w'.trace ++ [.waitEnded w'.handed] → w''.handed = w'.handed →
      w''.client = w'.client → w''.publisherLock = w'.publisherLock → w''.messages = w'.messages →
      w''.acknowledgmentLock = some i → MqttGuar i w' w'' ∧ Waited i message messageId w'' := by
    intro w' n h w'' htrace hhanded hclient hlock hmessages hheld
    have hguar : MqttGuar i w' w'' := mqttGuar_event h.lock (by rw [hmessages]) htrace ⟨nofun, nofun, nofun⟩
    refine ⟨hguar, ⟨hlock.trans h.lock, hguar.wellFormed h.wellFormed⟩, hheld, ?_⟩
    rw [htrace, hhanded, hclient]
    exact h.waited
  have hbegin : mqttSecure i (MqttClient.perform (.beginWait messageId)) (fun (ready : Bool) w =>
      (ready = true → Waited i message messageId w) ∧ (ready = false → ∃ n, Sent i message n messageId w)) w := by
    apply secure_perform hsent _ hw
    · rintro w' ready w'' ⟨⟨n, h⟩, hheld, -⟩ ⟨-, hw''⟩
      cases ready with
      | true =>
        rw [if_pos rfl] at hw''
        subst hw''
        obtain ⟨hguar, hwaited⟩ := hover h (w'.note _) rfl rfl rfl rfl rfl hheld
        exact ⟨hguar, fun _ => hwaited, nofun⟩
      | false =>
        rw [if_neg Bool.false_ne_true] at hw''
        subst hw''
        refine ⟨mqttGuar_quiet (.inr h.lock) rfl rfl, nofun, fun _ => ⟨n, ?_⟩⟩
        exact ⟨⟨h.lock, ⟨h.wellFormed.pubacks, h.wellFormed.onPublishes⟩⟩, h.handed, h.trace, h.mine, h.others,
          h.found⟩
    · rintro ready w' w'' hrely ⟨hwaited, hsent'⟩
      exact ⟨fun hready => stable_waited w' w'' hrely (hwaited hready),
        fun hready => stable_sent w' w'' hrely (hsent' hready)⟩
  apply secure_bind
  apply secure_mono hbegin
  rintro ready w₁ ⟨hwaited, hsent'⟩
  cases ready with
  | true => exact secure_ret stable_waited (hwaited rfl)
  | false =>
    apply secure_perform stable_sent (fun _ => stable_waited) (hsent' rfl)
    rintro w' a w'' ⟨n, h⟩ ⟨-, rfl⟩
    exact hover h _ rfl rfl rfl rfl rfl rfl

lemma secure_evaluate (hw : Waited i message messageId w) :
    mqttSecure i (MqttClient.evaluate message.topic messageId) (fun result => Decided i message result) w := by
  have hfind : mqttSecure i (MqttClient.perform (.findAcknowledged messageId))
      (fun (found : Bool) w => Decided i message found w) w := by
    apply secure_perform stable_waited (fun _ => stable_decided) hw
    rintro w' found w'' h ⟨hfound, rfl⟩
    refine ⟨mqttGuar_quiet (.inr h.lock) rfl rfl, h.toInside, ?_⟩
    rw [hfound]
    exact h.explained
  apply secure_bind
  apply secure_mono hfind
  intro found w₁ hdecided
  cases found with
  | true =>
    rw [if_pos rfl]
    apply secure_bind
    apply secure_mono (secure_perform stable_decided (fun _ => stable_decided) hdecided ?_)
    · intro _ w₂ hdecided
      apply secure_bind
      apply secure_mono (secure_print stable_decided (fun _ h => h.lock) hdecided)
      intro _ w₃ hdecided
      apply secure_bind
      apply secure_mono (secure_unlockAcknowledgments hdecided)
      exact fun _ _ h => secure_ret stable_decided h
    · rintro w' a w'' h rfl
      refine ⟨mqttGuar_quiet (.inr h.lock) rfl rfl, ?_⟩
      exact ⟨⟨h.lock, ⟨h.wellFormed.pubacks, h.wellFormed.onPublishes⟩⟩, h.explained⟩
  | false =>
    rw [if_neg Bool.false_ne_true]
    apply secure_bind
    apply secure_mono (secure_print stable_decided (fun _ h => h.lock) hdecided)
    intro _ w₂ hdecided
    apply secure_bind
    apply secure_mono (secure_unlockAcknowledgments hdecided)
    exact fun _ _ h => secure_ret stable_decided h

/-- A call that hands over no message returns `false`. -/
lemma Called.decided (h : Called i message w) : Decided i message false w := by
  refine ⟨h.toInside, ?_⟩
  rw [h.handed]
  rfl

/-- A message handed over while the set is empty. No earlier message with its id is still waited for. -/
lemma Called.take (h : Called i message w) (hempty : w.client.acknowledgedMessageIds = ∅)
    (hfree : w.IdFree messageId)
    (hwellFormed : WellFormed (w.take ⟨cString message.topic, message.payload⟩ messageId)) :
    Sent i message w.messages.length messageId
      { w.take ⟨cString message.topic, message.payload⟩ messageId with handed := some w.messages.length } where
  lock := h.lock
  wellFormed := ⟨hwellFormed.pubacks, hwellFormed.onPublishes⟩
  handed := rfl
  trace := by
    obtain ⟨earlier, before, htrace⟩ := h.trace
    have hnew : .puback w.messages.length ∉ earlier := by
      intro hpuback
      have hold := h.wellFormed.pubacks _ (by rw [htrace]; exact List.mem_append_left _ hpuback)
      omega
    refine ⟨earlier, before ++ [.accepted ⟨cString message.topic, message.payload⟩ w.messages.length], ?_, by simp,
      hnew, ?_⟩
    · change w.trace ++ _ = _
      rw [htrace]
      simp
    · intro honPublish
      have hpuback := h.wellFormed.onPublishes _ (by rw [htrace]; exact List.mem_append_left _ honPublish)
      have hold := h.wellFormed.pubacks _ hpuback
      omega
  mine := ⟨_, List.getElem?_concat_length⟩
  others := by
    intro k m hk hne
    apply List.mem_append_left
    have hlt := (List.getElem?_eq_some_iff.mp hk).1
    change k < (w.messages ++ [_]).length at hlt
    rw [List.length_append, List.length_singleton] at hlt
    change (w.messages ++ [_])[k]? = _ at hk
    rw [List.getElem?_append_left (by omega)] at hk
    exact hfree k m hk
  found := by
    change messageId ∈ w.client.acknowledgedMessageIds ↔ .onPublish w.messages.length ∈ w.trace ++ [_]
    rw [hempty, List.mem_append]
    have hnever : .onPublish w.messages.length ∉ w.trace := by
      intro honPublish
      have hold := h.wellFormed.pubacks _ (h.wellFormed.onPublishes _ honPublish)
      omega
    simp [hnever]

lemma stable_lockedCalled (ids : Set (Finset Int)) : Stable (mqttRely i) (Locked i (Called i message) ids) :=
  stable_locked (fun _ h => h.lock) stable_called ids

/-- Mosquitto takes the message, or refuses it and may have queued it all the same. -/
lemma secure_mosquittoPublish (hw : Locked i (Called i message) {∅} w) :
    mqttSecure i (MqttClient.perform (.mosquittoPublish (cString message.topic) message.payload))
      (fun (answer : Except Text Int) w => match answer with
        | .error _ => Called i message w
        | .ok messageId => Locked i (fun w => ∃ n, Sent i message n messageId w) Set.univ w) w := by
  apply secure_perform (stable_lockedCalled _) _ hw
  · rintro w' answer w'' ⟨h, hheld, hempty⟩ hr
    have htaken : ∀ messageId, MqttGuar i w' (w'.take ⟨cString message.topic, message.payload⟩ messageId) := by
      intro messageId
      have hown : OwnEvent w'.trace (.accepted ⟨cString message.topic, message.payload⟩ w'.messages.length) :=
        ⟨nofun, nofun, nofun⟩
      exact mqttGuar_event h.lock (by simp [MqttWorld.take]) rfl hown
    match answer with
    | .error _ =>
      rcases hr with rfl | ⟨messageId, -, rfl⟩
      · exact ⟨mqttGuar_quiet (.inr h.lock) rfl rfl, h⟩
      · refine ⟨htaken messageId, ⟨h.lock, (htaken messageId).wellFormed h.wellFormed⟩, h.handed, ?_⟩
        obtain ⟨earlier, before, htrace⟩ := h.trace
        refine ⟨earlier, before ++ [.accepted ⟨cString message.topic, message.payload⟩ w'.messages.length], ?_⟩
        change w'.trace ++ _ = _
        rw [htrace]
        simp
    | .ok messageId =>
      obtain ⟨hfree, rfl⟩ := hr
      have hsent := h.take hempty hfree ((htaken messageId).wellFormed h.wellFormed)
      have hguar := htaken messageId
      exact ⟨⟨hguar.lock, fun _ => hsent.wellFormed, hguar.truthful⟩, ⟨_, hsent⟩, hheld, Set.mem_univ _⟩
  · intro answer
    match answer with
    | .error _ => exact stable_called
    | .ok messageId => exact stable_locked (fun _ ⟨_, h⟩ => h.lock) stable_sent _

lemma secure_exchange (hw : Called i message w) :
    mqttSecure i (MqttClient.exchange message.topic message.payload) (fun result => Decided i message result) w := by
  apply secure_bind
  apply secure_mono (secure_perform (Q := fun _ => Locked i (Called i message) Set.univ) stable_called
    (fun _ => stable_lockedCalled _) hw ?_)
  · intro _ w₁ hw₁
    apply secure_bind
    apply secure_mono (secure_perform (Q := fun _ => Locked i (Called i message) {∅}) (stable_lockedCalled _)
      (fun _ => stable_lockedCalled _) hw₁ ?_)
    · intro _ w₂ hw₂
      apply secure_bind
      apply secure_mono (secure_mosquittoPublish hw₂)
      intro answer w₃ hw₃
      match answer with
      | .error error =>
        apply secure_bind
        apply secure_mono (secure_print stable_called (fun _ h => h.lock) hw₃)
        intro _ w₄ hw₄
        apply secure_bind
        apply secure_mono (secure_unlockAcknowledgments hw₄.decided)
        exact fun _ _ h => secure_ret stable_decided h
      | .ok messageId =>
        apply secure_bind
        apply secure_mono (secure_waitFor hw₃)
        exact fun _ _ h => secure_evaluate h
    · rintro w' a w'' ⟨h, hheld, -⟩ rfl
      refine ⟨mqttGuar_quiet (.inr h.lock) rfl rfl, ?_, hheld, rfl⟩
      exact ⟨⟨h.lock, ⟨h.wellFormed.pubacks, h.wellFormed.onPublishes⟩⟩, h.handed, h.trace⟩
  · rintro w' a w'' h ⟨-, rfl⟩
    refine ⟨mqttGuar_quiet (.inr h.lock) rfl rfl, ?_, rfl, Set.mem_univ _⟩
    exact ⟨⟨h.lock, ⟨h.wellFormed.pubacks, h.wellFormed.onPublishes⟩⟩, h.handed, h.trace⟩

lemma secure_publish (client : Bool) (hw : Called i message w) :
    mqttSecure i (MqttClient.publish client message.topic message.payload)
      (fun result => Decided i message result) w := by
  have hrefuse : ∀ line w, Called i message w → mqttSecure i (do MqttClient.print line; return false)
      (fun result => Decided i message result) w := by
    intro line w hw
    apply secure_bind
    apply secure_mono (secure_print stable_called (fun _ h => h.lock) hw)
    exact fun _ _ h => secure_ret stable_decided h.decided
  unfold MqttClient.publish
  apply secure_bind
  apply secure_mono (secure_quiet (o := .loadConnected) stable_called (fun _ h => h.lock) (fun _ _ _ h => h.2) hw)
  intro connected w₁ hw₁
  split
  · split
    · exact hrefuse _ _ hw₁
    · exact secure_exchange hw₁
  · exact hrefuse _ _ hw₁

/-- The publisher's own calls leave the world alone, and each call of `publish` is marked. -/
lemma secure_serve (client : Bool) (o : PublisherOp) (hw : Inside i w) :
    mqttSecure i (MqttClient.serve client o) (fun _ => Inside i) w := by
  unfold MqttClient.serve
  split
  · rename_i site message
    apply secure_bind
    apply secure_mono (secure_perform (Q := fun _ => Called i message) stable_inside (fun _ => stable_called) hw ?_)
    · intro _ w₁ hw₁
      apply secure_bind
      apply secure_mono (secure_publish client hw₁)
      intro result w₂ hw₂
      apply secure_bind
      apply secure_mono (secure_perform (Q := fun _ => Inside i) stable_decided (fun _ => stable_inside) hw₂ ?_)
      · exact fun _ _ h => secure_ret stable_inside h
      · rintro w' a w'' h rfl
        have hguar : MqttGuar i w' (w'.note (.returned message w'.handed result)) := by
          have hown : OwnEvent w'.trace (.returned message w'.handed result) := by
            refine ⟨nofun, nofun, ?_⟩
            rintro _ _ _ ⟨⟩
            exact h.explained
          exact mqttGuar_event h.lock (le_refl _) rfl hown
        exact ⟨hguar, h.lock, hguar.wellFormed h.wellFormed⟩
    · rintro w' a w'' h rfl
      have hguar : MqttGuar i w' ({ w' with handed := none }.note (.called message)) :=
        mqttGuar_event h.lock (le_refl _) rfl ⟨nofun, nofun, nofun⟩
      exact ⟨hguar, ⟨h.lock, hguar.wellFormed h.wellFormed⟩, rfl, w'.trace, [], rfl⟩
  · exact secure_quiet stable_inside (fun _ h => h.lock) (fun _ _ _ h => h) hw

lemma secure_locked {α : Type} (client : Bool) (p : ReliablePublisher.Call α) (hw : WellFormed w) :
    mqttSecure i (MqttClient.locked client p) (fun _ => WellFormed) w := by
  have hstable : Stable (mqttRely i) (WellFormed (ι := ι)) := fun _ _ hrely => hrely.1
  unfold MqttClient.locked
  apply secure_bind
  apply secure_mono (secure_perform (Q := fun _ => Inside i) hstable (fun _ => stable_inside) hw ?_)
  · intro _ w₁ hw₁
    apply secure_bind
    apply secure_mono (secure_interpret stable_inside (fun o w hw => secure_serve client o hw) p hw₁)
    intro _ w₂ hw₂
    apply secure_perform stable_inside (fun _ => hstable) hw₂
    rintro w' a w'' h rfl
    exact ⟨mqttGuar_quiet (.inr h.lock) rfl rfl, ⟨h.wellFormed.pubacks, h.wellFormed.onPublishes⟩⟩
  · rintro w' a w'' h ⟨hfree, rfl⟩
    exact ⟨mqttGuar_quiet (.inl hfree) rfl rfl, rfl, ⟨h.pubacks, h.onPublishes⟩⟩

end

/-- Threads that publish, each between two operations, on a client as constructed. -/
def mqttStart (ι : Type) : Threads ι mqttSignature Unit (MqttWorld ι) :=
  ⟨fun _ => .between (), {}⟩

end

/-- In every interleaving, each call of `publish` returns `true` if and only if the `on_publish` of the message
that mosquitto took from it ran before its wait was over. -/
lemma truthful_run {ι : Type} [DecidableEq ι] {client : Bool} {p : ReliablePublisher}
    {T : Threads ι mqttSignature Unit (MqttWorld ι)}
    (hrun : Relation.ReflTransGen (Threads.Step mqttEnv (Publishes client p) NetworkStep) (mqttStart ι) T) :
    Truthful T.world.trace := by
  have hsecured : Threads.Secured mqttEnv (Publishes client p) NetworkStep mqttRely MqttGuar
      (fun (_ : ι) _ => WellFormed) := by
    constructor
    · intro i j hne w w' hguar
      refine ⟨hguar.wellFormed, fun hheld => ?_⟩
      rcases hguar.lock with hfree | hmine
      · rw [hfree] at hheld
        cases hheld
      · rw [hmine] at hheld
        exact absurd (Option.some.inj hheld) hne
    · exact fun j w w' hstep => ⟨hstep.wellFormed, fun _ => hstep⟩
    · exact fun i _ w w' hrely => hrely.1
    · rintro i _ w _ (⟨message⟩ | _) hw
      · exact secure_locked client _ hw
      · exact secure_locked client _ hw
  apply hsecured.invariant (I := fun w => Truthful w.trace) (fun hguar => hguar.truthful)
    (fun hstep => hstep.truthful) _ _ hrun
  · exact fun _ => ⟨nofun, nofun⟩
  · rintro before after message number result htrace
    simp [mqttStart] at htrace

/-! ### The message that was passed -/

section

variable {ι : Type} {i : ι} {w w' : MqttWorld ι}

/-- The messages that were accepted are the ones that mosquitto has taken, under their numbers. -/
def Numbered (w : MqttWorld ι) : Prop :=
  ∀ message n, .accepted message n ∈ w.trace → ∃ messageId, w.messages[n]? = some (message, messageId)

lemma Numbered.note (h : Numbered w) {e : MqttEvent} (he : ∀ message n, e ≠ .accepted message n)
    (hmessages : w'.messages = w.messages) (htrace : w'.trace = w.trace ++ [e]) : Numbered w' := by
  intro message n hn
  rw [htrace] at hn
  rw [hmessages]
  rcases List.mem_append.mp hn with hn | hn
  · exact h message n hn
  · exact absurd (List.mem_singleton.mp hn).symm (he message n)

lemma Numbered.take (h : Numbered w) (sent : CachedMessage) (messageId : Int) : Numbered (w.take sent messageId) := by
  intro message n hn
  rcases List.mem_append.mp hn with hn | hn
  · obtain ⟨id, hid⟩ := h message n hn
    have hlt : n < w.messages.length := (List.getElem?_eq_some_iff.mp hid).1
    exact ⟨id, (List.getElem?_append_left hlt).trans hid⟩
  · obtain ⟨rfl, rfl⟩ := MqttEvent.accepted.inj (List.mem_singleton.mp hn)
    exact ⟨messageId, List.getElem?_concat_length⟩

lemma Numbered.call (h : Numbered w) {o : MqttOp} {a : o.Ans} (hcall : mqttEnv i w o a w') : Numbered w' := by
  cases o with
  | lockPublisher | lockAcknowledgments =>
    obtain ⟨-, rfl⟩ := hcall
    exact h
  | loadConnected | findAcknowledged =>
    obtain ⟨-, rfl⟩ := hcall
    exact h
  | called | returned =>
    obtain rfl := hcall
    exact h.note (by nofun) rfl rfl
  | endWait =>
    obtain ⟨-, rfl⟩ := hcall
    exact h.note (by nofun) rfl rfl
  | beginWait =>
    obtain ⟨-, rfl⟩ := hcall
    split
    · exact h.note (by nofun) rfl rfl
    · exact h
  | mosquittoPublish topic payload =>
    match a with
    | .error _ =>
      rcases hcall with rfl | ⟨messageId, -, rfl⟩
      · exact h
      · exact h.take _ messageId
    | .ok messageId =>
      obtain ⟨-, rfl⟩ := hcall
      exact h.take ⟨topic, payload⟩ messageId
  | unlockPublisher | unlockAcknowledgments | clearAcknowledged | eraseAcknowledged | print | publisher =>
    obtain rfl := hcall
    exact h

lemma NetworkStep.numbered (hstep : NetworkStep w w') (h : Numbered w) : Numbered w' := by
  cases hstep with
  | onConnect | onDisconnect => exact h
  | puback | onPublish => exact h.note (by nofun) rfl rfl

lemma numbered_run [DecidableEq ι] {client : Bool} {p : ReliablePublisher}
    {T : Threads ι mqttSignature Unit (MqttWorld ι)}
    (hrun : Relation.ReflTransGen (Threads.Step mqttEnv (Publishes client p) NetworkStep) (mqttStart ι) T) :
    Numbered T.world := by
  induction hrun with
  | refl => exact nofun
  | tail _ hstep ih =>
    cases hstep with
    | enter | leave => exact ih
    | perform i _ hcall => exact ih.call hcall
    | other hnetwork => exact hnetwork.numbered ih

/-- An explained result means what it says if and only if it is `false` or the topic is its own C string: a
number is given to one message only. -/
lemma ReturnExplained.meant_iff {before after : List MqttEvent} {message : CachedMessage} {number : Option Nat}
    {result : Bool} (h : ReturnExplained before message number result) (hnumbered : Numbered w)
    (htrace : w.trace = before ++ after) :
    ReturnMeant before message number result ↔ (result = true → 0 ∉ message.topic) := by
  cases number with
  | none =>
    have hfalse : result = false := h
    rw [hfalse]
    exact ⟨fun _ => nofun, fun _ => rfl⟩
  | some n =>
    obtain ⟨earlier, inside, later, hbefore, haccepted, honPublish, hpuback⟩ := h
    constructor
    · rintro ⟨earlier', inside', later', sent, hbefore', hsent, -, hmeant⟩ htrue
      have hmem : ∀ {e l₁ l₂ l₃}, before = l₁ ++ .called message :: l₂ ++ .waitEnded (some n) :: l₃ → e ∈ l₂ →
          e ∈ w.trace := by
        intro e l₁ l₂ l₃ hsplit he
        rw [htrace, hsplit]
        simp [he]
      obtain ⟨id, hid⟩ := hnumbered _ n (hmem hbefore haccepted)
      obtain ⟨id', hid'⟩ := hnumbered _ n (hmem hbefore' hsent)
      have hsame : sent = ⟨cString message.topic, message.payload⟩ := by
        rw [hid] at hid'
        exact (Prod.mk.inj (Option.some.inj hid')).1.symm
      have htopic : cString message.topic = message.topic := by
        rw [(hmeant htrue).2] at hsame
        exact (congrArg CachedMessage.topic hsame).symm
      exact (cString_eq_self_iff _).mp htopic
    · intro hplain
      refine ⟨earlier, inside, later, _, hbefore, haccepted, honPublish, fun htrue => ⟨hpuback htrue, ?_⟩⟩
      rw [(cString_eq_self_iff _).mpr (hplain htrue)]

end

/-- In every interleaving whose topics have no NUL, each call of `publish` returns `true` if and only if the
`on_publish` of the very message it was passed ran before its wait was over. And whatever the topics are, a call
means what it returns if and only if it returns `false` or its own topic has no NUL. -/
theorem published_means_acknowledged {ι : Type} [DecidableEq ι] (client : Bool) (p : ReliablePublisher)
    {T : Threads ι mqttSignature Unit (MqttWorld ι)}
    (hrun : Relation.ReflTransGen (Threads.Step mqttEnv (Publishes client p) NetworkStep) (mqttStart ι) T) :
    (PlainTopics T.world.trace → Meant T.world.trace) ∧
    ∀ before after message number result, T.world.trace = before ++ .returned message number result :: after →
      (ReturnMeant before message number result ↔ (result = true → 0 ∉ message.topic)) := by
  have hmeant : ∀ before after message number result,
      T.world.trace = before ++ .returned message number result :: after →
      ReturnExplained before message number result ∧
        (ReturnMeant before message number result ↔ (result = true → 0 ∉ message.topic)) := by
    intro before after message number result htrace
    have hexplained := truthful_run hrun before after message number result htrace
    exact ⟨hexplained, hexplained.meant_iff (numbered_run hrun) htrace⟩
  refine ⟨fun hplain before after message number result htrace => ?_,
    fun before after message number result htrace => (hmeant before after message number result htrace).2⟩
  obtain ⟨hexplained, hiff⟩ := hmeant before after message number result htrace
  cases number with
  | none => exact hexplained
  | some n =>
    apply hiff.mpr
    intro _
    obtain ⟨earlier, inside, later, hbefore, -⟩ := hexplained
    apply hplain
    rw [htrace, hbefore]
    simp

/-! ### One thread, step by step -/

section

variable {client : Bool} {p : ReliablePublisher} {w w' : MqttWorld Unit}
  {T : Threads Unit mqttSignature Unit (MqttWorld Unit)}

lemma update_unit {α : Type} (f : Unit → α) (v : α) : Function.update f () v = fun _ => v := by
  funext u
  exact Function.update_self ..

lemma run_call (o : MqttOp) {k : o.Ans → Prog mqttSignature Unit} (a : o.Ans) (hcall : mqttEnv () w o a w')
    (hrest : Relation.ReflTransGen (Threads.Step mqttEnv (Publishes client p) NetworkStep)
      ⟨fun _ => .inside (k a), w'⟩ T) :
    Relation.ReflTransGen (Threads.Step mqttEnv (Publishes client p) NetworkStep)
      ⟨fun _ => .inside (.call (E := mqttSignature) o k), w⟩ T := by
  refine .head (.perform () rfl hcall) ?_
  rw [update_unit]
  exact hrest

lemma run_publish (message : CachedMessage)
    (hrest : Relation.ReflTransGen (Threads.Step mqttEnv (Publishes client p) NetworkStep)
      ⟨fun _ => .inside (MqttClient.locked client (p.publish message)), w⟩ T) :
    Relation.ReflTransGen (Threads.Step mqttEnv (Publishes client p) NetworkStep) ⟨fun _ => .between (), w⟩ T := by
  refine .head (.enter () rfl (.publish () _ message)) ?_
  rw [update_unit]
  exact hrest

lemma run_network (hstep : NetworkStep w w') {t : Thread mqttSignature Unit}
    (hrest : Relation.ReflTransGen (Threads.Step mqttEnv (Publishes client p) NetworkStep) ⟨fun _ => t, w'⟩ T) :
    Relation.ReflTransGen (Threads.Step mqttEnv (Publishes client p) NetworkStep) ⟨fun _ => t, w⟩ T :=
  .head (.other hstep) hrest

end

/-- A message is acknowledged, then the connection is lost, and `publish` returns `true`. -/
lemma run_acknowledged (topic : Text) :
    ∃ T, Relation.ReflTransGen (Threads.Step mqttEnv (Publishes true ⟨false⟩) NetworkStep) (mqttStart Unit) T ∧
      T.world.client.connected = false ∧
      T.world.trace = [.called ⟨topic, ascii "p"⟩, .accepted ⟨cString topic, ascii "p"⟩ 0, .puback 0, .onPublish 0,
        .waitEnded (some 0), .returned ⟨topic, ascii "p"⟩ (some 0) true] := by
  apply Exists.intro
  apply And.intro
  · apply run_network (.onConnect 0)
    apply run_publish ⟨topic, ascii "p"⟩
    apply run_call .lockPublisher ()
    · exact ⟨rfl, rfl⟩
    apply run_call (.called _) ()
    · exact rfl
    apply run_call .loadConnected true
    · exact ⟨rfl, rfl⟩
    apply run_call .lockAcknowledgments ()
    · exact ⟨rfl, rfl⟩
    apply run_call .clearAcknowledged ()
    · exact rfl
    apply run_call (.mosquittoPublish _ _) (.ok 1)
    · exact ⟨nofun, rfl⟩
    apply run_call (.beginWait _) false
    · exact ⟨rfl, rfl⟩
    apply run_network
    · exact .puback (n := 0) Nat.zero_lt_one nofun
    apply run_network
    · exact .onPublish (n := 0) rfl rfl (by simp [MqttWorld.note]) nofun
    apply run_network .onDisconnect
    apply run_call (.endWait _) ()
    · exact ⟨rfl, rfl⟩
    apply run_call (.findAcknowledged _) true
    · exact ⟨rfl, rfl⟩
    apply run_call (.eraseAcknowledged _) ()
    · exact rfl
    apply run_call (.print _) ()
    · exact rfl
    apply run_call .unlockAcknowledgments ()
    · exact rfl
    apply run_call (.returned _ _) ()
    · exact rfl
    apply run_call .unlockPublisher ()
    · exact rfl
    exact .refl
  · exact ⟨rfl, rfl⟩

theorem published_means_acknowledged_lost :
    ∃ T, Relation.ReflTransGen (Threads.Step mqttEnv (Publishes true ⟨false⟩) NetworkStep) (mqttStart Unit) T ∧
      T.world.client.connected = false ∧
      T.world.trace = [.called ⟨ascii "t", ascii "p"⟩, .accepted ⟨ascii "t", ascii "p"⟩ 0, .puback 0, .onPublish 0,
        .waitEnded (some 0), .returned ⟨ascii "t", ascii "p"⟩ (some 0) true] ∧
      Meant T.world.trace := by
  obtain ⟨T, hrun, hlost, htrace⟩ := run_acknowledged (ascii "t")
  refine ⟨T, hrun, hlost, htrace, (published_means_acknowledged true ⟨false⟩ hrun).1 ?_⟩
  rw [htrace]
  intro message hcalled
  simp only [List.mem_cons, MqttEvent.called.injEq, reduceCtorEq, List.not_mem_nil, or_false] at hcalled
  rw [hcalled]
  decide

/-- A topic of three bytes, the second one a NUL. The broker acknowledges a message on the topic of its first
byte, and `publish` returns `true`. -/
theorem other_message_acknowledged :
    ∃ T, Relation.ReflTransGen (Threads.Step mqttEnv (Publishes true ⟨false⟩) NetworkStep) (mqttStart Unit) T ∧
      T.world.trace = [.called ⟨[97, 0, 98], ascii "p"⟩, .accepted ⟨[97], ascii "p"⟩ 0, .puback 0, .onPublish 0,
        .waitEnded (some 0), .returned ⟨[97, 0, 98], ascii "p"⟩ (some 0) true] ∧
      ¬Meant T.world.trace := by
  obtain ⟨T, hrun, -, htrace⟩ := run_acknowledged [97, 0, 98]
  refine ⟨T, hrun, htrace, fun hmeant => ?_⟩
  rw [htrace] at hmeant
  obtain ⟨earlier, before, after, sent, hsplit, haccepted, -, hsent⟩ := hmeant [_, _, _, _, _] [] _ _ _ rfl
  obtain ⟨-, rfl⟩ := hsent rfl
  have hmem : .accepted ⟨[97, 0, 98], ascii "p"⟩ 0 ∈ earlier ++ .called ⟨[97, 0, 98], ascii "p"⟩ :: before ++
      MqttEvent.waitEnded (some 0) :: after := by
    simp [haccepted]
  rw [← hsplit] at hmem
  simp [cString] at hmem

end EdgeGateway
