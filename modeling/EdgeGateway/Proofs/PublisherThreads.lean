import EdgeGateway.Lib.Linearized
import EdgeGateway.Proofs.CacheMetrics
import EdgeGateway.Proofs.Delivery

/-!
# The publisher between its threads

The workers publish and the main loop flushes, and each of these calls holds the mutex of the publisher. However they
take turns, no call is lost and no accepted message is lost.
-/

namespace EdgeGateway
open CallTree

/-- The cache, and the messages that the broker has acknowledged. -/
structure PublisherWorld where
  cache : SqliteCache := {}
  acknowledged : List CachedMessage := []

def publisherEnv : Env publisherSignature PublisherWorld := fun w o =>
  match o with
  | .mqttPublish _ m => fun (acked : Bool) w' =>
      w' = if acked then { w with acknowledged := w.acknowledged ++ [m] } else w
  | .append m => fun (done : Bool) w' =>
      ∃ fault c, w.cache.append fault m.topic m.payload = (done, c) ∧ w' = { w with cache := c }
  | .loadAll => fun (messages : List CachedMessage) w' =>
      ∃ fault c, w.cache.loadAll fault = (messages, c) ∧ w' = { w with cache := c }
  | .removeFirst count => fun (done : Bool) w' =>
      ∃ fault c, w.cache.removeFirst fault count = (done, c) ∧ w' = { w with cache := c }
  | .metric _ => fun _ w' => w' = w
  | .print _ => fun _ w' => w' = w

def DeliveryState.world (w : DeliveryState) : PublisherWorld :=
  ⟨w.cache, w.acknowledged.map Prod.snd⟩

/-- The calls that threads make. The constructor is not one of them. -/
def PublisherRequest.isCall {P : CachedMessage → Prop} : PublisherRequest P → Prop
  | .construct => False
  | .publish _ _ => True
  | .flushCache => True

/-- The message of a call that did not fail. -/
def acceptedMessage {P : CachedMessage → Prop} : PublisherRequest P × Option PublishStatus → Option CachedMessage
  | (.publish m _, some status) => if status = .failed then none else some m
  | _ => none

lemma exists_of_acceptedMessage {P : CachedMessage → Prop} {call : PublisherRequest P × Option PublishStatus}
    {m : CachedMessage} (h : acceptedMessage call = some m) :
    ∃ hm status, call = (.publish m hm, some status) ∧ status ≠ .failed := by
  match call with
  | (.construct, _) | (.flushCache, _) | (.publish _ _, none) => cases h
  | (.publish m' hm, some status) =>
    by_cases hfailed : status = .failed
    · rw [acceptedMessage, if_pos hfailed] at h
      cases h
    · rw [acceptedMessage, if_neg hfailed] at h
      cases h
      exact ⟨hm, status, rfl, hfailed⟩

lemma exists_deliveryEnv (w : DeliveryState) (o : PublisherOp) (a : o.Ans) (v : PublisherWorld)
    (h : publisherEnv w.world o a v) : ∃ w', deliveryEnv w o a w' ∧ w'.world = v := by
  cases o with
  | mqttPublish site m =>
    refine ⟨_, rfl, ?_⟩
    rw [show v = _ from h]
    cases a with
    | false => rfl
    | true => simp [DeliveryState.world, DeliveryState.acknowledge]
  | append m =>
    obtain ⟨fault, c, happend, rfl⟩ := h
    exact ⟨_, ⟨fault, c, happend, rfl⟩, rfl⟩
  | loadAll =>
    obtain ⟨fault, c, hload, rfl⟩ := h
    exact ⟨_, ⟨fault, c, hload, rfl⟩, rfl⟩
  | removeFirst count =>
    obtain ⟨fault, c, hremove, rfl⟩ := h
    exact ⟨_, ⟨fault, c, hremove, rfl⟩, rfl⟩
  | metric update => exact ⟨w, rfl, (show v = _ from h).symm⟩
  | print line => exact ⟨w, rfl, (show v = _ from h).symm⟩

/-- A message is accepted when its call returns, and not before. -/
lemma deliveryEnv_accepted (w : DeliveryState) (o : PublisherOp) (a : o.Ans) (w' : DeliveryState)
    (h : deliveryEnv w o a w') : w'.accepted = w.accepted := by
  cases o with
  | mqttPublish site m =>
    rw [show w' = _ from h]
    cases a <;> rfl
  | append m =>
    obtain ⟨_, _, _, rfl⟩ := h
    rfl
  | loadAll =>
    obtain ⟨_, _, _, rfl⟩ := h
    rfl
  | removeFirst count =>
    obtain ⟨_, _, _, rfl⟩ := h
    rfl
  | metric update => rw [show w' = _ from h]
  | print line => rw [show w' = _ from h]

section

variable {P : CachedMessage → Prop} {p : ReliablePublisher} {w w₀ : DeliveryState}

lemma world_returned (q : PublisherRequest P) (r : Option PublishStatus) (w : DeliveryState) :
    (DeliveryState.returned q r w).world = w.world := by
  cases q with
  | construct => rfl
  | flushCache => rfl
  | publish m h =>
    cases r with
    | none => rfl
    | some status => rfl

lemma accepted_returned (q : PublisherRequest P) (r : Option PublishStatus) (w : DeliveryState) :
    (DeliveryState.returned q r w).accepted.map Prod.snd =
      w.accepted.map Prod.snd ++ (acceptedMessage (q, r)).toList := by
  cases q with
  | construct => simp [DeliveryState.returned, acceptedMessage]
  | flushCache => simp [DeliveryState.returned, acceptedMessage]
  | publish m h =>
    cases r with
    | none => simp [DeliveryState.returned, acceptedMessage]
    | some status =>
      by_cases hfailed : status = .failed
      · simp [DeliveryState.returned, acceptedMessage, hfailed]
      · simp [DeliveryState.returned, acceptedMessage, hfailed]

/-- Calls that are served one after the other are requests to the service. -/
lemma exists_run_of_served {calls : List (PublisherRequest P × Option PublishStatus)} {v : PublisherWorld}
    (h : Served publisherEnv p.serve w₀.world calls v) :
    ∃ w, Relation.ReflTransGen (deliveryService p P).Step (.idle w₀) (.idle w) ∧ w.world = v ∧
      w.accepted.map Prod.snd = w₀.accepted.map Prod.snd ++ calls.filterMap acceptedMessage := by
  induction h with
  | start => exact ⟨w₀, .refl, rfl, by simp⟩
  | @next calls q r v v' _ hexec ih =>
    obtain ⟨w, hrun, rfl, haccepted⟩ := ih
    obtain ⟨w', hexec', rfl⟩ := hexec.lift exists_deliveryEnv
    have hsame : w'.accepted = w.accepted := hexec'.reaches.unchanged deliveryEnv_accepted
    refine ⟨_, hrun.trans ((deliveryService p P).run_of_exec hexec'), world_returned q r w', ?_⟩
    rw [show (deliveryService p P).returned q r w' = DeliveryState.returned q r w' from rfl, accepted_returned, hsame,
      haccepted, List.append_assoc, List.filterMap_append]
    cases hmessage : acceptedMessage (q, r) <;> simp [hmessage]

/-- A message that was accepted is in what the broker has acknowledged, or in the cache. -/
lemma DeliveryState.AtLeastOnce.kept (h : w.AtLeastOnce) {m : CachedMessage} (hm : m ∈ w.accepted.map Prod.snd) :
    m ∈ w.world.acknowledged ∨ ∃ r ∈ w.world.cache.database.rows, r.message = m := by
  obtain ⟨⟨number, _⟩, haccepted, rfl⟩ := List.mem_map.mp hm
  rcases h.1 number _ haccepted with hcall | ⟨r, _, hrow | ⟨hin, hmessage⟩⟩
  · exact .inl (List.mem_map.mpr ⟨_, hcall, rfl⟩)
  · exact .inl (List.mem_map.mpr ⟨_, hrow, rfl⟩)
  · exact .inr ⟨r, hin, hmessage⟩

end

/-- Threads that call the publisher. -/
abbrev PublisherRun {ι S : Type} [DecidableEq ι] (R : Env publisherSignature S) (p : ReliablePublisher)
    (P : CachedMessage → Prop) (w : S) (T : Threads ι (lockSignature publisherSignature)
      (List (PublisherRequest P × Option PublishStatus)) (Monitor ι S)) : Prop :=
  ObjectRun R p.serve (fun _ q => q.isCall) ⟨fun _ => .between [], ⟨none, w⟩⟩ T

section

variable {ι : Type} [DecidableEq ι] {p : ReliablePublisher} {P : CachedMessage → Prop}
  {T : Threads ι (lockSignature publisherSignature) (List (PublisherRequest P × Option PublishStatus))
    (Monitor ι PublisherWorld)} {w₀ : DeliveryState}

/-- What threads do between them is a run of the service that has served their calls one at a time. -/
lemma exists_service_run (hrun : PublisherRun publisherEnv p P w₀.world T) :
    ∃ (calls : List (ι × PublisherRequest P × Option PublishStatus)) (s : (deliveryService p P).State),
      Relation.ReflTransGen (deliveryService p P).Step (.idle w₀) s ∧ s.world.world = T.world.resource ∧
      s.world.accepted.map Prod.snd =
        w₀.accepted.map Prod.snd ++ (calls.map Prod.snd).filterMap acceptedMessage ∧
      ∀ i results, T.thread i = .between results → ofThread i calls = results := by
  obtain ⟨calls, v, hlinear⟩ := exists_linearized hrun
  obtain ⟨w, hserved, rfl, haccepted⟩ := exists_run_of_served hlinear.served
  cases howner : T.world.owner with
  | none => exact ⟨calls, .idle w, hserved, (hlinear.free howner).symm, haccepted, hlinear.own⟩
  | some i =>
    obtain ⟨q, _, hreach⟩ := hlinear.inside i howner
    obtain ⟨w', hreach', hworld⟩ := hreach.lift exists_deliveryEnv
    obtain ⟨rest, hbusy⟩ := Service.exists_run_of_reaches (s := deliveryService p P) q hreach'
    refine ⟨calls, .busy q rest w', (hserved.tail (.request q w)).trans hbusy, hworld, ?_, hlinear.own⟩
    exact (congrArg _ (hreach'.unchanged deliveryEnv_accepted)).trans haccepted

end

/-- However threads call a publisher that has been started in some state of its life, and wherever they stand: they
have been served one at a time, and a message for which a thread has not been told that it failed is in the cache, or
the broker has acknowledged it. -/
theorem delivered_across_threads {ι : Type} [DecidableEq ι] (p : ReliablePublisher) {w₀ : DeliveryState}
    (hstart : Relation.ReflTransGen (deliveryService p CachedMessage.Storable).Step (.idle {}) (.idle w₀))
    {T : Threads ι (lockSignature publisherSignature)
      (List (PublisherRequest CachedMessage.Storable × Option PublishStatus)) (Monitor ι PublisherWorld)}
    (hrun : PublisherRun publisherEnv p CachedMessage.Storable w₀.world T) :
    (∃ s, Relation.ReflTransGen (deliveryService p CachedMessage.Storable).Step (.idle {}) s ∧
      s.world.world = T.world.resource ∧ s.world.AtLeastOnce) ∧
    ∀ i results m hm status, T.thread i = .between results → (.publish m hm, some status) ∈ results →
      status ≠ .failed →
      m ∈ T.world.resource.acknowledged ∨ ∃ r ∈ T.world.resource.cache.database.rows, r.message = m := by
  obtain ⟨calls, s, hservice, hworld, haccepted, hown⟩ := exists_service_run hrun
  have hall := hstart.trans hservice
  have hkept : s.world.AtLeastOnce := ((deliveryService p CachedMessage.Storable).invariant
    (fun q _ hw => always_serve p q hw) (fun _ _ hw h => hw.crash h) DeliveryState.sound_empty hall).delivered
  refine ⟨⟨s, hall, hworld, hkept⟩, ?_⟩
  intro i results m hm status hi hmem hstatus
  rw [← hown i results hi] at hmem
  rw [← hworld]
  apply hkept.kept
  obtain ⟨⟨j, call⟩, hcall, hsame⟩ := List.mem_map.mp hmem
  rw [haccepted]
  apply List.mem_append_right
  apply List.mem_filterMap.mpr
  refine ⟨_, List.mem_map.mpr ⟨_, List.mem_of_mem_filter hcall, hsame⟩, ?_⟩
  simp [acceptedMessage, hstatus]

/-- Nothing fails, and the broker answers while it is online. -/
def publisherAnswer (online : Bool) (w : PublisherWorld) : (o : PublisherOp) → Option (o.Ans × PublisherWorld)
  | .mqttPublish _ m => some (online, if online then { w with acknowledged := w.acknowledged ++ [m] } else w)
  | .append m =>
    let (done, c) := w.cache.append none m.topic m.payload
    some (done, { w with cache := c })
  | .loadAll =>
    if w.cache.ready = true ∧ w.cache.database.Ordered then
      some (w.cache.database.rows.map (fun r => ⟨cString r.topic, cString r.payload⟩), w)
    else
      none
  | .removeFirst count =>
    if w.cache.ready = true ∧ w.cache.database.Ordered ∧ count ≠ 0 ∧ count ≤ intMax then
      some (true, { w with cache :=
        { w.cache with database := { w.cache.database with rows := w.cache.database.rows.drop count } } })
    else
      none
  | .metric _ => some ((), w)
  | .print _ => some ((), w)

lemma publisherEnv_of_answer {online : Bool} (w : PublisherWorld) (o : PublisherOp) (a : o.Ans) (w' : PublisherWorld)
    (h : publisherAnswer online w o = some (a, w')) : publisherEnv w o a w' := by
  cases o with
  | mqttPublish | metric | print =>
    cases h
    exact rfl
  | append =>
    cases h
    exact ⟨none, _, rfl, rfl⟩
  | loadAll =>
    obtain ⟨⟨hready, hordered⟩, heq⟩ := Option.ite_none_right_eq_some.mp h
    cases heq
    refine ⟨none, w.cache, ?_, rfl⟩
    unfold SqliteCache.loadAll
    rw [hready, hordered.orderById]
    rfl
  | removeFirst count =>
    obtain ⟨⟨hready, hordered, hpositive, hsmall⟩, heq⟩ := Option.ite_none_right_eq_some.mp h
    cases heq
    have hrows : w.cache.database.deleteFirst count =
        { w.cache.database with rows := w.cache.database.rows.drop count } :=
      congrArg (fun rows => (⟨rows, w.cache.database.sequence⟩ : Database)) (hordered.rows_deleteFirst count)
    refine ⟨none, _, ?_, rfl⟩
    rw [← hrows]
    simp [SqliteCache.removeFirst, hready, hpositive, Nat.not_lt.mpr hsmall]

def sensorMessage (number : Nat) : CachedMessage :=
  ⟨ascii "sensor", decimal number⟩

/-- The process has deferred a reading and has been started again. -/
def restarted : DeliveryState where
  cache := { database := ⟨[⟨1, ascii "sensor", decimal 7⟩], 1⟩ }
  number := 2
  stored := [(0, ⟨1, ascii "sensor", decimal 7⟩)]
  accepted := [(0, sensorMessage 7)]

lemma run_restarted :
    Relation.ReflTransGen (deliveryService ⟨false⟩ CachedMessage.Storable).Step (.idle {}) (.idle restarted) := by
  have hm : (sensorMessage 7).Storable := by decide
  have hrun := run_publish_deferred CachedMessage.Storable hm
  rw [bindText_of_storable hm.1, bindText_of_storable hm.2] at hrun
  exact hrun.tail (.crash ⟨true, [], rfl⟩)

/-- One thread publishes two readings, another one flushes the cache. -/
def readingCalls (i : Bool) (served : Nat) : Option (PublisherRequest CachedMessage.Storable) :=
  match i, served with
  | true, 0 => some (.publish (sensorMessage 8) (by decide))
  | true, 1 => some (.publish (sensorMessage 9) (by decide))
  | false, 0 => some .flushCache
  | _, _ => none

/-- The calls of both threads, as far as the schedule goes. -/
def followReadings {S : Type} (answer : Bool → S → (o : PublisherOp) → Option (o.Ans × S)) (p : ReliablePublisher)
    (schedule : List Bool) (w : S) : Option (Threads Bool (lockSignature publisherSignature)
      (List (PublisherRequest CachedMessage.Storable × Option PublishStatus)) (Monitor Bool S)) :=
  Threads.follow (fun i => lockAnswer (answer i) i)
    (fun i results _ => (readingCalls i results.length).map (fun q =>
      locked (p.serve q) >>= fun r => .ret (results ++ [(q, r)])))
    schedule ⟨fun _ => .between [], ⟨none, w⟩⟩

lemma publisherRun_of_follow {S : Type} {R : Env publisherSignature S}
    {answer : Bool → S → (o : PublisherOp) → Option (o.Ans × S)}
    (h : ∀ i w o a w', answer i w o = some (a, w') → R w o a w') {p : ReliablePublisher} {schedule : List Bool} {w : S}
    {T : Threads Bool (lockSignature publisherSignature)
      (List (PublisherRequest CachedMessage.Storable × Option PublishStatus)) (Monitor Bool S)}
    (hfollow : followReadings answer p schedule w = some T) : PublisherRun R p CachedMessage.Storable w T := by
  apply Threads.run_of_follow _ _ hfollow
  · intro i w o a w' hanswer
    exact lockEnv_of_answer (h i) hanswer
  · intro i results w q hq
    obtain ⟨q, hcall, rfl⟩ := Option.map_eq_some_iff.mp hq
    refine ⟨q, ?_, rfl⟩
    unfold readingCalls at hcall
    split at hcall
    all_goals cases hcall
    all_goals trivial

/-- Both threads have begun a call before the one in front of it returns. -/
def readingSchedule : List Bool :=
  [true, true, true, false, true, true, true, true, false, false, true] ++ List.replicate 6 false ++
  List.replicate 6 true

/-- The thread that flushes finds the broker online, the other one does not. -/
def readingRun : Option (Threads Bool (lockSignature publisherSignature)
    (List (PublisherRequest CachedMessage.Storable × Option PublishStatus)) (Monitor Bool PublisherWorld)) :=
  followReadings (fun i => publisherAnswer !i) ⟨false⟩ readingSchedule restarted.world

/-- The earlier reading and the first of the new ones are acknowledged, and the second one is in the cache. -/
theorem delivered_across_threads_restarted :
    ∃ T : Threads Bool (lockSignature publisherSignature)
        (List (PublisherRequest CachedMessage.Storable × Option PublishStatus)) (Monitor Bool PublisherWorld),
      T.world.resource.acknowledged = [sensorMessage 7, sensorMessage 8] ∧
      T.world.resource.cache.database.rows = [⟨3, ascii "sensor", decimal 9⟩] ∧
      (∃ s, Relation.ReflTransGen (deliveryService ⟨false⟩ CachedMessage.Storable).Step (.idle {}) s ∧
        s.world.world = T.world.resource ∧ s.world.AtLeastOnce) ∧
      ∃ results, T.thread true = .between results ∧
        results.filterMap acceptedMessage = [sensorMessage 8, sensorMessage 9] ∧
        ∀ m ∈ results.filterMap acceptedMessage,
          m ∈ T.world.resource.acknowledged ∨ ∃ r ∈ T.world.resource.cache.database.rows, r.message = m := by
  have hresult : readingRun.map (fun T => (T.world.resource.acknowledged,
      T.world.resource.cache.database.rows, (T.thread true).rest?.map (List.filterMap acceptedMessage))) =
        some ([sensorMessage 7, sensorMessage 8], [⟨3, ascii "sensor", decimal 9⟩],
          some [sensorMessage 8, sensorMessage 9]) := by
    decide +kernel
  obtain ⟨T, hfollow, heq⟩ := Option.map_eq_some_iff.mp hresult
  simp only [Prod.mk.injEq] at heq
  obtain ⟨hacknowledged, hrows, hthread⟩ := heq
  obtain ⟨results, hrest, haccepted⟩ := Option.map_eq_some_iff.mp hthread
  have hbetween := Thread.eq_between hrest
  have hrun : PublisherRun publisherEnv ⟨false⟩ CachedMessage.Storable restarted.world T :=
    publisherRun_of_follow (fun _ => publisherEnv_of_answer) hfollow
  obtain ⟨hservice, hkept⟩ := delivered_across_threads ⟨false⟩ run_restarted hrun
  refine ⟨T, hacknowledged, hrows, hservice, results, hbetween, haccepted, ?_⟩
  intro m hm
  obtain ⟨call, hcall, hmessage⟩ := List.mem_filterMap.mp hm
  obtain ⟨hstorable, status, rfl, hstatus⟩ := exists_of_acceptedMessage hmessage
  exact hkept true results m hstorable status hbetween hcall hstatus

/-! ### The metrics -/

/-- The status that a call of `publish` returned. -/
def publishStatus {P : CachedMessage → Prop} : PublisherRequest P × Option PublishStatus → Option PublishStatus
  | (.publish _ _, status) => status
  | _ => none

lemma meteredRun_of_served {P : CachedMessage → Prop} {messages : List CachedMessage} {w₀ w : MeteredState}
    (hbuilt : MeteredRun messages [] w₀) {calls : List (PublisherRequest P × Option PublishStatus)}
    (hcalls : ∀ call ∈ calls, call.1.isCall) (h : Served meteredEnv (ReliablePublisher.serve ⟨true⟩) w₀ calls w) :
    MeteredRun messages (calls.filterMap publishStatus) w := by
  induction h with
  | start => exact hbuilt
  | @next calls q r w w' _ hexec ih =>
    rw [List.forall_mem_append] at hcalls
    have hrun := ih hcalls.1
    rw [List.filterMap_append]
    cases q with
    | construct => exact (hcalls.2 _ (List.mem_singleton.mpr rfl)).elim
    | flushCache =>
      obtain ⟨n, hflush, rfl⟩ := Exec.of_map (f := fun _ => none) hexec
      have hnone : [((.flushCache : PublisherRequest P), (none : Option PublishStatus))].filterMap publishStatus = [] :=
        rfl
      rw [hnone, List.append_nil]
      exact hrun.flushCache hflush
    | publish m hm =>
      obtain ⟨status, hpublish, rfl⟩ := Exec.of_map (f := some) hexec
      exact hrun.publish hpublish

/-- On a cache whose reads succeed and whose writes succeed or change nothing: whenever no thread is inside of a call,
the metrics are right about the cache and about the results of all the threads together. -/
theorem metrics_across_threads {ι : Type} [DecidableEq ι] {P : CachedMessage → Prop} {messages : List CachedMessage}
    {w₀ : MeteredState}
    (hbuilt : Exec meteredEnv (ReliablePublisher.construct ⟨true⟩) (.initial messages) () w₀)
    {T : Threads ι (lockSignature publisherSignature) (List (PublisherRequest P × Option PublishStatus))
      (Monitor ι MeteredState)}
    (hrun : PublisherRun meteredEnv ⟨true⟩ P w₀ T) (hfree : T.world.owner = none) :
    ∃ calls : List (ι × PublisherRequest P × Option PublishStatus),
      (∀ i results, T.thread i = .between results → ofThread i calls = results) ∧
      MetricsTruthful messages.length ((calls.map Prod.snd).filterMap publishStatus) T.world.resource := by
  obtain ⟨calls, w, hlinear⟩ := exists_linearized hrun
  refine ⟨calls, hlinear.own, ?_⟩
  rw [hlinear.free hfree]
  apply MeteredRun.truthful
  apply meteredRun_of_served (.construct hbuilt) _ hlinear.served
  intro call hcall
  obtain ⟨c, hc, rfl⟩ := List.mem_map.mp hcall
  exact hlinear.allowed c hc

/-- The broker answers the earliest of the readings, and the disk is full when the last one comes. -/
def meteredAnswer (w : MeteredState) : (o : PublisherOp) → Option (o.Ans × MeteredState)
  | .mqttPublish _ m => some (m = sensorMessage 7, w.answered (m = sensorMessage 7))
  | .append m => some (m = sensorMessage 8, if m = sensorMessage 8 then { w with cache := w.cache ++ [m] } else w)
  | .loadAll => some (w.cache, w)
  | .removeFirst count => some (true, w.afterRemoval count true)
  | .metric u => some ((), w.update u)
  | .print _ => some ((), w)

lemma meteredEnv_of_answer (w : MeteredState) (o : PublisherOp) (a : o.Ans) (w' : MeteredState)
    (h : meteredAnswer w o = some (a, w')) : meteredEnv w o a w' := by
  cases o with
  | mqttPublish | removeFirst | metric | print =>
    cases h
    exact rfl
  | append m =>
    cases h
    simp [meteredEnv]
  | loadAll =>
    cases h
    exact ⟨rfl, rfl⟩

/-- The state of a publisher that has found one message in its cache. -/
def foundReading : MeteredState :=
  (MeteredState.initial [sensorMessage 7]).update (.setCacheDepth 1)

lemma exec_construct_foundReading :
    Exec meteredEnv (ReliablePublisher.construct ⟨true⟩) (.initial [sensorMessage 7]) () foundReading :=
  .call ⟨rfl, rfl⟩ (.call rfl .ret)

/-- The flush begins while the first reading is published, and the second reading is published during the flush. -/
def meteredSchedule : List Bool :=
  List.replicate 4 true ++ [false] ++ List.replicate 7 true ++ [false, false, true] ++ List.replicate 12 false ++
  List.replicate 7 true

/-- One of the messages found and deferred is replayed, and the last one is not stored. -/
theorem metrics_across_threads_partial :
    ∃ (T : Threads Bool (lockSignature publisherSignature)
          (List (PublisherRequest CachedMessage.Storable × Option PublishStatus)) (Monitor Bool MeteredState))
        (calls : List (Bool × PublisherRequest CachedMessage.Storable × Option PublishStatus)),
      T.world.resource.cache = [sensorMessage 8] ∧ T.world.resource.answers = [false, true, false, false] ∧
      (ofThread true calls).filterMap publishStatus = [.deferred, .failed] ∧
      MetricsTruthful 1 ((calls.map Prod.snd).filterMap publishStatus) T.world.resource := by
  have hresult : (followReadings (fun _ => meteredAnswer) ⟨true⟩ meteredSchedule foundReading).map (fun T =>
      (T.world.owner.isNone, T.world.resource.cache, T.world.resource.answers,
        (T.thread true).rest?.map (List.filterMap publishStatus))) =
        some (true, [sensorMessage 8], [false, true, false, false], some [.deferred, .failed]) := by
    decide +kernel
  obtain ⟨T, hfollow, heq⟩ := Option.map_eq_some_iff.mp hresult
  simp only [Prod.mk.injEq] at heq
  obtain ⟨hfree, hcache, hanswers, hthread⟩ := heq
  obtain ⟨results, hrest, hstatuses⟩ := Option.map_eq_some_iff.mp hthread
  have hrun : PublisherRun meteredEnv ⟨true⟩ CachedMessage.Storable foundReading T :=
    publisherRun_of_follow (fun _ => meteredEnv_of_answer) hfollow
  obtain ⟨calls, hown, htruthful⟩ :=
    metrics_across_threads exec_construct_foundReading hrun (Option.isNone_iff_eq_none.mp hfree)
  refine ⟨T, calls, hcache, hanswers, ?_, htruthful⟩
  rw [hown true results (Thread.eq_between hrest)]
  exact hstatuses

end EdgeGateway
