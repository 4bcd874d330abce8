import EdgeGateway.Model.ReliablePublisher
import EdgeGateway.Proofs.SqliteRows

/-!
# At-least-once delivery

The publisher on a SQLite cache, with a broker that answers as it likes, SQL statements that fail as
they like and a crash possible between any two calls. The state remembers what the broker
acknowledged, which rows were ever stored and which messages were accepted.
-/

namespace EdgeGateway
open CallTree

/-- What an attempt to publish was for: a call of `publish`, or a row of the cache. -/
inductive Source where
  | call (number : Nat)
  | row (id : Nat)
deriving DecidableEq

structure DeliveryState where
  cache : SqliteCache := {}
  /-- The ids behind the list that `load_all` read last. -/
  loaded : List Nat := []
  /-- The number of the current call of `publish`. -/
  number : Nat := 0
  acknowledged : List (Source × CachedMessage) := []
  /-- Every row ever stored, with the call that stored it. -/
  stored : List (Nat × Row) := []
  /-- The messages whose call returned `Published` or `Deferred`. -/
  accepted : List (Nat × CachedMessage) := []

def Row.message (r : Row) : CachedMessage :=
  ⟨r.topic, r.payload⟩

namespace DeliveryState

def rows (w : DeliveryState) : List Row :=
  w.cache.database.rows

def source (w : DeliveryState) : PublishSite → Source
  | .direct => .call w.number
  | .replay index => .row (w.loaded.getD index 0)

def acknowledge (w : DeliveryState) (site : PublishSite) (m : CachedMessage) : DeliveryState :=
  { w with acknowledged := w.acknowledged ++ [(w.source site, m)] }

/-- The state after an append that left the cache as `c`. -/
def appended (w : DeliveryState) (c : SqliteCache) : DeliveryState :=
  { w with
    cache := c
    stored := w.stored ++ (c.database.rows.drop w.rows.length).map (fun r => (w.number, r)) }

/-- Either the broker acknowledged the message of this call, or it is in the cache. -/
def Safe (w : DeliveryState) (number : Nat) (m : CachedMessage) : Prop :=
  (.call number, m) ∈ w.acknowledged ∨
  ∃ r, (number, r) ∈ w.stored ∧ ((.row r.id, m) ∈ w.acknowledged ∨ r ∈ w.rows ∧ r.message = m)

/-- No accepted message is lost, and a row leaves the cache only after its acknowledgement. -/
def AtLeastOnce (w : DeliveryState) : Prop :=
  (∀ number m, (number, m) ∈ w.accepted → w.Safe number m) ∧
  ∀ number r, (number, r) ∈ w.stored → r ∈ w.rows ∨ (.row r.id, r.message) ∈ w.acknowledged

end DeliveryState

def deliveryEnv : Env publisherSignature DeliveryState := fun w o =>
  match o with
  | .mqttPublish site m => fun (acked : Bool) w' => w' = if acked then w.acknowledge site m else w
  | .append m => fun (done : Bool) w' =>
      ∃ fault c, w.cache.append fault m.topic m.payload = (done, c) ∧ w' = w.appended c
  | .loadAll => fun (messages : List CachedMessage) w' =>
      ∃ fault c, w.cache.loadAll fault = (messages, c) ∧
        w' = { w with cache := c, loaded := (Database.orderById w.rows).map Row.id }
  | .removeFirst count => fun (done : Bool) w' =>
      ∃ fault c, w.cache.removeFirst fault count = (done, c) ∧ w' = { w with cache := c }
  | .metric _ => fun _ w' => w' = w
  | .print _ => fun _ w' => w' = w

/-- What can be asked of the publisher when every published message satisfies `P`. A restart
constructs it anew. -/
inductive PublisherRequest (P : CachedMessage → Prop) where
  | construct
  | publish (m : CachedMessage) (h : P m)
  | flushCache

/-- A crash keeps the database and what the outside world knows. On the restart the cache opens the
database again, or fails to. -/
def DeliveryState.Crashed (w w' : DeliveryState) : Prop :=
  ∃ ready message, w' =
    { w with cache := ⟨w.cache.database, ready, message⟩, loaded := [], number := w.number + 1 }

def DeliveryState.returned {P : CachedMessage → Prop} :
    PublisherRequest P → Option PublishStatus → DeliveryState → DeliveryState
  | .publish m _, some status, w =>
      { w with
        number := w.number + 1
        accepted := if status = .failed then w.accepted else w.accepted ++ [(w.number, m)] }
  | _, _, w => w

def ReliablePublisher.serve (p : ReliablePublisher) {P : CachedMessage → Prop} :
    PublisherRequest P → ReliablePublisher.Call (Option PublishStatus)
  | .construct => do
      p.construct
      return none
  | .publish m _ => do
      let status ← p.publish m
      return some status
  | .flushCache => do
      let _ ← p.flushCache
      return none

def deliveryService (p : ReliablePublisher) (P : CachedMessage → Prop) :
    Service publisherSignature DeliveryState where
  Request := PublisherRequest P
  Result := Option PublishStatus
  handle := p.serve
  env := deliveryEnv
  returned := DeliveryState.returned
  crashed := DeliveryState.Crashed

namespace DeliveryState

/-- What every call keeps: the table is in order, its texts read back as they are, and nothing
accepted is lost. -/
structure Sound (w : DeliveryState) : Prop where
  ordered : w.cache.database.Ordered
  readable : ∀ r ∈ w.rows, r.message.Storable
  delivered : w.AtLeastOnce

/-- Nothing that `Sound` speaks of has changed. -/
structure Agrees (w w' : DeliveryState) : Prop where
  database : w'.cache.database = w.cache.database
  number : w'.number = w.number
  acknowledged : w'.acknowledged = w.acknowledged
  stored : w'.stored = w.stored
  accepted : w'.accepted = w.accepted

variable {w w' : DeliveryState}

lemma Agrees.rows (h : w.Agrees w') : w'.rows = w.rows :=
  congrArg Database.rows h.database

lemma Agrees.safe (h : w.Agrees w') {number : Nat} {m : CachedMessage} (hs : w.Safe number m) :
    w'.Safe number m := by
  unfold Safe
  rw [h.acknowledged, h.stored, h.rows]
  exact hs

lemma Agrees.sound (h : w.Agrees w') (hw : w.Sound) : w'.Sound := by
  refine ⟨h.database ▸ hw.ordered, ?_, ?_, ?_⟩
  · rw [h.rows]
    exact hw.readable
  · intro number m hm
    rw [h.accepted] at hm
    exact h.safe (hw.delivered.1 number m hm)
  · rw [h.stored, h.rows, h.acknowledged]
    exact hw.delivered.2

lemma Safe.mono {number : Nat} {m : CachedMessage} (h : w.Safe number m)
    (hack : w.acknowledged ⊆ w'.acknowledged) (hstored : w.stored ⊆ w'.stored)
    (hrows : ∀ r ∈ w.rows, r ∈ w'.rows ∨ (.row r.id, r.message) ∈ w'.acknowledged) :
    w'.Safe number m := by
  rcases h with h | ⟨r, hr, h | ⟨hmem, rfl⟩⟩
  · exact .inl (hack h)
  · exact .inr ⟨r, hstored hr, .inl (hack h)⟩
  · rcases hrows r hmem with hin | hout
    · exact .inr ⟨r, hstored hr, .inr ⟨hin, rfl⟩⟩
    · exact .inr ⟨r, hstored hr, .inl hout⟩

lemma Sound.acknowledge (hw : w.Sound) (site : PublishSite) (m : CachedMessage) :
    (w.acknowledge site m).Sound := by
  have hsub : w.acknowledged ⊆ (w.acknowledge site m).acknowledged := List.subset_append_left _ _
  refine ⟨hw.ordered, hw.readable, ?_, ?_⟩
  · intro number m' hm'
    exact (hw.delivered.1 number m' hm').mono hsub (List.Subset.refl _) (fun r hr => .inl hr)
  · intro number r hr
    exact (hw.delivered.2 number r hr).imp_right (fun h => hsub h)

/-- Rows may go once the broker has acknowledged them. -/
lemma Sound.removed (hw : w.Sound) {count : Nat}
    (hacked : ∀ r ∈ w.rows.take count, (.row r.id, r.message) ∈ w.acknowledged) {c : SqliteCache}
    (hc : c.database = w.cache.database.deleteFirst count) : Sound { w with cache := c } := by
  have hrows : DeliveryState.rows { w with cache := c } = w.rows.drop count := by
    have h := hw.ordered.rows_deleteFirst count
    rw [← hc] at h
    exact h
  have hleave : ∀ r ∈ w.rows,
      r ∈ DeliveryState.rows { w with cache := c } ∨ (.row r.id, r.message) ∈ w.acknowledged := by
    intro r hr
    rw [hrows]
    rw [← List.take_append_drop count w.rows, List.mem_append] at hr
    exact hr.symm.imp_right (hacked r)
  refine ⟨?_, ?_, ?_, ?_⟩
  · change c.database.Ordered
    rw [hc]
    exact hw.ordered.deleteFirst count
  · intro r hr
    rw [hrows] at hr
    exact hw.readable r (List.mem_of_mem_drop hr)
  · intro number m hm
    exact (hw.delivered.1 number m hm).mono (List.Subset.refl _) (List.Subset.refl _) hleave
  · intro number r hr
    rcases hw.delivered.2 number r hr with hin | hout
    · exact hleave r hin
    · exact .inr hout

/-- The row of a storable message holds the message. -/
lemma Sound.inserted (hw : w.Sound) {m : CachedMessage} (hm : m.Storable) {c : SqliteCache}
    (hc : c.database = w.cache.database.insert (bindText m.topic) (bindText m.payload)) :
    (w.appended c).Sound ∧ (w.appended c).Safe w.number m := by
  rw [bindText_of_storable hm.1, bindText_of_storable hm.2] at hc
  set r₀ : Row := ⟨w.cache.database.sequence + 1, m.topic, m.payload⟩ with hr₀
  have hrows : (w.appended c).rows = w.rows ++ [r₀] := congrArg Database.rows hc
  have hnew : (w.appended c).stored = w.stored ++ [(w.number, r₀)] := by
    have hdrop : c.database.rows.drop w.rows.length = [r₀] := by
      have h : c.database.rows = w.rows ++ [r₀] := hrows
      rw [h, List.drop_left]
    simp only [appended, hdrop, List.map_cons, List.map_nil]
  have hgrow : ∀ r ∈ w.rows, r ∈ (w.appended c).rows := by
    intro r hr
    rw [hrows]
    exact List.mem_append_left _ hr
  have hlast : r₀ ∈ (w.appended c).rows := by
    rw [hrows]
    exact List.mem_append_right _ (List.mem_singleton_self _)
  refine ⟨⟨?_, ?_, ?_, ?_⟩, .inr ⟨r₀, ?_, .inr ⟨hlast, rfl⟩⟩⟩
  · change c.database.Ordered
    rw [hc]
    exact hw.ordered.insert _ _
  · intro r hr
    rw [hrows] at hr
    rcases List.mem_append.mp hr with hr | hr
    · exact hw.readable r hr
    · rw [List.mem_singleton.mp hr]
      exact hm
  · intro number m' hm'
    exact (hw.delivered.1 number m' hm').mono (List.Subset.refl _) (List.subset_append_left _ _)
      (fun r hr => .inl (hgrow r hr))
  · intro number r hr
    rw [hnew] at hr
    rcases List.mem_append.mp hr with hr | hr
    · exact (hw.delivered.2 number r hr).imp_left (hgrow r)
    · have heq : r = r₀ := congrArg Prod.snd (List.mem_singleton.mp hr)
      rw [heq]
      exact .inl hlast
  · rw [hnew]
    exact List.mem_append_right _ (List.mem_singleton_self _)

end DeliveryState

/-! ### What each call does to the state -/

section

variable {w w' : DeliveryState}

lemma deliveryEnv_append {m : CachedMessage} {done : Bool}
    (h : deliveryEnv w (.append m) done w') (hw : w.Sound) (hm : m.Storable) :
    w'.Sound ∧ w'.number = w.number ∧ (done = true → w'.Safe w.number m) := by
  obtain ⟨fault, c, hc, rfl⟩ := h
  rcases SqliteCache.append_cases hc with ⟨rfl, hdb⟩ | ⟨rfl, hdb⟩
  · have hin := hw.inserted hm hdb
    exact ⟨hin.1, rfl, fun _ => hin.2⟩
  · have hsame : w.Agrees (w.appended c) := by
      refine ⟨hdb, rfl, rfl, ?_, rfl⟩
      simp [DeliveryState.appended, DeliveryState.rows, hdb]
    exact ⟨hsame.sound hw, rfl, fun h => absurd h (by decide)⟩

/-- The loaded messages are those of the rows in order, unless loading failed. -/
lemma deliveryEnv_loadAll {messages : List CachedMessage}
    (h : deliveryEnv w .loadAll messages w') (hw : w.Sound) :
    w.Agrees w' ∧ (messages = [] ∨
      messages = w'.rows.map Row.message ∧ w'.loaded = w'.rows.map Row.id) := by
  obtain ⟨fault, c, hc, rfl⟩ := h
  obtain ⟨hdb, hmessages⟩ := SqliteCache.loadAll_cases hc
  have hsame : w.Agrees { w with cache := c, loaded := (Database.orderById w.rows).map Row.id } :=
    ⟨hdb, rfl, rfl, rfl, rfl⟩
  refine ⟨hsame, hmessages.imp_right (fun hread => ?_)⟩
  have horder : Database.orderById w.rows = w.rows := hw.ordered.orderById
  rw [hsame.rows]
  refine ⟨?_, congrArg (List.map Row.id) horder⟩
  rw [hread, hw.ordered.orderById]
  apply List.map_congr_left
  intro r hr
  have htopic : cString r.topic = r.topic := (cString_eq_self_iff _).mpr (hw.readable r hr).1.1
  have hpayload : cString r.payload = r.payload := (cString_eq_self_iff _).mpr (hw.readable r hr).2.1
  rw [htopic, hpayload]
  rfl

lemma deliveryEnv_removeFirst {count : Nat} {done : Bool}
    (h : deliveryEnv w (.removeFirst count) done w') (hw : w.Sound)
    (hacked : ∀ r ∈ w.rows.take count, (.row r.id, r.message) ∈ w.acknowledged) : w'.Sound := by
  obtain ⟨fault, c, hc, rfl⟩ := h
  rcases SqliteCache.removeFirst_cases hc with ⟨-, hdb⟩ | hdb
  · exact hw.removed hacked hdb
  · have hsame : w.Agrees { w with cache := c } := ⟨hdb, rfl, rfl, rfl, rfl⟩
    exact hsame.sound hw

end

/-! ### The operations -/

namespace ReliablePublisher

open DeliveryState

variable (p : ReliablePublisher) {w : DeliveryState}

lemma always_metric (hw : w.Sound) (update : MetricUpdate) {Q : Unit → DeliveryState → Prop}
    (hQ : Q () w) : always deliveryEnv Sound (p.metric update) Q w := by
  unfold metric
  by_cases hset : p.runtimeMetrics
  · rw [if_pos hset]
    refine ⟨hw, fun _ w' h => ?_⟩
    obtain rfl : w' = w := h
    exact ⟨hw, hQ⟩
  · rw [if_neg hset]
    exact ⟨hw, hQ⟩

lemma always_print (hw : w.Sound) (line : Text) {Q : Unit → DeliveryState → Prop} (hQ : Q () w) :
    always deliveryEnv Sound (print line) Q w := by
  refine ⟨hw, fun _ w' h => ?_⟩
  obtain rfl : w' = w := h
  exact ⟨hw, hQ⟩

lemma always_setDepthFromCache (hw : w.Sound) {Q : Unit → DeliveryState → Prop}
    (hQ : ∀ w', w.Agrees w' → Q () w') : always deliveryEnv Sound p.setDepthFromCache Q w := by
  unfold setDepthFromCache
  by_cases hset : p.runtimeMetrics
  · rw [if_pos hset]
    refine always_bind _ ⟨hw, fun messages w' h => ?_⟩
    have hsame := (deliveryEnv_loadAll h hw).1
    exact ⟨hsame.sound hw, p.always_metric (hsame.sound hw) _ (hQ w' hsame)⟩
  · rw [if_neg hset]
    exact ⟨hw, hQ w ⟨rfl, rfl, rfl, rfl, rfl⟩⟩

lemma always_publish (hw : w.Sound) {m : CachedMessage} (hm : m.Storable) :
    always deliveryEnv Sound (p.publish m)
      (fun status w' => w'.Sound ∧ (status ≠ .failed → w'.Safe w'.number m)) w := by
  refine always_bind _ ⟨hw, fun acked w₁ h₁ => ?_⟩
  cases acked with
  | true =>
    obtain rfl : w₁ = w.acknowledge .direct m := h₁
    have hw₁ := hw.acknowledge .direct m
    refine ⟨hw₁, always_bind _ (p.always_metric hw₁ _ ⟨hw₁, hw₁, fun _ => .inl ?_⟩)⟩
    exact List.mem_append_right _ (List.mem_singleton_self _)
  | false =>
    obtain rfl : w₁ = w := h₁
    refine ⟨hw, always_bind _ (p.always_metric hw _ (always_bind _ ⟨hw, fun done w₂ h₂ => ?_⟩))⟩
    obtain ⟨hw₂, hnumber, hsafe⟩ := deliveryEnv_append h₂ hw hm
    cases done with
    | true =>
      refine ⟨hw₂, always_bind _ (p.always_metric hw₂ _ (always_bind _ ?_))⟩
      refine p.always_setDepthFromCache hw₂ (fun w₃ hsame => always_bind _ ?_)
      have hw₃ := hsame.sound hw₂
      refine always_print hw₃ _ ⟨hw₃, hw₃, fun _ => ?_⟩
      rw [hsame.number, hnumber]
      exact hsame.safe (hsafe rfl)
    | false =>
      refine ⟨hw₂, always_bind _ (always_print hw₂ _ ⟨hw₂, hw₂, fun h => absurd rfl h⟩)⟩

/-- After the loop the first rows, as many as were published, are acknowledged. -/
lemma always_replay (total : Nat) (rest : List CachedMessage) {count : Nat} (hw : w.Sound)
    (hrest : rest = (w.rows.drop count).map Row.message) (hloaded : w.loaded = w.rows.map Row.id)
    (hacked : ∀ r ∈ w.rows.take count, (.row r.id, r.message) ∈ w.acknowledged) :
    always deliveryEnv Sound (p.replay total count rest)
      (fun n w' => w'.Sound ∧
        ∀ r ∈ w'.rows.take n, (.row r.id, r.message) ∈ w'.acknowledged) w := by
  induction rest generalizing count w with
  | nil => exact ⟨hw, hw, hacked⟩
  | cons m rest ih =>
    refine always_bind _ ⟨hw, fun acked w₁ h₁ => ?_⟩
    cases acked with
    | true =>
      obtain rfl : w₁ = w.acknowledge (.replay count) m := h₁
      have hw₁ := hw.acknowledge (.replay count) m
      refine ⟨hw₁, always_bind _ (p.always_metric hw₁ _ ?_)⟩
      obtain ⟨r, rows, hdrop, hm, hrest'⟩ := List.map_eq_cons_iff.mp hrest.symm
      have hget : w.rows[count]? = some r := by
        rw [← List.head?_drop, hdrop]
        rfl
      refine ih hw₁ ?_ hloaded ?_
      · change rest = (w.rows.drop (count + 1)).map Row.message
        rw [← List.tail_drop, hdrop]
        exact hrest'.symm
      · intro r' hr'
        change r' ∈ w.rows.take (count + 1) at hr'
        rw [List.take_add_one, hget] at hr'
        rcases List.mem_append.mp hr' with hr' | hr'
        · exact List.mem_append_left _ (hacked r' hr')
        · obtain rfl : r' = r := List.mem_singleton.mp hr'
          have hsource : w.source (.replay count) = .row r'.id := by
            simp [source, hloaded, hget]
          refine List.mem_append_right _ ?_
          rw [hsource, hm]
          exact List.mem_singleton_self _
    | false =>
      obtain rfl : w₁ = w := h₁
      exact ⟨hw, always_bind _ (p.always_metric hw _ (always_bind _ (always_print hw _ ⟨hw, hw, hacked⟩)))⟩

lemma always_flushCache (hw : w.Sound) :
    always deliveryEnv Sound p.flushCache (fun _ w' => w'.Sound) w := by
  refine always_bind _ (p.always_metric hw _ (always_bind _ ⟨hw, fun messages w₁ h₁ => ?_⟩))
  obtain ⟨hsame, hmessages⟩ := deliveryEnv_loadAll h₁ hw
  have hw₁ := hsame.sound hw
  refine ⟨hw₁, always_bind _ (p.always_metric hw₁ _ ?_)⟩
  split
  · exact ⟨hw₁, hw₁⟩
  · rename_i hne
    rcases hmessages with rfl | ⟨hmessages, hloaded⟩
    · exact absurd rfl hne
    refine always_bind _ (always_mono _ (p.always_replay _ messages hw₁ (by simpa using hmessages)
      hloaded (by simp)) (fun n w₂ h₂ => ?_))
    obtain ⟨hw₂, hacked⟩ := h₂
    split
    · exact ⟨hw₂, hw₂⟩
    · refine always_bind _ ⟨hw₂, fun done w₃ h₃ => ?_⟩
      have hw₃ := deliveryEnv_removeFirst h₃ hw₂ hacked
      cases done with
      | true =>
        exact ⟨hw₃, always_bind _ (p.always_metric hw₃ _ (always_bind _ (always_print hw₃ _ ⟨hw₃, hw₃⟩)))⟩
      | false => exact ⟨hw₃, always_bind _ (always_print hw₃ _ ⟨hw₃, hw₃⟩)⟩

end ReliablePublisher

lemma DeliveryState.sound_empty : DeliveryState.Sound {} := by
  refine ⟨Database.ordered_empty, ?_, ?_, ?_⟩
  · intro r hr
    cases hr
  · intro number m hm
    cases hm
  · intro number r hr
    cases hr

lemma DeliveryState.Sound.accept {w : DeliveryState} (hw : w.Sound) {m : CachedMessage}
    (hm : w.Safe w.number m) : Sound
      { w with number := w.number + 1, accepted := w.accepted ++ [(w.number, m)] } := by
  refine ⟨hw.ordered, hw.readable, ?_, hw.delivered.2⟩
  intro number m' hm'
  rcases List.mem_append.mp hm' with hm' | hm'
  · exact hw.delivered.1 number m' hm'
  · cases List.mem_singleton.mp hm'
    exact hm

lemma DeliveryState.Sound.crash {w w' : DeliveryState} (hw : w.Sound) (h : w.Crashed w') : w'.Sound := by
  obtain ⟨ready, message, rfl⟩ := h
  exact ⟨hw.ordered, hw.readable, hw.delivered⟩

/-- Each request keeps `Sound` between any two of its calls. -/
lemma always_serve (p : ReliablePublisher) (q : PublisherRequest CachedMessage.Storable)
    {w : DeliveryState} (hw : w.Sound) :
    always deliveryEnv DeliveryState.Sound (p.serve q)
      (fun r w' => (DeliveryState.returned q r w').Sound) w := by
  cases q with
  | construct =>
    refine always_bind _ (p.always_setDepthFromCache hw (fun w' hsame => ?_))
    exact ⟨hsame.sound hw, hsame.sound hw⟩
  | flushCache =>
    exact always_bind _ (always_mono _ (p.always_flushCache hw) (fun _ w' hw' => ⟨hw', hw'⟩))
  | publish m hm =>
    refine always_bind _ (always_mono _ (p.always_publish hw hm) (fun status w' h => ?_))
    refine ⟨h.1, ?_⟩
    by_cases hfailed : status = .failed
    · simp only [DeliveryState.returned, if_pos hfailed]
      exact ⟨h.1.ordered, h.1.readable, h.1.delivered⟩
    · simp only [DeliveryState.returned, if_neg hfailed]
      exact h.1.accept (h.2 hfailed)

/-- In every state of every run that publishes storable messages, whatever fails and wherever it
crashes, no accepted message is lost. -/
theorem delivered_at_least_once (p : ReliablePublisher)
    {s : (deliveryService p CachedMessage.Storable).State}
    (hrun : Relation.ReflTransGen (deliveryService p CachedMessage.Storable).Step (.idle {}) s) :
    s.world.AtLeastOnce :=
  ((deliveryService p CachedMessage.Storable).invariant
    (fun q _ hw => always_serve p q hw) (fun _ _ hw h => hw.crash h) DeliveryState.sound_empty hrun).delivered

/-- The broker does not answer and the message is cached. -/
lemma exec_publish_deferred (P : CachedMessage → Prop) {m : CachedMessage} (hm : P m) :
    Exec deliveryEnv ((⟨false⟩ : ReliablePublisher).serve (.publish m hm)) {} (some .deferred)
      (({} : DeliveryState).appended ⟨Database.insert {} (bindText m.topic) (bindText m.payload), true, []⟩) := by
  refine .call (a := false) rfl ?_
  refine .call (a := true) ⟨none, _, rfl, rfl⟩ ?_
  refine .call (a := ()) rfl ?_
  exact .ret

lemma run_publish_deferred (P : CachedMessage → Prop) {m : CachedMessage} (hm : P m) :
    Relation.ReflTransGen (deliveryService ⟨false⟩ P).Step (.idle {}) (.idle
      { cache := { database := ⟨[⟨1, bindText m.topic, bindText m.payload⟩], 1⟩ }
        number := 1
        stored := [(0, ⟨1, bindText m.topic, bindText m.payload⟩)]
        accepted := [(0, m)] }) :=
  (deliveryService ⟨false⟩ P).run_of_exec (q := .publish m hm) (exec_publish_deferred P hm)

theorem delivered_at_least_once_deferred :
    DeliveryState.AtLeastOnce
      { cache := { database := ⟨[⟨1, ascii "t", ascii "x"⟩], 1⟩ }
        number := 1
        stored := [(0, ⟨1, ascii "t", ascii "x"⟩)]
        accepted := [(0, ⟨ascii "t", ascii "x"⟩)] } := by
  have hm : CachedMessage.Storable ⟨ascii "t", ascii "x"⟩ := by decide
  have hrun := run_publish_deferred CachedMessage.Storable hm
  rw [bindText_of_storable hm.1, bindText_of_storable hm.2] at hrun
  exact delivered_at_least_once ⟨false⟩ hrun

/-- The payload `a`, NUL, `b` comes back from the cache as `a`. -/
def nulMessage : CachedMessage :=
  ⟨ascii "t", [97, 0, 98]⟩

/-- The state with that message in the cache. -/
def nulCached : DeliveryState where
  cache := { database := ⟨[⟨1, ascii "t", [97, 0, 98]⟩], 1⟩ }
  number := 1
  stored := [(0, ⟨1, ascii "t", [97, 0, 98]⟩)]
  accepted := [(0, nulMessage)]

/-- The state after the broker acknowledged what was read back. -/
def nulReplayed : DeliveryState where
  cache := { database := ⟨[], 1⟩ }
  loaded := [1]
  number := 1
  acknowledged := [(.row 1, ⟨ascii "t", [97]⟩)]
  stored := [(0, ⟨1, ascii "t", [97, 0, 98]⟩)]
  accepted := [(0, nulMessage)]

lemma exec_flush_nul :
    Exec deliveryEnv ((⟨false⟩ : ReliablePublisher).serve (.flushCache : PublisherRequest (fun _ => True)))
      nulCached none nulReplayed := by
  have hload : nulCached.cache.loadAll none = ([⟨ascii "t", [97]⟩], nulCached.cache) := by
    simp only [nulCached, SqliteCache.loadAll, Database.orderById, List.mergeSort_singleton]
    rfl
  have hids : (Database.orderById nulCached.rows).map Row.id = [1] := by
    simp only [nulCached, DeliveryState.rows, Database.orderById, List.mergeSort_singleton]
    rfl
  have hremove : nulCached.cache.removeFirst none 1 = (true, nulReplayed.cache) := by
    simp only [nulCached, nulReplayed, SqliteCache.removeFirst, Database.deleteFirst, Database.orderById,
      List.mergeSort_singleton]
    rfl
  have hloadStep : deliveryEnv nulCached .loadAll [⟨ascii "t", [97]⟩] { nulCached with loaded := [1] } :=
    ⟨none, nulCached.cache, hload, by rw [hids]⟩
  have hackStep : deliveryEnv { nulCached with loaded := [1] } (.mqttPublish (.replay 0) ⟨ascii "t", [97]⟩)
      true { nulReplayed with cache := nulCached.cache } := rfl
  have hremoveStep : deliveryEnv { nulReplayed with cache := nulCached.cache } (.removeFirst 1)
      true nulReplayed := ⟨none, nulReplayed.cache, hremove, rfl⟩
  refine .call hloadStep ?_
  refine .call hackStep ?_
  refine .call hremoveStep ?_
  refine .call (a := ()) rfl ?_
  exact .ret

/-- With messages that contain NUL, an accepted message can be lost. -/
theorem nul_message_lost :
    ¬∀ (p : ReliablePublisher) (s : (deliveryService p (fun _ => True)).State),
      Relation.ReflTransGen (deliveryService p (fun _ => True)).Step (.idle {}) s → s.world.AtLeastOnce := by
  intro h
  have hcached := run_publish_deferred (fun _ => True) (m := nulMessage) trivial
  have hflush := (deliveryService ⟨false⟩ (fun _ => True)).run_of_exec (q := .flushCache) exec_flush_nul
  have hsafe := (h ⟨false⟩ _ (hcached.trans hflush)).1 0 nulMessage (List.mem_singleton_self _)
  rcases hsafe with hack | ⟨r, -, hack | ⟨hrow, -⟩⟩
  · exact absurd hack (by decide)
  · have heq : nulMessage = ⟨ascii "t", [97]⟩ := congrArg Prod.snd (List.mem_singleton.mp hack)
    exact absurd heq (by decide)
  · cases hrow

end EdgeGateway
