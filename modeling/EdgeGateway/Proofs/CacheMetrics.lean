import EdgeGateway.Model.ReliablePublisher
import Mathlib.Data.Bool.Count

/-!
# The metrics of the publisher

The publisher with its metrics, on a cache whose writes are atomic and whose reads succeed. The gauge is
set from a fresh load, from the list a pass has loaded and from a subtraction. Each of them leaves it at
the number of messages that are really there.
-/

namespace EdgeGateway
open CallTree

structure MeteredState where
  cache : List CachedMessage
  metrics : RuntimeMetrics
  /-- The messages that successful calls of `remove_first` took out of the cache. -/
  removed : Nat
  /-- What `MqttClient::publish` returned, call by call. -/
  answers : List Bool

namespace MeteredState

/-- A cache found with some messages in it, and metrics as constructed. -/
def initial (messages : List CachedMessage) : MeteredState :=
  ⟨messages, RuntimeMetrics.zero, 0, []⟩

def update (w : MeteredState) (u : MetricUpdate) : MeteredState :=
  { w with metrics := w.metrics.apply u }

def answered (w : MeteredState) (acked : Bool) : MeteredState :=
  { w with answers := w.answers ++ [acked] }

/-- The state after a call of `remove_first(count)`. -/
def afterRemoval (w : MeteredState) (count : Nat) (done : Bool) : MeteredState :=
  if done then
    { w with cache := w.cache.drop count, removed := w.removed + min count w.cache.length }
  else
    w

end MeteredState

def meteredEnv : Env publisherSignature MeteredState := fun w o =>
  match o with
  | .mqttPublish _ _ => fun (acked : Bool) w' => w' = w.answered acked
  | .append m => fun (done : Bool) w' =>
      w' = if done then { w with cache := w.cache ++ [m] } else w
  | .loadAll => fun (messages : List CachedMessage) w' => messages = w.cache ∧ w' = w
  | .removeFirst count => fun (done : Bool) w' => w' = w.afterRemoval count done
  | .metric u => fun _ w' => w' = w.update u
  | .print _ => fun _ w' => w' = w

/-- A publisher with metrics that was constructed on a cache with `messages` in it and has completed some
operations since. `results` are those of its calls of `publish`. -/
inductive MeteredRun (messages : List CachedMessage) : List PublishStatus → MeteredState → Prop where
  | construct {w : MeteredState} :
      Exec meteredEnv (ReliablePublisher.construct ⟨true⟩) (MeteredState.initial messages) () w →
      MeteredRun messages [] w
  | publish {results : List PublishStatus} {w w' : MeteredState} {m : CachedMessage} {status : PublishStatus} :
      MeteredRun messages results w → Exec meteredEnv (ReliablePublisher.publish ⟨true⟩ m) w status w' →
      MeteredRun messages (results ++ [status]) w'
  | flushCache {results : List PublishStatus} {w w' : MeteredState} {n : Nat} :
      MeteredRun messages results w → Exec meteredEnv (ReliablePublisher.flushCache ⟨true⟩) w n w' →
      MeteredRun messages results w'

/-- The counters of the broker's answers count them. -/
structure AnswersCounted (w : MeteredState) : Prop where
  success : w.metrics.counter .mqttPublishSuccess = w.answers.count true
  failed : w.metrics.counter .mqttPublishFailed = w.answers.count false

/-- What the metrics say after an operation, for a cache that had `n` messages. -/
structure MetricsTruthful (n : Nat) (results : List PublishStatus) (w : MeteredState) : Prop where
  depth : w.metrics.cacheDepth = w.cache.length
  balance : w.cache.length + w.removed = n + w.metrics.counter .cacheEnqueue
  enqueued : w.metrics.counter .cacheEnqueue = results.count .deferred
  answers : AnswersCounted w

/-! ### One operation -/

namespace AnswersCounted

variable {w : MeteredState}

/-- An answer and the counter that belongs to it. -/
lemma recorded (h : AnswersCounted w) (acked : Bool) :
    AnswersCounted ((w.answered acked).update
      (.add (if acked then .mqttPublishSuccess else .mqttPublishFailed) 1)) := by
  have hs := h.success
  have hf := h.failed
  cases acked with
  | true => constructor <;> simp [MeteredState.update, MeteredState.answered, RuntimeMetrics.apply, hs, hf]
  | false => constructor <;> simp [MeteredState.update, MeteredState.answered, RuntimeMetrics.apply, hs, hf]

lemma total (h : AnswersCounted w) :
    w.metrics.counter .mqttPublishSuccess + w.metrics.counter .mqttPublishFailed = w.answers.length := by
  rw [h.success, h.failed]
  exact List.count_true_add_count_false w.answers

end AnswersCounted

namespace ReliablePublisher

variable {w : MeteredState}

lemma wp_meteredEnv_metric (u : MetricUpdate) {Q : Unit → MeteredState → Prop} (hQ : Q () (w.update u)) :
    wp meteredEnv (metric ⟨true⟩ u) Q w := by
  intro _ w' h
  obtain rfl : w' = w.update u := h
  exact hQ

lemma wp_meteredEnv_print (line : Text) {Q : Unit → MeteredState → Prop} (hQ : Q () w) :
    wp meteredEnv (print line) Q w := by
  intro _ w' h
  obtain rfl : w' = w := h
  exact hQ

lemma wp_meteredEnv_setDepthFromCache {Q : Unit → MeteredState → Prop}
    (hQ : Q () (w.update (.setCacheDepth w.cache.length))) :
    wp meteredEnv (setDepthFromCache ⟨true⟩) Q w := by
  rw [setDepthFromCache, if_pos rfl, wp_bind]
  rintro messages w' ⟨rfl, rfl⟩
  exact wp_meteredEnv_metric _ hQ

lemma wp_construct_meteredEnv (messages : List CachedMessage) :
    wp meteredEnv (construct ⟨true⟩) (fun _ w' => MetricsTruthful messages.length [] w')
      (MeteredState.initial messages) := by
  apply wp_meteredEnv_setDepthFromCache
  exact ⟨rfl, rfl, rfl, rfl, rfl⟩

lemma wp_publish_meteredEnv {n : Nat} {results : List PublishStatus} (h : MetricsTruthful n results w)
    (m : CachedMessage) :
    wp meteredEnv (publish ⟨true⟩ m) (fun status w' => MetricsTruthful n (results ++ [status]) w') w := by
  rw [publish, wp_bind]
  intro acked w₁ h₁
  obtain rfl : w₁ = w.answered acked := h₁
  have hanswers := h.answers.recorded acked
  cases acked with
  | true =>
    rw [wp_ret, if_pos rfl, wp_bind]
    apply wp_meteredEnv_metric
    have henqueued : w.metrics.counter .cacheEnqueue = (results ++ [PublishStatus.published]).count .deferred := by
      simpa using h.enqueued
    exact ⟨h.depth, h.balance, henqueued, hanswers⟩
  | false =>
    rw [wp_ret, if_neg (by decide), wp_bind]
    apply wp_meteredEnv_metric
    rw [wp_bind]
    intro done w₂ h₂
    cases done with
    | true =>
      obtain rfl : w₂ = _ := h₂
      rw [wp_ret, if_pos rfl, wp_bind]
      apply wp_meteredEnv_metric
      rw [wp_bind]
      apply wp_meteredEnv_setDepthFromCache
      rw [wp_bind]
      apply wp_meteredEnv_print
      refine ⟨rfl, ?_, ?_, ?_⟩
      · have := h.balance
        simp [MeteredState.update, MeteredState.answered, RuntimeMetrics.apply]
        omega
      · have := h.enqueued
        simp [MeteredState.update, MeteredState.answered, RuntimeMetrics.apply, this]
      · exact ⟨hanswers.success, hanswers.failed⟩
    | false =>
      obtain rfl : w₂ = _ := h₂
      rw [wp_ret, if_neg (by decide), wp_bind]
      apply wp_meteredEnv_print
      have henqueued : w.metrics.counter .cacheEnqueue = (results ++ [PublishStatus.failed]).count .deferred := by
        simpa using h.enqueued
      exact ⟨h.depth, h.balance, henqueued, hanswers⟩

/-- The loop of a pass touches the counters of the broker's answers only. -/
lemma wp_replay_meteredEnv (total : Nat) (rest : List CachedMessage) {count : Nat} (h : AnswersCounted w) :
    wp meteredEnv (replay ⟨true⟩ total count rest) (fun k w' => k ≤ count + rest.length ∧
      AnswersCounted w' ∧ w'.cache = w.cache ∧ w'.removed = w.removed ∧
      w'.metrics.cacheDepth = w.metrics.cacheDepth ∧
      w'.metrics.counter .cacheEnqueue = w.metrics.counter .cacheEnqueue) w := by
  induction rest generalizing count w with
  | nil => exact ⟨Nat.le_refl _, h, rfl, rfl, rfl, rfl⟩
  | cons m rest ih =>
    rw [replay, wp_bind]
    intro acked w₁ h₁
    obtain rfl : w₁ = w.answered acked := h₁
    have hanswers := h.recorded acked
    cases acked with
    | true =>
      rw [wp_ret, if_pos rfl, wp_bind]
      apply wp_meteredEnv_metric
      apply wp_mono _ (ih hanswers)
      rintro k w' ⟨hk, hcounted, hcache, hremoved, hdepth, henqueue⟩
      rw [List.length_cons]
      exact ⟨by omega, hcounted, hcache, hremoved, hdepth, henqueue⟩
    | false =>
      rw [wp_ret, if_neg (by decide), wp_bind]
      apply wp_meteredEnv_metric
      rw [wp_bind]
      apply wp_meteredEnv_print
      exact ⟨Nat.le_add_right _ _, hanswers, rfl, rfl, rfl, rfl⟩

lemma wp_flushCache_meteredEnv {n : Nat} {results : List PublishStatus} (h : MetricsTruthful n results w) :
    wp meteredEnv (flushCache ⟨true⟩) (fun _ w' => MetricsTruthful n results w') w := by
  rw [flushCache, wp_bind]
  apply wp_meteredEnv_metric
  rw [wp_bind]
  rintro messages w₁ ⟨rfl, rfl⟩
  rw [wp_ret, wp_bind]
  apply wp_meteredEnv_metric
  change wp meteredEnv (if w.cache.isEmpty then _ else _) _ _
  have hloaded : MetricsTruthful n results
      ((w.update (.add .cacheFlushAttempt 1)).update (.setCacheDepth w.cache.length)) :=
    ⟨rfl, h.balance, h.enqueued, ⟨h.answers.success, h.answers.failed⟩⟩
  by_cases hempty : w.cache.isEmpty
  · rw [if_pos hempty]
    exact hloaded
  rw [if_neg hempty, wp_bind]
  apply wp_mono _ (wp_replay_meteredEnv _ _ hloaded.answers)
  rintro k w₂ ⟨hk, hanswers, hcache, hremoved, hdepth, henqueue⟩
  rw [Nat.zero_add] at hk
  change k ≤ w.cache.length at hk
  change w₂.cache = w.cache at hcache
  have hdepth : w₂.metrics.cacheDepth = w₂.cache.length := by
    rw [hdepth, hcache]
    rfl
  have hbalance : w₂.cache.length + w₂.removed = n + w₂.metrics.counter .cacheEnqueue := by
    rw [hcache, hremoved, henqueue]
    exact hloaded.balance
  have hpass : MetricsTruthful n results w₂ := ⟨hdepth, hbalance, henqueue.trans hloaded.enqueued, hanswers⟩
  by_cases hzero : k = 0
  · rw [if_pos hzero]
    exact hpass
  rw [if_neg hzero, wp_bind]
  intro done w₃ h₃
  obtain rfl : w₃ = w₂.afterRemoval k done := h₃
  cases done with
  | true =>
    rw [wp_ret, if_pos rfl, wp_bind]
    apply wp_meteredEnv_metric
    rw [wp_bind]
    apply wp_meteredEnv_print
    refine ⟨?_, ?_, hpass.enqueued, ⟨hanswers.success, hanswers.failed⟩⟩
    · simp [MeteredState.update, MeteredState.afterRemoval, RuntimeMetrics.apply, hcache]
    · simp only [MeteredState.update, MeteredState.afterRemoval, RuntimeMetrics.apply, if_true,
        List.length_drop]
      rw [hcache] at hbalance ⊢
      omega
  | false =>
    rw [wp_ret, if_neg (by decide), wp_bind]
    apply wp_meteredEnv_print
    exact hpass

end ReliablePublisher

/-! ### Whole runs -/

lemma MeteredRun.truthful {messages : List CachedMessage} {results : List PublishStatus} {w : MeteredState}
    (h : MeteredRun messages results w) : MetricsTruthful messages.length results w := by
  induction h with
  | construct hexec =>
    exact (wp_iff_exec _ _ _ _).mp (ReliablePublisher.wp_construct_meteredEnv messages) _ _ hexec
  | publish _ hexec ih =>
    exact (wp_iff_exec _ _ _ _).mp (ReliablePublisher.wp_publish_meteredEnv ih _) _ _ hexec
  | flushCache _ hexec ih =>
    exact (wp_iff_exec _ _ _ _).mp (ReliablePublisher.wp_flushCache_meteredEnv ih) _ _ hexec

/-- After the constructor and after every operation the depth gauge is the number of cached messages,
which is what was there at first and what was deferred since, less what was removed, and the publish
counters are the numbers of calls of the client with each answer. -/
theorem cache_metrics_truthful (messages : List CachedMessage) (results : List PublishStatus) (w : MeteredState)
    (hrun : MeteredRun messages results w) :
    w.metrics.cacheDepth = w.cache.length ∧
    (w.metrics.cacheDepth : Int) = messages.length + w.metrics.counter .cacheEnqueue - w.removed ∧
    w.metrics.counter .cacheEnqueue = results.count .deferred ∧
    w.metrics.counter .mqttPublishSuccess + w.metrics.counter .mqttPublishFailed = w.answers.length ∧
    w.metrics.counter .mqttPublishSuccess = w.answers.count true := by
  have h := hrun.truthful
  refine ⟨h.depth, ?_, h.enqueued, h.answers.total, h.answers.success⟩
  have := h.depth
  have := h.balance
  omega

/-- A message deferred behind another one, and a pass that the broker stops after the first. -/
theorem cache_metrics_truthful_partial_replay :
    let m : CachedMessage := ⟨ascii "sensor", ascii "1"⟩
    ∃ w, MeteredRun [m] [.deferred] w ∧ w.cache = [m] ∧ w.removed = 1 ∧
      w.metrics.cacheDepth = w.cache.length ∧ w.metrics.counter .cacheEnqueue = 1 := by
  intro m
  let w₀ : MeteredState := (MeteredState.initial [m]).update (.setCacheDepth 1)
  have hbuilt : MeteredRun [m] [] w₀ := .construct (.call ⟨rfl, rfl⟩ (.call rfl .ret))
  have hpublish : ∃ w₁, Exec meteredEnv (ReliablePublisher.publish ⟨true⟩ m) w₀ .deferred w₁ ∧
      w₁.cache = [m, m] ∧ w₁.removed = 0 := by
    apply Exists.intro
    apply And.intro
    · apply Exec.call (a := false) rfl
      apply Exec.call (a := ()) rfl
      apply Exec.call (a := true) rfl
      apply Exec.call (a := ()) rfl
      apply Exec.call ⟨rfl, rfl⟩
      apply Exec.call (a := ()) rfl
      apply Exec.call (a := ()) rfl
      exact .ret
    · exact ⟨rfl, rfl⟩
  obtain ⟨w₁, hpublish, hcache₁, hremoved₁⟩ := hpublish
  obtain ⟨messages, metrics, removed, answers⟩ := w₁
  obtain rfl : messages = [m, m] := hcache₁
  obtain rfl : removed = 0 := hremoved₁
  have hflush : ∃ w₂, Exec meteredEnv (ReliablePublisher.flushCache ⟨true⟩) ⟨[m, m], metrics, 0, answers⟩ 1 w₂ ∧
      w₂.cache = [m] ∧ w₂.removed = 1 := by
    apply Exists.intro
    apply And.intro
    · apply Exec.call (a := ()) rfl
      apply Exec.call ⟨rfl, rfl⟩
      apply Exec.call (a := ()) rfl
      apply Exec.call (a := true) rfl
      apply Exec.call (a := ()) rfl
      apply Exec.call (a := false) rfl
      apply Exec.call (a := ()) rfl
      apply Exec.call (a := ()) rfl
      apply Exec.call (a := true) rfl
      apply Exec.call (a := ()) rfl
      apply Exec.call (a := ()) rfl
      exact .ret
    · exact ⟨rfl, rfl⟩
  obtain ⟨w₂, hflush, hcache₂, hremoved₂⟩ := hflush
  have hrun : MeteredRun [m] [.deferred] w₂ := .flushCache (.publish hbuilt hpublish) hflush
  obtain ⟨hdepth, -, henqueue, -⟩ := cache_metrics_truthful [m] [.deferred] w₂ hrun
  exact ⟨w₂, hrun, hcache₂, hremoved₂, hdepth, henqueue⟩

end EdgeGateway
