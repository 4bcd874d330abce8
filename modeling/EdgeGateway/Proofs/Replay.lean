import EdgeGateway.Model.ReliablePublisher

/-!
# Replay order and duplicates

The publisher on any cache whose operations are atomic: they succeed, or fail and change nothing. Each
cached message carries the number of its append. The trace keeps what `flush_cache` asked of the broker
and how the cache answered.
-/

namespace EdgeGateway
open CallTree

abbrev Entry := Nat × CachedMessage

inductive ReplayEvent where
  | load (done : Bool)
  | attempt (entry : Entry) (acked : Bool)
  | remove (done : Bool)
deriving DecidableEq

structure ReplayState where
  queue : List Entry
  /-- The number of the next append. -/
  appended : Nat
  /-- The numbers behind the list that `load_all` read last. -/
  loaded : List Nat := []
  trace : List ReplayEvent := []

namespace ReplayState

/-- A cache found with some messages in it. -/
def initial (messages : List CachedMessage) : ReplayState where
  queue := (List.range messages.length).zip messages
  appended := messages.length

def record (w : ReplayState) (e : ReplayEvent) : ReplayState :=
  { w with trace := w.trace ++ [e] }

end ReplayState

def replayEnv : Env publisherSignature ReplayState := fun w o =>
  match o with
  | .mqttPublish .direct _ => fun _ w' => w' = w
  | .mqttPublish (.replay index) m => fun (acked : Bool) w' =>
      w' = w.record (.attempt (w.loaded.getD index 0, m) acked)
  | .append m => fun (done : Bool) w' =>
      w' = if done then { w with queue := w.queue ++ [(w.appended, m)], appended := w.appended + 1 } else w
  | .loadAll => fun (messages : List CachedMessage) w' =>
      messages = w.queue.map Prod.snd ∧
        w' = { w.record (.load true) with loaded := w.queue.map Prod.fst } ∨
      messages = [] ∧ w' = { w.record (.load false) with loaded := [] }
  | .removeFirst count => fun (done : Bool) w' =>
      w' = { w.record (.remove done) with queue := if done then w.queue.drop count else w.queue }
  | .metric _ => fun _ w' => w' = w
  | .print _ => fun _ w' => w' = w

/-- A run of complete calls of `publish` and `flush_cache`. -/
def ReplayRun (p : ReliablePublisher) : ReplayState → ReplayState → Prop :=
  Relation.ReflTransGen (fun w w' =>
    (∃ m status, Exec replayEnv (p.publish m) w status w') ∨ ∃ n, Exec replayEnv p.flushCache w n w')

/-- The numbers of the messages acknowledged in a replay, by their first acknowledgement. -/
def firstAcks (trace : List ReplayEvent) : List Nat :=
  trace.foldl (fun seen e =>
    match e with
    | .attempt entry true => if entry.1 ∈ seen then seen else seen ++ [entry.1]
    | _ => seen) []

/-- The attempts of a pass that published `n` messages: these, and the one that stopped it. -/
def passAttempts (queue : List Entry) (n : Nat) : List ReplayEvent :=
  (queue.take n).map (fun entry => .attempt entry true) ++
    (queue.drop n).head?.toList.map (fun entry => .attempt entry false)

/-- A call of `flush_cache` that returned `n`: either loading failed and nothing else happened, or the
pass went through the queue up to the first message without acknowledgement, and then asked for the
removal of what it had published. -/
def FlushPass (w : ReplayState) (n : Nat) (w' : ReplayState) : Prop :=
  w'.appended = w.appended ∧
  (n = 0 ∧ w'.queue = w.queue ∧ w'.trace = w.trace ++ [.load false] ∨
    n ≤ w.queue.length ∧ ∃ removal,
      w'.trace = w.trace ++ [.load true] ++ passAttempts w.queue n ++ removal ∧
      (n = 0 ∧ removal = [] ∧ w'.queue = w.queue ∨
        removal = [.remove false] ∧ w'.queue = w.queue ∨
        removal = [.remove true] ∧ w'.queue = w.queue.drop n))

/-! ### What the two operations do -/

namespace ReliablePublisher

variable (p : ReliablePublisher) {w : ReplayState}

lemma wp_replayEnv_metric (update : MetricUpdate) {Q : Unit → ReplayState → Prop} (hQ : Q () w) :
    wp replayEnv (p.metric update) Q w := by
  unfold metric
  by_cases hset : p.runtimeMetrics
  · rw [if_pos hset]
    intro _ w' h
    obtain rfl : w' = w := h
    exact hQ
  · rw [if_neg hset]
    exact hQ

lemma wp_replayEnv_print (line : Text) {Q : Unit → ReplayState → Prop} (hQ : Q () w) :
    wp replayEnv (print line) Q w := by
  intro _ w' h
  obtain rfl : w' = w := h
  exact hQ

/-- A `publish` appends at most its own message and reads the cache at most once. -/
lemma wp_publish_replayEnv (m : CachedMessage) :
    wp replayEnv (p.publish m) (fun _ w' =>
      (∃ loads, w'.trace = w.trace ++ loads ∧ ∀ e ∈ loads, ∃ done, e = .load done) ∧
      (w'.queue = w.queue ∧ w'.appended = w.appended ∨
        w'.queue = w.queue ++ [(w.appended, m)] ∧ w'.appended = w.appended + 1)) w := by
  unfold publish
  rw [wp_bind]
  intro acked w₁ h₁
  obtain rfl : w₁ = w := h₁
  cases acked with
  | true =>
    rw [wp_ret, if_pos rfl, wp_bind]
    apply p.wp_replayEnv_metric
    exact ⟨⟨[], by simp⟩, .inl ⟨rfl, rfl⟩⟩
  | false =>
    rw [wp_ret, if_neg (by decide), wp_bind]
    apply p.wp_replayEnv_metric
    rw [wp_bind]
    intro done w₂ h₂
    cases done with
    | false =>
      obtain rfl : w₂ = w₁ := h₂
      rw [wp_ret, if_neg (by decide), wp_bind]
      apply wp_replayEnv_print
      exact ⟨⟨[], by simp⟩, .inl ⟨rfl, rfl⟩⟩
    | true =>
      obtain rfl : w₂ = { w₁ with queue := w₁.queue ++ [(w₁.appended, m)], appended := w₁.appended + 1 } := h₂
      rw [wp_ret, if_pos rfl, wp_bind]
      apply p.wp_replayEnv_metric
      rw [wp_bind]
      unfold setDepthFromCache
      by_cases hset : p.runtimeMetrics
      · rw [if_pos hset, wp_bind]
        intro messages w₃ h₃
        apply p.wp_replayEnv_metric
        rw [wp_bind]
        apply wp_replayEnv_print
        rcases h₃ with ⟨-, rfl⟩ | ⟨-, rfl⟩
        · exact ⟨⟨[.load true], rfl, by simp⟩, .inr ⟨rfl, rfl⟩⟩
        · exact ⟨⟨[.load false], rfl, by simp⟩, .inr ⟨rfl, rfl⟩⟩
      · rw [if_neg hset]
        apply wp_replayEnv_print
        exact ⟨⟨[], by simp⟩, .inr ⟨rfl, rfl⟩⟩

/-- The loop goes through `rest`, the part of the queue from `count` on. -/
lemma wp_replay_replayEnv (total : Nat) (rest : List Entry) {count : Nat}
    (hrest : w.queue.drop count = rest) (hloaded : w.loaded = w.queue.map Prod.fst) :
    wp replayEnv (p.replay total count (rest.map Prod.snd)) (fun n w' => ∃ k ≤ rest.length,
      n = count + k ∧ w' = { w with trace := w.trace ++ passAttempts rest k }) w := by
  induction rest generalizing count w with
  | nil => exact ⟨0, le_rfl, rfl, by simp [passAttempts]⟩
  | cons entry rest ih =>
    have hget : w.queue[count]? = some entry := by
      rw [← List.head?_drop, hrest]
      rfl
    have hnumber : w.loaded.getD count 0 = entry.1 := by
      simp [hloaded, hget]
    rw [List.map_cons, replay, wp_bind]
    intro acked w₁ h₁
    obtain rfl : w₁ = w.record (.attempt (w.loaded.getD count 0, entry.2) acked) := h₁
    rw [hnumber]
    cases acked with
    | true =>
      rw [wp_ret, if_pos rfl, wp_bind]
      apply p.wp_replayEnv_metric
      have hdrop : (w.record (.attempt (entry.1, entry.2) true)).queue.drop (count + 1) = rest := by
        change w.queue.drop (count + 1) = rest
        rw [← List.tail_drop, hrest]
        rfl
      apply wp_mono _ (ih hdrop hloaded)
      rintro n w' ⟨k, hk, rfl, rfl⟩
      refine ⟨k + 1, Nat.succ_le_succ hk, by omega, ?_⟩
      simp [ReplayState.record, passAttempts]
    | false =>
      rw [wp_ret, if_neg (by decide), wp_bind]
      apply p.wp_replayEnv_metric
      rw [wp_bind]
      apply wp_replayEnv_print
      exact ⟨0, Nat.zero_le _, rfl, by simp [ReplayState.record, passAttempts]⟩

theorem wp_flushCache_replayEnv : wp replayEnv p.flushCache (fun n w' => FlushPass w n w') w := by
  unfold flushCache
  rw [wp_bind]
  apply p.wp_replayEnv_metric
  rw [wp_bind]
  intro messages w₁ h₁
  rw [wp_ret, wp_bind]
  apply p.wp_replayEnv_metric
  rcases h₁ with ⟨rfl, rfl⟩ | ⟨rfl, rfl⟩
  · by_cases hempty : w.queue = []
    · rw [if_pos (by simp [hempty])]
      exact ⟨rfl, .inr ⟨Nat.zero_le _, [], by simp [ReplayState.record, passAttempts, hempty],
        .inl ⟨rfl, rfl, rfl⟩⟩⟩
    · rw [if_neg (by simp [hempty]), wp_bind]
      apply wp_mono _ (p.wp_replay_replayEnv _ w.queue rfl rfl)
      rintro n w₂ ⟨k, hk, rfl, rfl⟩
      rw [Nat.zero_add]
      by_cases hzero : k = 0
      · subst hzero
        exact ⟨rfl, .inr ⟨hk, [], by simp [ReplayState.record], .inl ⟨rfl, rfl, rfl⟩⟩⟩
      · rw [if_neg hzero, wp_bind]
        intro done w₃ h₃
        obtain rfl : w₃ = _ := h₃
        cases done with
        | true =>
          rw [wp_ret, if_pos rfl, wp_bind]
          apply p.wp_replayEnv_metric
          rw [wp_bind]
          apply wp_replayEnv_print
          exact ⟨rfl, .inr ⟨hk, [.remove true], by simp [ReplayState.record], .inr (.inr ⟨rfl, rfl⟩)⟩⟩
        | false =>
          rw [wp_ret, if_neg (by decide), wp_bind]
          apply wp_replayEnv_print
          exact ⟨rfl, .inr ⟨hk, [.remove false], by simp [ReplayState.record], .inr (.inl ⟨rfl, rfl⟩)⟩⟩
  · exact ⟨rfl, .inl ⟨rfl, rfl, rfl⟩⟩

end ReliablePublisher

/-! ### Over whole runs -/

/-- Every replay acknowledgement of a message numbered `start` or higher was followed by a failed
removal. -/
def Settled (start : Nat) (trace : List ReplayEvent) : Prop :=
  ∀ pre entry post, trace = pre ++ .attempt entry true :: post → start ≤ entry.1 → .remove false ∈ post

/-- Between two replay acknowledgements of one message a removal failed. -/
def RepeatsExcused (trace : List ReplayEvent) : Prop :=
  ∀ pre entry mid entry' post, trace = pre ++ .attempt entry true :: mid ++ .attempt entry' true :: post →
    entry.1 = entry'.1 → .remove false ∈ mid

lemma firstAcks_append (trace : List ReplayEvent) (e : ReplayEvent) :
    firstAcks (trace ++ [e]) =
      match e with
      | .attempt entry true =>
        if entry.1 ∈ firstAcks trace then firstAcks trace else firstAcks trace ++ [entry.1]
      | _ => firstAcks trace := by
  rw [firstAcks, List.foldl_append]
  rfl

/-- What holds after each event, with the first `start` messages gone from the queue or acknowledged
in the current pass, and the first `acked` acknowledged so far. -/
structure Orderly (start acked : Nat) (trace : List ReplayEvent) : Prop where
  order : firstAcks trace = List.range acked
  reached : start ≤ acked
  settled : Settled start trace
  repeats : RepeatsExcused trace

namespace Orderly

variable {start acked : Nat} {trace : List ReplayEvent}

/-- In a trace with one more event, a given event is that one or stood there before. -/
lemma split_append {α : Type} {xs pre post : List α} {x e : α} (h : xs ++ [e] = pre ++ x :: post) :
    (∃ post', post = post' ++ [e] ∧ xs = pre ++ x :: post') ∨ post = [] ∧ x = e ∧ pre = xs := by
  rcases List.append_eq_append_iff.mp h with ⟨as, hpre, hlast⟩ | ⟨bs, hxs, hpost⟩
  · rw [List.singleton_eq_append_iff] at hlast
    simp only [List.cons.injEq, reduceCtorEq, and_false, or_false] at hlast
    exact .inr ⟨hlast.2.2, hlast.2.1, by rw [hpre, hlast.1, List.append_nil]⟩
  · cases bs with
    | nil =>
      rw [List.nil_append, List.cons.injEq] at hpost
      exact .inr ⟨hpost.2, hpost.1, by rw [hxs, List.append_nil]⟩
    | cons b bs =>
      rw [List.cons_append, List.cons.injEq] at hpost
      exact .inl ⟨bs, hpost.2, by rw [hxs, hpost.1]⟩

/-- An event that is no acknowledgement changes nothing. -/
lemma other (h : Orderly start acked trace) {e : ReplayEvent} (he : ∀ entry, e ≠ .attempt entry true) :
    Orderly start acked (trace ++ [e]) := by
  refine ⟨?_, h.reached, ?_, ?_⟩
  · rw [firstAcks_append, ← h.order]
    split
    · exact absurd rfl (he _)
    · rfl
  · intro pre entry post heq hstart
    rcases split_append heq with ⟨post', rfl, htrace⟩ | ⟨-, hlast, -⟩
    · exact List.mem_append_left _ (h.settled pre entry post' htrace hstart)
    · exact absurd hlast.symm (he entry)
  · intro pre entry mid entry' post heq hsame
    rcases split_append heq with ⟨post', rfl, htrace⟩ | ⟨-, hlast, -⟩
    · exact h.repeats pre entry mid entry' post' htrace hsame
    · exact absurd hlast.symm (he entry')

/-- The next message of the pass is acknowledged. -/
lemma acknowledge (h : Orderly start acked trace) (m : CachedMessage) :
    ∃ acked', Orderly (start + 1) acked' (trace ++ [.attempt (start, m) true]) := by
  have hrest : Settled (start + 1) (trace ++ [.attempt (start, m) true]) := by
    intro pre entry post heq hstart
    rcases split_append heq with ⟨post', rfl, htrace⟩ | ⟨-, hlast, -⟩
    · exact List.mem_append_left _ (h.settled pre entry post' htrace (by omega))
    · rw [ReplayEvent.attempt.injEq] at hlast
      rw [hlast.1] at hstart
      exact absurd hstart (by simp)
  have hrepeats : RepeatsExcused (trace ++ [.attempt (start, m) true]) := by
    intro pre entry mid entry' post heq hsame
    rcases split_append heq with ⟨post', rfl, htrace⟩ | ⟨-, hlast, hpre⟩
    · exact h.repeats pre entry mid entry' post' htrace hsame
    · rw [ReplayEvent.attempt.injEq] at hlast
      rw [hlast.1] at hsame
      exact h.settled pre entry mid hpre.symm (ge_of_eq hsame)
  by_cases hold : start < acked
  · refine ⟨acked, ?_, hold, hrest, hrepeats⟩
    rw [firstAcks_append, h.order]
    exact if_pos (List.mem_range.mpr hold)
  · have heq : start = acked := by
      have := h.reached
      omega
    subst heq
    refine ⟨start + 1, ?_, le_rfl, hrest, hrepeats⟩
    rw [firstAcks_append, h.order, List.range_succ]
    exact if_neg (by simp)

/-- A whole series of acknowledgements. -/
lemma acknowledgeAll (entries : List Entry) (h : Orderly start acked trace)
    (hentries : entries.map Prod.fst = List.range' start entries.length) :
    ∃ acked', Orderly (start + entries.length) acked'
      (trace ++ entries.map (fun entry => .attempt entry true)) := by
  induction entries generalizing start acked trace with
  | nil => exact ⟨acked, by simpa using h⟩
  | cons entry entries ih =>
    rw [List.map_cons, List.length_cons, List.range'_succ, List.cons.injEq] at hentries
    obtain ⟨acked₁, h₁⟩ := h.acknowledge entry.2
    obtain ⟨acked₂, h₂⟩ := ih h₁ hentries.2
    have hentry : (start, entry.2) = entry := by rw [← hentries.1]
    rw [hentry] at h₂
    refine ⟨acked₂, ?_⟩
    have hcount : start + (entries.length + 1) = start + 1 + entries.length := by omega
    rw [List.length_cons, List.map_cons, hcount]
    simpa using h₂

/-- A failed removal settles everything. -/
lemma removeFailed (h : Orderly start acked trace) {start' : Nat} (hle : start' ≤ start) :
    Orderly start' acked (trace ++ [.remove false]) := by
  have hother := h.other (e := .remove false) (by simp)
  refine ⟨hother.order, hle.trans h.reached, ?_, hother.repeats⟩
  intro pre entry post heq _
  rcases split_append heq with ⟨post', rfl, -⟩ | ⟨-, hlast, -⟩
  · exact List.mem_append_right _ (List.mem_singleton_self _)
  · exact absurd hlast (by simp)

end Orderly

/-- Between two calls: the queue holds the last appended messages in order. -/
def InOrder (w : ReplayState) : Prop :=
  ∃ start acked, w.queue.map Prod.fst = List.range' start w.queue.length ∧
    start + w.queue.length = w.appended ∧ Orderly start acked w.trace

lemma inOrder_initial (messages : List CachedMessage) : InOrder (.initial messages) := by
  refine ⟨0, 0, ?_, ?_, rfl, le_rfl, ?_, ?_⟩
  · simp [ReplayState.initial, List.map_fst_zip, List.range_eq_range']
  · simp [ReplayState.initial]
  · intro pre entry post h
    exact absurd h (by simp [ReplayState.initial])
  · intro pre entry mid entry' post h
    exact absurd h (by simp [ReplayState.initial])

lemma InOrder.publish {w w' : ReplayState} {m : CachedMessage} (h : InOrder w)
    (htrace : ∃ loads, w'.trace = w.trace ++ loads ∧ ∀ e ∈ loads, ∃ done, e = .load done)
    (hqueue : w'.queue = w.queue ∧ w'.appended = w.appended ∨
      w'.queue = w.queue ++ [(w.appended, m)] ∧ w'.appended = w.appended + 1) : InOrder w' := by
  obtain ⟨start, acked, hnumbers, happended, horder⟩ := h
  obtain ⟨loads, htrace, hloads⟩ := htrace
  have horder' : Orderly start acked w'.trace := by
    rw [htrace]
    clear htrace
    induction loads using List.reverseRecOn with
    | nil => simpa using horder
    | append_singleton loads e ih =>
      rw [← List.append_assoc]
      apply (ih (fun e' he' => hloads e' (List.mem_append_left _ he'))).other
      obtain ⟨done, rfl⟩ := hloads e (by simp)
      simp
  rcases hqueue with ⟨hq, ha⟩ | ⟨hq, ha⟩
  · exact ⟨start, acked, by rw [hq, hnumbers], by rw [hq, ha, happended], horder'⟩
  · refine ⟨start, acked, ?_, ?_, horder'⟩
    · rw [hq, List.map_append, hnumbers, List.length_append, List.length_singleton, ← List.range'_append_1,
        ← happended]
      rfl
    · rw [hq, ha, ← happended, List.length_append, List.length_singleton]
      omega

lemma InOrder.flush {w w' : ReplayState} {n : Nat} (h : InOrder w) (hpass : FlushPass w n w') :
    InOrder w' := by
  obtain ⟨start, acked, hnumbers, happended, horder⟩ := h
  obtain ⟨ha, ⟨-, hq, htrace⟩ | ⟨hn, removal, htrace, hremoval⟩⟩ := hpass
  · refine ⟨start, acked, by rw [hq, hnumbers], by rw [hq, ha, happended], ?_⟩
    rw [htrace]
    exact horder.other (by simp)
  -- the acknowledged part of the pass, then the attempt that stopped it
  have htake : (w.queue.take n).length = n := List.length_take_of_le hn
  have hfirst : (w.queue.take n).map Prod.fst = List.range' start (w.queue.take n).length := by
    rw [List.map_take, hnumbers, List.take_range'_of_length_ge hn, htake]
  obtain ⟨acked', horder'⟩ :=
    (horder.other (e := .load true) (by simp)).acknowledgeAll (w.queue.take n) hfirst
  rw [htake] at horder'
  have hpassed : Orderly (start + n) acked' (w.trace ++ [.load true] ++ passAttempts w.queue n) := by
    unfold passAttempts
    rw [← List.append_assoc]
    cases hstop : (w.queue.drop n).head? with
    | none => simpa using horder'
    | some entry => exact horder'.other (by simp)
  rcases hremoval with ⟨rfl, rfl, hq⟩ | ⟨rfl, hq⟩ | ⟨rfl, hq⟩
  · refine ⟨start, acked', by rw [hq, hnumbers], by rw [hq, ha, happended], ?_⟩
    rw [htrace, List.append_nil]
    exact hpassed
  · refine ⟨start, acked', by rw [hq, hnumbers], by rw [hq, ha, happended], ?_⟩
    rw [htrace]
    exact hpassed.removeFailed (Nat.le_add_right _ _)
  · refine ⟨start + n, acked', ?_, ?_, ?_⟩
    · rw [hq, List.map_drop, hnumbers, List.drop_range', List.length_drop]
      simp
    · rw [hq, ha, List.length_drop]
      omega
    · rw [htrace]
      exact hpassed.other (by simp)

lemma ReplayRun.inOrder {p : ReliablePublisher} {w w' : ReplayState} (hrun : ReplayRun p w w')
    (h : InOrder w) : InOrder w' := by
  induction hrun with
  | refl => exact h
  | tail _ hcall ih =>
    rcases hcall with ⟨m, status, hexec⟩ | ⟨n, hexec⟩
    · have hspec := (wp_iff_exec replayEnv _ _ _).mp (p.wp_publish_replayEnv m) _ _ hexec
      exact ih.publish hspec.1 hspec.2
    · exact ih.flush ((wp_iff_exec replayEnv _ _ _).mp p.wp_flushCache_replayEnv _ _ hexec)

/-- First acknowledgements come in the order of the appends, with none left out. A message is
acknowledged again only after a failed removal. Each pass is a prefix of the queue. -/
theorem replay_in_order (p : ReliablePublisher) (messages : List CachedMessage) {w : ReplayState}
    (hrun : ReplayRun p (.initial messages) w) :
    (∃ acked, firstAcks w.trace = List.range acked) ∧
    RepeatsExcused w.trace ∧
    ∀ n w', Exec replayEnv p.flushCache w n w' → FlushPass w n w' := by
  obtain ⟨start, acked, -, -, horder⟩ := hrun.inOrder (inOrder_initial messages)
  refine ⟨⟨acked, horder.order⟩, horder.repeats, ?_⟩
  exact (wp_iff_exec replayEnv _ _ _).mp p.wp_flushCache_replayEnv

/-- A cache found with two messages. -/
def foundMessages : List CachedMessage :=
  [⟨ascii "t", ascii "a"⟩, ⟨ascii "t", ascii "b"⟩]

/-- The first of them is acknowledged, then the broker is gone, and the removal fails. -/
def replayedOnce : ReplayState where
  queue := [(0, ⟨ascii "t", ascii "a"⟩), (1, ⟨ascii "t", ascii "b"⟩)]
  appended := 2
  loaded := [0, 1]
  trace := [.load true, .attempt (0, ⟨ascii "t", ascii "a"⟩) true, .attempt (1, ⟨ascii "t", ascii "b"⟩) false,
    .remove false]

/-- After a third message was deferred, the first is acknowledged again, the second for the first time, and both are
removed. -/
def replayedTwice : ReplayState where
  queue := [(2, ⟨ascii "t", ascii "c"⟩)]
  appended := 3
  loaded := [0, 1, 2]
  trace := replayedOnce.trace ++ [.load true, .attempt (0, ⟨ascii "t", ascii "a"⟩) true,
    .attempt (1, ⟨ascii "t", ascii "b"⟩) true, .attempt (2, ⟨ascii "t", ascii "c"⟩) false, .remove true]

lemma run_replayedTwice : ReplayRun ⟨false⟩ (.initial foundMessages) replayedTwice := by
  let p : ReliablePublisher := ⟨false⟩
  have hfirst : Exec replayEnv p.flushCache (.initial foundMessages) 1 replayedOnce := by
    refine .call (a := foundMessages) (.inl ⟨rfl, rfl⟩) ?_
    refine .call (a := true) rfl ?_
    refine .call (a := false) rfl ?_
    refine .call (a := ()) rfl ?_
    refine .call (a := false) rfl ?_
    refine .call (a := ()) rfl ?_
    exact .ret
  have hpublish : Exec replayEnv (p.publish ⟨ascii "t", ascii "c"⟩) replayedOnce .deferred
      { replayedOnce with queue := replayedOnce.queue ++ [(2, ⟨ascii "t", ascii "c"⟩)], appended := 3 } := by
    refine .call (a := false) rfl ?_
    refine .call (a := true) rfl ?_
    refine .call (a := ()) rfl ?_
    exact .ret
  have hsecond : Exec replayEnv p.flushCache
      { replayedOnce with queue := replayedOnce.queue ++ [(2, ⟨ascii "t", ascii "c"⟩)], appended := 3 } 2
      replayedTwice := by
    refine .call (a := foundMessages ++ [⟨ascii "t", ascii "c"⟩]) (.inl ⟨rfl, rfl⟩) ?_
    refine .call (a := true) rfl ?_
    refine .call (a := true) rfl ?_
    refine .call (a := false) rfl ?_
    refine .call (a := ()) rfl ?_
    refine .call (a := true) rfl ?_
    refine .call (a := ()) rfl ?_
    exact .ret
  exact .head (.inr ⟨1, hfirst⟩) (.head (.inl ⟨_, _, hpublish⟩) (.single (.inr ⟨2, hsecond⟩)))

theorem replay_in_order_removal_failed :
    firstAcks replayedTwice.trace = [0, 1] ∧
    (∃ acked, firstAcks replayedTwice.trace = List.range acked) ∧
    RepeatsExcused replayedTwice.trace ∧
    ∀ n w', Exec replayEnv (⟨false⟩ : ReliablePublisher).flushCache replayedTwice n w' →
      FlushPass replayedTwice n w' :=
  ⟨by decide, replay_in_order ⟨false⟩ foundMessages run_replayedTwice⟩

end EdgeGateway
