import EdgeGateway.Lib.Protocol
import EdgeGateway.Model.GatewayMain

/-!
# The pace of the main loop

The main loop flushes the cache, and waits for a shutdown in between. It never flushes more often than its interval
allows on a clock that does not go back, and it never rests without a look at the shutdown flag.
-/

namespace EdgeGateway
open CallTree

/-- `since` is the first reading of the clock after the last flush, `watched` says that the flag has been looked at
since the last rest or flush. Times are in nanoseconds. -/
structure Pace where
  clock : Int
  since : Option Int := none
  watched : Bool := false
  requested : Bool := false

namespace Pace

def next (interval : Int) (p : Pace) : Event mainSignature → Option Pace
  | ⟨.steadyNow, (now : Int)⟩ =>
    if p.clock ≤ now then some { p with clock := now, since := some (p.since.getD now) } else none
  | ⟨.loadShutdown, (shutdown : Bool)⟩ => some { p with watched := true, requested := shutdown }
  | ⟨.sleepFor milliseconds, _⟩ =>
    if p.watched ∧ 0 ≤ milliseconds ∧ milliseconds ≤ 50 then some { p with watched := false } else none
  | ⟨.flushCache, _⟩ =>
    if p.watched ∧ p.since.getD p.clock + interval ≤ p.clock then some { p with since := none, watched := false }
    else none
  | _ => some p

/-- The clock does not go back, and the handlers only ever set the flag. -/
def possible (p : Pace) (o : MainOp) : o.Ans → Prop :=
  match o with
  | .steadyNow => fun (now : Int) => p.clock ≤ now
  | .loadShutdown => fun (shutdown : Bool) => p.requested = true → shutdown = true
  | _ => fun _ => True

end Pace

def isFlush : Event mainSignature → Bool
  | ⟨.flushCache, _⟩ => true
  | _ => false

/-- `n` flushes have taken at least `n` intervals. -/
structure Spaced (interval start : Int) (h : List (Event mainSignature)) (p : Pace) : Prop where
  flushed : start + h.countP isFlush * interval ≤ p.since.getD p.clock
  waited : p.since.getD p.clock ≤ p.clock

section

variable {interval start : Int}

lemma Spaced.next {h : List (Event mainSignature)} {p p' : Pace} {e : Event mainSignature}
    (hp : Spaced interval start h p) (hnext : Pace.next interval p e = some p') :
    Spaced interval start (h ++ [e]) p' := by
  obtain ⟨hflushed, hwaited⟩ := hp
  have hquiet : isFlush e = false → (h ++ [e]).countP isFlush = h.countP isFlush := by
    intro he
    rw [List.countP_append, List.countP_singleton, he]
    rfl
  unfold Pace.next at hnext
  split at hnext
  · split_ifs at hnext with hclock
    cases hnext
    refine ⟨?_, ?_⟩
    · rw [hquiet rfl]
      cases hsince : p.since with
      | none =>
        rw [hsince] at hflushed
        exact hflushed.trans hclock
      | some since =>
        rw [hsince] at hflushed
        exact hflushed
    · cases hsince : p.since with
      | none => exact le_rfl
      | some since =>
        rw [hsince] at hwaited
        exact hwaited.trans hclock
  · cases hnext
    exact ⟨by rw [hquiet rfl]; exact hflushed, hwaited⟩
  · split_ifs at hnext
    cases hnext
    exact ⟨by rw [hquiet rfl]; exact hflushed, hwaited⟩
  · split_ifs at hnext with hdue
    cases hnext
    refine ⟨?_, le_rfl⟩
    rw [List.countP_append, List.countP_singleton]
    simp only [isFlush, if_true, Option.getD_none]
    push_cast
    linarith [hdue.2]
  · rename_i hflush
    cases hnext
    have he : isFlush e = false := by
      unfold isFlush
      split
      · exact (hflush _ rfl).elim
      · rfl
    exact ⟨by rw [hquiet he]; exact hflushed, hwaited⟩

/-! ### The loop -/

/-- A part of the main loop that keeps the pace. -/
abbrev Paced {α : Type} (interval : Int) (p : MainCall α) (Q : α → Pace → Prop) (s : Pace) : Prop :=
  obeys (Pace.next interval) Pace.possible p Q s

/-- The clock is read once, and the flag is looked at before each rest. -/
lemma paced_awaitDeadline (since : Int) (passes : Nat) {s : Pace} (hsince : s.since = some since) :
    Paced interval (Gateway.awaitDeadline (since + interval) passes)
      (fun _ s => s.since = some since ∧ (s.requested = true ∨ since + interval ≤ s.clock)) s := by
  induction passes generalizing s with
  | zero => exact fun x => x.elim
  | succ passes ih =>
    intro (shutdown : Bool) _
    refine ⟨_, rfl, ?_⟩
    cases shutdown with
    | true => exact ⟨hsince, .inl rfl⟩
    | false =>
      intro (now : Int) hclock
      refine ⟨_, if_pos hclock, ?_⟩
      change Paced interval (ite _ _ _) _ _
      split_ifs with hover
      · refine ⟨?_, .inr hover⟩
        change some (s.since.getD now) = some since
        rw [hsince]
        rfl
      · have hwait : 0 ≤ min (durationCastMilliseconds (since + interval - now)) 50 ∧
            min (durationCastMilliseconds (since + interval - now)) 50 ≤ 50 := by
          have hleft : 0 ≤ durationCastMilliseconds (since + interval - now) :=
            Int.tdiv_nonneg (sub_nonneg.mpr (not_le.mp hover).le) (by decide)
          omega
        intro _ _
        refine ⟨_, if_pos ⟨rfl, hwait⟩, ?_⟩
        apply ih
        change some (s.since.getD now) = some since
        rw [hsince]
        rfl

/-- A wait without a shutdown takes the whole interval. -/
lemma paced_waitForShutdown (timeout : Int) (passes : Nat) {s : Pace} (hsince : s.since = none) :
    Paced (timeout * nanosecondsPerMillisecond) (Gateway.waitForShutdown timeout passes)
      (fun shutdown s => shutdown = false →
        s.watched = true ∧ s.since.getD s.clock + timeout * nanosecondsPerMillisecond ≤ s.clock) s := by
  intro (now : Int) hclock
  refine ⟨_, if_pos hclock, ?_⟩
  apply obeys_bind (p := Gateway.awaitDeadline _ passes)
  have hstart : some (s.since.getD now) = some now := by
    rw [hsince]
    rfl
  apply obeys_mono (paced_awaitDeadline now passes hstart)
  intro _ s' hs' shutdown hpossible
  refine ⟨_, rfl, ?_⟩
  intro hshutdown
  change shutdown = false at hshutdown
  rw [hshutdown] at hpossible
  refine ⟨rfl, ?_⟩
  change s'.since.getD s'.clock + _ ≤ s'.clock
  rw [hs'.1]
  exact hs'.2.resolve_left (fun hrequested => Bool.false_ne_true (hpossible hrequested))

/-- The calls that the pace is about. -/
def Timed : MainOp → Prop
  | .steadyNow => True
  | .loadShutdown => True
  | .sleepFor _ => True
  | .flushCache => True
  | _ => False

lemma paced_updateDeviceObservability (s : Pace) :
    Paced interval Gateway.updateDeviceObservability (fun _ s' => s' = s) s := by
  have hquiet : Gateway.updateDeviceObservability.Avoids Timed :=
    ⟨id, fun _ => ⟨id, fun _ => ⟨id, fun _ => ⟨id, fun _ => ⟨id, fun _ => ⟨id, fun _ => ⟨id, fun _ => trivial⟩⟩⟩⟩⟩⟩⟩
  apply obeys_of_quiet (Q := fun _ s' => s' = s) hquiet _ (fun _ => rfl)
  intro o x ho
  cases o with
  | steadyNow | loadShutdown | sleepFor | flushCache => exact absurd trivial ho
  | status | log | printOut | printError | loadFile | clearShutdown | sigaction | createMqttClient | openSqlite |
    openFile | startHttp | stopHttp | startDevices | deviceStatuses | stopDevices | disconnectTcp | destroy |
    spin => rfl

lemma paced_retryLoop (timeout : Int) (inner passes : Nat) {s : Pace} (hsince : s.since = none) :
    Paced (timeout * nanosecondsPerMillisecond) (Gateway.retryLoop timeout inner passes) (fun _ _ => True) s := by
  induction passes generalizing s with
  | zero => exact fun x => x.elim
  | succ passes ih =>
    apply obeys_bind
    apply obeys_mono (paced_waitForShutdown timeout inner hsince)
    intro shutdown s' hs'
    cases shutdown with
    | true => trivial
    | false =>
      intro _ _
      refine ⟨_, if_pos (hs' rfl), ?_⟩
      apply obeys_bind (p := Gateway.updateDeviceObservability)
      apply obeys_mono (paced_updateDeviceObservability _)
      intro _ s'' hs''
      apply ih
      rw [hs'']

end

/-- However the main loop is interrupted, it has kept the pace: `n` flushes have taken at least `n` intervals. -/
theorem flushes_spaced (timeout : Int) (inner passes : Nat) (start : Int) (h : List (Event mainSignature))
    (hreach : Reaches (recording (Admits (Pace.next (timeout * nanosecondsPerMillisecond)) Pace.possible
      { clock := start })) (Gateway.retryLoop timeout inner passes) [] h) :
    ∃ s, Protocol.after (Pace.next (timeout * nanosecondsPerMillisecond)) { clock := start } h = some s ∧
      start + h.countP isFlush * (timeout * nanosecondsPerMillisecond) ≤ s.clock := by
  obtain ⟨s, hs⟩ := obeys_reaches (paced_retryLoop timeout inner passes rfl) rfl hreach
  have hspaced : Spaced (timeout * nanosecondsPerMillisecond) start h s := by
    apply Protocol.after_invariant _ _ hs
    · intro h s e s' hs hnext
      exact hs.next hnext
    · exact ⟨by simp, le_rfl⟩
  exact ⟨s, hs, hspaced.flushed.trans hspaced.waited⟩

/-- Each reading of the clock is 40 milliseconds after the last one, and the shutdown comes when 400 are over. -/
def paceAnswer (p : Pace) : (o : MainOp) → Option o.Ans
  | .steadyNow => some (p.clock + 40 * nanosecondsPerMillisecond)
  | .loadShutdown => some (p.requested || decide (400 * nanosecondsPerMillisecond ≤ p.clock))
  | .deviceStatuses => some [⟨7, .uart, true, 1700000000, 2⟩]
  | .status (.storeGauge _ _) => some ()
  | .status (.storeCount _ _) => some ()
  | .status (.replaceDeviceStatuses _) => some ()
  | .sleepFor _ => some ()
  | .flushCache => some ()
  | _ => none

lemma possible_of_paceAnswer {p : Pace} {o : MainOp} {x : o.Ans} (h : paceAnswer p o = some x) : p.possible o x := by
  cases o with
  | steadyNow =>
    cases h
    exact Int.le_add_of_nonneg_right (by decide)
  | loadShutdown =>
    cases h
    intro hrequested
    simp [hrequested]
  | status | log | printOut | printError | loadFile | clearShutdown | sigaction | createMqttClient | openSqlite |
    openFile | startHttp | stopHttp | flushCache | startDevices | deviceStatuses | stopDevices | disconnectTcp |
    destroy | sleepFor | spin => trivial

/-- The whole main loop with a retry interval of 100 milliseconds. -/
def pacedLoop : Option (Unit × List (Event mainSignature)) :=
  (Gateway.retryLoop 100 10 10).follow (fun h o =>
    ((Protocol.after (Pace.next (100 * nanosecondsPerMillisecond)) { clock := 0 } h).bind (fun p => paceAnswer p o)).map
      (fun x => (x, h ++ [⟨o, x⟩]))) []

def isSleep : Event mainSignature → Bool
  | ⟨.sleepFor _, _⟩ => true
  | _ => false

/-- Two flushes with two rests before each of them, and a shutdown after the next rest. -/
theorem flushes_spaced_twice :
    ∃ h : List (Event mainSignature), h.countP isFlush = 2 ∧ h.countP isSleep = 5 ∧
      ∃ s, Protocol.after (Pace.next (100 * nanosecondsPerMillisecond)) { clock := 0 } h = some s ∧
        s.clock = 400 * nanosecondsPerMillisecond ∧
        0 + h.countP isFlush * (100 * nanosecondsPerMillisecond) ≤ s.clock := by
  have hresult : pacedLoop.map (fun x => (x.2.countP isFlush, x.2.countP isSleep,
      (Protocol.after (Pace.next (100 * nanosecondsPerMillisecond)) { clock := 0 } x.2).map Pace.clock)) =
        some (2, 5, some (400 * nanosecondsPerMillisecond)) := by
    decide +kernel
  obtain ⟨⟨_, h⟩, hfollow, heq⟩ := Option.map_eq_some_iff.mp hresult
  simp only [Prod.mk.injEq] at heq
  obtain ⟨hflushes, hsleeps, hclock⟩ := heq
  have hexec : Exec (recording (Admits (Pace.next (100 * nanosecondsPerMillisecond)) Pace.possible { clock := 0 }))
      (Gateway.retryLoop 100 10 10) [] () h := by
    apply exec_of_follow _ hfollow
    intro h o x h' hanswer
    obtain ⟨x, hx, heq⟩ := Option.map_eq_some_iff.mp hanswer
    obtain ⟨p, hp, hx⟩ := Option.bind_eq_some_iff.mp hx
    cases heq
    refine ⟨?_, rfl⟩
    intro l hl
    cases hp.symm.trans hl
    exact possible_of_paceAnswer hx
  obtain ⟨s, hs, hspaced⟩ := flushes_spaced 100 10 10 0 h hexec.reaches
  refine ⟨h, hflushes, hsleeps, s, hs, ?_, hspaced⟩
  rw [hs] at hclock
  exact Option.some.inj hclock

end EdgeGateway
