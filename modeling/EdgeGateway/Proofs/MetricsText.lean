import EdgeGateway.Lib.Exposition
import EdgeGateway.Proofs.HttpRequests

/-!
# The text of the metrics

A scraper of `/metrics` gets every metric once, under its own name, with the value that was loaded for it.
-/

namespace EdgeGateway
open CallTree

/-- The call that loads a metric. -/
def Metric.op : Metric → StatusOp
  | .uptimeSeconds => .monotonicSeconds
  | .gauge g => .loadGauge g
  | .counter c => .loadCounter c

/-- The value of a metric according to the call that loaded it. -/
def loadedValue (startedAtSeconds : UInt64) : Event statusSignature → Nat
  | ⟨.monotonicSeconds, now⟩ => (show UInt64 from now - startedAtSeconds).toNat
  | ⟨.loadGauge _, value⟩ => value
  | ⟨.loadCounter _, value⟩ => value
  | _ => 0

/-- What a scraper should find for a family. -/
def MetricFamily.exposed (family : MetricFamily) (value : Nat) : Exposition.Family :=
  ⟨family.name, family.type, family.help, value⟩

namespace RuntimeMetrics

lemma writeMetric_eq_render (family : MetricFamily) (value : Nat) :
    writeMetric family value = (family.exposed value).render decimal := by
  have hhelp : ascii "# HELP " = Exposition.helpMark := rfl
  have htype : ascii "# TYPE " = Exposition.typeMark := rfl
  have hspace : ascii " " = [32] := rfl
  have hnewline : ascii "\n" = [10] := rfl
  unfold writeMetric
  simp only [hhelp, htype, hspace, hnewline, MetricFamily.exposed, Exposition.Family.render, Exposition.Family.lines,
    Exposition.Line.render, List.flatMap_cons, List.flatMap_nil, List.append_nil, List.append_assoc]

variable {ok : List (Event statusSignature) → (o : StatusOp) → o.Ans → Prop}

/-- One load, which is remembered. -/
lemma wp_load (startedAtSeconds : UInt64) (metric : Metric) (h : List (Event statusSignature)) :
    wp (recording ok) (load startedAtSeconds metric)
      (fun value h' => ∃ e, h' = h ++ [e] ∧ e.1 = metric.op ∧ value = loadedValue startedAtSeconds e) h := by
  cases metric with
  | uptimeSeconds =>
    rintro now h' ⟨-, rfl⟩
    exact ⟨⟨.monotonicSeconds, now⟩, rfl, rfl, rfl⟩
  | gauge g =>
    rintro value h' ⟨-, rfl⟩
    exact ⟨⟨.loadGauge g, value⟩, rfl, rfl, rfl⟩
  | counter c =>
    rintro value h' ⟨-, rfl⟩
    exact ⟨⟨.loadCounter c, value⟩, rfl, rfl, rfl⟩

/-- The families are written one after the other, each with the value that was loaded for it. -/
lemma wp_renderFamilies (startedAtSeconds : UInt64) (families : List MetricFamily) (h : List (Event statusSignature)) :
    wp (recording ok) (renderFamilies startedAtSeconds families)
      (fun text h' => ∃ loads : List (Event statusSignature), h' = h ++ loads ∧
        loads.map Sigma.fst = families.map (fun family => family.metric.op) ∧
        text = (List.zipWith (fun family e => family.exposed (loadedValue startedAtSeconds e)) families loads).flatMap
          (Exposition.Family.render decimal)) h := by
  induction families generalizing h with
  | nil => exact ⟨[], (List.append_nil h).symm, rfl, rfl⟩
  | cons family families ih =>
    rw [renderFamilies, wp_bind]
    apply wp_mono _ (wp_load startedAtSeconds family.metric h)
    rintro value h' ⟨e, rfl, hop, hvalue⟩
    rw [wp_bind]
    apply wp_mono _ (ih (h ++ [e]))
    rintro text h' ⟨loads, rfl, hops, rfl⟩
    refine ⟨e :: loads, by simp, by rw [List.map_cons, List.map_cons, hop, hops], ?_⟩
    rw [writeMetric_eq_render, hvalue, List.zipWith_cons_cons, List.flatMap_cons]

lemma wellFormed_families : ∀ family ∈ families, ∀ value, (family.exposed value).WellFormed := by
  have hfamilies : ∀ family ∈ families, (10 ∉ family.name ∧ 32 ∉ family.name ∧ 35 ∉ family.name) ∧
      10 ∉ family.type ∧ 10 ∉ family.help := by decide +kernel
  intro family hfamily value
  have hfree := hfamilies family hfamily
  exact ⟨hfree.1, hfree.2.1, hfree.2.2⟩

lemma nodup_names : (families.map MetricFamily.name).Nodup := by decide +kernel

lemma mem_zipWith {α β γ : Type} {f : α → β → γ} {l : List α} {m : List β} {c : γ} (h : c ∈ List.zipWith f l m) :
    ∃ a ∈ l, ∃ b, c = f a b := by
  induction l generalizing m with
  | nil => cases h
  | cons a l ih =>
    cases m with
    | nil => cases h
    | cons b m =>
      rw [List.zipWith_cons_cons, List.mem_cons] at h
      rcases h with rfl | h
      · exact ⟨a, List.mem_cons_self, b, rfl⟩
      · obtain ⟨a', ha', b', rfl⟩ := ih h
        exact ⟨a', List.mem_cons_of_mem a ha', b', rfl⟩

/-- No member of the metrics is left out. -/
lemma mem_families (metric : Metric) : metric ∈ families.map MetricFamily.metric := by
  cases metric with
  | uptimeSeconds => decide
  | gauge g => cases g <;> decide
  | counter c => cases c <;> decide

/-- Reading the text of `render_prometheus` gives every metric once and under a name of its own, with its type, its
help and the value that was loaded for it. -/
theorem renderPrometheus_reads_back {startedAtSeconds : UInt64} {text : Text} {loads : List (Event statusSignature)}
    (hrun : Exec (recording ok) (renderPrometheus startedAtSeconds) [] text loads) :
    (∀ metric, metric ∈ families.map MetricFamily.metric) ∧ (families.map MetricFamily.metric).Nodup ∧
      (families.map MetricFamily.name).Nodup ∧
      loads.map Sigma.fst = families.map (fun family => family.metric.op) ∧
      Exposition.parse text =
        some (List.zipWith (fun family e => family.exposed (loadedValue startedAtSeconds e)) families loads) := by
  unfold renderPrometheus at hrun
  have hwp := @wp_renderFamilies ok startedAtSeconds families []
  rw [wp_iff_exec] at hwp
  have hwritten := hwp text loads hrun
  obtain ⟨loads', hloads, hops, rfl⟩ := hwritten
  rw [List.nil_append] at hloads
  subst hloads
  refine ⟨mem_families, by decide, nodup_names, hops, ?_⟩
  apply Exposition.parse_render
  · intro n
    exact ⟨number_decimal n, not_mem_decimal (.inl (by decide)) n⟩
  · intro f hf
    obtain ⟨family, hfamily, e, rfl⟩ := mem_zipWith hf
    exact wellFormed_families family hfamily _

/-- A gateway that has been up for 7 seconds and where every metric is 3. -/
def sevenSeconds (h : List (Event statusSignature)) (o : StatusOp) : o.Ans × List (Event statusSignature) :=
  let answer : o.Ans :=
    match o with
    | .loadFlag _ => true
    | .storeFlag _ _ => ()
    | .loadCount _ => (3 : Nat)
    | .storeCount _ _ => ()
    | .copyDeviceStatuses => []
    | .replaceDeviceStatuses _ => ()
    | .loadCounter _ => (3 : Nat)
    | .loadGauge _ => (3 : Nat)
    | .storeGauge _ _ => ()
    | .monotonicSeconds => (107 : UInt64)
  (answer, h ++ [⟨o, answer⟩])

theorem renderPrometheus_reads_back_seven :
    ∃ text loads, Exec (recording (fun _ _ _ => True)) (renderPrometheus 100) [] text loads ∧
      Exposition.parse text = some (families.map (fun family =>
        family.exposed (if family.metric = .uptimeSeconds then 7 else 3))) := by
  have hanswer : ∀ h o, recording (fun _ _ _ => True) h o (sevenSeconds h o).1 (sevenSeconds h o).2 :=
    fun _ _ => ⟨trivial, rfl⟩
  have hrun := exec_run hanswer (renderPrometheus 100) []
  exact ⟨_, _, hrun, (renderPrometheus_reads_back hrun).2.2.2.2⟩

end RuntimeMetrics

end EdgeGateway
