import TelconetSentinel.Convergence
import TelconetSentinel.Library.GatedStages

namespace TelconetSentinel

open GatedStages

structure LiveSample where
  bfdUp : Bool
  ospfFull : Bool
  routeMetric : Option ℤ
  icmpSequence : Option ℤ := none
  deriving DecidableEq, Repr

structure LiveTransition where
  event : String
  offsetMs : ℤ
  routeMetric : Option ℤ := none
  icmpSequence : Option ℤ := none
  deriving DecidableEq, Repr

structure LiveTransitionDetector where
  failoverMetric : ℤ := 140
  recorded : Finset String := ∅

structure Observation where
  sample : LiveSample
  offsetMs : ℤ
  deriving DecidableEq, Repr

namespace LiveTransitionDetector

def candidates (failoverMetric : ℤ) (sample : LiveSample) (offsetMs : ℤ) : List (Bool × LiveTransition) :=
  [(!sample.bfdUp, { event := "bfd_down", offsetMs }),
    (!sample.ospfFull, { event := "ospf_neighbor_down", offsetMs }),
    (sample.routeMetric == some failoverMetric,
      { event := "route_failover", offsetMs, routeMetric := sample.routeMetric }),
    (sample.icmpSequence.isSome,
      { event := "data_plane_recovered", offsetMs, icmpSequence := sample.icmpSequence })]

def observeLoop : List (Bool × LiveTransition) → Finset String → List LiveTransition × Finset String
  | [], recorded => ([], recorded)
  | (observed, candidate) :: rest, recorded =>
    if candidate.event ∈ recorded then observeLoop rest recorded
    else if observed then
      let (transitions, recorded) := observeLoop rest (insert candidate.event recorded)
      (candidate :: transitions, recorded)
    else ([], recorded)

def observe (d : LiveTransitionDetector) (sample : LiveSample) (offsetMs : ℤ) :
    List LiveTransition × LiveTransitionDetector :=
  let (transitions, recorded) := observeLoop (candidates d.failoverMetric sample offsetMs) d.recorded
  (transitions, { d with recorded })

def detect (d : LiveTransitionDetector) : List Observation → List LiveTransition
  | [] => []
  | o :: observations =>
    let (transitions, d) := d.observe o.sample o.offsetMs
    transitions ++ d.detect observations

end LiveTransitionDetector

def liveStages : List ConvergenceEventKind :=
  [.bfdDown, .ospfNeighborDown, .routeFailover, .dataPlaneRecovered]

def stageHolds (failoverMetric : ℤ) : ConvergenceEventKind → Observation → Bool
  | .blackholeInjected, _ => false
  | .bfdDown, o => !o.sample.bfdUp
  | .ospfNeighborDown, o => !o.sample.ospfFull
  | .routeFailover, o => o.sample.routeMetric == some failoverMetric
  | .dataPlaneRecovered, o => o.sample.icmpSequence.isSome

def stageTransition (entry : ConvergenceEventKind × Observation) : LiveTransition where
  event := entry.1.value
  offsetMs := entry.2.offsetMs
  routeMetric := if entry.1 = .routeFailover then entry.2.sample.routeMetric else none
  icmpSequence := if entry.1 = .dataPlaneRecovered then entry.2.sample.icmpSequence else none

namespace LiveTransitionDetector

def stageCandidate (failoverMetric : ℤ) (o : Observation) (stage : ConvergenceEventKind) :
    Bool × LiveTransition :=
  (stageHolds failoverMetric stage o, stageTransition (stage, o))

theorem candidates_eq (failoverMetric : ℤ) (o : Observation) :
    candidates failoverMetric o.sample o.offsetMs = liveStages.map (stageCandidate failoverMetric o) := rfl

structure Latched (recorded : Finset String) (done left : List ConvergenceEventKind) : Prop where
  stages : done ++ left = liveStages
  done_mem : ∀ stage ∈ done, stage.value ∈ recorded
  left_not_mem : ∀ stage ∈ left, stage.value ∉ recorded

variable (failoverMetric : ℤ) (o : Observation) {recorded : Finset String}
  {done left : List ConvergenceEventKind}

theorem observeLoop_done (hdone : ∀ stage ∈ done, stage.value ∈ recorded)
    (rest : List (Bool × LiveTransition)) :
    observeLoop (done.map (stageCandidate failoverMetric o) ++ rest) recorded =
      observeLoop rest recorded := by
  induction done with
  | nil => rfl
  | cons stage done ih =>
    rw [List.forall_mem_cons] at hdone
    change (if stage.value ∈ recorded then _ else _) = _
    rw [if_pos hdone.1]
    exact ih hdone.2

theorem observeLoop_cons (stage : ConvergenceEventKind) (hnew : stage.value ∉ recorded) :
    observeLoop ((stage :: left).map (stageCandidate failoverMetric o)) recorded =
      if stageHolds failoverMetric stage o then
        (stageTransition (stage, o) ::
            (observeLoop (left.map (stageCandidate failoverMetric o)) (insert stage.value recorded)).1,
          (observeLoop (left.map (stageCandidate failoverMetric o)) (insert stage.value recorded)).2)
      else ([], recorded) := by
  change (if stage.value ∈ recorded then _ else _) = _
  rw [if_neg hnew]
  rfl

theorem Latched.record {stage : ConvergenceEventKind} (h : Latched recorded done (stage :: left)) :
    Latched (insert stage.value recorded) (done ++ [stage]) left := by
  have hnodup : (done ++ stage :: left).Nodup := by
    rw [h.stages]
    decide
  have hnot : stage ∉ left := (List.nodup_cons.mp (List.nodup_append.mp hnodup).2.1).1
  refine ⟨?_, fun s hs => ?_, fun s hs hmem => ?_⟩
  · rw [List.append_assoc]
    exact h.stages
  · rcases List.mem_append.mp hs with hs | hs
    · exact Finset.mem_insert_of_mem (h.done_mem s hs)
    · rw [List.mem_singleton.mp hs]
      exact Finset.mem_insert_self _ _
  · rcases Finset.mem_insert.mp hmem with hsame | hmem
    · exact hnot (ConvergenceEventKind.value_injective hsame ▸ hs)
    · exact h.left_not_mem s (List.mem_cons_of_mem _ hs) hmem

/-- The loop records the stages left one by one, up to the first that does not hold. -/
theorem observeLoop_left (hlatched : Latched recorded done left) :
    (observeLoop (left.map (stageCandidate failoverMetric o)) recorded).1 =
        (left.takeWhile (stageHolds failoverMetric · o)).map (fun stage => stageTransition (stage, o)) ∧
      Latched (observeLoop (left.map (stageCandidate failoverMetric o)) recorded).2
        (done ++ left.takeWhile (stageHolds failoverMetric · o))
          (left.dropWhile (stageHolds failoverMetric · o)) := by
  induction left generalizing recorded done with
  | nil =>
    refine ⟨rfl, ?_⟩
    simpa [observeLoop] using hlatched
  | cons stage left ih =>
    rw [observeLoop_cons failoverMetric o stage (hlatched.left_not_mem stage List.mem_cons_self)]
    by_cases hholds : stageHolds failoverMetric stage o
    · obtain ⟨htransitions, hrecorded⟩ := ih hlatched.record
      rw [List.append_assoc] at hrecorded
      simp only [List.takeWhile_cons, List.dropWhile_cons, hholds, if_true, List.map_cons, htransitions]
      exact ⟨trivial, hrecorded⟩
    · simp only [List.takeWhile_cons, List.dropWhile_cons, if_neg hholds, List.map_nil, List.append_nil]
      exact ⟨trivial, hlatched⟩

theorem detect_cascade (observations : List Observation) (hlatched : Latched recorded done left) :
    detect ⟨failoverMetric, recorded⟩ observations =
      (cascade (stageHolds failoverMetric) left observations).map stageTransition := by
  induction observations generalizing recorded done left with
  | nil => rw [cascade_no_samples, detect, List.map_nil]
  | cons o observations ih =>
    have hcandidates : candidates failoverMetric o.sample o.offsetMs =
        done.map (stageCandidate failoverMetric o) ++ left.map (stageCandidate failoverMetric o) := by
      rw [candidates_eq, ← hlatched.stages, List.map_append]
    have hloop := observeLoop_done failoverMetric o hlatched.done_mem
      (left.map (stageCandidate failoverMetric o))
    obtain ⟨htransitions, hrecorded⟩ := observeLoop_left failoverMetric o hlatched
    rw [detect, observe, hcandidates, hloop, cascade_sample, List.map_append, ← ih hrecorded, List.map_map]
    exact congrArg (· ++ _) htransitions

theorem detect_fresh (failoverMetric : ℤ) (observations : List Observation) :
    detect { failoverMetric } observations =
      (cascade (stageHolds failoverMetric) liveStages observations).map stageTransition := by
  have hlatched : Latched ∅ [] liveStages := ⟨rfl, by simp, by simp⟩
  exact detect_cascade failoverMetric observations hlatched

end LiveTransitionDetector

end TelconetSentinel
