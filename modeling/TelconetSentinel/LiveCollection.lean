import TelconetSentinel.Library.BacktrackingPatterns
import TelconetSentinel.Library.BinaryFloats
import TelconetSentinel.Library.DocumentValues
import TelconetSentinel.Library.Interaction
import TelconetSentinel.Library.PythonText
import TelconetSentinel.LiveCollector

namespace TelconetSentinel

open BacktrackingPatterns BinaryFloats DocumentValues Interaction

namespace LiveCollection

structure Readings where
  bfdUp : Bool
  ospfFull : Bool
  routeMetric : Option ℤ
  deriving DecidableEq, Repr

inductive LiveCall
  | health
  | sample
  | startPing (container target : String)
  | getNowait
  | createRun (profile source target : String)
  | recordEvent (runId : String) (transition : LiveTransition)
  | getRun (runId : String)
  | runCommand (check : Bool) (command : List String)
  | monotonic
  | monotonicNs
  | sleep (seconds : ℚ)
  | print (text : String)
  | terminate
  | wait (timeoutSeconds : ℚ)
  | kill
  deriving DecidableEq

/-- An empty queue is answered with nothing, and a process that has not ended in time with `false`. -/
def LiveCall.Answer : LiveCall → Type
  | sample => Readings
  | getNowait => Option (String × ℤ)
  | createRun _ _ _ | getRun _ => Value
  | monotonic => ℚ
  | monotonicNs => ℤ
  | wait _ => Bool
  | health | startPing _ _ | recordEvent _ _ | runCommand _ _ | sleep _ | print _ | terminate | kill => Unit

inductive LiveError
  | runtimeError (message : String)
  | keyError (message : String)
  | valueError (message : String)
  | raised (message : String)
  deriving DecidableEq

abbrev LiveProgram (α : Type) := Program LiveCall LiveCall.Answer LiveError α

abbrev LiveEvent := Event LiveCall LiveCall.Answer LiveError

open Program (raise loop)

def ask (c : LiveCall) : LiveProgram c.Answer := .perform c

structure PingRecovery where
  sequence : ℤ
  observedNs : ℤ
  deriving DecidableEq

structure PingRecoveryTracker where
  lastSequence : Option ℤ := none
  injectedNs : Option ℤ := none

/-- `\d+\s+bytes from .+\b(?:icmp_)?seq=(\d+)`, where a letter follows the boundary, so that none is before
it. -/
def replyPattern (isWord : Char → Bool) : Pattern := .sequence
  [.oneOrMore PythonText.isDecimal, .oneOrMore PythonText.isSpace, .literal "bytes from ".toList,
    .many (· != '\n'), .one fun c => c != '\n' && !isWord c, .optional (.literal "icmp_".toList),
    .literal "seq=".toList, .capture "seq" (.oneOrMore PythonText.isDecimal)]

/-- `\b` before the pattern and behind it, at a place with the character `before` in front of it. -/
def searchReply (isWord : Char → Bool) (before : Option Char) : List Char → Option Success
  | [] => none
  | c :: text =>
    if before.any isWord then searchReply isWord (some c) text
    else
      (((replyPattern isWord).successes (c :: text)).find? fun found => !found.rest.head?.any isWord).or
        (searchReply isWord (some c) text)

namespace PingRecoveryTracker

variable (isWord : Char → Bool) (tracker : PingRecoveryTracker)

def observeReply (line : String) (observedNs : ℤ) : LiveProgram (Option PingRecovery × PingRecoveryTracker) :=
  match searchReply isWord none line.toList with
  | none => pure (none, tracker)
  | some found =>
    match PythonText.integer (found.group "seq") with
    | none => raise (.valueError "Exceeds the limit for integer string conversion")
    | some sequence =>
      let seen := { tracker with lastSequence := some sequence }
      match tracker.injectedNs with
      | none => pure (none, seen)
      | some injectedNs => pure (if observedNs < injectedNs then none else some ⟨sequence, observedNs⟩, seen)

def markInjected (observedNs : ℤ) : PingRecoveryTracker := { tracker with injectedNs := some observedNs }

end PingRecoveryTracker

structure Settings where
  clientContainer : String
  faultContainer : String
  faultInterface : String
  source : String
  target : String
  timeoutSeconds : ℚ
  pollIntervalSeconds : ℚ

namespace Settings

variable (settings : Settings)

def tc (arguments : List String) : List String := ["docker", "exec", settings.faultContainer, "tc"] ++
    arguments

def addQdisc : List String := settings.tc ["qdisc", "add", "dev", settings.faultInterface, "clsact"]

def addFilter : List String := settings.tc ["filter", "add", "dev", settings.faultInterface, "ingress",
    "protocol", "all",
  "pref", "1", "flower", "action", "drop"]

def deleteQdisc : List String := settings.tc ["qdisc", "del", "dev", settings.faultInterface, "clsact"]

end Settings

def liveEvents : Finset String := {"bfd_down", "ospf_neighbor_down", "route_failover", "data_plane_recovered"}

structure Progress where
  tracker : PingRecoveryTracker
  detector : LiveTransitionDetector := {}
  recorded : Finset String := ∅

-- The characters of `\w`, and `str(value)`. The loops are cut off after `rounds`.
variable (isWord : Char → Bool) (str : Value → String) (rounds : ℕ) (settings : Settings)

def drainRound (drained : Option PingRecovery × PingRecoveryTracker) :
    LiveProgram (Option PingRecovery × PingRecoveryTracker ⊕ Option PingRecovery × PingRecoveryTracker) := do
  let answer : Option (String × ℤ) ← ask .getNowait
  match answer with
  | none => return .inr drained
  | some (line, observedNs) =>
    let (detected, tracker) ← drained.2.observeReply isWord line observedNs
    return .inl (detected.or drained.1, tracker)

def drainPing (tracker : PingRecoveryTracker) : LiveProgram (Option PingRecovery × PingRecoveryTracker) :=
  loop (drainRound isWord) rounds (none, tracker)

def baselineRound (deadline : ℚ) (tracker : PingRecoveryTracker) :
    LiveProgram (PingRecoveryTracker ⊕ PingRecoveryTracker) := do
  let now : ℚ ← ask .monotonic
  if now < deadline then
    let (_, tracker) ← drainPing isWord rounds tracker
    if tracker.lastSequence.isSome then return .inr tracker
    else
      ask (.sleep (double (5 / 100)))
      return .inl tracker
  else raise (.runtimeError "ICMP baseline was not observed before fault injection")

def waitForPingBaseline (timeoutSeconds : ℚ := 5) : LiveProgram PingRecoveryTracker := do
  let started : ℚ ← ask .monotonic
  loop (baselineRound isWord rounds (double (started + timeoutSeconds))) rounds {}

def probeSample (icmpSequence : Option ℤ) : LiveProgram LiveSample := do
  let readings : Readings ← ask .sample
  return ⟨readings.bfdUp, readings.ospfFull, readings.routeMetric, icmpSequence⟩

def report (runId : String) : List LiveTransition → Finset String → LiveProgram (Finset String)
  | [], recorded => pure recorded
  | transition :: transitions, recorded => do
    ask (.recordEvent runId transition)
    ask (.print s!"LIVE_EVENT event={transition.event} offset_ms={transition.offsetMs}")
    report runId transitions (insert transition.event recorded)

/-- `max(0, round((ns - fault_ns) / 1_000_000))` -/
def offsetMs (faultNs ns : ℤ) : ℤ := max 0 (roundHalfEven (double ((ns - faultNs) / 1000000)))

def timedOut (recorded : Finset String) : LiveError :=
  .runtimeError ("live convergence timed out; missing events: " ++
    ", ".intercalate ((liveEvents \ recorded).sort (· ≤ ·)))

def finish (runId : String) : LiveProgram Value := do
  let result : Value ← ask (.getRun runId)
  if (result.getD "status" .null).pyEq (.str "complete") then return result
  else raise (.runtimeError "live API did not mark the convergence run complete")

def pollRound (runId : String) (faultNs : ℤ) (deadline : ℚ) (progress : Progress) :
    LiveProgram (Progress ⊕ Value) := do
  let now : ℚ ← ask .monotonic
  if now < deadline then
    let (recovery, tracker) ← drainPing isWord rounds progress.tracker
    let sample ← probeSample (recovery.map PingRecovery.sequence)
    let ns : ℤ ← ask .monotonicNs
    let observed := progress.detector.observe sample (offsetMs faultNs ns)
    let recorded ← report runId observed.1 progress.recorded
    if recorded = liveEvents then return .inr (← finish runId)
    else
      ask (.sleep settings.pollIntervalSeconds)
      return .inl ⟨tracker, observed.2, recorded⟩
  else raise (timedOut progress.recorded)

/-- `str(run["id"])` -/
def runIdOf (run : Value) : LiveProgram String :=
  match run.get "id" with
  | none => raise (.keyError "id")
  | some id => pure (str id)

def injectAndPoll : LiveProgram Value := do
  let tracker ← waitForPingBaseline isWord rounds
  let run : Value ← ask (.createRun "bfd_100x3" settings.source settings.target)
  let runId ← runIdOf str run
  ask (.runCommand true settings.addQdisc)
  let faultNs : ℤ ← ask .monotonicNs
  ask (.runCommand true settings.addFilter)
  ask (.recordEvent runId { event := "blackhole_injected", offsetMs := 0 })
  let started : ℚ ← ask .monotonic
  let deadline := double (started + settings.timeoutSeconds)
  loop (pollRound isWord rounds settings runId faultNs deadline) rounds
    { tracker := tracker.markInjected faultNs }

def cleanup : LiveProgram Unit := do
  ask (.runCommand false settings.deleteQdisc)
  ask .terminate
  let ended : Bool ← ask (.wait 2)
  if ended then return
  else ask .kill

def collectLiveConvergence : LiveProgram Value := do
  ask .health
  let baseline ← probeSample none
  if !baseline.bfdUp || !baseline.ospfFull || baseline.routeMetric != some 30 then
    raise (.runtimeError "live baseline requires BFD up, OSPF Full, and service route metric 30")
  else
    ask (.startPing settings.clientContainer settings.target)
    (injectAndPoll isWord str rounds settings).tryFinally (cleanup settings)

end LiveCollection

end TelconetSentinel
