import TelconetSentinel.DetectionLog

namespace TelconetSentinel

open BacktrackingPatterns BinaryFloats FallibleLists KeyedLists Measurement PythonText

/-- `str(n)`. Python refuses numbers with too many digits. -/
def integerText (n : ℤ) : Result String :=
  if 10 ^ maxStrDigits ≤ n.natAbs then
    .error (.valueError "Exceeds the limit (4300 digits) for integer string conversion")
  else .ok (toString n)

def StateBlock.requireMetric (block : StateBlock) : Result ℤ :=
  match block.ospfMetric with
  | some metric => .ok metric
  | none => .error (.keyError "ospf_metric")

/-- This log has an environment. Its parser looks at no BFD peers. -/
structure MeasurementScan extends LogScan where
  environment : Option LineFields := none

namespace MeasurementScan

open LogScan

def step (scan : MeasurementScan) (entry : List Char × ℕ) : Result MeasurementScan :=
  let (line, lineIndex) := entry
  if startsWith line "TELCONET_MEASUREMENT " then do return { scan with header := some (← lineFields line) }
  else if startsWith line "ENV " then do return { scan with environment := some (← lineFields line) }
  else if startsWith line "STATE_BEGIN " then do
    return { scan with toLogScan := scan.beginState ((← lineFields line).get "name") }
  else if startsWith line "STATE_END " then .ok { scan with activeState := none }
  else if startsWith line "EVENT " then do
    return { scan with toLogScan := ← scan.markEvent lineIndex (← lineFields line) }
  else do
    let replied ← scan.observeReply line lineIndex
    let summed ← replied.observeSummary line
    return { scan with toLogScan := ← summed.observeState line }

end MeasurementScan

def scanMeasurement (log : String) : Result MeasurementScan :=
  (splitlines log.toList).zipIdx.foldlM MeasurementScan.step {}

structure MeasuredLog where
  header : LineFields
  environment : LineFields
  baseline : StateBlock
  failover : StateBlock
  recovery : StateBlock
  down : EventMarker
  up : EventMarker
  pingSummary : PingSummary
  replies : List PingReply
  hash_known : (environment.get "configuration_sha256").isSome

namespace MeasurementScan

def missing (scan : MeasurementScan) : List String :=
  (if scan.header.isNone then ["header"] else []) ++
  (match scan.environment with
    | none => ["environment"]
    | some environment =>
      if (environment.get "configuration_sha256").isSome then [] else ["configuration hash"]) ++
  (if "baseline" ∈ scan.states.keys ∧ "failover" ∈ scan.states.keys ∧ "recovery" ∈ scan.states.keys then []
    else ["state blocks"]) ++
  (if "link_down" ∈ scan.events.keys ∧ "link_up" ∈ scan.events.keys then [] else ["event markers"]) ++
  (if scan.pingSummary.isNone ∨ scan.replies = [] then ["ping results"] else [])

def parts (scan : MeasurementScan) : Option MeasuredLog := do
  let header ← scan.header
  let environment ← scan.environment
  let baseline ← scan.states.get "baseline"
  let failover ← scan.states.get "failover"
  let recovery ← scan.states.get "recovery"
  let down ← scan.events.get "link_down"
  let up ← scan.events.get "link_up"
  let pingSummary ← scan.pingSummary
  if hhash : (environment.get "configuration_sha256").isSome then
    if scan.replies = [] then none
    else return ⟨header, environment, baseline.2, failover.2, recovery.2, down, up, pingSummary, scan.replies,
      hhash⟩
  else none

def complete (scan : MeasurementScan) : Result MeasuredLog :=
  match scan.parts with
  | some log => .ok log
  | none => .error (.valueError s!"measurement log is missing: {commaSeparated scan.missing}")

end MeasurementScan

/-- The first reply on the other path after the link went down, and the first reply on the old path after it
came up. -/
structure PathTransition (log : MeasuredLog) where
  baselineTtl : ℤ
  changed : PingReply
  restored : PingReply
  changed_ttl : changed.ttl ≠ baselineTtl
  restored_ttl : restored.ttl = baselineTtl
  failover_nonneg : 0 ≤ changed.timestampNs - log.down.epochNs
  recovery_nonneg : 0 ≤ restored.timestampNs - log.up.epochNs

structure MeasuredEnvironment where
  containerlab : String
  dockerEngine : String
  frr : String
  host : String
  configurationSha256 : String
  deriving DecidableEq, Repr

structure MeasuredPing where
  intervalMs : ℤ
  packetLossPercent : WithTop ℚ
  received : ℤ
  transmitted : ℤ

structure FailoverEvidence where
  state : StateBlock
  eventEpochNs : ℤ
  pathChangeUpperBoundMs : ℤ
  ping : MeasuredPing
  samplingEvidence : String
  bound_nonneg : 0 ≤ pathChangeUpperBoundMs

structure RecoveryEvidence where
  eventEpochNs : ℤ
  ospfMetric : ℤ
  path : List String
  pathReturnUpperBoundMs : ℤ
  samplingEvidence : String
  bound_nonneg : 0 ≤ pathReturnUpperBoundMs

structure MeasurementEvidence where
  baseline : StateBlock
  captureStartedAt : String
  environment : MeasuredEnvironment
  failover : FailoverEvidence
  recovery : RecoveryEvidence

def samplingEvidence (marker change : String) (epochNs baselineTtl : ℤ) (reply : PingReply) :
    Result String := do
  let epoch ← integerText epochNs
  let ttl ← integerText baselineTtl
  let sequence ← integerText reply.sequence
  let timestamp ← integerText reply.timestampNs
  return s!"{marker} marker at {epoch}; TTL {change} {ttl} at sequence {sequence} with reply timestamp {timestamp}"

namespace MeasuredLog

def repliesBeforeDown (log : MeasuredLog) : List PingReply :=
  log.replies.filter fun reply => reply.lineIndex < log.down.lineIndex

def repliesBetweenEvents (log : MeasuredLog) : List PingReply :=
  log.replies.filter fun reply => log.down.lineIndex < reply.lineIndex ∧ reply.lineIndex < log.up.lineIndex

def repliesAfterUp (log : MeasuredLog) : List PingReply :=
  log.replies.filter fun reply => log.up.lineIndex < reply.lineIndex

def transition (log : MeasuredLog) : Result (PathTransition log) :=
  match mostCommonTtl log.repliesBeforeDown, log.repliesBetweenEvents, log.repliesAfterUp with
  | none, _, _ | _, [], _ | _, _, [] =>
    .error (.valueError "measurement log is missing ping samples around event markers")
  | some baselineTtl, between, after =>
    match hchanged : between.find? fun reply => reply.ttl ≠ baselineTtl,
      hrestored : after.find? fun reply => reply.ttl = baselineTtl with
    | some changed, some restored =>
      if hdeltas : changed.timestampNs - log.down.epochNs < 0 ∨ restored.timestampNs - log.up.epochNs < 0 then
        .error (.valueError "measurement reply timestamps must follow their event markers")
      else .ok {
        baselineTtl := baselineTtl
        changed := changed
        restored := restored
        changed_ttl := by simpa using List.find?_some hchanged
        restored_ttl := by simpa using List.find?_some hrestored
        failover_nonneg := not_lt.mp fun h => hdeltas (.inl h)
        recovery_nonneg := not_lt.mp fun h => hdeltas (.inr h) }
    | _, _ => .error (.valueError "measurement log is missing an observable path transition")

def report (log : MeasuredLog) (intervalMs : ℤ) (transition : PathTransition log) :
    Result MeasurementEvidence := do
  let captureStartedAt ← log.header.require "capture_started_at"
  let containerlab ← log.environment.require "containerlab"
  let dockerEngine ← log.environment.require "docker_engine"
  let frr ← log.environment.require "frr"
  let host ← log.environment.require "host"
  let configurationSha256 ← log.environment.require "configuration_sha256"
  let changedText ←
    samplingEvidence "link-down" "changed from" log.down.epochNs transition.baselineTtl transition.changed
  let ospfMetric ← log.recovery.requireMetric
  let restoredText ←
    samplingEvidence "link-up" "returned to" log.up.epochNs transition.baselineTtl transition.restored
  return {
    baseline := log.baseline
    captureStartedAt := captureStartedAt
    environment := {
      containerlab := containerlab
      dockerEngine := dockerEngine
      frr := frr
      host := host.map fun c => if c = '_' then ' ' else c
      configurationSha256 := configurationSha256 }
    failover := {
      state := log.failover
      eventEpochNs := log.down.epochNs
      pathChangeUpperBoundMs := (transition.changed.timestampNs - log.down.epochNs + 999999) / 1000000
      ping := ⟨intervalMs, log.pingSummary.loss, log.pingSummary.received, log.pingSummary.sent⟩
      samplingEvidence := changedText
      bound_nonneg := Int.ediv_nonneg (by linarith only [transition.failover_nonneg]) (by norm_num) }
    recovery := {
      eventEpochNs := log.up.epochNs
      ospfMetric := ospfMetric
      path := log.recovery.path
      pathReturnUpperBoundMs := (transition.restored.timestampNs - log.up.epochNs + 999999) / 1000000
      samplingEvidence := restoredText
      bound_nonneg := Int.ediv_nonneg (by linarith only [transition.recovery_nonneg]) (by norm_num) } }

end MeasuredLog

def parseMeasurementLog (log : String) : Result MeasurementEvidence := do
  let complete ← (← scanMeasurement log).complete
  let intervalMs ← toInteger (← complete.header.require "ping_interval_ms").toList
  complete.report intervalMs (← complete.transition)

theorem MeasurementScan.parts_eq_none_iff (scan : MeasurementScan) : scan.parts = none ↔
    scan.missing ≠ [] := by
  simp only [parts, missing, Dict.mem_keys_iff, ne_eq, List.append_eq_nil_iff]
  cases scan.header
  · simp
  cases scan.environment
  · simp
  cases scan.states.get "baseline"
  · simp
  cases scan.states.get "failover"
  · simp
  cases scan.states.get "recovery"
  · simp
  cases scan.events.get "link_down"
  · simp
  cases scan.events.get "link_up"
  · simp
  cases scan.pingSummary
  · simp
  simp [Option.isSome_iff_ne_none]

end TelconetSentinel
