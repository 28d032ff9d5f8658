import TelconetSentinel.Library.BacktrackingPatterns
import TelconetSentinel.Library.BinaryFloats
import TelconetSentinel.Library.FallibleLists
import TelconetSentinel.Library.KeyedLists
import TelconetSentinel.Library.PythonText
import TelconetSentinel.Models

namespace TelconetSentinel

open BacktrackingPatterns BinaryFloats FallibleLists KeyedLists PythonText

namespace Measurement

def digits : Pattern := .oneOrMore isDecimal

def spaces : Pattern := .oneOrMore isSpace

def nonSpaces : Pattern := .oneOrMore fun c => !isSpace c

def anything : Pattern := .many (· != '\n')

def digitsAndPoints : Pattern := .oneOrMore fun c => isDecimal c || c == '.'

def text (literal : String) : Pattern := .literal literal.toList

def pingReply : Pattern := .sequence [text "[", .capture "seconds" digits, text ".",
    .capture "fraction" digits, text "]",
  anything, text "icmp_seq=", .capture "seq" digits, text " ttl=", .capture "ttl" digits, text " time=",
  .capture "time" digitsAndPoints, text " ms"]

def pingSummary : Pattern := .sequence [.capture "sent" digits, text " packets transmitted, ",
    .capture "received" digits,
  text " ", .optional (text "packets "), text "received, ",
  .optional (.sequence [text "+", digits, text " error", .optional (text "s"), text ", "]),
  .capture "loss" digitsAndPoints, text "% packet loss"]

def routeMetric : Pattern := .sequence [text "Known via \"ospf\"", anything, text " metric ",
    .capture "metric" digits,
  text ","]

def traceHop : Pattern := .sequence [.many isSpace, digits, spaces,
  .capture "address" (.sequence [digits, text ".", digits, text ".", digits, text ".", digits]), .one isSpace]

def anyCase (literal : String) : Pattern :=
  .sequence (literal.toList.map fun c => .one fun d => d.toLower == c)

def bfdPeerRow : Pattern := .sequence [.many isSpace, digits, spaces, nonSpaces, spaces,
    .capture "peer" nonSpaces, spaces,
  .capture "status" (.either (anyCase "up") (anyCase "down")), spaces]

def toInteger (text : List Char) : Result ℤ :=
  match integer text with
  | some n => .ok n
  | none => .error (.valueError "invalid literal for int() with base 10")

/-- The fields of a line in their order. Of two with one name the later counts. -/
abbrev LineFields := List (String × String)

def LineFields.get (fields : LineFields) (name : String) : Option String :=
  (fields.reverse.find? fun field => field.1 = name).map Prod.snd

/-- `header[name]` -/
def LineFields.require (fields : LineFields) (name : String) : Result String :=
  match fields.get name with
  | some value => .ok value
  | none => .error (.keyError name)

def lineFields (line : List Char) : Result LineFields :=
  match shlexSplit line with
  | .error message => .error (.valueError message)
  | .ok tokens => .ok (tokens.tail.filterMap fun token =>
      (partition '=' token).map fun field => (String.ofList field.1, String.ofList field.2))

def timestampNs (seconds fraction : List Char) : Result ℤ := do
  let nanoseconds := (fraction ++ List.replicate 9 '0').take 9
  return (← toInteger seconds) * 1000000000 + (← toInteger nanoseconds)

end Measurement

open Measurement

structure StateBlock where
  path : List String := []
  ospfMetric : Option ℤ := none
  deriving DecidableEq, Repr

structure PingReply where
  lineIndex : ℕ
  sequence : ℤ
  ttl : ℤ
  timestampNs : ℤ
  deriving DecidableEq, Repr

def PingReply.read (lineIndex : ℕ) (found : Success) : Result PingReply := do
  let sequence ← toInteger (found.group "seq")
  let ttl ← toInteger (found.group "ttl")
  return ⟨lineIndex, sequence, ttl, ← Measurement.timestampNs (found.group "seconds")
    (found.group "fraction")⟩

structure EventMarker where
  type : String
  lineIndex : ℕ
  epochNs : ℤ
  deriving DecidableEq, Repr

/-- The loss is the float of a text of digits and points, which has no sign. -/
structure PingSummary where
  sent : ℤ
  received : ℤ
  loss : WithTop ℚ
  loss_isDouble : IsDouble loss

structure LogScan where
  header : Option LineFields := none
  states : Dict (Prod.fst : String × StateBlock → String) := Dict.empty _
  activeState : Option String := none
  replies : List PingReply := []
  events : Dict EventMarker.type := Dict.empty _
  pingSummary : Option PingSummary := none
  bfdPeerUp : Bool := false

namespace LogScan

/-- An empty name is no active state. -/
def beginState (scan : LogScan) (name : Option String) : LogScan :=
  match name with
  | some name =>
    if name = "" then { scan with activeState := none }
    else { scan with activeState := some name, states := scan.states.assign (name, {}) }
  | none => { scan with activeState := none }

def markEvent (scan : LogScan) (lineIndex : ℕ) (fields : LineFields) : Result LogScan :=
  match fields.get "type", fields.get "epoch_ns" with
  | some type, some epochNs =>
    if type = "" ∨ epochNs = "" then .ok scan
    else do return { scan with events := scan.events.assign ⟨type, lineIndex, ← toInteger epochNs.toList⟩ }
  | _, _ => .ok scan

def observeBfdPeer (line : List Char) (scan : LogScan) : LogScan :=
  match bfdPeerRow.matchStart line with
  | some found =>
    if found.group "peer" = "10.0.1.1".toList then
      { scan with bfdPeerUp := (found.group "status").map Char.toLower = "up".toList }
    else scan
  | none => scan

def observeReply (line : List Char) (lineIndex : ℕ) (scan : LogScan) : Result LogScan :=
  match pingReply.matchStart line with
  | some found => do return { scan with replies := scan.replies ++ [← PingReply.read lineIndex found] }
  | none => .ok scan

def observeSummary (line : List Char) (scan : LogScan) : Result LogScan :=
  match Measurement.pingSummary.search line with
  | some found => do
    let sent ← toInteger (found.group "sent")
    let received ← toInteger (found.group "received")
    match hloss : decimalFraction (found.group "loss") with
    | some loss =>
      let hdouble := isDouble_nonnegativeFloat (decimalFraction_nonneg hloss)
      return { scan with pingSummary := some ⟨sent, received, nonnegativeFloat loss, hdouble⟩ }
    | none => .error (.valueError "could not convert string to float")
  | none => .ok scan

def updateState (name : String) (update : StateBlock → StateBlock) (scan : LogScan) : Result LogScan :=
  match scan.states.get name with
  | some block => .ok { scan with states := scan.states.assign (name, update block.2) }
  | none => .error (.keyError name)

def observeMetric (name : String) (line : List Char) (scan : LogScan) : Result LogScan :=
  match routeMetric.search line with
  | some found => do
    let metric ← toInteger (found.group "metric")
    scan.updateState name fun block => { block with ospfMetric := some metric }
  | none => .ok scan

def observeHop (name : String) (line : List Char) (scan : LogScan) : Result LogScan :=
  match traceHop.matchStart line with
  | some found =>
    scan.updateState name fun block =>
      { block with path := block.path ++ [String.ofList (found.group "address")] }
  | none => .ok scan

def observeState (line : List Char) (scan : LogScan) : Result LogScan :=
  match scan.activeState with
  | some name => do (← scan.observeMetric name line).observeHop name line
  | none => .ok scan

def startsWith (line : List Char) (start : String) : Bool := start.toList.isPrefixOf line

def step (scan : LogScan) (entry : List Char × ℕ) : Result LogScan :=
  let (line, lineIndex) := entry
  if startsWith line "TELCONET_DETECTION_MEASUREMENT " then do
    return { scan with header := some (← lineFields line) }
  else if startsWith line "STATE_BEGIN " then do return scan.beginState ((← lineFields line).get "name")
  else if startsWith line "STATE_END " then .ok { scan with activeState := none }
  else if startsWith line "EVENT " then do scan.markEvent lineIndex (← lineFields line)
  else do
    let scan ← (scan.observeBfdPeer line).observeReply line lineIndex
    let scan ← scan.observeSummary line
    scan.observeState line

end LogScan

def replyOf (entry : List Char × ℕ) : Option PingReply := do
  let found ← pingReply.matchStart entry.1
  (PingReply.read entry.2 found).toOption

def scanLog (log : String) : Result LogScan := (splitlines log.toList).zipIdx.foldlM LogScan.step {}

structure CompleteLog where
  header : LineFields
  baseline : StateBlock
  failover : StateBlock
  start : EventMarker
  stop : EventMarker
  pingSummary : PingSummary
  replies : List PingReply
  bfdPeerUp : Bool

namespace LogScan

def missing (scan : LogScan) : List String :=
  (if scan.header.isNone then ["header"] else []) ++
  (if "baseline" ∈ scan.states.keys ∧ "failover" ∈ scan.states.keys then [] else ["state blocks"]) ++
  (if "blackhole_start" ∈ scan.events.keys ∧ "blackhole_end" ∈ scan.events.keys then [] else
    ["event markers"]) ++
  (if scan.pingSummary.isNone ∨ scan.replies = [] then ["ping results"] else [])

def parts (scan : LogScan) : Option CompleteLog := do
  let header ← scan.header
  let baseline ← scan.states.get "baseline"
  let failover ← scan.states.get "failover"
  let start ← scan.events.get "blackhole_start"
  let stop ← scan.events.get "blackhole_end"
  let pingSummary ← scan.pingSummary
  if scan.replies = [] then none
  else return ⟨header, baseline.2, failover.2, start, stop, pingSummary, scan.replies, scan.bfdPeerUp⟩

def complete (scan : LogScan) : Result CompleteLog :=
  match scan.parts with
  | some log => .ok log
  | none => .error (.valueError s!"detection log is missing: {commaSeparated scan.missing}")

end LogScan

/-- The most common TTL, of several the one that came first. -/
def mostCommonTtl (replies : List PingReply) : Option ℤ :=
  let ttls := replies.map PingReply.ttl
  ttls.find? fun ttl => ttls.all fun other => ttls.count other ≤ ttls.count ttl

structure BlackholeFault where
  eventEpochNs : ℤ
  firstChangedSequence : ℤ
  firstChangedReplyEpochNs : ℤ
  deriving DecidableEq, Repr

structure DetectionResult where
  profile : String
  detector : String
  configuredDetectionMs : ℤ
  captureStartedAt : String
  configurationSha256 : String
  bfdPeerUp : Bool
  observedDetectionUpperBoundMs : ℤ
  packetsLostUntilFailover : ℤ
  capturePacketLossPercent : WithTop ℚ
  packetsTransmitted : ℤ
  packetsReceived : ℤ
  baseline : StateBlock
  failover : StateBlock
  fault : BlackholeFault
  detection_nonneg : 0 ≤ observedDetectionUpperBoundMs
  lost_nonneg : 0 ≤ packetsLostUntilFailover
  loss_isDouble : IsDouble capturePacketLossPercent

namespace CompleteLog

def repliesBefore (log : CompleteLog) : List PingReply :=
  log.replies.filter fun reply => reply.lineIndex < log.start.lineIndex

def repliesDuring (log : CompleteLog) : List PingReply :=
  log.replies.filter fun reply => log.start.lineIndex < reply.lineIndex ∧ reply.lineIndex < log.stop.lineIndex

def transition (log : CompleteLog) : Result (PingReply × PingReply) :=
  match log.repliesBefore.getLast?, log.repliesDuring with
  | none, _ | _, [] => .error (.valueError "detection log is missing ping samples around the blackhole")
  | some last, during =>
    match during.find? fun reply => some reply.ttl ≠ mostCommonTtl log.repliesBefore with
    | none => .error (.valueError "detection log is missing an observable path transition")
    | some changedReply => .ok (last, changedReply)

def receivedUntilFailover (log : CompleteLog) (changedReply : PingReply) : ℕ :=
  log.repliesDuring.countP fun reply => reply.sequence ≤ changedReply.sequence

def lostUntilFailover (log : CompleteLog) (last changedReply : PingReply) : ℤ :=
  changedReply.sequence - last.sequence - log.receivedUntilFailover changedReply

def report (log : CompleteLog) (last changedReply : PingReply) : Result DetectionResult :=
  if hdelta : changedReply.timestampNs - log.start.epochNs < 0 then
    .error (.valueError "path-change reply timestamp must follow the blackhole event")
  else if hlost : log.lostUntilFailover last changedReply < 0 then
    .error (.valueError "ping sequences around failover must be monotonically increasing")
  else do
    let profile ← log.header.require "profile"
    let detector ← log.header.require "detector"
    let configuredDetectionMs ← toInteger (← log.header.require "configured_detection_ms").toList
    let captureStartedAt ← log.header.require "capture_started_at"
    let configurationSha256 ← log.header.require "configuration_sha256"
    return {
      profile := profile
      detector := detector
      configuredDetectionMs := configuredDetectionMs
      captureStartedAt := captureStartedAt
      configurationSha256 := configurationSha256
      bfdPeerUp := log.bfdPeerUp
      observedDetectionUpperBoundMs := (changedReply.timestampNs - log.start.epochNs + 999999) / 1000000
      packetsLostUntilFailover := log.lostUntilFailover last changedReply
      capturePacketLossPercent := log.pingSummary.loss
      packetsTransmitted := log.pingSummary.sent
      packetsReceived := log.pingSummary.received
      baseline := log.baseline
      failover := log.failover
      fault := ⟨log.start.epochNs, changedReply.sequence, changedReply.timestampNs⟩
      detection_nonneg := Int.ediv_nonneg (by omega) (by norm_num)
      lost_nonneg := not_lt.mp hlost
      loss_isDouble := log.pingSummary.loss_isDouble }

end CompleteLog

def parseDetectionLog (log : String) : Result DetectionResult := do
  let complete ← (← scanLog log).complete
  let (last, changedReply) ← complete.transition
  complete.report last changedReply

/-- A rejection names what is missing. -/
theorem LogScan.parts_eq_none_iff (scan : LogScan) : scan.parts = none ↔ scan.missing ≠ [] := by
  simp only [parts, missing, Dict.mem_keys_iff, ne_eq, List.append_eq_nil_iff]
  cases scan.header
  · simp
  cases scan.states.get "baseline"
  · simp
  cases scan.states.get "failover"
  · simp
  cases scan.events.get "blackhole_start"
  · simp
  cases scan.events.get "blackhole_end"
  · simp
  cases scan.pingSummary
  · simp
  simp

theorem mostCommonTtl_eq_none_iff (replies : List PingReply) : mostCommonTtl replies = none ↔
    replies = [] := by
  constructor
  · intro h
    by_contra hreplies
    have hne : (replies.map PingReply.ttl).toFinset.Nonempty := by
      simpa [List.toFinset_nonempty_iff] using hreplies
    obtain ⟨ttl, httl, hmost⟩ :=
      Finset.exists_max_image _ (fun ttl => (replies.map PingReply.ttl).count ttl) hne
    refine List.find?_eq_none.mp h ttl (List.mem_toFinset.mp httl)
      (List.all_eq_true.mpr fun other hother => ?_)
    exact decide_eq_true (hmost other (List.mem_toFinset.mpr hother))
  · rintro rfl
    rfl

theorem parseDetectionLog_ok {log : String} {result : DetectionResult}
    (h : parseDetectionLog log = .ok result) :
    ∃ scan complete last changedReply, scanLog log = .ok scan ∧ scan.complete = .ok complete ∧
      complete.transition = .ok (last, changedReply) ∧ complete.report last changedReply = .ok result := by
  obtain ⟨scan, hscan, h⟩ := (bind_ok_iff _ _ _).mp h
  obtain ⟨complete, hcomplete, h⟩ := (bind_ok_iff _ _ _).mp h
  obtain ⟨⟨last, changedReply⟩, htransition, h⟩ := (bind_ok_iff _ _ _).mp h
  exact ⟨scan, complete, last, changedReply, hscan, hcomplete, htransition, h⟩

theorem CompleteLog.report_ok {log : CompleteLog} {last changedReply : PingReply} {result : DetectionResult}
    (h : log.report last changedReply = .ok result) :
    result.packetsLostUntilFailover = log.lostUntilFailover last changedReply := by
  unfold report at h
  split_ifs at h
  obtain ⟨profile, -, h⟩ := (bind_ok_iff _ _ _).mp h
  obtain ⟨detector, -, h⟩ := (bind_ok_iff _ _ _).mp h
  obtain ⟨text, -, h⟩ := (bind_ok_iff _ _ _).mp h
  obtain ⟨configuredDetectionMs, -, h⟩ := (bind_ok_iff _ _ _).mp h
  obtain ⟨captureStartedAt, -, h⟩ := (bind_ok_iff _ _ _).mp h
  obtain ⟨configurationSha256, -, h⟩ := (bind_ok_iff _ _ _).mp h
  obtain rfl := Except.ok.inj h
  rfl

theorem LogScan.complete_replies {scan : LogScan} {complete : CompleteLog}
    (h : scan.complete = .ok complete) :
    complete.replies = scan.replies := by
  unfold LogScan.complete at h
  split at h
  · rename_i log hparts
    obtain rfl := Except.ok.inj h
    simp only [parts, Option.bind_eq_bind, Option.bind_eq_some_iff] at hparts
    obtain ⟨_, -, _, -, _, -, _, -, _, -, _, -, hparts⟩ := hparts
    split_ifs at hparts
    obtain rfl := Option.some.inj hparts
    rfl
  · cases h

-- What each observation of a line leaves alone.
section Frames

variable {scan next : LogScan} {line : List Char} {name : String}

theorem beginState_frame (scan : LogScan) (name : Option String) :
    ∃ active states, scan.beginState name = { scan with activeState := active, states := states } := by
  unfold LogScan.beginState
  repeat' split
  all_goals exact ⟨_, _, rfl⟩

theorem markEvent_frame {lineIndex : ℕ} {fields : LineFields}
    (h : scan.markEvent lineIndex fields = .ok next) :
    ∃ events, next = { scan with events := events } := by
  unfold LogScan.markEvent at h
  split at h
  · split_ifs at h
    · obtain rfl := Except.ok.inj h
      exact ⟨_, rfl⟩
    · obtain ⟨epochNs, -, h⟩ := (bind_ok_iff _ _ _).mp h
      obtain rfl := Except.ok.inj h
      exact ⟨_, rfl⟩
  · obtain rfl := Except.ok.inj h
    exact ⟨_, rfl⟩

theorem observeBfdPeer_frame (line : List Char) (scan : LogScan) :
    ∃ up, scan.observeBfdPeer line = { scan with bfdPeerUp := up } := by
  unfold LogScan.observeBfdPeer
  repeat' split
  all_goals exact ⟨_, rfl⟩

theorem observeReply_frame {lineIndex : ℕ} (h : scan.observeReply line lineIndex = .ok next) :
    next = { scan with replies := scan.replies ++ (replyOf (line, lineIndex)).toList } := by
  unfold LogScan.observeReply at h
  split at h
  · rename_i found hfound
    obtain ⟨reply, hread, h⟩ := (bind_ok_iff _ _ _).mp h
    obtain rfl := Except.ok.inj h
    rw [replyOf, hfound, Option.bind_eq_bind, Option.bind_some, hread]
    rfl
  · rename_i hnone
    obtain rfl := Except.ok.inj h
    rw [replyOf, hnone, Option.bind_eq_bind, Option.bind_none, Option.toList_none, List.append_nil]

theorem observeSummary_frame (h : scan.observeSummary line = .ok next) :
    ∃ summary, next = { scan with pingSummary := summary } := by
  unfold LogScan.observeSummary at h
  split at h
  · obtain ⟨sent, -, h⟩ := (bind_ok_iff _ _ _).mp h
    obtain ⟨received, -, h⟩ := (bind_ok_iff _ _ _).mp h
    split at h
    · obtain rfl := Except.ok.inj h
      exact ⟨_, rfl⟩
    · cases h
  · obtain rfl := Except.ok.inj h
    exact ⟨_, rfl⟩

theorem updateState_ok {update : StateBlock → StateBlock} (h : scan.updateState name update = .ok next) :
    ∃ block, scan.states.get name = some block ∧
      next = { scan with states := scan.states.assign (name, update block.2) } := by
  unfold LogScan.updateState at h
  split at h
  · rename_i block hblock
    exact ⟨block, hblock, (Except.ok.inj h).symm⟩
  · cases h

theorem observeMetric_frame (h : scan.observeMetric name line = .ok next) :
    ∃ states, next = { scan with states := states } := by
  unfold LogScan.observeMetric at h
  split at h
  · obtain ⟨metric, -, h⟩ := (bind_ok_iff _ _ _).mp h
    obtain ⟨block, -, hnext⟩ := updateState_ok h
    exact ⟨_, hnext⟩
  · obtain rfl := Except.ok.inj h
    exact ⟨_, rfl⟩

theorem observeHop_frame (h : scan.observeHop name line = .ok next) :
    ∃ states, next = { scan with states := states } := by
  unfold LogScan.observeHop at h
  split at h
  · obtain ⟨block, -, hnext⟩ := updateState_ok h
    exact ⟨_, hnext⟩
  · obtain rfl := Except.ok.inj h
    exact ⟨_, rfl⟩

theorem observeState_frame (h : scan.observeState line = .ok next) :
    ∃ states, next = { scan with states := states } := by
  unfold LogScan.observeState at h
  split at h
  · obtain ⟨measured, hmeasured, hhop⟩ := (bind_ok_iff _ _ _).mp h
    obtain ⟨states, rfl⟩ := observeMetric_frame hmeasured
    obtain ⟨states', hnext⟩ := observeHop_frame hhop
    exact ⟨states', hnext⟩
  · obtain rfl := Except.ok.inj h
    exact ⟨_, rfl⟩

end Frames

section Replies

variable {scan : LogScan} {line : List Char}

theorem replyOf_startsWith {start : String} (hline : LogScan.startsWith line start = true) (lineIndex : ℕ)
    {c : Char} (hstart : start.toList.head? = some c) (hc : c ≠ '[') : replyOf (line, lineIndex) = none := by
  obtain ⟨rest, rfl⟩ := List.isPrefixOf_iff_prefix.mp hline
  obtain ⟨text, hstart⟩ := List.head?_eq_some_iff.mp hstart
  have hne : (c == '[') = false := by simpa using hc
  simp [replyOf, hstart, pingReply, Pattern.matchStart, Pattern.sequence, Measurement.text, Pattern.literal,
    Pattern.successes, hne]

theorem step_replies (scan : LogScan) (entry : List Char × ℕ) (next : LogScan)
    (h : scan.step entry = .ok next) :
    next.replies = scan.replies ++ (replyOf entry).toList := by
  obtain ⟨line, lineIndex⟩ := entry
  -- The lines of markers do not start with the bracket of a reply.
  have hmarker : ∀ {start : String} {c : Char}, LogScan.startsWith line start = true →
      start.toList.head? = some c →
      c ≠ '[' → next.replies = scan.replies → next.replies = scan.replies ++
      (replyOf (line, lineIndex)).toList := by
    intro start c hline hstart hc hsame
    rw [replyOf_startsWith hline lineIndex hstart hc, Option.toList_none, List.append_nil, hsame]
  unfold LogScan.step at h
  dsimp only at h
  split_ifs at h with hheader hbegin hend hevent
  · obtain ⟨fields, -, h⟩ := (bind_ok_iff _ _ _).mp h
    obtain rfl := Except.ok.inj h
    exact hmarker hheader rfl (by decide) rfl
  · obtain ⟨fields, -, h⟩ := (bind_ok_iff _ _ _).mp h
    obtain rfl := Except.ok.inj h
    obtain ⟨active, states, hframe⟩ := beginState_frame scan (fields.get "name")
    exact hmarker hbegin rfl (by decide) (hframe ▸ rfl)
  · obtain rfl := Except.ok.inj h
    exact hmarker hend rfl (by decide) rfl
  · obtain ⟨fields, -, h⟩ := (bind_ok_iff _ _ _).mp h
    obtain ⟨events, rfl⟩ := markEvent_frame h
    exact hmarker hevent rfl (by decide) rfl
  · obtain ⟨replied, hreplied, h⟩ := (bind_ok_iff _ _ _).mp h
    obtain ⟨summed, hsummed, h⟩ := (bind_ok_iff _ _ _).mp h
    obtain ⟨states, rfl⟩ := observeState_frame h
    obtain ⟨summary, rfl⟩ := observeSummary_frame hsummed
    obtain ⟨up, hframe⟩ := observeBfdPeer_frame line scan
    rw [observeReply_frame hreplied, hframe]

theorem scanLog_replies {log : String} (h : scanLog log = .ok scan) :
    scan.replies = (splitlines log.toList).zipIdx.filterMap replyOf := by
  rw [foldlM_collect LogScan.replies replyOf step_replies h, List.nil_append]

end Replies

end TelconetSentinel
