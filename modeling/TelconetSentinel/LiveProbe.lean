import TelconetSentinel.Library.BacktrackingPatterns
import TelconetSentinel.Library.PythonText
import TelconetSentinel.LiveCollector
import TelconetSentinel.TelemetryCollector

namespace TelconetSentinel

open BacktrackingPatterns DocumentValues FallibleLists

namespace LiveProbe

def walk : Value → List Value := TelemetryCollector.walkMappings

/-- `metric\s+(\d+)` -/
def metricPattern : Pattern := .sequence
  [.literal "metric".toList, .oneOrMore PythonText.isSpace,
    .capture "metric" (.oneOrMore PythonText.isDecimal)]

def integerMetric (values : Value) : Option ℤ :=
  match values.getD "metric" .null with
  | .int metric => some metric
  | _ => none

def selectedMetric (values : Value) : Option ℤ :=
  if (values.getD "selected" .null).isTrue then integerMetric values else none

section

-- `json.loads`, `str(value)`, `str.lower`, the characters of `\w`, and the number of entries that a recursive
-- walk yields before it fails in a document that is too deep for it.
variable (jsonLoads : String → Collected Value) (str : Value → String) (lower : String → String)
  (isWord : Char → Bool) (walkLimit : Value → Option ℕ)
-- What a command prints in a container, or how it fails.
variable (run : String → List String → Collected String)

def loadJson (output : String) : Collected Value :=
  match jsonLoads output with
  | .error .jsonDecodeError => .error (.valueError "FRR output must be valid JSON")
  | result => result

/-- Whether an entry meets a test, unless the walk fails before it comes to one. -/
def walkAny (document : Value) (test : Value → Collected Bool) : Collected Bool := do
  match walkLimit document with
  | none => (walk document).anyM test
  | some limit =>
    if ← ((walk document).take limit).anyM test then return true
    else .error .other

def isUp (values : Value) : Bool := lower (str (values.getD "status" (.str ""))) == "up"

def parseBfdPeerUp (output peer : String) : Collected Bool := do
  let document ← loadJson jsonLoads output
  walkAny walkLimit document fun values =>
    if (values.getD "peer" .null).pyEq (.str peer) && isUp str lower values then .ok true
    else
      match values.get peer with
      | some peerValues => walkAny walkLimit peerValues fun nested => .ok (isUp str lower nested)
      | none => .ok false

def isFull (values : Value) (field : String) : Bool :=
  "full".toList.isPrefixOf (lower (str (values.getD field (.str "")))).toList

def parseOspfNeighborFull (output peer : String) : Collected Bool := do
  let document ← loadJson jsonLoads output
  walkAny walkLimit document fun values =>
    .ok (decide (peer ∈ ["address", "ifaceAddress", "neighborAddress", "peer"].map fun field =>
      str (values.getD field (.str ""))) &&
      ["nbrState", "state"].any (isFull str lower values))

/-- `\b` before the pattern and behind it, at a place with the character `before` in front of it. -/
def searchMetric (before : Option Char) : List Char → Option Success
  | [] => none
  | c :: text =>
    if before.any isWord then searchMetric (some c) text
    else
      ((metricPattern.successes (c :: text)).find? fun found => !found.rest.head?.any isWord).or
        (searchMetric (some c) text)

def metricInText (output : String) : Option ℤ :=
  (searchMetric isWord none output.toList).bind fun found => PythonText.integer (found.group "metric")

def textMetric (output : String) : Collected ℤ :=
  match searchMetric isWord none output.toList with
  | none => .error (.valueError "FRR output does not contain a route metric")
  | some found =>
    match PythonText.integer (found.group "metric") with
    | some metric => .ok metric
    | none => .error (.valueError "Exceeds the limit for integer string conversion")

def candidateMetric (document : Value) : Option ℤ :=
  let candidates := (walk document).filter fun values => (integerMetric values).isSome
  match candidates.find? fun values => (values.getD "selected" .null).isTrue with
  | some selected => integerMetric selected
  | none => candidates.head?.bind integerMetric

def documentMetric (document : Value) (output : String) : Collected ℤ :=
  if (walkLimit document).isSome then .error .other
  else
    match candidateMetric document with
    | some metric => .ok metric
    | none => textMetric isWord output

def parseRouteMetric (output : String) : Collected ℤ :=
  match jsonLoads output with
  | .error .jsonDecodeError | .ok .null => textMetric isWord output
  | .error e => .error e
  | .ok document => documentMetric isWord walkLimit document output

/-- A sample without a metric is one of a reply that is valid JSON. -/
def reported (parsed : Collected ℤ) (document : Collected Value) : Collected (Option ℤ) :=
  match parsed with
  | .ok metric => .ok (some metric)
  | .error .jsonDecodeError | .error (.valueError _) => document.map fun _ => none
  | .error e => .error e

def sampleMetric (route : String) : Collected (Option ℤ) :=
  reported (parseRouteMetric jsonLoads isWord walkLimit route) (loadJson jsonLoads route)

def vtysh (router command : String) : Collected String := run router ["vtysh", "-c", command]

def routeCommand (routePrefix : String) : String := s!"show ip route {routePrefix} json"

/-- `DockerFrrProbe(router, peer, route_prefix).sample(icmp_sequence)` -/
def sample (router peer routePrefix : String) (icmpSequence : Option ℤ) : Collected LiveSample := do
  let bfd ← vtysh run router "show bfd peers json"
  let ospf ← vtysh run router "show ip ospf neighbor json"
  let route ← vtysh run router (routeCommand routePrefix)
  let routeMetric ← sampleMetric jsonLoads isWord walkLimit route
  let bfdUp ← parseBfdPeerUp jsonLoads str lower walkLimit bfd peer
  let ospfFull ← parseOspfNeighborFull jsonLoads str lower walkLimit ospf peer
  return ⟨bfdUp, ospfFull, routeMetric, icmpSequence⟩

def replyEntries (route : String) : List Value :=
  match jsonLoads route with
  | .ok document => walk document
  | .error _ => []

def FirstMetric (metricOf : Value → Option ℤ) (entries : List Value) (metric : ℤ) : Prop :=
  ∃ earlier entry later, entries = earlier ++ entry :: later ∧ metricOf entry = some metric ∧
    ∀ other ∈ earlier, metricOf other = none

def MetricOfReply (route : String) (metric : ℤ) : Prop :=
  FirstMetric selectedMetric (replyEntries jsonLoads route) metric ∨
    (∀ entry ∈ replyEntries jsonLoads route, selectedMetric entry = none) ∧
      (FirstMetric integerMetric (replyEntries jsonLoads route) metric ∨
        (∀ entry ∈ replyEntries jsonLoads route, integerMetric entry = none) ∧
          metricInText isWord route = some metric)

end

theorem find?_bind_eq_findSome? {α β : Type*} {p : α → Bool} {f : α → Option β} (h : ∀ x, p x = (f x).isSome)
    (xs : List α) : (xs.find? p).bind f = xs.findSome? f := by
  induction xs with
  | nil => rfl
  | cons x xs ih =>
    have hx := h x
    cases hf : f x with
    | none => simp_all
    | some y => simp_all

theorem candidateMetric_eq (document : Value) : candidateMetric document =
    ((walk document).findSome? selectedMetric).or ((walk document).findSome? integerMetric) := by
  have hinteger := find?_bind_eq_findSome? (p := fun values => (integerMetric values).isSome) (fun _ => rfl)
    (walk document)
  have hselected := find?_bind_eq_findSome?
    (p := fun values => (integerMetric values).isSome && (values.getD "selected" .null).isTrue)
    (f := selectedMetric) (fun values => by
      cases h : (values.getD "selected" .null).isTrue <;> simp [selectedMetric, h]) (walk document)
  rw [← hinteger, ← hselected]
  simp only [candidateMetric, List.find?_filter, List.head?_filter, Bool.decide_and, Bool.decide_eq_true]
  cases hfind : (walk document).find? fun values =>
      (integerMetric values).isSome && (values.getD "selected" .null).isTrue with
  | none => rfl
  | some entry =>
    have hentry := List.find?_some hfind
    rw [Bool.and_eq_true] at hentry
    obtain ⟨metric, hmetric⟩ := Option.isSome_iff_exists.mp hentry.1
    simp only [Option.bind_some, selectedMetric, hentry.2, if_true, hmetric, Option.some_or]

section

variable {jsonLoads : String → Collected Value} {str : Value → String} {lower : String → String}
  {isWord : Char → Bool}
variable {walkLimit : Value → Option ℕ} {run : String → List String → Collected String}

theorem reported_textMetric {output : String} {document : Collected Value} {result : Option ℤ}
    (h : reported (textMetric isWord output) document = .ok result) :
    result = metricInText isWord output := by
  unfold textMetric at h
  unfold metricInText
  cases hsearch : searchMetric isWord none output.toList with
  | none =>
    rw [hsearch] at h
    cases document with
    | error e => cases h
    | ok document => exact (Except.ok.inj h).symm
  | some found =>
    rw [hsearch] at h
    rw [Option.bind_some]
    cases hmetric : PythonText.integer (found.group "metric") with
    | none =>
      simp only [hmetric] at h
      cases document with
      | error e => cases h
      | ok document => exact (Except.ok.inj h).symm
    | some metric =>
      simp only [hmetric] at h
      exact (Except.ok.inj h).symm

theorem reported_documentMetric {document : Value} {output : String} {loaded : Collected Value}
    {result : Option ℤ} (h : reported (documentMetric isWord walkLimit document output) loaded = .ok result) :
    result = (candidateMetric document).or (metricInText isWord output) := by
  unfold documentMetric at h
  split_ifs at h
  · cases h
  · cases hcandidate : candidateMetric document with
    | none =>
      rw [hcandidate] at h
      exact reported_textMetric h
    | some metric =>
      rw [hcandidate] at h
      exact (Except.ok.inj h).symm

theorem sampleMetric_ok {route : String} {result : Option ℤ}
    (h : sampleMetric jsonLoads isWord walkLimit route = .ok result) :
    result = ((replyEntries jsonLoads route).findSome? selectedMetric).or
      (((replyEntries jsonLoads route).findSome? integerMetric).or (metricInText isWord route)) := by
  unfold sampleMetric parseRouteMetric at h
  unfold replyEntries
  cases hload : jsonLoads route with
  | error e =>
    rw [hload] at h
    cases e with
    | jsonDecodeError => exact reported_textMetric h
    | valueError message =>
      have hloaded : loadJson jsonLoads route = .error (.valueError message) := by simp [loadJson, hload]
      rw [hloaded] at h
      cases h
    | _ => cases h
  | ok document =>
    rw [hload] at h
    simp only
    rw [← Option.or_assoc, ← candidateMetric_eq]
    cases document with
    | null => exact reported_textMetric h
    | _ => exact reported_documentMetric h

theorem sampleMetric_spec {route : String} {result : Option ℤ}
    (h : sampleMetric jsonLoads isWord walkLimit route = .ok result) (metric : ℤ) :
    result = some metric ↔ MetricOfReply jsonLoads isWord route metric := by
  rw [sampleMetric_ok h, Option.or_eq_some_iff, Option.or_eq_some_iff, List.findSome?_eq_some_iff,
    List.findSome?_eq_some_iff, List.findSome?_eq_none_iff, List.findSome?_eq_none_iff]
  rfl

theorem sample_ok {router peer routePrefix : String} {icmpSequence : Option ℤ} {s : LiveSample}
    (h : sample jsonLoads str lower isWord walkLimit run router peer routePrefix icmpSequence = .ok s) :
    ∃ route, vtysh run router (routeCommand routePrefix) = .ok route ∧
      sampleMetric jsonLoads isWord walkLimit route = .ok s.routeMetric := by
  obtain ⟨bfd, -, h⟩ := (bind_ok_iff _ _ _).mp h
  obtain ⟨ospf, -, h⟩ := (bind_ok_iff _ _ _).mp h
  obtain ⟨route, hroute, h⟩ := (bind_ok_iff _ _ _).mp h
  obtain ⟨routeMetric, hmetric, h⟩ := (bind_ok_iff _ _ _).mp h
  obtain ⟨bfdUp, -, h⟩ := (bind_ok_iff _ _ _).mp h
  obtain ⟨ospfFull, -, h⟩ := (bind_ok_iff _ _ _).mp h
  obtain rfl := Except.ok.inj h
  exact ⟨route, hroute, hmetric⟩

end

end LiveProbe

theorem LiveTransitionDetector.observeLoop_observed (candidates : List (Bool × LiveTransition))
    (recorded : Finset String) :
    ∀ transition ∈ (observeLoop candidates recorded).1, (true, transition) ∈ candidates := by
  induction candidates generalizing recorded with
  | nil => simp [observeLoop]
  | cons candidate candidates ih =>
    obtain ⟨observed, candidate⟩ := candidate
    rw [observeLoop]
    split_ifs with hrecorded hobserved
    · exact fun transition h => List.mem_cons_of_mem _ (ih recorded transition h)
    · rintro transition (_ | ⟨_, h⟩)
      · rw [hobserved]
        exact List.mem_cons_self
      · exact List.mem_cons_of_mem _ (ih _ transition h)
    · simp

/-- A failover is recorded only from a sample with the failover metric. -/
theorem LiveTransitionDetector.observe_failover {d : LiveTransitionDetector} {s : LiveSample} {offsetMs : ℤ}
    {transition : LiveTransition} (h : transition ∈ (d.observe s offsetMs).1)
    (hevent : transition.event = "route_failover") :
    s.routeMetric = some d.failoverMetric ∧ transition.routeMetric = s.routeMetric := by
  have hobserved := observeLoop_observed (candidates d.failoverMetric s offsetMs) d.recorded transition h
  simp only [candidates, List.mem_cons, Prod.mk.injEq, List.not_mem_nil, or_false] at hobserved
  obtain ⟨-, rfl⟩ | ⟨-, rfl⟩ | ⟨hmetric, rfl⟩ | ⟨-, rfl⟩ := hobserved
  · simp at hevent
  · simp at hevent
  · exact ⟨by simpa using hmetric.symm, rfl⟩
  · simp at hevent

open LiveProbe

theorem probe_reports_first_metric {jsonLoads : String → Collected Value} {str : Value → String}
    {lower : String → String} {isWord : Char → Bool} {walkLimit : Value → Option ℕ}
    {run : String → List String → Collected String} {router peer routePrefix : String}
    {icmpSequence : Option ℤ} {s : LiveSample}
    (h : sample jsonLoads str lower isWord walkLimit run router peer routePrefix icmpSequence = .ok s) :
    ∃ route, run router ["vtysh", "-c", routeCommand routePrefix] = .ok route ∧
      (∀ metric, s.routeMetric = some metric ↔ MetricOfReply jsonLoads isWord route metric) ∧
      ∀ (d : LiveTransitionDetector) (offsetMs : ℤ), ∀ transition ∈ (d.observe s offsetMs).1,
        transition.event = "route_failover" → MetricOfReply jsonLoads isWord route d.failoverMetric := by
  obtain ⟨route, hroute, hsample⟩ := sample_ok h
  have hmetric := sampleMetric_spec hsample
  refine ⟨route, hroute, hmetric, fun d offsetMs transition htransition hevent => ?_⟩
  exact (hmetric d.failoverMetric).mp (LiveTransitionDetector.observe_failover htransition hevent).1

def unselectedRouter (_ : String) (command : List String) : Collected String :=
  if command = ["vtysh", "-c", routeCommand "10.20.0.0/24"] then
    .ok "\x7b\"metric\": 140, \"selected\": false\x7d"
  else .ok "\x7b\x7d"

def unselectedReplies (output : String) : Collected Value :=
  if output = "\x7b\"metric\": 140, \"selected\": false\x7d" then
    .ok (.dict [(.str "metric", .int 140), (.str "selected", .bool false)])
  else if output = "\x7b\x7d" then .ok (.dict [])
  else .error .jsonDecodeError

def replyText (value : Value) : String := value.text.getD ""

def asciiWord (c : Char) : Bool := c.isAlphanum || c == '_'

def unselectedSample : Collected LiveSample :=
  sample unselectedReplies replyText String.toLower asciiWord (fun _ => none) unselectedRouter "core-a"
    "10.0.1.2" "10.20.0.0/24" (some 7)

theorem unselected_route_is_reported : ∃ s, unselectedSample = .ok s ∧ s.routeMetric = some 140 ∧
    (∀ entry ∈ replyEntries unselectedReplies "\x7b\"metric\": 140, \"selected\": false\x7d",
      selectedMetric entry = none) ∧
    (LiveTransitionDetector.observe {} s 250).1.map LiveTransition.event =
      ["bfd_down", "ospf_neighbor_down", "route_failover", "data_plane_recovered"] := by
  have hrun : unselectedSample = .ok ⟨false, false, some 140, some 7⟩ := by decide +kernel
  refine ⟨_, hrun, rfl, ?_, by decide +kernel⟩
  have hentries : replyEntries unselectedReplies "\x7b\"metric\": 140, \"selected\": false\x7d" =
      [.dict [(.str "metric", .int 140), (.str "selected", .bool false)]] := by rfl
  rw [hentries]
  intro entry hentry
  rw [List.mem_singleton.mp hentry]
  rfl

theorem probe_reports_first_metric_unselected :
    MetricOfReply unselectedReplies asciiWord "\x7b\"metric\": 140, \"selected\": false\x7d" 140 := by
  have hrun : unselectedSample = .ok ⟨false, false, some 140, some 7⟩ := by decide +kernel
  obtain ⟨route, hroute, hmetric, -⟩ := probe_reports_first_metric hrun
  have hreply : unselectedRouter "core-a" ["vtysh", "-c", routeCommand "10.20.0.0/24"] =
      .ok "\x7b\"metric\": 140, \"selected\": false\x7d" := by rfl
  obtain rfl := Except.ok.inj (hreply.symm.trans hroute)
  exact (hmetric 140).mp rfl

end TelconetSentinel
