import TelconetSentinel.IncidentService
import TelconetSentinel.Library.RecentRetention

namespace TelconetSentinel

open FallibleLists KeyedLists RecentRetention Simulation

def newest (incidents : List Incident) (fingerprint : String) : Option Incident :=
  (incidents.filter (·.fingerprint = fingerprint)).getLast?

section Newest

variable {incidents : List Incident} {incident : Incident} {fingerprint : String}

theorem newest_concat_self (incidents : List Incident) (incident : Incident) :
    newest (incidents ++ [incident]) incident.fingerprint = some incident := by
  rw [newest, List.filter_append, List.filter_cons_of_pos (by simp), List.filter_nil, List.getLast?_concat]

theorem newest_concat_ne (incidents : List Incident) (h : incident.fingerprint ≠ fingerprint) :
    newest (incidents ++ [incident]) fingerprint = newest incidents fingerprint := by
  rw [newest, List.filter_append, List.filter_cons_of_neg (by simpa using h), List.filter_nil,
    List.append_nil, newest]

theorem newest_cons_ne (incidents : List Incident) (h : incident.fingerprint ≠ fingerprint) :
    newest (incident :: incidents) fingerprint = newest incidents fingerprint := by
  rw [newest, List.filter_cons_of_neg (by simpa using h), newest]

theorem newest_cons_self (incident : Incident) (incidents : List Incident) :
    newest (incident :: incidents) incident.fingerprint =
      some ((newest incidents incident.fingerprint).getD incident) := by
  rw [newest, List.filter_cons_of_pos (by simp), List.getLast?_cons, newest]

theorem newest_some_iff (incidents : List Incident) (fingerprint : String) (incident : Incident) :
    newest incidents fingerprint = some incident ↔ ∃ older newer, incidents = older ++ incident :: newer ∧
      incident.fingerprint = fingerprint ∧ ∀ later ∈ newer, later.fingerprint ≠ fingerprint := by
  constructor
  · intro h
    induction incidents using List.reverseRecOn with
    | nil => cases h
    | append_singleton incidents last ih =>
      by_cases hlast : last.fingerprint = fingerprint
      · subst hlast
        rw [newest_concat_self] at h
        obtain rfl := Option.some.inj h
        exact ⟨incidents, [], rfl, rfl, fun _ hmem => absurd hmem List.not_mem_nil⟩
      · rw [newest_concat_ne _ hlast] at h
        obtain ⟨older, newer, rfl, hfingerprint, hnewer⟩ := ih h
        refine ⟨older, newer ++ [last], by simp, hfingerprint, fun later hlater => ?_⟩
        rcases List.mem_append.mp hlater with hlater | hlater
        · exact hnewer later hlater
        · rwa [List.mem_singleton.mp hlater]
  · rintro ⟨older, newer, rfl, rfl, hnewer⟩
    induction newer using List.reverseRecOn with
    | nil => exact newest_concat_self older incident
    | append_singleton newer last ih =>
      rw [List.forall_mem_append, List.forall_mem_singleton] at hnewer
      have hsplit : older ++ incident :: (newer ++ [last]) = (older ++ incident :: newer) ++ [last] := by simp
      rw [hsplit, newest_concat_ne _ hnewer.2]
      exact ih hnewer.1

theorem newest_mem (h : newest incidents fingerprint = some incident) :
    incident ∈ incidents ∧ incident.fingerprint = fingerprint := by
  obtain ⟨older, newer, rfl, hfingerprint, -⟩ := (newest_some_iff _ _ _).mp h
  exact ⟨List.mem_append_right _ List.mem_cons_self, hfingerprint⟩

theorem newest_none_iff (incidents : List Incident) (fingerprint : String) :
    newest incidents fingerprint = none ↔ ∀ incident ∈ incidents, incident.fingerprint ≠ fingerprint := by
  rw [newest, List.getLast?_eq_none_iff, List.filter_eq_nil_iff]
  simp

theorem newest_map (f : Incident → Incident)
    (hf : ∀ incident ∈ incidents, (f incident).fingerprint = incident.fingerprint) (fingerprint : String) :
    newest (incidents.map f) fingerprint = (newest incidents fingerprint).map f := by
  have hfilter : (incidents.map f).filter (·.fingerprint = fingerprint) =
      (incidents.filter (·.fingerprint = fingerprint)).map f := by
    rw [List.filter_map]
    congr 1
    apply List.filter_congr
    intro incident hincident
    rw [Function.comp_apply, hf incident hincident]
  rw [newest, hfilter, List.getLast?_map, newest]

end Newest

variable {τ : Type}

namespace IncidentIndexes

/-- The two indexes have the same keys, and a fingerprint leads to the newest incident stored with it. -/
structure Coherent (s : IncidentIndexes τ) : Prop where
  keys_eq : s.idByFingerprint.keys = s.lastSeen.keys
  owner : ∀ fingerprint, s.idByFingerprint.get fingerprint =
    (newest s.incidents.values fingerprint).map fun incident => (fingerprint, incident.id)

variable {s : IncidentIndexes τ}

theorem Coherent.mem_lastSeen_iff (h : s.Coherent) (fingerprint : String) :
    fingerprint ∈ s.lastSeen.keys ↔ ∃ incident ∈ s.incidents.values, incident.fingerprint = fingerprint := by
  rw [← h.keys_eq, ← not_iff_not, ← Dict.get_none_iff, h.owner, Option.map_eq_none_iff, newest_none_iff]
  simp

theorem Coherent.unowned (h : s.Coherent) {evicted : Incident} {rest : List Incident}
    (hvalues : s.incidents.values = evicted :: rest)
    (hother : s.idByFingerprint.get evicted.fingerprint ≠ some (evicted.fingerprint, evicted.id)) :
    Coherent { s with incidents := s.incidents.erase evicted.id } := by
  have hrest : (s.incidents.erase evicted.id).values = rest := Dict.erase_head hvalues
  refine ⟨h.keys_eq, fun fingerprint => ?_⟩
  change s.idByFingerprint.get fingerprint = _
  rw [hrest, h.owner, hvalues]
  by_cases hsame : evicted.fingerprint = fingerprint
  · subst hsame
    rw [h.owner, hvalues, newest_cons_self] at hother
    rw [newest_cons_self]
    cases hnewest : newest rest evicted.fingerprint with
    | none =>
      rw [hnewest] at hother
      exact absurd rfl hother
    | some incident => rfl
  · rw [newest_cons_ne _ hsame]

theorem Coherent.owned (h : s.Coherent) {evicted : Incident} {rest : List Incident}
    (hvalues : s.incidents.values = evicted :: rest)
    (howner : s.idByFingerprint.get evicted.fingerprint = some (evicted.fingerprint, evicted.id)) :
    Coherent ⟨s.incidents.erase evicted.id, s.idByFingerprint.erase evicted.fingerprint,
      s.lastSeen.erase evicted.fingerprint⟩ := by
  have hrest : (s.incidents.erase evicted.id).values = rest := Dict.erase_head hvalues
  refine ⟨?_, fun fingerprint => ?_⟩
  · change (s.idByFingerprint.erase _).keys = (s.lastSeen.erase _).keys
    rw [Dict.keys_erase, Dict.keys_erase, h.keys_eq]
  change (s.idByFingerprint.erase evicted.fingerprint).get fingerprint = _
  rw [hrest]
  by_cases hsame : fingerprint = evicted.fingerprint
  · rw [hsame, Dict.get_erase_self]
    rw [h.owner, hvalues, newest_cons_self] at howner
    cases hnewest : newest rest evicted.fingerprint with
    | none => rfl
    | some incident =>
      -- A newer incident of the fingerprint would own it, and its id is another one.
      rw [hnewest] at howner
      obtain ⟨-, hid⟩ := Prod.mk.inj (Option.some.inj howner)
      have hnodup := s.incidents.keys_nodup
      rw [hvalues, List.map_cons, List.nodup_cons] at hnodup
      exact absurd (hid ▸ List.mem_map_of_mem (newest_mem hnewest).1) hnodup.1
  · rw [Dict.get_erase_ne hsame, h.owner, hvalues, newest_cons_ne _ (Ne.symm hsame)]

theorem evict_spec (maxIncidents : ℕ) {rounds : ℕ} (h : s.Coherent)
    (hrounds : s.incidents.values.length ≤ rounds) :
    ∃ kept : IncidentIndexes τ, evict maxIncidents rounds s = (.ok (), kept) ∧
      kept.incidents.values = s.incidents.values.rtake maxIncidents ∧ kept.Coherent ∧
      ∀ fingerprint x, kept.lastSeen.get fingerprint = some x → s.lastSeen.get fingerprint = some x := by
  induction rounds generalizing s with
  | zero =>
    have hfew : ¬ s.incidents.values.length > maxIncidents := by omega
    rw [evict, if_neg hfew]
    exact ⟨s, rfl, (rtake_of_length_le (not_lt.mp hfew)).symm, h, fun _ _ hx => hx⟩
  | succ rounds ih =>
    by_cases hfull : s.incidents.values.length > maxIncidents
    · cases hvalues : s.incidents.values with
      | nil =>
        rw [hvalues, List.length_nil] at hfull
        omega
      | cons evicted rest =>
        rw [hvalues, List.length_cons] at hfull hrounds
        have hrest : (s.incidents.erase evicted.id).values = rest := Dict.erase_head hvalues
        have hlength : (s.incidents.erase evicted.id).values.length ≤ rounds := by
          rw [hrest]
          omega
        rw [evict, if_pos (by rw [hvalues]; exact hfull), rtake_cons (Nat.lt_succ_iff.mp hfull)]
        simp only [hvalues]
        by_cases howner : s.idByFingerprint.get evicted.fingerprint = some (evicted.fingerprint, evicted.id)
        · have hseen : evicted.fingerprint ∈ s.lastSeen.keys :=
            (h.mem_lastSeen_iff _).mpr ⟨evicted, hvalues ▸ List.mem_cons_self, rfl⟩
          obtain ⟨kept, hevict, hkept, hcoherent, hseenAt⟩ := ih (h.owned hvalues howner) hlength
          rw [if_pos howner, if_pos hseen]
          refine ⟨kept, hevict, hkept.trans (by rw [hrest]), hcoherent, fun fingerprint x hx => ?_⟩
          have herased := (Dict.get_some_iff _ _).mp (hseenAt fingerprint x hx)
          exact (Dict.get_some_iff _ _).mpr ⟨((Dict.mem_erase _ _).mp herased.1).1, herased.2⟩
        · obtain ⟨kept, hevict, hkept, hcoherent, hseenAt⟩ := ih (h.unowned hvalues howner) hlength
          rw [if_neg howner]
          exact ⟨kept, hevict, hkept.trans (by rw [hrest]), hcoherent, hseenAt⟩
    · rw [evict, if_neg hfull]
      exact ⟨s, rfl, (rtake_of_length_le (not_lt.mp hfull)).symm, h, fun _ _ hx => hx⟩

theorem Coherent.seen (h : s.Coherent) {fingerprint : String} {x : τ}
    (hknown : fingerprint ∈ s.lastSeen.keys) :
    Coherent { s with lastSeen := s.lastSeen.assign (fingerprint, x) } := by
  have hkeys : (s.lastSeen.assign (fingerprint, x)).keys = s.lastSeen.keys := Dict.keys_assign_present hknown
  exact ⟨h.keys_eq.trans hkeys.symm, h.owner⟩

theorem Coherent.replaced (h : s.Coherent) {incident : Incident} (hmem : incident ∈ s.incidents.values)
    {replacement : Incident} (hid : replacement.id = incident.id)
    (hfingerprint : replacement.fingerprint = incident.fingerprint) :
    Coherent { s with incidents := s.incidents.assign replacement } := by
  have hpresent : replacement.id ∈ s.incidents.keys := hid ▸ List.mem_map_of_mem hmem
  have hvalues := Dict.assign_present hpresent
  refine ⟨h.keys_eq, fun fingerprint => ?_⟩
  change s.idByFingerprint.get fingerprint = _
  rw [hvalues, newest_map, h.owner, Option.map_map]
  · apply Option.map_congr
    intro other _
    rw [Function.comp_apply]
    split_ifs with hsame
    · rw [hsame]
    · rfl
  · intro other hother
    split_ifs with hsame
    · rw [hfingerprint, key_inj s.incidents.keys_nodup hother hmem (hsame.trans hid)]
    · rfl

end IncidentIndexes

def Incident.approved (incident : Incident) : Incident :=
  { incident with recoveryPlan := { incident.recoveryPlan with status := .approved } }

namespace IncidentService

theorem store_coherent {service : IncidentService τ} (h : service.Coherent) {incident : Incident}
    (hnew : incident.id ∉ service.incidents.keys) (receivedAt : τ) :
    (service.store incident receivedAt).Coherent := by
  refine ⟨?_, fun fingerprint => ?_⟩
  · change (service.idByFingerprint.assign _).keys = (service.lastSeen.assign _).keys
    rw [Dict.keys_assign, Dict.keys_assign, h.keys_eq]
  · change (service.idByFingerprint.assign _).get fingerprint =
      (newest (service.incidents.assign incident).values _).map _
    rw [Dict.assign_new hnew]
    by_cases hsame : incident.fingerprint = fingerprint
    · subst hsame
      rw [newest_concat_self]
      exact Dict.get_assign_self (incident.fingerprint, incident.id)
    · rw [newest_concat_ne _ hsame, ← h.owner]
      exact Dict.get_assign_ne (Ne.symm hsame)

variable [Sub τ] [Zero τ] [LE τ] [DecidableRel (fun a b : τ => a ≤ b)]

variable {service : IncidentService τ} {sha256 : String → String}

def Merges (service : IncidentService τ) (existing : Incident) (seenAt receivedAt : τ) : Prop :=
  existing.recoveryPlan.status = .awaitingApproval ∧ 0 ≤ receivedAt - seenAt ∧
    receivedAt - seenAt ≤ service.dedupWindow

theorem openIncident_none {fingerprint : String} (h : service.Coherent)
    (hnewest : newest service.incidents.values fingerprint = none) (receivedAt : τ) :
    service.openIncident fingerprint receivedAt = .ok none := by
  have howner := h.owner fingerprint
  rw [hnewest, Option.map_none] at howner
  rw [openIncident, howner]

theorem openIncident_some {fingerprint : String} {existing : Incident} (h : service.Coherent)
    (hnewest : newest service.incidents.values fingerprint = some existing) (receivedAt : τ) :
    ∃ seenAt, service.lastSeen.get fingerprint = some (fingerprint, seenAt) ∧
      (service.Merges existing seenAt receivedAt →
        service.openIncident fingerprint receivedAt = .ok (some existing)) ∧
      (¬ service.Merges existing seenAt receivedAt → service.openIncident fingerprint receivedAt =
        .ok none) := by
  obtain ⟨hmem, hfingerprint⟩ := newest_mem hnewest
  have howner := h.owner fingerprint
  rw [hnewest, Option.map_some] at howner
  have hexisting : service.incidents.get existing.id = some existing :=
    (Dict.get_some_iff _ _).mpr ⟨hmem, rfl⟩
  have hkey : fingerprint ∈ service.lastSeen.keys := (h.mem_lastSeen_iff _).mpr ⟨existing, hmem, hfingerprint⟩
  obtain ⟨⟨_, seenAt⟩, hseen⟩ := Option.isSome_iff_exists.mp ((Dict.mem_keys_iff _).mp hkey)
  obtain rfl := ((Dict.get_some_iff _ _).mp hseen).2
  refine ⟨seenAt, hseen, fun hmerges => ?_, fun hnot => ?_⟩
  · simp only [openIncident, howner, hexisting, hseen]
    exact congrArg Except.ok (if_pos hmerges)
  · simp only [openIncident, howner, hexisting, hseen]
    exact congrArg Except.ok (if_neg hnot)

theorem openIncident_ok (h : service.Coherent) (fingerprint : String) (receivedAt : τ) :
    ∃ answer, service.openIncident fingerprint receivedAt = .ok answer := by
  cases hnewest : newest service.incidents.values fingerprint with
  | none => exact ⟨none, openIncident_none h hnewest receivedAt⟩
  | some existing =>
    obtain ⟨seenAt, -, hmerges, hnot⟩ := openIncident_some h hnewest receivedAt
    by_cases hm : service.Merges existing seenAt receivedAt
    · exact ⟨_, hmerges hm⟩
    · exact ⟨_, hnot hm⟩

theorem openIncident_existing {fingerprint : String} {receivedAt : τ} {existing : Incident}
    (h : service.Coherent) (hopen : service.openIncident fingerprint receivedAt = .ok (some existing)) :
    newest service.incidents.values fingerprint = some existing ∧
      existing.recoveryPlan.status = .awaitingApproval := by
  cases hnewest : newest service.incidents.values fingerprint with
  | none =>
    rw [openIncident_none h hnewest] at hopen
    cases hopen
  | some found =>
    obtain ⟨seenAt, -, hmerges, hnot⟩ := openIncident_some h hnewest receivedAt
    by_cases hm : service.Merges found seenAt receivedAt
    · obtain rfl := Option.some.inj (Except.ok.inj ((hmerges hm).symm.trans hopen))
      exact ⟨rfl, hm.1⟩
    · rw [hnot hm] at hopen
      cases hopen

theorem newIncident_ok_cases {T : Topology} {fingerprint hex : String} {event : NetworkEvent}
    {incident : Incident} (h : newIncident T fingerprint event hex = .ok incident) :
    incident.id = newIncidentId hex ∧
      incident.fingerprint = fingerprint ∧ incident.event = event ∧
      T.analyzeLinkDown event = .ok incident.analysis ∧
      incident.recoveryPlan.status = .awaitingApproval := by
  obtain ⟨analysis, hanalysis, h⟩ := (bind_ok_iff _ _ _).mp h
  obtain ⟨plan, hplan, h⟩ := (bind_ok_iff _ _ _).mp h
  obtain rfl := Except.ok.inj h
  obtain ⟨-, hplan⟩ := (check_ok_iff _ _ _ _).mp hplan
  obtain ⟨_, -, hplan⟩ := (bind_ok_iff _ _ _).mp hplan
  obtain rfl := Except.ok.inj hplan
  exact ⟨rfl, rfl, rfl, hanalysis, rfl⟩

theorem createRecoveryPlan_ok {T : Topology} {event : NetworkEvent} {analysis : ImpactAnalysis}
    (h : T.analyzeLinkDown event = .ok analysis) (incidentId : String) :
    createRecoveryPlan T incidentId "restore_link" analysis.failedComponent =
      .ok { incidentId, action := "restore_link", target := analysis.failedComponent } := by
  obtain ⟨-, h⟩ := (check_ok_iff _ _ _ _).mp h
  obtain ⟨link, hlink, h⟩ := (bind_ok_iff _ _ _).mp h
  obtain ⟨-, h⟩ := (check_ok_iff _ _ _ _).mp h
  obtain ⟨st, -, h⟩ := (bind_ok_iff _ _ _).mp h
  obtain ⟨owners, -, h⟩ := (bind_ok_iff _ _ _).mp h
  obtain rfl := Except.ok.inj h
  have hknown : T.link (st.analysis link owners).failedComponent = .ok link :=
    T.link_known (T.mem_of_link_ok hlink)
  rw [createRecoveryPlan, if_neg (fun hne => hne rfl), hknown]
  rfl

/-- The plan never fails: its target is the link that was analysed. -/
theorem newIncident_error {T : Topology} {fingerprint hex : String} {event : NetworkEvent} {e : Exn}
    (h : newIncident T fingerprint event hex = .error e) : T.analyzeLinkDown event = .error e := by
  cases hanalysis : T.analyzeLinkDown event with
  | error e' =>
    rw [newIncident, hanalysis, error_bind] at h
    rw [Except.error.inj h]
  | ok analysis =>
    simp only [newIncident, hanalysis, ok_bind, createRecoveryPlan_ok hanalysis] at h
    cases h

inductive Stepped (service : IncidentService τ) (sha256 : String → String) (call : IncidentCall τ) :
    Result Incident × IncidentService τ → Prop
  | rejected (e : Exn) (hmakes : service.makes sha256 call = none)
      (hreason : ∀ event receivedAt hex, call = .ingest event receivedAt hex →
        service.topology.analyzeLinkDown event = .error e) :
      Stepped service sha256 call (.error e, service)
  | merged (event : NetworkEvent) (receivedAt : τ) (hex : String) (existing : Incident)
      (hcall : call = .ingest event receivedAt hex) (hmakes : service.makes sha256 call = none)
      (hopen : service.openIncident (sha256 (fingerprintText event)) receivedAt = .ok (some existing)) :
      Stepped service sha256 call (.ok existing, service.merge (sha256 (fingerprintText event)) receivedAt)
  | created (event : NetworkEvent) (receivedAt : τ) (hex : String) (incident : Incident)
    (kept : IncidentIndexes τ)
      (hcall : call = .ingest event receivedAt hex) (hmakes : service.makes sha256 call = some incident)
      (hopen : service.openIncident (sha256 (fingerprintText event)) receivedAt = .ok none)
      (hincident : newIncident service.topology (sha256 (fingerprintText event)) event hex = .ok incident)
      (hvalues : kept.incidents.values = (service.incidents.values ++ [incident]).rtake service.maxIncidents)
      (hcoherent : kept.Coherent)
      (hseen : ∀ fingerprint x, kept.lastSeen.get fingerprint = some x →
        (service.lastSeen.assign (incident.fingerprint, receivedAt)).get fingerprint = some x) :
      Stepped service sha256 call (.ok incident, { service with toIncidentIndexes := kept })
  | approved (incident : Incident) (hcall : call = .approve incident.id)
      (hmakes : service.makes sha256 call = none) (hmem : incident ∈ service.incidents.values)
      (hstatus : incident.recoveryPlan.status = .awaitingApproval) :
      Stepped service sha256 call
        (.ok incident.approved, { service with incidents := service.incidents.assign incident.approved })

theorem ingest_stepped (h : service.Coherent) (event : NetworkEvent) (receivedAt : τ) (hex : String)
    (hfresh : ∀ incident ∈ service.makes sha256 (.ingest event receivedAt hex),
      incident.id ∉ service.incidents.keys) :
    Stepped service sha256 (.ingest event receivedAt hex) (service.ingest sha256 event receivedAt hex) := by
  obtain ⟨answer, hopen⟩ := openIncident_ok h (sha256 (fingerprintText event)) receivedAt
  cases answer with
  | some existing =>
    have hmakes : service.makes sha256 (.ingest event receivedAt hex) = none := by
      rw [makes, hopen]
    rw [ingest, hopen]
    exact .merged event receivedAt hex existing rfl hmakes hopen
  | none =>
    have hmakes : service.makes sha256 (.ingest event receivedAt hex) =
        (newIncident service.topology (sha256 (fingerprintText event)) event hex).toOption := by
      rw [makes, hopen]
    cases hincident : newIncident service.topology (sha256 (fingerprintText event)) event hex with
    | error e =>
      rw [hincident] at hmakes
      simp only [ingest, hopen, hincident]
      refine .rejected e hmakes fun event' receivedAt' hex' hcall => ?_
      obtain ⟨rfl, -, -⟩ := IncidentCall.ingest.inj hcall
      exact newIncident_error hincident
    | ok incident =>
      rw [hincident] at hmakes
      have hnew := hfresh incident hmakes
      obtain ⟨kept, hevict, hvalues, hcoherent, hseen⟩ := IncidentIndexes.evict_spec service.maxIncidents
        (store_coherent h hnew receivedAt) le_rfl
      have hstored : (service.store incident receivedAt).incidents.values = service.incidents.values ++
          [incident] :=
        Dict.assign_new hnew
      rw [hstored] at hvalues
      simp only [ingest, hopen, hincident, insert, hevict]
      exact .created event receivedAt hex incident kept rfl hmakes hopen hincident hvalues hcoherent hseen

theorem approve_stepped (incidentId : String) :
    Stepped service sha256 (.approve incidentId) (service.approve incidentId) := by
  cases hget : service.get incidentId with
  | error e =>
    rw [approve, hget]
    exact .rejected e rfl fun _ _ _ hcall => nomatch hcall
  | ok incident =>
    obtain ⟨hmem, rfl⟩ := (service.get_ok_iff _ _).mp hget
    by_cases hstatus : incident.recoveryPlan.status = .awaitingApproval
    · have happrove : approveRecovery incident.recoveryPlan =
          .ok { incident.recoveryPlan with status := .approved } :=
        if_neg fun hne => hne hstatus
      simp only [approve, hget, happrove]
      exact .approved incident rfl rfl hmem hstatus
    · have happrove : approveRecovery incident.recoveryPlan =
          .error (.valueError "recovery plan is not awaiting approval") := if_pos hstatus
      simp only [approve, hget, happrove]
      exact .rejected _ rfl fun _ _ _ hcall => nomatch hcall

theorem step_stepped (h : service.Coherent) (call : IncidentCall τ)
    (hfresh : ∀ incident ∈ service.makes sha256 call, incident.id ∉ service.incidents.keys) :
    Stepped service sha256 call (service.step sha256 call) := by
  cases call with
  | ingest event receivedAt hex => exact ingest_stepped h event receivedAt hex hfresh
  | approve incidentId => exact approve_stepped incidentId

structure Sound (service : IncidentService τ) (createdIds : List String) : Prop where
  coherent : service.Coherent
  retained : service.incidents.keys = createdIds.rtake service.maxIncidents

theorem created_nodup_of_append {start : IncidentService τ} {calls later : List (IncidentCall τ)}
    (h : (start.created sha256 (calls ++ later)).Nodup) : (start.created sha256 calls).Nodup := by
  rw [created_append] at h
  exact (List.nodup_append.mp h).1

theorem not_created_before {start : IncidentService τ} {calls : List (IncidentCall τ)} {call : IncidentCall τ}
    (hfresh : (start.created sha256 (calls ++ [call])).Nodup) {incident : Incident}
    (hmakes : incident ∈ (final (step sha256) start calls).makes sha256 call) :
    incident.id ∉ start.created sha256 calls := by
  intro hmem
  rw [created_concat, Option.mem_def.mp hmakes, List.nodup_append] at hfresh
  exact hfresh.2.2 _ hmem _ List.mem_cons_self rfl

theorem Sound.fresh {start : IncidentService τ} {calls : List (IncidentCall τ)} {call : IncidentCall τ}
    (h : (final (step sha256) start calls).Sound (start.created sha256 calls))
    (hfresh : (start.created sha256 (calls ++ [call])).Nodup) :
    ∀ incident ∈ (final (step sha256) start calls).makes sha256 call,
      incident.id ∉ (final (step sha256) start calls).incidents.keys := by
  intro incident hmakes hmem
  rw [h.retained] at hmem
  exact not_created_before hfresh hmakes ((rtake_sublist _ _).subset hmem)

theorem Stepped.settings_eq {call : IncidentCall τ} {outcome : Result Incident × IncidentService τ}
    (h : Stepped service sha256 call outcome) : outcome.2.topology = service.topology ∧
      outcome.2.dedupWindow = service.dedupWindow ∧ outcome.2.maxIncidents = service.maxIncidents := by
  cases h <;> exact ⟨rfl, rfl, rfl⟩

theorem Sound.stepped {createdIds : List String} (h : service.Sound createdIds) {call : IncidentCall τ}
    {outcome : Result Incident × IncidentService τ} (hstepped : Stepped service sha256 call outcome) :
    outcome.2.Sound (createdIds ++ ((service.makes sha256 call).map Incident.id).toList) := by
  cases hstepped with
  | rejected e hmakes =>
    rw [hmakes, Option.map_none, Option.toList_none, List.append_nil]
    exact h
  | merged event receivedAt hex existing _ hmakes hopen =>
    obtain ⟨hmem, hfingerprint⟩ := newest_mem (openIncident_existing h.coherent hopen).1
    have hknown := (h.coherent.mem_lastSeen_iff _).mpr ⟨existing, hmem, hfingerprint⟩
    rw [hmakes, Option.map_none, Option.toList_none, List.append_nil]
    exact ⟨h.coherent.seen hknown, h.retained⟩
  | created event receivedAt hex incident kept _ hmakes _ _ hvalues hcoherent _ =>
    refine ⟨hcoherent, ?_⟩
    have hretained := h.retained
    rw [Dict.keys] at hretained
    rw [hmakes, Option.map_some, Option.toList_some, ← rtake_append, ← hretained]
    change kept.incidents.values.map Incident.id = _
    rw [hvalues, map_rtake, List.map_append]
    rfl
  | approved incident _ hmakes hmem =>
    have hpresent : incident.id ∈ service.incidents.keys := List.mem_map_of_mem hmem
    have hkeys : (service.incidents.assign incident.approved).keys = service.incidents.keys :=
      Dict.keys_assign_present (x := incident.approved) hpresent
    rw [hmakes, Option.map_none, Option.toList_none, List.append_nil]
    exact ⟨h.coherent.replaced hmem rfl rfl, hkeys.trans h.retained⟩

omit [Sub τ] in
theorem init_sound {T : Topology} {dedupWindow : τ} {maxIncidents : ℕ}
    (hinit : init T dedupWindow maxIncidents = .ok service) : service.topology = T ∧
      service.dedupWindow = dedupWindow ∧ service.maxIncidents = maxIncidents ∧ service.incidents = .empty _ ∧
      service.Sound [] := by
  unfold init at hinit
  split_ifs at hinit
  obtain rfl := Except.ok.inj hinit
  exact ⟨rfl, rfl, rfl, rfl, ⟨rfl, fun _ => rfl⟩, (List.drop_nil).symm⟩

theorem final_sound {start : IncidentService τ} (h : start.Sound []) (calls : List (IncidentCall τ))
    (hfresh : (start.created sha256 calls).Nodup) :
    (final (step sha256) start calls).topology = start.topology ∧
      (final (step sha256) start calls).dedupWindow = start.dedupWindow ∧
      (final (step sha256) start calls).maxIncidents = start.maxIncidents ∧
      (final (step sha256) start calls).Sound (start.created sha256 calls) := by
  induction calls using List.reverseRecOn with
  | nil => exact ⟨rfl, rfl, rfl, h⟩
  | append_singleton calls call ih =>
    obtain ⟨htopology, hwindow, hmax, hsound⟩ := ih (created_nodup_of_append hfresh)
    have hstepped := step_stepped hsound.coherent call (hsound.fresh hfresh)
    obtain ⟨htopology', hwindow', hmax'⟩ := hstepped.settings_eq
    rw [final_concat, created_concat]
    exact ⟨htopology'.trans htopology, hwindow'.trans hwindow, hmax'.trans hmax, hsound.stepped hstepped⟩

theorem Stepped.unchanged {call : IncidentCall τ} {outcome : Result Incident × IncidentService τ}
    (h : Stepped service sha256 call outcome) {e : Exn} (herror : outcome.1 = .error e) :
    outcome.2 = service := by
  cases h with
  | rejected => rfl
  | merged => cases herror
  | created => cases herror
  | approved => cases herror

/-- An incident that `ingest` returns is stored: the limit leaves room for the newest one. -/
theorem Stepped.retrievable (h : service.Coherent) {call : IncidentCall τ}
    {outcome : Result Incident × IncidentService τ} (hstepped : Stepped service sha256 call outcome)
    {event : NetworkEvent} {receivedAt : τ} {hex : String} (hcall : call = .ingest event receivedAt hex)
    {incident : Incident} (hok : outcome.1 = .ok incident) : outcome.2.get incident.id = .ok incident := by
  rw [get_ok_iff]
  cases hstepped with
  | rejected => cases hok
  | merged _ _ _ existing _ _ hopen =>
    obtain rfl := Except.ok.inj hok
    exact ⟨(newest_mem (openIncident_existing h hopen).1).1, rfl⟩
  | created _ _ _ new kept _ _ _ _ hvalues _ _ =>
    obtain rfl := Except.ok.inj hok
    refine ⟨?_, rfl⟩
    change new ∈ kept.incidents.values
    rw [hvalues, rtake_concat _ _ service.maxIncidents_pos]
    exact List.mem_append_right _ List.mem_cons_self
  | approved _ happrove =>
    rw [hcall] at happrove
    cases happrove

end IncidentService

open IncidentService in
theorem incident_indexes_stay_coherent [Sub τ] [Zero τ] [LE τ] [DecidableRel (fun a b : τ => a ≤ b)]
    (T : Topology) (dedupWindow : τ) (maxIncidents : ℕ) (start : IncidentService τ)
    (hinit : IncidentService.init T dedupWindow maxIncidents = .ok start) (sha256 : String → String)
    (calls : List (IncidentCall τ)) (hfresh : (start.created sha256 calls).Nodup)
    (reached : IncidentService τ) (hreached : final (step sha256) start calls = reached) :
    reached.incidents.keys = (start.created sha256 calls).rtake maxIncidents ∧
    reached.incidents.values.length ≤ maxIncidents ∧
    reached.idByFingerprint.keys = reached.lastSeen.keys ∧
    (∀ fingerprint, fingerprint ∈ reached.idByFingerprint.keys ↔
      ∃ incident ∈ reached.incidents.values, incident.fingerprint = fingerprint) ∧
    (∀ fingerprint id, reached.idByFingerprint.get fingerprint = some (fingerprint, id) ↔
      ∃ older incident newer, reached.incidents.values = older ++ incident :: newer ∧
        incident.fingerprint = fingerprint ∧ incident.id = id ∧ ∀ later ∈ newer,
        later.fingerprint ≠ fingerprint) ∧
    ∀ call, (start.created sha256 (calls ++ [call])).Nodup →
      (∀ e, (reached.step sha256 call).1 = .error e → (reached.step sha256 call).2 = reached) ∧
      ∀ event receivedAt hex, call = .ingest event receivedAt hex →
        (∀ e, (reached.step sha256 call).1 = .error e → T.analyzeLinkDown event = .error e) ∧
        ∀ incident, (reached.step sha256 call).1 = .ok incident →
          (reached.step sha256 call).2.get incident.id = .ok incident := by
  obtain ⟨htopology, -, hmax, -, hstart⟩ := init_sound hinit
  obtain ⟨htopology', -, hmax', hsound⟩ := final_sound hstart calls hfresh
  subst hreached
  have hretained := hsound.retained
  rw [hmax', hmax] at hretained
  refine ⟨hretained, ?_, hsound.coherent.keys_eq, fun fingerprint => ?_, fun fingerprint id => ?_,
    fun call hnext => ?_⟩
  · have hlength := congrArg List.length hretained
    rw [Dict.keys, List.length_map, length_rtake] at hlength
    omega
  · rw [hsound.coherent.keys_eq]
    exact hsound.coherent.mem_lastSeen_iff fingerprint
  · rw [hsound.coherent.owner, Option.map_eq_some_iff]
    constructor
    · rintro ⟨incident, hnewest, hpair⟩
      obtain ⟨older, newer, hvalues, hfingerprint, hnewer⟩ := (newest_some_iff _ _ _).mp hnewest
      exact ⟨older, incident, newer, hvalues, hfingerprint, (Prod.mk.inj hpair).2, hnewer⟩
    · rintro ⟨older, incident, newer, hvalues, hfingerprint, rfl, hnewer⟩
      exact ⟨incident, (newest_some_iff _ _ _).mpr ⟨older, newer, hvalues, hfingerprint, hnewer⟩, rfl⟩
  · have hstepped := step_stepped hsound.coherent call (hsound.fresh hnext)
    refine ⟨fun e herror => hstepped.unchanged herror, fun event receivedAt hex hcall => ⟨fun e herror => ?_,
      fun incident hok => hstepped.retrievable hsound.coherent hcall hok⟩⟩
    rw [← htopology, ← htopology']
    generalize (final (step sha256) start calls).step sha256 call = outcome at hstepped herror
    cases hstepped with
    | rejected _ _ hreason =>
      rw [hreason event receivedAt hex hcall, Except.error.inj herror]
    | merged => cases herror
    | created => cases herror
    | approved => cases herror

def linkDigest (text : String) : String :=
  if text = "link_down:access1--agg1" then "b145d533d6fb02ac10b5edfa46b72ce95ad0738c56ba64e5b0a4c44e0fa7b4c2"
  else if text = "link_down:access1--agg2" then
    "e8cb4d25b7156c7f2a61035267ca4e0ecb10b0792d2115b2f164b46b4baf66b9"
  else "158876052ce0105a93c90c10a3313fa88daf3f3329792f869545fb59c33cfed1"

def recurringCalls : List (IncidentCall ℤ) :=
  [.ingest { linkId := "access1--agg1" } 100 "5d0c31f2ab7e",
    .ingest { linkId := "access1--agg2" } 103 "07be64d19a2c",
    .ingest { linkId := "access1--agg1" } 130 "ffffffffffff", .approve "inc-5d0c31f2ab7e",
    .approve "inc-5d0c31f2ab7e", .ingest { linkId := "access1--agg1" } 131 "b8f2e0735c41"]

def diamondService : IncidentService ℤ :=
  ⟨⟨.empty _, .empty _, .empty _⟩, Topology.diamond, 60, 2, Nat.two_pos⟩

open IncidentService in
theorem incident_indexes_stay_coherent_recurring :
    diamondService.created linkDigest recurringCalls =
      ["inc-5d0c31f2ab7e", "inc-07be64d19a2c", "inc-b8f2e0735c41"] ∧
    (final (step linkDigest) diamondService recurringCalls).incidents.keys =
      ["inc-07be64d19a2c", "inc-b8f2e0735c41"] ∧
    (final (step linkDigest) diamondService recurringCalls).idByFingerprint.keys =
      (final (step linkDigest) diamondService recurringCalls).lastSeen.keys := by
  obtain ⟨hkeys, -, hsame, -⟩ := incident_indexes_stay_coherent Topology.diamond (60 : ℤ) 2 diamondService rfl
    linkDigest recurringCalls (by decide +kernel) _ rfl
  exact ⟨by decide +kernel, hkeys.trans (by decide +kernel), hsame⟩

end TelconetSentinel
