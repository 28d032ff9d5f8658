import TelconetSentinel.IncidentIndexes
import TelconetSentinel.Library.PythonText

namespace TelconetSentinel

open DelimitedText FallibleLists KeyedLists RecentRetention Simulation

theorem fingerprintText_inj {event event' : NetworkEvent} (h : ':' ∉ event.eventType.toList)
    (h' : ':' ∉ event'.eventType.toList) (hsame : fingerprintText event = fingerprintText event') :
    event = event' := by
  have htext : ∀ e : NetworkEvent, (fingerprintText e).toList = e.eventType.toList ++
      ':' :: e.linkId.toList := by
    intro e
    simp only [fingerprintText, String.toList_append, List.append_assoc]
    rfl
  have hlists := congrArg String.toList hsame
  rw [htext, htext] at hlists
  obtain ⟨htype, hlink⟩ := split_unique h h' hlists
  cases event
  cases event'
  rw [NetworkEvent.mk.injEq]
  exact ⟨String.toList_injective hlink, String.toList_injective htype⟩

theorem EventRequest.eventType_plain (request : EventRequest) : ':' ∉ request.toEvent.eventType.toList := by
  intro hmem
  have hcolon := request.eventType_pattern.2.2 ':' hmem
  revert hcolon
  decide

variable {τ : Type}

def ingested (calls : List (IncidentCall τ)) : List NetworkEvent :=
  calls.filterMap fun call =>
    match call with
    | .ingest event _ _ => some event
    | .approve _ => none

def TextsDiffer (calls : List (IncidentCall τ)) : Prop :=
  ∀ event ∈ ingested calls, ∀ event' ∈ ingested calls, fingerprintText event = fingerprintText event' →
    event = event'

theorem textsDiffer_of_requests {calls : List (IncidentCall τ)}
    (h : ∀ event ∈ ingested calls, ∃ request : EventRequest, request.toEvent = event) :
    TextsDiffer calls := by
  intro event hevent event' hevent' hsame
  obtain ⟨request, rfl⟩ := h event hevent
  obtain ⟨request', rfl⟩ := h event' hevent'
  exact fingerprintText_inj request.eventType_plain request'.eventType_plain hsame

def Distinguishes (sha256 : String → String) (calls : List (IncidentCall τ)) : Prop :=
  ∀ event ∈ ingested calls, ∀ event' ∈ ingested calls,
    sha256 (fingerprintText event) = sha256 (fingerprintText event') → event = event'

theorem Distinguishes.of_append {sha256 : String → String} {calls later : List (IncidentCall τ)}
    (h : Distinguishes sha256 (calls ++ later)) : Distinguishes sha256 calls := by
  intro event hevent event' hevent'
  have hmem : ∀ e ∈ ingested calls, e ∈ ingested (calls ++ later) := by
    intro e he
    rw [ingested, List.filterMap_append]
    exact List.mem_append_left _ he
  exact h event (hmem event hevent) event' (hmem event' hevent')

/-- An incident is dropped from the front together with all older ones of its fingerprint. -/
theorem newest_of_cons {incidents : List Incident} {oldest : Incident} {fingerprint id : String}
    (hnodup : ((oldest :: incidents).map Incident.id).Nodup)
    (h : newest (oldest :: incidents) fingerprint = lookup Incident.id (oldest :: incidents) id) :
    newest incidents fingerprint = lookup Incident.id incidents id := by
  have hout : oldest ∉ incidents := fun hmem =>
    (List.nodup_cons.mp hnodup).1 (List.mem_map_of_mem hmem)
  by_cases hid : oldest.id = id
  · have hfirst : lookup Incident.id (oldest :: incidents) id = some oldest :=
      (lookup_some_iff hnodup _ _).mpr ⟨List.mem_cons_self, hid⟩
    have hgone : lookup Incident.id incidents id = none := by
      rw [lookup_none_iff, ← hid]
      exact (List.nodup_cons.mp hnodup).1
    rw [hfirst] at h
    obtain ⟨-, rfl⟩ := newest_mem h
    rw [newest_cons_self] at h
    rw [hgone]
    cases hnewest : newest incidents oldest.fingerprint with
    | none => rfl
    | some incident =>
      rw [hnewest] at h
      have hsame : incident = oldest := Option.some.inj h
      exact absurd (hsame ▸ (newest_mem hnewest).1) hout
  · have hrest : lookup Incident.id (oldest :: incidents) id = lookup Incident.id incidents id :=
      List.find?_cons_of_neg (by simpa using hid)
    rw [hrest] at h
    by_cases hfingerprint : oldest.fingerprint = fingerprint
    · subst hfingerprint
      rw [newest_cons_self] at h
      cases hnewest : newest incidents oldest.fingerprint with
      | none =>
        rw [hnewest] at h
        exact absurd (lookup_some _ h.symm).1 hout
      | some incident =>
        rw [hnewest] at h
        exact h
    · rw [← h, newest_cons_ne _ hfingerprint]

theorem newest_drop {incidents : List Incident} {fingerprint id : String}
    (hnodup : (incidents.map Incident.id).Nodup)
    (h : newest incidents fingerprint = lookup Incident.id incidents id) (n : ℕ) :
    newest (incidents.drop n) fingerprint = lookup Incident.id (incidents.drop n) id := by
  induction n generalizing incidents with
  | zero => exact h
  | succ n ih =>
    cases incidents with
    | nil => exact h
    | cons oldest incidents => exact ih (List.nodup_cons.mp hnodup).2 (newest_of_cons hnodup h)

theorem mem_ingested_concat (calls : List (IncidentCall τ)) (call : IncidentCall τ) (event : NetworkEvent) :
    event ∈ ingested (calls ++ [call]) ↔
      event ∈ ingested calls ∨ ∃ receivedAt hex, call = .ingest event receivedAt hex := by
  rw [ingested, List.filterMap_append, List.mem_append]
  apply or_congr_right
  cases call with
  | ingest event' receivedAt hex => simp [eq_comm]
  | approve id => simp

namespace IncidentService

section Tracking

variable {service : IncidentService τ}

/-- An incident seen at a time is still the newest of its fingerprint, if it is stored, and its plan tells
whether a call has approved it. -/
structure Tracked (seen : Incident) (seenAt : τ) (isApproved : Prop) (service : IncidentService τ) :
    Prop where
  newest_eq : newest service.incidents.values seen.fingerprint = service.incidents.get seen.id
  seen_at : ∀ x, service.lastSeen.get seen.fingerprint = some x → x = (seen.fingerprint, seenAt)
  awaiting : seen.recoveryPlan.status = .awaitingApproval
  stored : ∀ incident ∈ service.incidents.values, incident.id = seen.id →
    (isApproved → incident = seen.approved) ∧ (¬ isApproved → incident = seen)

theorem Tracked.congr {seen : Incident} {seenAt : τ} {isApproved isApproved' : Prop}
    (h : Tracked seen seenAt isApproved service) (hiff : isApproved' ↔ isApproved) :
    Tracked seen seenAt isApproved' service := by
  rwa [propext hiff]

theorem Tracked.created {seen new : Incident} {seenAt receivedAt : τ} {isApproved : Prop}
    {kept : IncidentIndexes τ} (h : Tracked seen seenAt isApproved service)
    (hfingerprint : new.fingerprint ≠ seen.fingerprint) (hid : new.id ≠ seen.id)
    (hnew : new.id ∉ service.incidents.keys)
    (hvalues : kept.incidents.values = (service.incidents.values ++ [new]).rtake service.maxIncidents)
    (hseen : ∀ fingerprint x, kept.lastSeen.get fingerprint = some x →
      (service.lastSeen.assign (new.fingerprint, receivedAt)).get fingerprint = some x) :
    Tracked seen seenAt isApproved { service with toIncidentIndexes := kept } := by
  have hadded : (service.incidents.assign new).values = service.incidents.values ++ [new] :=
    Dict.assign_new hnew
  have hget : (service.incidents.assign new).get seen.id = service.incidents.get seen.id :=
    Dict.get_assign_ne hid.symm
  refine ⟨?_, fun x hx => ?_, h.awaiting, fun incident hmem hsame => ?_⟩
  · change newest kept.incidents.values seen.fingerprint = lookup Incident.id kept.incidents.values seen.id
    rw [hvalues, ← hadded]
    apply newest_drop (service.incidents.assign new).keys_nodup
    rw [hadded, newest_concat_ne _ hfingerprint, h.newest_eq, ← hget, ← hadded]
    rfl
  · have hassigned := hseen seen.fingerprint x hx
    rw [Dict.get_assign_ne (x := (new.fingerprint, receivedAt)) hfingerprint.symm] at hassigned
    exact h.seen_at x hassigned
  · change incident ∈ kept.incidents.values at hmem
    rw [hvalues] at hmem
    rcases mem_rtake_concat hmem with hmem | rfl
    · exact h.stored incident hmem hsame
    · exact absurd hsame hid

theorem Tracked.approved {seen incident : Incident} {seenAt : τ} {isApproved : Prop}
    (h : Tracked seen seenAt isApproved service) (hmem : incident ∈ service.incidents.values)
    (hstatus : incident.recoveryPlan.status = .awaitingApproval) :
    Tracked seen seenAt (isApproved ∨ incident.id = seen.id)
      { service with incidents := service.incidents.assign incident.approved } := by
  have hpresent : incident.approved.id ∈ service.incidents.keys := List.mem_map.mpr ⟨incident, hmem, rfl⟩
  have hvalues := Dict.assign_present hpresent
  refine ⟨?_, h.seen_at, h.awaiting, fun other hother hsame => ?_⟩
  · have hids : (fun x : Incident => (if x.id = incident.approved.id then incident.approved else x).id) =
        Incident.id := by
      funext x
      split_ifs with hx
      · exact hx.symm
      · rfl
    change newest (service.incidents.assign incident.approved).values seen.fingerprint =
      lookup Incident.id (service.incidents.assign incident.approved).values seen.id
    rw [hvalues, newest_map, h.newest_eq, lookup_map, hids]
    · rfl
    · intro x hx
      split_ifs with hsame
      · have hx' : x = incident := key_inj service.incidents.keys_nodup hx hmem hsame
        rw [hx', Incident.approved]
      · rfl
  · change other ∈ (service.incidents.assign incident.approved).values at hother
    rcases Dict.mem_assign_cases hother with rfl | ⟨hid, hother⟩
    · have hseen : incident.id = seen.id := hsame
      refine ⟨fun _ => ?_, fun hnot => absurd (Or.inr hseen) hnot⟩
      by_cases happroved : isApproved
      -- An approved plan is not approved again.
      · rw [(h.stored incident hmem hseen).1 happroved] at hstatus
        cases hstatus
      · rw [(h.stored incident hmem hseen).2 happroved]
    · have hunseen : incident.id ≠ seen.id := fun hseen => hid (hsame.trans hseen.symm)
      rw [or_iff_left hunseen]
      exact h.stored other hother hsame

end Tracking

variable [Sub τ] [Zero τ] [LE τ] [DecidableRel (fun a b : τ => a ≤ b)]

variable {service start : IncidentService τ} {sha256 : String → String} {calls : List (IncidentCall τ)}
  {call : IncidentCall τ} {outcome : Result Incident × IncidentService τ}

structure Genuine (T : Topology) (sha256 : String → String) (calls : List (IncidentCall τ))
    (incident : Incident) :
    Prop where
  event_mem : incident.event ∈ ingested calls
  analysed : T.analyzeLinkDown incident.event = .ok incident.analysis
  fingerprint_eq : incident.fingerprint = sha256 (fingerprintText incident.event)
  status : incident.recoveryPlan.status = .awaitingApproval ∨ incident.recoveryPlan.status = .approved

theorem Stepped.genuine (hstepped : Stepped service sha256 call outcome)
    (h : ∀ incident ∈ service.incidents.values, Genuine service.topology sha256 calls incident) :
    ∀ incident ∈ outcome.2.incidents.values, Genuine service.topology sha256 (calls ++ [call]) incident := by
  have hearlier : ∀ incident ∈ service.incidents.values,
      Genuine service.topology sha256 (calls ++ [call]) incident := by
    intro incident hmem
    obtain ⟨hevent, hanalysed, hfingerprint, hstatus⟩ := h incident hmem
    exact ⟨(mem_ingested_concat _ _ _).mpr (Or.inl hevent), hanalysed, hfingerprint, hstatus⟩
  cases hstepped with
  | rejected => exact hearlier
  | merged => exact hearlier
  | created event receivedAt hex new kept hcall _ _ hnew hvalues _ _ =>
    intro incident hmem
    change incident ∈ kept.incidents.values at hmem
    rw [hvalues] at hmem
    rcases mem_rtake_concat hmem with hmem | rfl
    · exact hearlier incident hmem
    · obtain ⟨-, hfingerprint, hevent, hanalysed, hstatus⟩ := newIncident_ok_cases hnew
      refine ⟨(mem_ingested_concat _ _ _).mpr (Or.inr ⟨receivedAt, hex, ?_⟩), ?_, ?_, Or.inl hstatus⟩
      · rw [hevent, hcall]
      · rw [hevent]
        exact hanalysed
      · rw [hevent, hfingerprint]
  | approved approved _ _ hmem _ =>
    intro incident hincident
    rcases Dict.mem_assign_cases hincident with rfl | ⟨-, hincident⟩
    · obtain ⟨hevent, hanalysed, hfingerprint, -⟩ := hearlier approved hmem
      exact ⟨hevent, hanalysed, hfingerprint, Or.inr rfl⟩
    · exact hearlier incident hincident

theorem final_genuine (h : start.Sound []) (hempty : start.incidents = .empty _)
    (calls : List (IncidentCall τ)) (hfresh : (start.created sha256 calls).Nodup) :
    ∀ incident ∈ (final (step sha256) start calls).incidents.values,
      Genuine start.topology sha256 calls incident := by
  induction calls using List.reverseRecOn with
  | nil =>
    intro incident hmem
    change incident ∈ start.incidents.values at hmem
    rw [hempty] at hmem
    exact absurd hmem List.not_mem_nil
  | append_singleton calls call ih =>
    have hearlier := created_nodup_of_append hfresh
    obtain ⟨htopology, -, -, hsound⟩ := final_sound h calls hearlier
    rw [final_concat]
    rw [← htopology] at ih ⊢
    exact (step_stepped hsound.coherent call (hsound.fresh hfresh)).genuine (ih hearlier)

def Approved (sha256 : String → String) (start : IncidentService τ) (calls : List (IncidentCall τ))
    (id : String) : Prop :=
  ∃ earlier later answer, calls = earlier ++ .approve id :: later ∧
    ((final (step sha256) start earlier).step sha256 (.approve id)).1 = .ok answer

theorem approved_concat_iff (id : String) : Approved sha256 start (calls ++ [call]) id ↔
    Approved sha256 start calls id ∨
      call = .approve id ∧ ∃ answer, ((final (step sha256) start calls).step sha256 call).1 = .ok answer := by
  constructor
  · rintro ⟨earlier, later, answer, hcalls, hanswer⟩
    rcases List.eq_nil_or_concat later with rfl | ⟨rest, last, rfl⟩
    · obtain ⟨rfl, hcall⟩ := List.append_inj' hcalls rfl
      obtain rfl : call = .approve id := (List.cons.inj hcall).1
      exact Or.inr ⟨rfl, answer, hanswer⟩
    · rw [List.concat_eq_append, ← List.cons_append, ← List.append_assoc] at hcalls
      obtain ⟨rfl, -⟩ := List.append_inj' hcalls rfl
      exact Or.inl ⟨earlier, rest, answer, rfl, hanswer⟩
  · rintro (⟨earlier, later, answer, rfl, hanswer⟩ | ⟨rfl, answer, hanswer⟩)
    · exact ⟨earlier, later ++ [call], answer, by simp, hanswer⟩
    · exact ⟨calls, [], answer, rfl, hanswer⟩

theorem not_approved_nil (id : String) : ¬ Approved sha256 start [] id := by
  rintro ⟨earlier, later, answer, hcalls, -⟩
  exact absurd hcalls.symm (List.append_ne_nil_of_right_ne_nil _ (List.cons_ne_nil _ _))

theorem Tracked.stepped {seen : Incident} {seenAt : τ} {isApproved : Prop}
    (h : Tracked seen seenAt isApproved service) (hstepped : Stepped service sha256 call outcome)
    (hfresh : ∀ incident ∈ service.makes sha256 call, incident.id ∉ service.incidents.keys ∧
      incident.id ≠ seen.id)
    (hother : ∀ event receivedAt hex, call = .ingest event receivedAt hex →
      sha256 (fingerprintText event) ≠ seen.fingerprint) :
    Tracked seen seenAt (isApproved ∨ call = .approve seen.id ∧ ∃ answer, outcome.1 = .ok answer)
      outcome.2 := by
  cases hstepped with
  | rejected e =>
    refine h.congr (or_iff_left ?_)
    rintro ⟨-, answer, hanswer⟩
    cases hanswer
  | merged event receivedAt hex existing hcall hmakes hopen =>
    have hne := hother event receivedAt hex hcall
    have hmerged : Tracked seen seenAt isApproved
        (service.merge (sha256 (fingerprintText event)) receivedAt) := by
      refine ⟨h.newest_eq, fun x hx => ?_, h.awaiting, h.stored⟩
      change (service.lastSeen.assign _).get _ = some x at hx
      rw [Dict.get_assign_ne (x := (sha256 (fingerprintText event), receivedAt)) hne.symm] at hx
      exact h.seen_at x hx
    apply hmerged.congr
    rw [hcall]
    simp
  | created event receivedAt hex new kept hcall hmakes hopen hincident hvalues hcoherent hseen =>
    obtain ⟨-, hfingerprint, -⟩ := newIncident_ok_cases hincident
    obtain ⟨hnew, hid⟩ := hfresh new hmakes
    have hne : new.fingerprint ≠ seen.fingerprint := hfingerprint ▸ hother event receivedAt hex hcall
    refine (h.created hne hid hnew hvalues hseen).congr ?_
    rw [hcall]
    simp
  | approved incident hcall hmakes hmem hstatus =>
    refine (h.approved hmem hstatus).congr (or_congr_right ?_)
    rw [hcall, IncidentCall.approve.injEq]
    simp

theorem Stepped.returned (hcoherent : service.Coherent) (hstepped : Stepped service sha256 call outcome)
    {event : NetworkEvent} {receivedAt : τ} {hex : String} (hcall : call = .ingest event receivedAt hex)
    {incident : Incident} (hok : outcome.1 = .ok incident) : incident ∈ outcome.2.incidents.values ∧
      incident.fingerprint = sha256 (fingerprintText event) ∧
      Tracked incident receivedAt False outcome.2 := by
  cases hstepped with
  | rejected => cases hok
  | merged event' receivedAt' hex' existing hcall' _ hopen =>
    obtain ⟨rfl, rfl, rfl⟩ := IncidentCall.ingest.inj (hcall.symm.trans hcall')
    obtain rfl := Except.ok.inj hok
    obtain ⟨hnewest, hstatus⟩ := openIncident_existing hcoherent hopen
    obtain ⟨hmem, hfingerprint⟩ := newest_mem hnewest
    refine ⟨hmem, hfingerprint, ?_, fun x hx => ?_, hstatus, fun other hother hsame =>
      ⟨False.elim, fun _ => ?_⟩⟩
    · rw [hfingerprint]
      exact hnewest.trans ((Dict.get_some_iff _ _).mpr ⟨hmem, rfl⟩).symm
    · change (service.lastSeen.assign _).get _ = some x at hx
      rw [hfingerprint] at hx ⊢
      rw [Dict.get_assign_self (sha256 (fingerprintText event), receivedAt)] at hx
      exact (Option.some.inj hx).symm
    · exact key_inj service.incidents.keys_nodup hother hmem hsame
  | created event' receivedAt' hex' new kept hcall' _ _ hnew hvalues _ hseen =>
    obtain ⟨rfl, rfl, rfl⟩ := IncidentCall.ingest.inj (hcall.symm.trans hcall')
    obtain rfl := Except.ok.inj hok
    obtain ⟨-, hfingerprint, -, -, hstatus⟩ := newIncident_ok_cases hnew
    rw [rtake_concat _ _ service.maxIncidents_pos] at hvalues
    have hmem : new ∈ kept.incidents.values := hvalues ▸ List.mem_append_right _ List.mem_cons_self
    refine ⟨hmem, hfingerprint, ?_, fun x hx => ?_, hstatus, fun other hother hsame =>
      ⟨False.elim, fun _ => ?_⟩⟩
    · change newest kept.incidents.values new.fingerprint = kept.incidents.get new.id
      rw [(Dict.get_some_iff _ _).mpr ⟨hmem, rfl⟩, hvalues]
      exact newest_concat_self _ _
    · have hassigned := hseen new.fingerprint x hx
      rw [Dict.get_assign_self (new.fingerprint, receivedAt)] at hassigned
      exact (Option.some.inj hassigned).symm
    · exact key_inj kept.incidents.keys_nodup hother hmem hsame
  | approved _ happrove =>
    rw [hcall] at happrove
    cases happrove

/-- By induction on the calls that follow, none of which brings the tracked event. -/
theorem tracked_final {seen : Incident} {seenAt : τ} (hstart : start.Sound [])
    (earlier : List (IncidentCall τ)) (between : List (IncidentCall τ))
    (hfresh : (start.created sha256 (earlier ++ between)).Nodup)
    (hseen : seen.id ∈ start.created sha256 earlier)
    (hother : ∀ other ∈ ingested between, sha256 (fingerprintText other) ≠ seen.fingerprint)
    (h : Tracked seen seenAt False (final (step sha256) start earlier)) :
    Tracked seen seenAt (Approved sha256 (final (step sha256) start earlier) between seen.id)
      (final (step sha256) start (earlier ++ between)) := by
  induction between using List.reverseRecOn with
  | nil =>
    rw [List.append_nil]
    exact h.congr (iff_false_intro (not_approved_nil _))
  | append_singleton between call ih =>
    rw [← List.append_assoc] at hfresh
    have hsound := (final_sound hstart _ (created_nodup_of_append hfresh)).2.2.2
    have hnew : ∀ incident ∈ (final (step sha256) start (earlier ++ between)).makes sha256 call,
        incident.id ∉ (final (step sha256) start (earlier ++ between)).incidents.keys ∧
        incident.id ≠ seen.id := by
      intro incident hmakes
      refine ⟨hsound.fresh hfresh incident hmakes, fun hsame => ?_⟩
      apply not_created_before hfresh hmakes
      rw [hsame, created_append]
      exact List.mem_append_left _ hseen
    have hcall : ∀ event receivedAt hex, call = .ingest event receivedAt hex →
        sha256 (fingerprintText event) ≠ seen.fingerprint := fun event receivedAt hex hcall =>
      hother event ((mem_ingested_concat _ _ _).mpr (Or.inr ⟨receivedAt, hex, hcall⟩))
    have htracked := ih (created_nodup_of_append hfresh)
      fun other hmem => hother other ((mem_ingested_concat _ _ _).mpr (Or.inl hmem))
    have hnext := htracked.stepped (step_stepped hsound.coherent call fun i hi => (hnew i hi).1) hnew hcall
    rw [← List.append_assoc, final_concat]
    refine hnext.congr ((approved_concat_iff _).trans ?_)
    rw [← final_append]

theorem Stepped.ingest_cases {event : NetworkEvent} {receivedAt : τ} {hex : String}
    (hstepped : Stepped service sha256 (.ingest event receivedAt hex) outcome) {incident : Incident}
    (hok : outcome.1 = .ok incident) :
    service.openIncident (sha256 (fingerprintText event)) receivedAt = .ok (some incident) ∨
      service.openIncident (sha256 (fingerprintText event)) receivedAt = .ok none ∧
        service.makes sha256 (.ingest event receivedAt hex) = some incident := by
  cases hstepped with
  | rejected => cases hok
  | merged event' receivedAt' hex' existing hcall _ hopen =>
    obtain ⟨rfl, rfl, rfl⟩ := IncidentCall.ingest.inj hcall
    obtain rfl := Except.ok.inj hok
    exact Or.inl hopen
  | created event' receivedAt' hex' new kept hcall hmakes hopen =>
    obtain ⟨rfl, rfl, rfl⟩ := IncidentCall.ingest.inj hcall
    obtain rfl := Except.ok.inj hok
    exact Or.inr ⟨hopen, hmakes⟩
  | approved _ hcall => cases hcall

theorem Tracked.next {first second : Incident} {seenAt receivedAt : τ} {isApproved : Prop}
    {event : NetworkEvent} {hex : String} (h : Tracked first seenAt isApproved service)
    (hcoherent : service.Coherent) (hfingerprint : first.fingerprint = sha256 (fingerprintText event))
    (hstepped : Stepped service sha256 (.ingest event receivedAt hex) outcome)
    (hok : outcome.1 = .ok second) :
    (first.id ∈ service.incidents.keys ∧ ¬ isApproved ∧ 0 ≤ receivedAt - seenAt ∧
        receivedAt - seenAt ≤ service.dedupWindow → second = first) ∧
      (¬ (first.id ∈ service.incidents.keys ∧ ¬ isApproved ∧ 0 ≤ receivedAt - seenAt ∧
        receivedAt - seenAt ≤ service.dedupWindow) →
        service.makes sha256 (.ingest event receivedAt hex) = some second) := by
  have hnewest := h.newest_eq
  rw [hfingerprint] at hnewest
  cases hget : service.incidents.get first.id with
  | none =>
    have hgone : first.id ∉ service.incidents.keys := (Dict.get_none_iff _).mp hget
    refine ⟨fun hall => absurd hall.1 hgone, fun _ => ?_⟩
    rw [hget] at hnewest
    rcases hstepped.ingest_cases hok with hopen | ⟨-, hmakes⟩
    · rw [openIncident_none hcoherent hnewest] at hopen
      cases hopen
    · exact hmakes
  | some stored =>
    rw [hget] at hnewest
    obtain ⟨hmem, hid⟩ := (Dict.get_some_iff _ _).mp hget
    obtain ⟨happroved, hawaiting⟩ := h.stored stored hmem hid
    obtain ⟨seenAt', hseen, hmerges, hnot⟩ := openIncident_some hcoherent hnewest receivedAt
    rw [← hfingerprint] at hseen
    obtain rfl : seenAt' = seenAt := (Prod.mk.inj (h.seen_at _ hseen)).2
    have hiff : service.Merges stored seenAt' receivedAt ↔ first.id ∈ service.incidents.keys ∧ ¬ isApproved ∧
        0 ≤ receivedAt - seenAt' ∧ receivedAt - seenAt' ≤ service.dedupWindow := by
      have hkey : first.id ∈ service.incidents.keys := hid ▸ List.mem_map_of_mem hmem
      rw [and_iff_right hkey, Merges]
      refine and_congr_left fun _ => ⟨fun hstatus hyes => ?_, fun hno => ?_⟩
      · rw [happroved hyes] at hstatus
        cases hstatus
      · rw [hawaiting hno]
        exact h.awaiting
    rw [← hiff]
    refine ⟨fun hm => ?_, fun hm => ?_⟩
    · have hsame : second = stored := by
        rcases hstepped.ingest_cases hok with hopen | ⟨hopen, -⟩
        · exact Option.some.inj (Except.ok.inj (hopen.symm.trans (hmerges hm)))
        · rw [hmerges hm] at hopen
          cases hopen
      rw [hsame, hawaiting (hiff.mp hm).2.1]
    · rcases hstepped.ingest_cases hok with hopen | ⟨-, hmakes⟩
      · rw [hnot hm] at hopen
        cases hopen
      · exact hmakes

theorem Stepped.status {incident : Incident} (hstepped : Stepped service sha256 call outcome)
    (hnew : ∀ made ∈ service.makes sha256 call, made.id ≠ incident.id)
    (h : ∀ stored ∈ service.incidents.values, stored.id = incident.id →
      stored = incident ∨ incident.recoveryPlan.status = .awaitingApproval ∧ stored = incident.approved) :
    ∀ stored ∈ outcome.2.incidents.values, stored.id = incident.id →
      stored = incident ∨ incident.recoveryPlan.status = .awaitingApproval ∧ stored = incident.approved := by
  cases hstepped with
  | rejected => exact h
  | merged => exact h
  | created event receivedAt hex new kept _ hmakes _ _ hvalues =>
    intro stored hmem hid
    change stored ∈ kept.incidents.values at hmem
    rw [hvalues] at hmem
    rcases mem_rtake_concat hmem with hmem | rfl
    · exact h stored hmem hid
    · exact absurd hid (hnew stored hmakes)
  | approved approved _ _ hmem hstatus =>
    intro stored hstored hid
    rcases Dict.mem_assign_cases hstored with rfl | ⟨-, hstored⟩
    · rcases h approved hmem hid with rfl | ⟨-, happroved⟩
      · exact Or.inr ⟨hstatus, rfl⟩
      · rw [happroved] at hstatus
        cases hstatus
    · exact h stored hstored hid

theorem status_final (hstart : start.Sound []) (earlier later : List (IncidentCall τ))
    (hfresh : (start.created sha256 (earlier ++ later)).Nodup) {incident : Incident}
    (hmem : incident ∈ (final (step sha256) start earlier).incidents.values) :
    ∀ stored ∈ (final (step sha256) start (earlier ++ later)).incidents.values, stored.id = incident.id →
      stored = incident ∨ incident.recoveryPlan.status = .awaitingApproval ∧ stored = incident.approved := by
  have hcreated : incident.id ∈ start.created sha256 earlier := by
    have hsound := (final_sound hstart _ (created_nodup_of_append hfresh)).2.2.2
    apply (rtake_sublist _ (final (step sha256) start earlier).maxIncidents).subset
    rw [← hsound.retained]
    exact List.mem_map_of_mem hmem
  induction later using List.reverseRecOn with
  | nil =>
    rw [List.append_nil]
    exact fun stored hstored hid => Or.inl (key_inj (Dict.keys_nodup _) hstored hmem hid)
  | append_singleton later call ih =>
    rw [← List.append_assoc] at hfresh
    have hsound := (final_sound hstart _ (created_nodup_of_append hfresh)).2.2.2
    rw [← List.append_assoc, final_concat]
    refine (step_stepped hsound.coherent call (hsound.fresh hfresh)).status (fun made hmade hsame => ?_)
      (ih (created_nodup_of_append hfresh))
    apply not_created_before hfresh hmade
    rw [hsame, created_append]
    exact List.mem_append_left _ hcreated

theorem returned_event {earlier : List (IncidentCall τ)} {event : NetworkEvent} {receivedAt : τ}
    {hex : String} {incident : Incident} (hstart : start.Sound []) (hempty : start.incidents = .empty _)
    (hfresh : (start.created sha256 (earlier ++ [.ingest event receivedAt hex])).Nodup)
    (hdistinct : Distinguishes sha256 (earlier ++ [.ingest event receivedAt hex]))
    (hok : ((final (step sha256) start earlier).step sha256 (.ingest event receivedAt hex)).1 =
      .ok incident) :
    incident.fingerprint = sha256 (fingerprintText event) ∧
      start.topology.analyzeLinkDown event = .ok incident.analysis ∧
      incident.id ∈ start.created sha256 (earlier ++ [.ingest event receivedAt hex]) ∧
      Tracked incident receivedAt False
        (final (step sha256) start (earlier ++ [.ingest event receivedAt hex])) := by
  have hsound := (final_sound hstart earlier (created_nodup_of_append hfresh)).2.2.2
  have hstepped := step_stepped hsound.coherent (.ingest event receivedAt hex) (hsound.fresh hfresh)
  obtain ⟨hmem, hfingerprint, htracked⟩ := hstepped.returned hsound.coherent rfl hok
  rw [← final_concat] at hmem htracked
  have hgenuine := final_genuine hstart hempty _ hfresh incident hmem
  have hevent : incident.event = event := by
    apply hdistinct incident.event hgenuine.event_mem event
      ((mem_ingested_concat _ _ _).mpr (Or.inr ⟨_, _, rfl⟩))
    rw [← hgenuine.fingerprint_eq, hfingerprint]
  have hanalysed := hgenuine.analysed
  rw [hevent] at hanalysed
  refine ⟨hfingerprint, hanalysed, ?_, htracked⟩
  have hretained := (final_sound hstart _ hfresh).2.2.2.retained
  apply (rtake_sublist _ (final (step sha256) start
    (earlier ++ [.ingest event receivedAt hex])).maxIncidents).subset
  rw [← hretained]
  exact List.mem_map_of_mem hmem

theorem analyzeLinkDown_type {T : Topology} {event : NetworkEvent} {analysis : ImpactAnalysis}
    (h : T.analyzeLinkDown event = .ok analysis) : event.eventType = "link_down" :=
  not_not.mp ((check_ok_iff _ _ _ _).mp h).1

theorem stored_iff {ids : List String} {id : String} (hnodup : ids.Nodup) (hid : id ∈ ids)
    (maxIncidents : ℕ) :
    id ∈ ids.rtake maxIncidents ↔ ∃ older newer, ids = older ++ id :: newer ∧
    newer.length < maxIncidents := by
  constructor
  · intro hmem
    obtain ⟨older, newer, rfl⟩ := List.append_of_mem hid
    exact ⟨older, newer, rfl, (mem_rtake_iff hnodup maxIncidents).mp hmem⟩
  · rintro ⟨older, newer, rfl, hlt⟩
    exact (mem_rtake_iff hnodup maxIncidents).mpr hlt

end IncidentService

def parallelLinks : Topology where
  nodesByName := [⟨"access1", .access, ["10.1.0.0/24"]⟩, ⟨"service-host", .service, ["10.20.0.0/24"]⟩]
  linksById := [⟨"rack1:uplink", "access1", "service-host", 10⟩, ⟨"uplink", "access1", "service-host", 10⟩]
  names_nodup := by decide
  ids_nodup := by decide
  cost_pos := by decide
  no_self_link := by decide
  endpoint_known := by decide

def parallelService : IncidentService ℤ := ⟨⟨.empty _, .empty _, .empty _⟩, parallelLinks, 60, 2, Nat.two_pos⟩

def collidingCalls : List (IncidentCall ℤ) :=
  [.ingest ⟨"rack1:uplink", "link_down"⟩ 100 "5d0c31f2ab7e",
    .ingest ⟨"uplink", "link_down:rack1"⟩ 130 "ffffffffffff"]

open IncidentService in
/-- The second link's event is answered with the open incident of the first link, even if no two texts share a
digest. -/
theorem colliding_event_returns_other_incident :
    IncidentService.init parallelLinks (60 : ℤ) 2 = .ok parallelService ∧
    (parallelService.created id collidingCalls).Nodup ∧
    ∃ incident, ((final (step id) parallelService (collidingCalls.take 1)).step id
        (.ingest ⟨"uplink", "link_down:rack1"⟩ 130 "ffffffffffff")).1.toOption = some incident ∧
      incident.analysis.failedComponent = "rack1:uplink" ∧
      parallelLinks.analyzeLinkDown ⟨"uplink", "link_down"⟩ ≠ .ok incident.analysis ∧
      parallelLinks.analyzeLinkDown ⟨"uplink", "link_down:rack1"⟩ ≠ .ok incident.analysis := by
  refine ⟨rfl, by decide +kernel, ?_⟩
  have hanswer : (((final (step id) parallelService (collidingCalls.take 1)).step id
      (.ingest ⟨"uplink", "link_down:rack1"⟩ 130 "ffffffffffff")).1.toOption.map
        fun incident => incident.analysis.failedComponent) = some "rack1:uplink" := by decide +kernel
  obtain ⟨incident, hincident, hcomponent⟩ := Option.map_eq_some_iff.mp hanswer
  have hown : (parallelLinks.analyzeLinkDown ⟨"uplink", "link_down"⟩).toOption.map
      ImpactAnalysis.failedComponent =
      some "uplink" := by decide +kernel
  refine ⟨incident, hincident, hcomponent, fun hanalysed => ?_, fun hanalysed => ?_⟩
  · rw [hanalysed] at hown
    exact absurd (hcomponent.symm.trans (Option.some.inj hown)) (by decide)
  · exact absurd (analyzeLinkDown_type hanalysed) (by decide)

open IncidentService in
theorem event_deduplication_is_exact [Sub τ] [Zero τ] [LE τ] [DecidableRel (fun a b : τ => a ≤ b)]
    (T : Topology) (dedupWindow : τ) (maxIncidents : ℕ) (start : IncidentService τ)
    (hinit : IncidentService.init T dedupWindow maxIncidents = .ok start) (sha256 : String → String)
    (calls : List (IncidentCall τ)) (hfresh : (start.created sha256 calls).Nodup)
    (htexts : TextsDiffer calls)
    (hcollision : ∀ event ∈ ingested calls, ∀ event' ∈ ingested calls,
      sha256 (fingerprintText event) = sha256 (fingerprintText event') →
      fingerprintText event = fingerprintText event') :
    (∀ before event receivedAt hex between event' receivedAt' hex' after first second,
      calls = before ++ .ingest event receivedAt hex ::
      (between ++ .ingest event' receivedAt' hex' :: after) →
      event'.linkId = event.linkId → (∀ other ∈ ingested between, other.linkId ≠ event.linkId) →
      ((final (step sha256) start before).step sha256 (.ingest event receivedAt hex)).1 = .ok first →
      ((final (step sha256) start (before ++ .ingest event receivedAt hex :: between)).step sha256
        (.ingest event' receivedAt' hex')).1 = .ok second →
      (second = first ↔
        ¬ Approved sha256 (final (step sha256) start (before ++ [.ingest event receivedAt hex])) between
          first.id ∧
        0 ≤ receivedAt' - receivedAt ∧ receivedAt' - receivedAt ≤ dedupWindow ∧
        ∃ older newer, start.created sha256 (before ++ .ingest event receivedAt hex :: between) =
          older ++ first.id :: newer ∧ newer.length < maxIncidents) ∧
      (second ≠ first → second.id ∉
        start.created sha256 (before ++ .ingest event receivedAt hex :: between))) ∧
    (∀ before event receivedAt hex after incident, calls = before ++ .ingest event receivedAt hex :: after →
      ((final (step sha256) start before).step sha256 (.ingest event receivedAt hex)).1 = .ok incident →
      incident.recoveryPlan.status = .awaitingApproval ∧ T.analyzeLinkDown event = .ok incident.analysis) ∧
    ∀ before after, calls = before ++ after →
    ∀ incident ∈ (final (step sha256) start before).incidents.values,
      (incident.recoveryPlan.status = .awaitingApproval ∨ incident.recoveryPlan.status = .approved) ∧
      ∀ stored ∈ (final (step sha256) start calls).incidents.values, stored.id = incident.id →
        stored = incident ∨ incident.recoveryPlan.status = .awaitingApproval ∧
        stored = incident.approved := by
  obtain ⟨rfl, rfl, rfl, hempty, hstart⟩ := init_sound hinit
  have hdistinct : Distinguishes sha256 calls := fun event hevent event' hevent' hsame =>
    htexts event hevent event' hevent' (hcollision event hevent event' hevent' hsame)
  refine ⟨?_, ?_, ?_⟩
  · intro before event receivedAt hex between event' receivedAt' hex' after first second hcalls hlink hother
      hfirst hsecond
    -- The calls up to the first event, up to the second one and with it.
    have hsplit : calls = (before ++ [.ingest event receivedAt hex] ++ between ++
        [.ingest event' receivedAt' hex']) ++
        after := by
      rw [hcalls]
      simp
    have hcons : before ++ .ingest event receivedAt hex :: between = before ++
        [.ingest event receivedAt hex] ++ between := by
      simp
    rw [hsplit] at hfresh hdistinct
    rw [hcons] at hsecond ⊢
    have hfresh₃ := created_nodup_of_append hfresh
    have hfresh₂ := created_nodup_of_append hfresh₃
    have hdistinct₃ := hdistinct.of_append
    have hsound := final_sound hstart _ hfresh₂
    have hstepped := step_stepped hsound.2.2.2.coherent (.ingest event' receivedAt' hex')
      (hsound.2.2.2.fresh hfresh₃)
    obtain ⟨hfingerprint, hanalysed, hcreated, htracked⟩ := returned_event hstart hempty
      (created_nodup_of_append hfresh₂) hdistinct₃.of_append.of_append hfirst
    obtain ⟨-, hanalysed', -, -⟩ := returned_event hstart hempty hfresh₃ hdistinct₃ hsecond
    have hsame : event' = event := by
      cases event
      cases event'
      rw [NetworkEvent.mk.injEq]
      exact ⟨hlink, (analyzeLinkDown_type hanalysed').trans (analyzeLinkDown_type hanalysed).symm⟩
    subst hsame
    have hothers : ∀ other ∈ ingested between, sha256 (fingerprintText other) ≠ first.fingerprint := by
      intro other hmem hdigest
      have hingested : other ∈ ingested (before ++ [.ingest event' receivedAt hex] ++ between) := by
        rw [ingested, List.filterMap_append]
        exact List.mem_append_right _ hmem
      have hevent : event' ∈ ingested (before ++ [.ingest event' receivedAt hex] ++ between) := by
        rw [ingested, List.filterMap_append]
        exact List.mem_append_left _ ((mem_ingested_concat _ _ _).mpr (Or.inr ⟨_, _, rfl⟩))
      exact hother other hmem (congrArg NetworkEvent.linkId
        (hdistinct₃.of_append other hingested event' hevent (hdigest.trans hfingerprint)))
    have htracked' := tracked_final hstart _ between hfresh₂ hcreated hothers htracked
    obtain ⟨hmerged, hopened⟩ := htracked'.next hsound.2.2.2.coherent hfingerprint hstepped hsecond
    have hcreated' : first.id ∈ start.created sha256 (before ++ [.ingest event' receivedAt hex] ++
        between) := by
      rw [created_append]
      exact List.mem_append_left _ hcreated
    have hstored := stored_iff hfresh₂ hcreated' start.maxIncidents
    rw [hsound.2.2.2.retained, hsound.2.1, hsound.2.2.1, hstored] at hmerged hopened
    refine ⟨⟨fun hsame => ?_, fun ⟨happroved, hnonneg, hwindow, hcount⟩ =>
      hmerged ⟨hcount, happroved, hnonneg, hwindow⟩⟩, fun hne => ?_⟩
    · by_contra hnot
      refine not_created_before hfresh₃ (hopened fun ⟨hcount, happroved, hnonneg, hwindow⟩ =>
        hnot ⟨happroved, hnonneg, hwindow, hcount⟩) ?_
      rw [hsame]
      exact hcreated'
    · exact not_created_before hfresh₃ (hopened fun hall => hne (hmerged hall))
  · intro before event receivedAt hex after incident hcalls hok
    rw [hcalls, List.append_cons] at hfresh hdistinct
    obtain ⟨-, hanalysed, -, htracked⟩ :=
      returned_event hstart hempty (created_nodup_of_append hfresh) hdistinct.of_append hok
    exact ⟨htracked.awaiting, hanalysed⟩
  · intro before after hcalls incident hmem
    subst hcalls
    exact ⟨(final_genuine hstart hempty _ (created_nodup_of_append hfresh) incident hmem).status,
      status_final hstart before after hfresh hmem⟩

theorem recurring_requests : ∀ event ∈ ingested recurringCalls, ∃ request : EventRequest,
    request.toEvent = event := by
  intro event hevent
  have hlink : event = ⟨"access1--agg1", "link_down"⟩ ∨ event = ⟨"access1--agg2", "link_down"⟩ := by
    revert event
    decide +kernel
  have hlinkDown : ∀ c ∈ "link_down".toList, isLower c ∨ c = '_' := by
    have hall : ("link_down".toList.all fun c => isLower c || c == '_') = true := by decide
    exact fun c hc => by simpa using List.all_eq_true.mp hall c hc
  have hid : ∀ id : String, (id.toList.all fun c => isLower c || isDigit c || c == '-') = true →
      ∀ c ∈ id.toList, isLower c ∨ isDigit c ∨ c = '-' := fun id hall c hc => by
    simpa [or_assoc] using List.all_eq_true.mp hall c hc
  rcases hlink with rfl | rfl
  · exact ⟨⟨"link_down", "access1--agg1", ⟨by decide, by decide, hlinkDown⟩, by decide, by decide,
      hid _ (by decide)⟩, rfl⟩
  · exact ⟨⟨"link_down", "access1--agg2", ⟨by decide, by decide, hlinkDown⟩, by decide, by decide,
      hid _ (by decide)⟩, rfl⟩

open IncidentService in
theorem event_deduplication_is_exact_recurring : ∃ first second,
    (diamondService.step linkDigest (.ingest { linkId := "access1--agg1" } 100 "5d0c31f2ab7e")).1 =
      .ok first ∧
    ((final (step linkDigest) diamondService (recurringCalls.take 2)).step linkDigest
      (.ingest { linkId := "access1--agg1" } 130 "ffffffffffff")).1 = .ok second ∧
    second = first ∧ Topology.diamond.analyzeLinkDown { linkId := "access1--agg1" } = .ok first.analysis := by
  obtain ⟨hmerged, hreturned, -⟩ := event_deduplication_is_exact Topology.diamond (60 : ℤ) 2 diamondService
    rfl linkDigest recurringCalls (by decide +kernel) (textsDiffer_of_requests recurring_requests)
      (by decide +kernel)
  have hfirst : ∃ first, (diamondService.step linkDigest
      (.ingest { linkId := "access1--agg1" } 100 "5d0c31f2ab7e")).1.toOption = some first ∧
        first.id = "inc-5d0c31f2ab7e" := by
    rw [← Option.map_eq_some_iff]
    decide +kernel
  have hsecond : ∃ second, ((final (step linkDigest) diamondService (recurringCalls.take 2)).step linkDigest
      (.ingest { linkId := "access1--agg1" } 130 "ffffffffffff")).1.toOption = some second := by
    rw [← Option.isSome_iff_exists]
    decide +kernel
  obtain ⟨first, hfirst, hid⟩ := hfirst
  obtain ⟨second, hsecond⟩ := hsecond
  rw [toOption_some_iff] at hfirst hsecond
  refine ⟨first, second, hfirst, hsecond, ?_, (hreturned [] _ _ _ (recurringCalls.drop 1) first rfl hfirst).2⟩
  refine (hmerged [] _ _ _ [.ingest { linkId := "access1--agg2" } 103 "07be64d19a2c"] _ _ _
    (recurringCalls.drop 3) first second rfl rfl (by decide) hfirst hsecond).1.mpr ⟨?_, by
    decide, by decide, [], ["inc-07be64d19a2c"], ?_, by decide⟩
  · rintro ⟨earlier, later, -, hcalls, -⟩
    have hmem : IncidentCall.approve first.id ∈ earlier ++ .approve first.id :: later :=
      List.mem_append_right _ List.mem_cons_self
    rw [← hcalls] at hmem
    cases List.mem_singleton.mp hmem
  · rw [hid]
    decide +kernel

end TelconetSentinel
