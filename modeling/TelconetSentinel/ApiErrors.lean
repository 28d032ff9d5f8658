import TelconetSentinel.Api
import TelconetSentinel.CollectedSnapshots
import TelconetSentinel.LogRejection

namespace TelconetSentinel

open AllowedFailures FallibleLists KeyedLists

namespace Topology

variable (T : Topology)

theorem link_fails (linkId : String) : FailsOnly Exn.IsValueError (T.link linkId) := by
  unfold Topology.link
  split
  · exact failsOnly_ok _
  · exact failsOnly_valueError _

theorem node_fails (name : String) : FailsOnly Exn.IsValueError (T.node name) := by
  unfold Topology.node
  split
  · exact failsOnly_ok _
  · exact failsOnly_valueError _

theorem visitAccess_fails {link : Link} (hlink : link ∈ T.linksById) (st : ImpactState) {access : String}
    (haccess : access ∈ T.accessNodes) : FailsOnly Exn.IsValueError (T.visitAccess link st access) := by
  have hknown := T.accessNodes_known haccess
  have hid : {link.id} ⊆ T.linkIds := by
    rw [Finset.singleton_subset_iff]
    exact List.mem_toFinset.mpr (List.mem_map_of_mem hlink)
  obtain ⟨before, hbefore, -⟩ := T.shortestDistanceExcluding_ok T.serviceNodes hknown (Finset.empty_subset _)
    (Finset.empty_subset _)
  obtain ⟨after, hafter, -⟩ :=
    T.shortestDistanceExcluding_ok T.serviceNodes hknown hid (Finset.empty_subset _)
  have hfirst : T.shortestDistance access T.serviceNodes = .ok before := hbefore
  have hsecond : T.shortestDistance access T.serviceNodes (some link.id) = .ok after := hafter
  rw [visitAccess, hfirst, ok_bind, hsecond, ok_bind]
  cases before with
  | none => exact failsOnly_valueError _
  | some before => exact failsOnly_ok _

theorem analyzeLinkDown_fails (event : NetworkEvent) :
    FailsOnly Exn.IsValueError (T.analyzeLinkDown event) := by
  refine FailsOnly.check rfl ((T.link_fails _).bind fun link hlink => FailsOnly.check rfl ?_)
  refine FailsOnly.bind (FailsOnly.foldlM_of_mem (fun st access haccess => ?_) _) fun st _ => ?_
  · exact T.visitAccess_fails (T.mem_of_link_ok hlink) st haccess
  · exact (FailsOnly.mapM fun name _ => T.node_fails name).bind fun owners _ => failsOnly_ok _

end Topology

section Telemetry

variable {binding : TelemetryTopologyBinding} {snapshot : TelemetrySnapshot}

theorem checkRouter_fails (servicePrefix : String) (target : BoundTelemetryTarget)
    (router : RouterTelemetry) :
    FailsOnly Exn.IsValueError (checkRouter servicePrefix target router) :=
  .check rfl (.check rfl (.check rfl (.check rfl (.check rfl (.check rfl (failsOnly_ok _))))))

theorem validateTelemetrySnapshot_fails (hinventory : TelemetryMetrics.Inventory binding)
    (snapshot : TelemetrySnapshot) :
    FailsOnly Exn.IsValueError (validateTelemetrySnapshot snapshot binding) := by
  refine FailsOnly.check rfl (FailsOnly.forM fun router hrouter => ?_)
  have hname : router.name ∈ (binding.targets.map BoundTelemetryTarget.node).toFinset := by
    rw [hinventory.baseline, ← snapshot.routers_baseline, List.mem_toFinset]
    exact List.mem_map_of_mem hrouter
  obtain ⟨target, htarget, hnode⟩ := List.mem_map.mp (List.mem_toFinset.mp hname)
  rw [validateRouter, ← hnode, boundTarget_of_mem hinventory.nodes_unique htarget, ok_bind]
  exact checkRouter_fails _ _ _

/-- Only a clock in the last minute of the year 9999 overflows. -/
def Ticks (serverNow : DateTime) : Prop := ∃ limit, serverNow.plusSeconds telemetryMaxFutureSkewSeconds =
    .ok limit

theorem validateTelemetryIngest_fails (hinventory : TelemetryMetrics.Inventory binding)
    (snapshot : TelemetrySnapshot) {serverNow : DateTime} (hclock : Ticks serverNow) :
    FailsOnly Exn.IsValueError (validateTelemetryIngest snapshot binding serverNow) := by
  obtain ⟨limit, hlimit⟩ := hclock
  rw [validateTelemetryIngest, hlimit, ok_bind]
  exact .check rfl (validateTelemetrySnapshot_fails hinventory snapshot)

end Telemetry

end TelconetSentinel
