import Spacer.Lib.Lists
import Spacer.VmmConfig.Resources

/-!
What a rejected request leaves behind.
-/

namespace Spacer.VmmConfig

open Lib
open List hiding after

theorem mem_of_mem_swapRemove {α : Type} {items : List α} {item : α}
  (member : item ∈ swapRemove items index) : item ∈ items := by
  unfold swapRemove at member
  split at member
  · exact member
  rename_i last found
  rcases mem_or_eq_of_mem_set (dropLast_subset _ member) with kept | rfl
  · exact kept
  · exact mem_of_getLast? found

theorem swapRemove_ne {α : Type} {items : List α} (inside : index < items.length) :
  swapRemove items index ≠ items := by
  intro same
  have shorter := congrArg length same
  unfold swapRemove at shorter
  split at shorter
  · rename_i empty
    rw [getLast?_eq_none_iff] at empty
    simp [empty] at inside
  rw [length_dropLast, length_set] at shorter
  omega

namespace NetBuilder

variable {ε : Type}

theorem mem_of_mem_removeOld (member : net ∈ removeOld netDevices ifaceId) : net ∈ netDevices := by
  unfold removeOld at member
  split at member
  · exact mem_of_mem_swapRemove member
  · exact member

theorem removeOld_eq_iff :
  removeOld netDevices ifaceId = netDevices ↔ ∀ net ∈ netDevices, net.id ≠ ifaceId := by
  unfold removeOld
  split
  · rename_i index found
    obtain ⟨inside, named, _⟩ := findIdx?_eq_some_iff_getElem.mp found
    refine iff_of_false (swapRemove_ne inside) fun other => ?_
    exact other _ (getElem_mem inside) (by simpa using named)
  rename_i missing
  refine iff_of_true rfl fun net member => ?_
  simpa using findIdx?_eq_none_iff.mp missing net member

theorem createNet_mmdsNs (created : createNet config host = .ok net) : net.mmdsNs = none := by
  unfold createNet at created
  split at created
  · cases created
  · cases created
  split at created
  · cases created
  cases created
  rfl

theorem build_eq_iff (rejected : (build netDevices config host).1 = .error err) :
  (build netDevices config host).2 = netDevices ↔
    netDevices.any (macConflict config) = true ∨ ∀ net ∈ netDevices, net.id ≠ config.ifaceId := by
  unfold build at rejected ⊢
  split
  · rename_i conflict
    exact iff_of_true rfl (.inl conflict)
  rename_i free
  rw [if_neg free] at rejected
  split at rejected
  · dsimp only
    rw [removeOld_eq_iff]
    exact ⟨.inr, fun either => either.resolve_left free⟩
  · cases rejected

theorem mmdsNs_of_build (member : net ∈ (build netDevices config host).2) :
  net ∈ netDevices ∨ net.mmdsNs = none := by
  unfold build at member
  split at member
  · exact .inl member
  split at member
  · exact .inl (mem_of_mem_removeOld member)
  rename_i built created
  rcases mem_append.mp member with kept | added
  · exact .inl (mem_of_mem_removeOld kept)
  rw [mem_singleton.mp added]
  exact .inr (createNet_mmdsNs created)

end NetBuilder

theorem BlockBuilder.insert_eq {ε : Type} {host : BlockHost ε} {err : DriveError ε}
  (rejected : (insert list config host).1 = .error err) : (insert list config host).2 = list := by
  unfold insert at rejected ⊢
  dsimp only at rejected ⊢
  split
  · rfl
  rename_i allowed
  rw [if_neg allowed] at rejected
  split at rejected
  · rfl
  · cases rejected

namespace VmResources

variable {ε : Type} {resources : VmResources}

def Stacked (resources : VmResources) : Prop :=
  resources.mmds = none → ∀ net ∈ resources.netDevices, net.mmdsNs = none

theorem updateVmConfig_frame (config : VmUpdateConfig) : (resources.updateVmConfig config).2 =
    { resources with vmConfig := (resources.updateVmConfig config).2.vmConfig } := by
  unfold updateVmConfig
  dsimp only
  split
  · rfl
  · split <;> rfl

/-- The number of vCPUs and SMT are written before the memory size is checked. -/
theorem updateVmConfig_eq_iff (rejected : (resources.updateVmConfig config).1 = .error err) :
  (resources.updateVmConfig config).2.vmConfig = resources.vmConfig ↔
    invalidVcpuCount (resources.requestedVcpuCount config) (resources.requestedSmt config) = true ∨
      resources.requestedVcpuCount config = resources.vmConfig.vcpuCount ∧
        resources.requestedSmt config = resources.vmConfig.smt := by
  unfold updateVmConfig at rejected ⊢
  dsimp only at rejected ⊢
  split
  · rename_i invalid
    exact iff_of_true rfl (.inl invalid)
  rename_i valid
  rw [if_neg valid] at rejected
  split at rejected
  · rw [or_iff_right valid]
    constructor
    · intro same
      exact ⟨congrArg VmConfig.vcpuCount same, congrArg VmConfig.smt same⟩
    rintro ⟨vcpus, smt⟩
    rw [vcpus, smt]
  · cases rejected

theorem setBalloonDevice_eq (rejected : (resources.setBalloonDevice config host).1 = .error err) :
  (resources.setBalloonDevice config host).2 = resources := by
  unfold setBalloonDevice at rejected ⊢
  split
  · rfl
  rename_i allowed
  rw [if_neg allowed] at rejected
  split at rejected
  · rfl
  · cases rejected

theorem map_stackFor_eq_iff (nets : List Net) :
  nets.map (stackFor config addr) = nets ↔ ∀ net ∈ nets, stackFor config addr net = net := by
  have pointwise := @List.map_inj_left _ _ nets (stackFor config addr) id
  rwa [map_id] at pointwise

theorem checkNetworkStack_selects (accepted : resources.checkNetworkStack (ε := ε) config = .ok addr) :
  ∃ net ∈ resources.netDevices, stackFor config addr net = { net with mmdsNs := some addr } := by
  unfold checkNetworkStack at accepted
  split at accepted
  · cases accepted
  split at accepted
  · cases accepted
  rename_i named
  split at accepted
  · rename_i known
    cases accepted
    cases interfaces : config.networkInterfaces with
    | nil => simp [interfaces] at named
    | cons id rest =>
      rw [interfaces, all_cons, Bool.and_eq_true, any_eq_true] at known
      obtain ⟨⟨net, member, same⟩, _⟩ := known
      refine ⟨net, member, ?_⟩
      rw [stackFor, interfaces, of_decide_eq_true same]
      simp
  · cases accepted

theorem mmds_of_stackFor (stacked : resources.Stacked)
  (accepted : resources.checkNetworkStack (ε := ε) config = .ok addr)
  (same : ∀ net ∈ resources.netDevices, stackFor config addr net = net) : resources.mmds ≠ none := by
  intro missing
  obtain ⟨net, member, selected⟩ := checkNetworkStack_selects accepted
  have address := congrArg Net.mmdsNs ((same net member).symm.trans selected)
  rw [stacked missing net member] at address
  cases address

theorem setVersion_eq {mmds : Mmds} (failed : mmds.setVersion version entropy = (.error err, after)) :
  after = mmds := by
  unfold Mmds.setVersion at failed
  split at failed
  · cases failed
  split at failed
  · cases failed
  split at failed
  · cases failed
    rfl
  · cases failed

/-- The network stacks are set before the version, which may fail. -/
theorem setMmdsConfig_rejected {err : MmdsConfigError ε}
  (accepted : resources.checkNetworkStack (ε := ε) config = .ok addr)
  (rejected : (resources.setMmdsConfig config instanceId entropy).1 = .error err) :
  (resources.setMmdsConfig config instanceId entropy).2 = { resources.mmdsOrDefault with
      netDevices := resources.netDevices.map (stackFor config addr) } := by
  unfold setMmdsConfig setMmdsNetworkStackConfig at rejected ⊢
  rw [accepted] at rejected ⊢
  unfold setMmdsVersion at rejected ⊢
  dsimp only [mmdsOrDefault, Option.getD_some] at rejected ⊢
  split at rejected
  · rename_i failed
    rw [setVersion_eq failed]
  · cases rejected

theorem settings_setMmdsConfig_iff {err : MmdsConfigError ε} (stacked : resources.Stacked)
  (accepted : resources.checkNetworkStack (ε := ε) config = .ok addr)
  (rejected : (resources.setMmdsConfig config instanceId entropy).1 = .error err) :
  (resources.setMmdsConfig config instanceId entropy).2.settings = resources.settings ↔
    ∀ net ∈ resources.netDevices, stackFor config addr net = net := by
  rw [setMmdsConfig_rejected accepted rejected, ← map_stackFor_eq_iff]
  constructor
  · intro same
    exact congrArg Settings.netDevices same
  intro same
  have present := mmds_of_stackFor stacked accepted ((map_stackFor_eq_iff _).mp same)
  obtain ⟨mmds, found⟩ := Option.ne_none_iff_exists'.mp present
  rw [same]
  simp only [settings, mmdsConfig, mmdsOrDefault, found, Option.getD_some]

def Untouched (resources : VmResources) : Request ε → Prop
  | .updateVmConfig config =>
    invalidVcpuCount (resources.requestedVcpuCount config) (resources.requestedSmt config) = true ∨
      resources.requestedVcpuCount config = resources.vmConfig.vcpuCount ∧
        resources.requestedSmt config = resources.vmConfig.smt
  | .buildNetDevice config _ =>
    resources.netDevices.any (NetBuilder.macConflict config) = true ∨
      ∀ net ∈ resources.netDevices, net.id ≠ config.ifaceId
  | .setMmdsConfig config _ _ =>
    ∀ addr, resources.checkNetworkStack (ε := ε) config = .ok addr →
      ∀ net ∈ resources.netDevices, stackFor config addr net = net
  | _ => True

theorem stacked_of_same {later : VmResources} (stacked : resources.Stacked)
  (mmds : later.mmds = resources.mmds) (nets : later.netDevices = resources.netDevices) :
  later.Stacked := by
  rw [Stacked, mmds, nets]
  exact stacked

theorem stacked_setMmdsConfig (stacked : resources.Stacked) :
  (resources.setMmdsConfig config instanceId entropy).2.Stacked := by
  unfold setMmdsConfig setMmdsNetworkStackConfig
  split
  · rename_i failed
    split at failed
    · cases failed
      exact stacked
    · cases failed
  unfold setMmdsVersion
  dsimp only
  split <;> exact nofun

theorem stacked_handle (stacked : resources.Stacked) (request : Request ε) :
  (resources.handle request).2.Stacked := by
  cases request with
  | updateVmConfig config =>
    have frame := @updateVmConfig_frame resources config
    have mmds := congrArg VmResources.mmds frame
    have nets := congrArg VmResources.netDevices frame
    exact stacked_of_same stacked mmds nets
  | setBalloonDevice config host =>
    show (resources.setBalloonDevice config host).2.Stacked
    unfold setBalloonDevice
    split
    · exact stacked
    split
    · exact stacked
    · exact stacked_of_same stacked rfl rfl
  | setBlockDevice config host => exact stacked_of_same stacked rfl rfl
  | buildNetDevice config host =>
    intro missing net member
    rcases NetBuilder.mmdsNs_of_build member with kept | fresh
    · exact stacked missing net kept
    · exact fresh
  | setMmdsConfig config instanceId entropy => exact stacked_setMmdsConfig stacked
  | mmdsData => exact nofun

theorem stacked_of_preboot {mmdsSizeLimit : Nat} (reached : Preboot ε mmdsSizeLimit resources) :
  resources.Stacked := by
  refine @Reach.invariant _ _ _ _ Stacked (fun before request later stacked _ taken => ?_) _ _
    (fun _ _ member => (not_mem_nil member).elim) reached
  rw [show later = (before.handle request).2 from taken]
  exact stacked_handle stacked request

/-- A rejected request changes nothing exactly if what it writes before its last check is as
requested already. -/
theorem rejected_changes_nothing_iff {mmdsSizeLimit : Nat} (reached : Preboot ε mmdsSizeLimit resources)
  (request : Request ε) (err : RequestError ε) (rejected : (resources.handle request).1 = .error err) :
  (resources.handle request).2.settings = resources.settings ↔ resources.Untouched request := by
  cases request with
  | updateVmConfig config =>
    obtain ⟨cause, failed⟩ := error_of_mapError rejected
    refine Iff.trans ?_ (updateVmConfig_eq_iff failed)
    constructor
    · intro same
      exact congrArg Settings.vmConfig same
    intro same
    have frame := @updateVmConfig_frame resources config
    rw [same] at frame
    exact congrArg settings frame
  | setBalloonDevice config host =>
    obtain ⟨cause, failed⟩ := error_of_mapError rejected
    exact iff_of_true (congrArg settings (setBalloonDevice_eq failed)) trivial
  | setBlockDevice config host =>
    obtain ⟨cause, failed⟩ := error_of_mapError rejected
    have same := BlockBuilder.insert_eq failed
    refine iff_of_true ?_ trivial
    show settings { resources with block := _ } = _
    rw [same]
  | buildNetDevice config host =>
    obtain ⟨cause, failed⟩ := error_of_mapError rejected
    refine Iff.trans ?_ (NetBuilder.build_eq_iff failed)
    constructor
    · intro same
      exact congrArg Settings.netDevices same
    intro same
    show settings { resources with netDevices := _ } = _
    rw [same]
  | setMmdsConfig config instanceId entropy =>
    obtain ⟨cause, failed⟩ := error_of_mapError rejected
    cases checked : resources.checkNetworkStack (ε := ε) config with
    | error reason =>
      refine iff_of_true ?_ fun addr accepted => ?_
      · show (resources.setMmdsConfig config instanceId entropy).2.settings = _
        rw [setMmdsConfig, setMmdsNetworkStackConfig, checked]
      rw [checked] at accepted
      cases accepted
    | ok addr =>
      refine Iff.trans (settings_setMmdsConfig_iff (stacked_of_preboot reached) checked failed) ?_
      constructor
      · intro same other accepted
        rw [checked] at accepted
        cases accepted
        exact same
      intro same
      exact same addr checked
  | mmdsData => cases rejected

/-! A machine with one network interface. -/

def sampleNet (ifaceId : String) (device : Except Unit Unit) : Request Unit :=
  .buildNetDevice ⟨ifaceId, "tap0", none, none, none⟩ ⟨.ok (), .ok (), device⟩

def oneInterface : VmResources := ((default 51200).handle (sampleNet "eth0" (.ok ()))).2

theorem oneInterface_preboot : Preboot Unit 51200 oneInterface := .tail .refl rfl trivial

theorem rejected_changes_nothing_interface : (oneInterface.handle (sampleNet "eth1" (.error ()))).1 =
      .error (.networkConfig (.createNetworkDevice ())) ∧
    (oneInterface.handle (sampleNet "eth1" (.error ()))).2.settings = oneInterface.settings := by
  have rejected : (oneInterface.handle (sampleNet "eth1" (.error ()))).1 =
      .error (.networkConfig (.createNetworkDevice ())) := rfl
  have other : oneInterface.Untouched (sampleNet "eth1" (.error ())) := by
    refine .inr fun net member => ?_
    rw [mem_singleton.mp member]
    decide
  exact ⟨rejected, (rejected_changes_nothing_iff oneInterface_preboot _ _ rejected).mpr other⟩

/-- The vCPUs are changed although the memory size is refused, the interface is lost although
its replacement cannot be created, and the MMDS is configured although it gets no randomness. -/
theorem rejected_requests_change_settings : (∃ request : Request Unit,
    ((default 51200).handle request).1 = .error (.machineConfig .invalidMemorySize) ∧
    ((default 51200).handle request).2.vmConfig.vcpuCount ≠ (default 51200).vmConfig.vcpuCount) ∧
  Preboot Unit 51200 oneInterface ∧
  (∃ request : Request Unit,
    (oneInterface.handle request).1 = .error (.networkConfig (.createNetworkDevice ())) ∧
    oneInterface.netDevices.length = 1 ∧ (oneInterface.handle request).2.netDevices = []) ∧
  ∃ request : Request Unit, (oneInterface.handle request).1 = .error (.mmdsConfig (.mmdsVersion .v2 ())) ∧
    oneInterface.mmdsConfig = none ∧
    (oneInterface.handle request).2.mmdsConfig =
      some ⟨.v1, ["eth0"], some defaultIpv4Addr⟩ := by
  refine ⟨⟨.updateVmConfig ⟨some 2, some 0, none, none, none⟩, rfl, by decide⟩,
    oneInterface_preboot, ⟨sampleNet "eth0" (.error ()), rfl, rfl, rfl⟩,
    ⟨.setMmdsConfig ⟨.v2, ["eth0"], none⟩ "vm" (.error ()), rfl, rfl, rfl⟩⟩

end VmResources

end Spacer.VmmConfig
