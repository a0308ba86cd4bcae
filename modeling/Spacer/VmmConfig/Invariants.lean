import Spacer.VmmConfig.Rejected

/-!
What holds of the resources after any requests before the boot, accepted or rejected.
-/

namespace Spacer.VmmConfig

open Lib List

variable {ε : Type}

def DistinctBy {α : Type} (clash : α → α → Prop) (items : List α) : Prop :=
  ∀ (i j : Nat) one other, items[i]? = some one → items[j]? = some other → clash one other → i = j

namespace BlockBuilder

structure RootFirst (list : List Block) : Prop where
  ids : DistinctBy (·.id = ·.id) list
  root : ∀ (i : Nat) block, list[i]? = some block → block.isRootDevice = true → i = 0

theorem RootFirst.insert (first : RootFirst list) {host : BlockHost ε} :
  RootFirst (insert list config host).2 := by
  unfold BlockBuilder.insert
  dsimp only
  split
  · exact first
  rename_i allowed
  split
  · exact first
  rename_i block created
  obtain ⟨ids, root⟩ := first
  have fields : block.id = config.driveId ∧ block.isRootDevice = config.isRootDevice := by
    grind [createBlock]
  have present : hasRootDevice list = list[0]?.any Block.isRootDevice := by cases list <;> rfl
  cases position : getIndexOfDriveId list config.driveId with
  | none =>
    have fresh := findIdx?_eq_none_iff.mp position
    unfold place
    constructor <;> grind [DistinctBy]
  | some index =>
    -- a drive that becomes the root device takes the first place
    obtain ⟨inside, named, _⟩ := findIdx?_eq_some_iff_getElem.mp position
    have stored := getElem?_eq_getElem inside
    unfold place swapFirst
    constructor <;> grind [DistinctBy]

end BlockBuilder

namespace NetBuilder

def Clash (one other : Net) : Prop :=
  one.id = other.id ∨ one.guestMac.isSome = true ∧ one.guestMac = other.guestMac

theorem distinct_removeOld (distinct : DistinctBy Clash netDevices) (ifaceId : String) :
  DistinctBy Clash (removeOld netDevices ifaceId) ∧
    ∀ (i : Nat) net, (removeOld netDevices ifaceId)[i]? = some net → net.id ≠ ifaceId := by
  unfold removeOld
  split
  · rename_i index found
    obtain ⟨inside, named, _⟩ := findIdx?_eq_some_iff_getElem.mp found
    have removed := getElem?_eq_getElem inside
    unfold swapRemove
    unfold DistinctBy Clash at distinct ⊢
    constructor <;> grind
  · rename_i missing
    have others := findIdx?_eq_none_iff.mp missing
    grind

theorem distinct_build (distinct : DistinctBy Clash netDevices) {host : NetHost ε} :
  DistinctBy Clash (build netDevices config host).2 := by
  obtain ⟨kept, others⟩ := distinct_removeOld distinct config.ifaceId
  unfold build
  split
  · exact distinct
  rename_i free
  split
  · exact kept
  rename_i net created
  have fields : net.id = config.ifaceId ∧ net.guestMac = config.guestMac := by grind [createNet]
  unfold macConflict at free
  grind [DistinctBy, Clash, mem_of_mem_removeOld]

end NetBuilder

theorem Balloon.amountMib_new {host : BalloonHost ε}
  (created : new asked host = .ok balloon) : balloon.config.amountMib = asked.amountMib := by
  unfold new mibToPages mibTo4kPages at created
  have whole (small : asked.amountMib.toNat * 256 < 2 ^ 32) :
      asked.amountMib * 256 / 256 = asked.amountMib := by
    simp [← UInt32.toNat_inj]
    omega
  unfold config mibTo4kPages
  grind

namespace VmResources

variable {resources : VmResources}

structure Valid (resources : VmResources) : Prop where
  drives : BlockBuilder.RootFirst resources.block
  nets : DistinctBy NetBuilder.Clash resources.netDevices
  vcpus : 1 ≤ resources.vmConfig.vcpuCount ∧ (resources.vmConfig.smt = true →
    resources.vmConfig.vcpuCount = 1 ∨ resources.vmConfig.vcpuCount % 2 = 0)
  memory : 0 < resources.vmConfig.memSizeMib ∧ ∀ balloon ∈ resources.balloon,
    balloon.config.amountMib.toUInt64 ≤ resources.vmConfig.memSizeMib
  mmds : ∃ addr, ∀ net ∈ resources.netDevices, ∀ own ∈ net.mmdsNs, own = addr

theorem valid_default (limit : Nat) : (default limit).Valid := by
  have addr : Nonempty Ipv4Addr := ⟨defaultIpv4Addr⟩
  unfold default VmConfig.default
  refine ⟨⟨?_, ?_⟩, ?_, ?_, ?_, ?_⟩ <;> simp [DistinctBy, defaultMemSizeMib]

theorem Valid.updateVmConfig (valid : resources.Valid) : (resources.updateVmConfig config).2.Valid := by
  have parity (count : UInt8) : count % 2 = 0 ∨ count % 2 = 1 := by grind
  unfold VmResources.updateVmConfig
  dsimp only
  split
  · exact valid
  rename_i counts
  rw [invalidVcpuCount] at counts
  split
  · exact { valid with vcpus := by grind }
  rename_i sizes
  rw [checkMemSize] at sizes
  exact { valid with vcpus := by grind, memory := by grind }

theorem Valid.setMmdsConfig (valid : resources.Valid) (entropy : Except ε Unit) :
  (resources.setMmdsConfig config instanceId entropy).2.Valid := by
  unfold VmResources.setMmdsConfig setMmdsNetworkStackConfig setMmdsVersion
  cases resources.checkNetworkStack (ε := ε) config with
  | error err => exact valid
  | ok addr =>
    have nets : DistinctBy NetBuilder.Clash (resources.netDevices.map (stackFor config addr)) := by
      grind [DistinctBy, NetBuilder.Clash, stackFor, valid.nets]
    dsimp only
    split <;> exact { valid with nets, mmds := ⟨addr, by grind [stackFor]⟩ }

theorem Valid.handle (valid : resources.Valid) (request : Request ε) :
  (resources.handle request).2.Valid := by
  cases request with
  | updateVmConfig config => exact valid.updateVmConfig
  | setBalloonDevice config host =>
    show (resources.setBalloonDevice config host).2.Valid
    unfold setBalloonDevice
    split
    · exact valid
    split
    · exact valid
    rename_i created
    have amount := Balloon.amountMib_new created
    exact { valid with memory := ⟨valid.memory.1, by grind⟩ }
  | setBlockDevice config host => exact { valid with drives := valid.drives.insert }
  | buildNetDevice config host =>
    obtain ⟨addr, same⟩ := valid.mmds
    refine { valid with nets := NetBuilder.distinct_build valid.nets, mmds := ⟨addr, fun net member => ?_⟩ }
    have kept := NetBuilder.mmdsNs_of_build member
    grind
  | setMmdsConfig config instanceId entropy => exact valid.setMmdsConfig entropy
  | mmdsData => exact { valid with }

end VmResources

end Spacer.VmmConfig
