import Spacer.Lib.Runs
import Spacer.VmmConfig.Devices

/-!
The resources of a microVM before it boots: `resources.rs`.
-/

namespace Spacer.VmmConfig

open Lib

inductive MmdsVersion
  | v1
  | v2

structure MmdsConfig where
  version : MmdsVersion
  networkInterfaces : List String
  ipv4Address : Option Ipv4Addr

inductive MmdsConfigError (ε : Type)
  | emptyNetworkIfaceList
  | invalidIpv4Addr
  | invalidNetworkInterfaceId
  | mmdsVersion (version : MmdsVersion) (err : ε)

structure TokenAuthority where
  aad : String

/-- The version is in `tokenAuthority`. -/
structure Mmds where
  tokenAuthority : Option TokenAuthority
  dataStoreLimit : Nat

namespace Mmds

variable {ε : Type}

def defaultWithLimit (dataStoreLimit : Nat) : Mmds := ⟨none, dataStoreLimit⟩

variable (mmds : Mmds)

/-- `entropy` is what opening and reading the randomness pool answers. -/
def setVersion (version : MmdsVersion) (entropy : Except ε Unit) : Except ε Unit × Mmds :=
  match version with
  | .v1 => (.ok (), { mmds with tokenAuthority := none })
  | .v2 =>
    match mmds.tokenAuthority with
    | some _ => (.ok (), mmds)
    | none =>
      match entropy with
      | .error err => (.error err, mmds)
      | .ok () => (.ok (), { mmds with tokenAuthority := some ⟨""⟩ })

def version : MmdsVersion :=
  if mmds.tokenAuthority.isNone then .v1 else .v2

def setAad (instanceId : String) : Mmds :=
  { mmds with tokenAuthority := mmds.tokenAuthority.map fun _ => ⟨s!"microvmid={instanceId}"⟩ }

end Mmds

def defaultIpv4Addr : Ipv4Addr := ⟨169, 254, 169, 254⟩

structure VmResources where
  vmConfig : VmConfig
  block : List Block
  balloon : Option Balloon
  netDevices : List Net
  mmds : Option Mmds
  mmdsSizeLimit : Nat

namespace VmResources

variable {ε : Type}

def default (mmdsSizeLimit : Nat) : VmResources :=
  ⟨.default, [], none, [], none, mmdsSizeLimit⟩

variable (resources : VmResources)

def mmdsOrDefault : VmResources :=
  { resources with
    mmds := some (resources.mmds.getD (.defaultWithLimit resources.mmdsSizeLimit)) }

variable (config : VmUpdateConfig)

def requestedVcpuCount : UInt8 :=
  config.vcpuCount.getD resources.vmConfig.vcpuCount

def requestedSmt : Bool :=
  config.smt.getD resources.vmConfig.smt

def invalidVcpuCount (vcpuCount : UInt8) (smt : Bool) : Bool :=
  vcpuCount = 0 || smt && 1 < vcpuCount && vcpuCount % 2 = 1

def checkMemSize (memSizeMib : UInt64) : Except VmConfigError Unit :=
  if memSizeMib = 0 then .error .invalidMemorySize
  else
    match resources.balloon with
    | none => .ok ()
    | some balloon =>
      if memSizeMib < balloon.config.amountMib.toUInt64 then .error .incompatibleBalloonSize
      else .ok ()

def updateVmConfig : Except VmConfigError Unit × VmResources :=
  let vcpuCount := resources.requestedVcpuCount config
  let smt := resources.requestedSmt config
  if invalidVcpuCount vcpuCount smt then (.error .invalidVcpuCount, resources)
  else
    -- the source writes these two before it looks at the memory size
    let vmConfig := { resources.vmConfig with vcpuCount, smt }
    let memSizeMib := config.memSizeMib.getD vmConfig.memSizeMib
    match resources.checkMemSize memSizeMib with
    | .error err => (.error err, { resources with vmConfig })
    | .ok () =>
      (.ok (), { resources with
          vmConfig :=
            { vmConfig with
              memSizeMib
              cpuTemplate := config.cpuTemplate.getD vmConfig.cpuTemplate
              trackDirtyPages := config.trackDirtyPages.getD vmConfig.trackDirtyPages } })

def setBalloonDevice (config : BalloonDeviceConfig)
  (host : BalloonHost ε) : Except (BalloonConfigError ε) Unit × VmResources :=
  if resources.vmConfig.memSizeMib < config.amountMib.toUInt64 then
    (.error .tooManyPagesRequested, resources)
  else
    match Balloon.new config host with
    | .error err => (.error (.createFailure err), resources)
    | .ok balloon => (.ok (), { resources with balloon := some balloon })

def setBlockDevice (config : BlockDeviceConfig) (host : BlockHost ε) :
  Except (DriveError ε) Unit × VmResources :=
  let inserted := BlockBuilder.insert resources.block config host
  (inserted.1, { resources with block := inserted.2 })

def buildNetDevice (config : NetworkInterfaceConfig)
  (host : NetHost ε) : Except (NetworkInterfaceError ε) Unit × VmResources :=
  let built := NetBuilder.build resources.netDevices config host
  (built.1, { resources with netDevices := built.2 })

variable (config : MmdsConfig)

def stackAddr : Except (MmdsConfigError ε) Ipv4Addr :=
  match config.ipv4Address with
  | some addr => if isLinkLocalValid addr then .ok addr else .error .invalidIpv4Addr
  | none => .ok defaultIpv4Addr

def checkNetworkStack : Except (MmdsConfigError ε) Ipv4Addr :=
  match stackAddr config with
  | .error err => .error err
  | .ok addr =>
    if config.networkInterfaces.isEmpty then .error .emptyNetworkIfaceList
    else if config.networkInterfaces.all fun id => resources.netDevices.any (·.id = id) then
      .ok addr
    else .error .invalidNetworkInterfaceId

def stackFor (addr : Ipv4Addr) (net : Net) : Net :=
  { net with mmdsNs := if config.networkInterfaces.contains net.id then some addr else none }

def setMmdsNetworkStackConfig : Except (MmdsConfigError ε) Unit × VmResources :=
  match resources.checkNetworkStack config with
  | .error err => (.error err, resources)
  | .ok addr =>
    (.ok (), { resources.mmdsOrDefault with
        netDevices := resources.netDevices.map (stackFor config addr) })

def setMmdsVersion (version : MmdsVersion) (instanceId : String)
  (entropy : Except ε Unit) : Except (MmdsConfigError ε) Unit × VmResources :=
  let mmds := resources.mmds.getD (.defaultWithLimit resources.mmdsSizeLimit)
  match mmds.setVersion version entropy with
  | (.error err, mmds) => (.error (.mmdsVersion version err), { resources with mmds := some mmds })
  | (.ok (), mmds) => (.ok (), { resources with mmds := some (mmds.setAad instanceId) })

def setMmdsConfig (instanceId : String)
  (entropy : Except ε Unit) : Except (MmdsConfigError ε) Unit × VmResources :=
  match resources.setMmdsNetworkStackConfig config with
  | (.error err, resources) => (.error err, resources)
  | (.ok (), resources) => resources.setMmdsVersion config.version instanceId entropy

def mmdsConfig : Option MmdsConfig :=
  match resources.mmds with
  | none => none
  | some mmds =>
    match resources.netDevices.filter (·.mmdsNs.isSome) with
    | [] => none
    | first :: rest => some ⟨mmds.version, (first :: rest).map Net.id, first.mmdsNs⟩

end VmResources

/-! The requests before the boot. -/

inductive Request (ε : Type)
  | updateVmConfig (config : VmUpdateConfig)
  | setBalloonDevice (config : BalloonDeviceConfig) (host : BalloonHost ε)
  | setBlockDevice (config : BlockDeviceConfig) (host : BlockHost ε)
  | buildNetDevice (config : NetworkInterfaceConfig) (host : NetHost ε)
  | setMmdsConfig (config : MmdsConfig) (instanceId : String) (entropy : Except ε Unit)
  -- the requests for the data of the MMDS
  | mmdsData

inductive RequestError (ε : Type)
  | machineConfig (err : VmConfigError)
  | balloonConfig (err : BalloonConfigError ε)
  | driveConfig (err : DriveError ε)
  | networkConfig (err : NetworkInterfaceError ε)
  | mmdsConfig (err : MmdsConfigError ε)

namespace VmResources

variable {ε : Type} (resources : VmResources)

def handle : Request ε → Except (RequestError ε) Unit × VmResources
  | .updateVmConfig config =>
    (resources.updateVmConfig config).map (Except.mapError .machineConfig) id
  | .setBalloonDevice config host =>
    (resources.setBalloonDevice config host).map (Except.mapError .balloonConfig) id
  | .setBlockDevice config host =>
    (resources.setBlockDevice config host).map (Except.mapError .driveConfig) id
  | .buildNetDevice config host =>
    (resources.buildNetDevice config host).map (Except.mapError .networkConfig) id
  | .setMmdsConfig config instanceId entropy =>
    (resources.setMmdsConfig config instanceId entropy).map (Except.mapError .mmdsConfig) id
  | .mmdsData => (.ok (), resources.mmdsOrDefault)

def Preboot (ε : Type) (mmdsSizeLimit : Nat) : VmResources → Prop :=
  Reach (fun resources (request : Request ε) later => later = (resources.handle request).2)
    (fun _ _ => True) (default mmdsSizeLimit)

structure Settings where
  vmConfig : VmConfig
  block : List Block
  netDevices : List Net
  balloon : Option Balloon
  mmdsConfig : Option MmdsConfig

def settings : Settings :=
  ⟨resources.vmConfig, resources.block, resources.netDevices, resources.balloon, resources.mmdsConfig⟩

end VmResources

end Spacer.VmmConfig
