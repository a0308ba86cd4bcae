import Mathlib

/-!
The configuration of the machine and of its devices: `vmm_config`.  What the host answers
when a device is created comes with the request.
-/

namespace Spacer.VmmConfig

inductive CpuFeaturesTemplate
  | c3
  | t2
  | t2s
  | none

structure VmConfig where
  vcpuCount : UInt8
  memSizeMib : UInt64
  smt : Bool
  cpuTemplate : CpuFeaturesTemplate
  trackDirtyPages : Bool

def defaultMemSizeMib : UInt64 := 128

def VmConfig.default : VmConfig := ⟨1, defaultMemSizeMib, false, .none, false⟩

structure VmUpdateConfig where
  vcpuCount : Option UInt8
  memSizeMib : Option UInt64
  smt : Option Bool
  cpuTemplate : Option CpuFeaturesTemplate
  trackDirtyPages : Option Bool

inductive VmConfigError
  | incompatibleBalloonSize
  | invalidMemorySize
  | invalidVcpuCount
  | invalidVmState

structure TokenBucketConfig where
  size : UInt64
  oneTimeBurst : Option UInt64
  refillTime : UInt64

def TokenBucketConfig.default : TokenBucketConfig := ⟨0, none, 0⟩

structure RateLimiterConfig where
  bandwidth : Option TokenBucketConfig
  ops : Option TokenBucketConfig

structure TokenBucket where
  size : UInt64
  initialOneTimeBurst : UInt64
  refillTime : UInt64

def TokenBucket.new (size oneTimeBurst completeRefillTimeMs : UInt64) : Option TokenBucket :=
  if size = 0 ∨ completeRefillTimeMs = 0 then none
  else some ⟨size, oneTimeBurst, completeRefillTimeMs⟩

structure RateLimiter where
  bandwidth : Option TokenBucket
  ops : Option TokenBucket

def RateLimiter.default : RateLimiter := ⟨none, none⟩

section

variable {ε : Type}

def RateLimiterConfig.tryInto (config : RateLimiterConfig) (timerFd : Except ε Unit) :
  Except ε RateLimiter :=
  let bw := config.bandwidth.getD .default
  let ops := config.ops.getD .default
  timerFd.map fun _ =>
    ⟨TokenBucket.new bw.size (bw.oneTimeBurst.getD 0) bw.refillTime,
      TokenBucket.new ops.size (ops.oneTimeBurst.getD 0) ops.refillTime⟩

def createRateLimiter (config : Option RateLimiterConfig) (timerFd : Except ε Unit) :
  Except ε RateLimiter :=
  match config with
  | none => .ok .default
  | some config => config.tryInto timerFd

end

inductive CacheType
  | unsafe_
  | writeback

inductive FileEngineType
  | async
  | sync

structure BlockDeviceConfig where
  driveId : String
  pathOnHost : String
  isRootDevice : Bool
  partuuid : Option String
  isReadOnly : Bool
  cacheType : CacheType
  rateLimiter : Option RateLimiterConfig
  fileEngineType : FileEngineType

structure Block where
  id : String
  partuuid : Option String
  cacheType : CacheType
  filePath : String
  isReadOnly : Bool
  isRootDevice : Bool
  rateLimiter : RateLimiter
  fileEngineType : FileEngineType

inductive DriveError (ε : Type)
  | createBlockDevice (err : ε)
  | createRateLimiter (err : ε)
  | invalidBlockDevicePath (path : String)
  | rootBlockDeviceAlreadyAdded

structure BlockHost (ε : Type) where
  pathExists : Bool
  timerFd : Except ε Unit
  -- the image and the event descriptors of `Block::new`
  device : Except ε Unit

namespace BlockBuilder

variable {ε : Type} (list : List Block)

def hasRootDevice : Bool :=
  match list with
  | block :: _ => block.isRootDevice
  | [] => false

def getIndexOfDriveId (driveId : String) : Option Nat :=
  list.findIdx? (·.id = driveId)

variable (config : BlockDeviceConfig) (host : BlockHost ε)

def createBlock : Except (DriveError ε) Block :=
  if !host.pathExists then .error (.invalidBlockDevicePath config.pathOnHost)
  else
    match createRateLimiter config.rateLimiter host.timerFd with
    | .error err => .error (.createRateLimiter err)
    | .ok rateLimiter =>
      match host.device with
      | .error err => .error (.createBlockDevice err)
      | .ok () =>
        .ok ⟨config.driveId, config.partuuid, config.cacheType, config.pathOnHost,
          config.isReadOnly, config.isRootDevice, rateLimiter, config.fileEngineType⟩

def swapFirst (index : Nat) : List Block :=
  match list[0]?, list[index]? with
  | some first, some other => (list.set 0 other).set index first
  | _, _ => list

def place (position : Option Nat) (isRootDevice : Bool) (block : Block) : List Block :=
  match position with
  | none => if isRootDevice then block :: list else list ++ [block]
  | some index =>
    let list := list.set index block
    if index ≠ 0 ∧ isRootDevice then swapFirst list index else list

def insert : Except (DriveError ε) Unit × List Block :=
  let position := getIndexOfDriveId list config.driveId
  if config.isRootDevice && hasRootDevice list && position != some 0 then
    (.error .rootBlockDeviceAlreadyAdded, list)
  else
    match createBlock config host with
    | .error err => (.error err, list)
    | .ok block => (.ok (), place list position config.isRootDevice block)

end BlockBuilder

structure MacAddr where
  bytes : Vector UInt8 6
  deriving DecidableEq

def hexByte (byte : UInt8) : String :=
  String.ofList [Nat.digitChar (byte.toNat / 16), Nat.digitChar (byte.toNat % 16)]

def MacAddr.display (mac : MacAddr) : String := ":".intercalate (mac.bytes.toList.map hexByte)

structure Ipv4Addr where
  a : UInt8
  b : UInt8
  c : UInt8
  d : UInt8

def isLinkLocalValid (addr : Ipv4Addr) : Bool :=
  addr.a = 169 && addr.b = 254 && addr.c ≠ 0 && addr.c ≠ 255

structure NetworkInterfaceConfig where
  ifaceId : String
  hostDevName : String
  guestMac : Option MacAddr
  rxRateLimiter : Option RateLimiterConfig
  txRateLimiter : Option RateLimiterConfig

/-- `mmdsNs` is the address of the MMDS network stack of the device, if it has one. -/
structure Net where
  id : String
  ifaceName : String
  guestMac : Option MacAddr
  rxRateLimiter : RateLimiter
  txRateLimiter : RateLimiter
  mmdsNs : Option Ipv4Addr

inductive NetworkInterfaceError (ε : Type)
  | createNetworkDevice (err : ε)
  | createRateLimiter (err : ε)
  | guestMacAddressInUse (mac : String)

structure NetHost (ε : Type) where
  rxTimerFd : Except ε Unit
  txTimerFd : Except ε Unit
  -- the tap and the event descriptors of `Net::new_with_tap`
  device : Except ε Unit

/-- `Vec::swap_remove`: the last element takes the place of the removed one. -/
def swapRemove {α : Type} (items : List α) (index : Nat) : List α :=
  match items.getLast? with
  | none => items
  | some last => (items.set index last).dropLast

namespace NetBuilder

variable {ε : Type} (config : NetworkInterfaceConfig)

def macConflict (net : Net) : Bool :=
  config.guestMac.isSome && config.guestMac = net.guestMac && config.ifaceId ≠ net.id

def createNet (host : NetHost ε) : Except (NetworkInterfaceError ε) Net :=
  match createRateLimiter config.rxRateLimiter host.rxTimerFd,
      createRateLimiter config.txRateLimiter host.txTimerFd with
  | .error err, _ => .error (.createRateLimiter err)
  | .ok _, .error err => .error (.createRateLimiter err)
  | .ok rxRateLimiter, .ok txRateLimiter =>
    match host.device with
    | .error err => .error (.createNetworkDevice err)
    | .ok () =>
      .ok ⟨config.ifaceId, config.hostDevName, config.guestMac, rxRateLimiter, txRateLimiter,
        none⟩

def removeOld (netDevices : List Net) (ifaceId : String) : List Net :=
  match netDevices.findIdx? (·.id = ifaceId) with
  | some index => swapRemove netDevices index
  | none => netDevices

def build (netDevices : List Net) (config : NetworkInterfaceConfig) (host : NetHost ε) :
  Except (NetworkInterfaceError ε) Unit × List Net :=
  if netDevices.any (macConflict config) then
    (.error (.guestMacAddressInUse ((config.guestMac.map MacAddr.display).getD "")), netDevices)
  else
    let kept := removeOld netDevices config.ifaceId
    match createNet config host with
    | .error err => (.error err, kept)
    | .ok net => (.ok (), kept ++ [net])

end NetBuilder

structure BalloonDeviceConfig where
  amountMib : UInt32
  deflateOnOom : Bool
  statsPollingIntervalS : UInt16

structure Balloon where
  numPages : UInt32
  deflateOnOom : Bool
  statsPollingIntervalS : UInt16

inductive BalloonError (ε : Type)
  | host (err : ε)
  | tooManyPagesRequested

inductive BalloonConfigError (ε : Type)
  | tooManyPagesRequested
  | createFailure (err : BalloonError ε)

structure BalloonHost (ε : Type) where
  -- the queue events and the statistics timer
  queues : Except ε Unit
  -- the interrupt and the activation event
  events : Except ε Unit

def mibTo4kPages : UInt32 := 256

def mibToPages (amountMib : UInt32) : Option UInt32 :=
  if amountMib.toNat * mibTo4kPages.toNat < 2 ^ 32 then some (amountMib * mibTo4kPages) else none

namespace Balloon

variable {ε : Type}

def new (config : BalloonDeviceConfig) (host : BalloonHost ε) : Except (BalloonError ε) Balloon :=
  match host.queues, mibToPages config.amountMib, host.events with
  | .error err, _, _ => .error (.host err)
  | .ok (), none, _ => .error .tooManyPagesRequested
  | .ok (), some _, .error err => .error (.host err)
  | .ok (), some numPages, .ok () =>
    .ok ⟨numPages, config.deflateOnOom, config.statsPollingIntervalS⟩

def config (balloon : Balloon) : BalloonDeviceConfig :=
  ⟨balloon.numPages / mibTo4kPages, balloon.deflateOnOom, balloon.statsPollingIntervalS⟩

end Balloon

end Spacer.VmmConfig
