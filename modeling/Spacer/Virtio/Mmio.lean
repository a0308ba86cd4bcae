import Spacer.Virtio.Queue

/-! The MMIO transport: device status, feature and queue registers of one virtio device. -/

namespace Spacer.Virtio

open Lib

/-- What the transport sees of a device; `activations` counts the calls of `activate`. -/
structure VirtioDevice where
  availFeatures : UInt64
  ackedFeatures : UInt64
  queues : List Queue
  activated : Bool
  activations : Nat
  config : List UInt8

/-- What differs between the devices: `activate` may fail and may change the queues,
`writeConfig` changes the configuration space, `reset` may not be supported. -/
structure DeviceKind where
  activate : VirtioDevice → Option (List Queue)
  writeConfig : List UInt8 → UInt64 → List UInt8 → List UInt8
  reset : VirtioDevice → Option VirtioDevice

namespace VirtioDevice

def ackFeaturesByPage (device : VirtioDevice) (page value : UInt32) : VirtioDevice :=
  let v : UInt64 :=
    if page = 0 then value.toUInt64
    else if page = 1 then value.toUInt64 <<< 32
    else 0
  let unrequestedFeatures := v &&& ~~~device.availFeatures
  { device with ackedFeatures := device.ackedFeatures ||| (v &&& ~~~unrequestedFeatures) }

def activate (kind : DeviceKind) (device : VirtioDevice) : Program VirtioDevice :=
  Program.unwrap ((kind.activate device).map fun queues =>
    { device with queues := queues, activated := true, activations := device.activations + 1 })

end VirtioDevice

namespace DeviceStatus

def init : UInt32 := 0
def acknowledge : UInt32 := 1
def driver : UInt32 := 2
def failed : UInt32 := 128
def featuresOk : UInt32 := 8
def driverOk : UInt32 := 4

end DeviceStatus

structure MmioTransport where
  device : VirtioDevice
  featuresSelect : UInt32
  ackedFeaturesSelect : UInt32
  queueSelect : UInt32
  deviceStatus : UInt32
  configGeneration : UInt32
  interruptStatus : UInt64

namespace MmioTransport

open DeviceStatus

def new (device : VirtioDevice) (interruptStatus : UInt64) : MmioTransport where
  device := device
  featuresSelect := 0
  ackedFeaturesSelect := 0
  queueSelect := 0
  deviceStatus := init
  configGeneration := 0
  interruptStatus := interruptStatus

variable (transport : MmioTransport)

def checkDeviceStatus (set clr : UInt32) : Bool :=
  transport.deviceStatus &&& (set ||| clr) = set

def areQueuesValid (mem : GuestLayout) : List Queue → Program Bool
  | [] => pure true
  | queue :: rest => do
    let valid ← queue.isValid mem
    if valid then areQueuesValid mem rest else return false

def withDevice (device : VirtioDevice) : MmioTransport :=
  { transport with device := device }

def withStatus (status : UInt32) : MmioTransport :=
  { transport with deviceStatus := status }

variable (change : Queue → Queue)

def withQueueMut : MmioTransport :=
  transport.withDevice { transport.device with
      queues := transport.device.queues.modify transport.queueSelect.toNat change }

def updateQueueField : MmioTransport :=
  if transport.checkDeviceStatus featuresOk (driverOk ||| failed) then
    transport.withQueueMut change
  else transport

def reset : MmioTransport :=
  { transport with
    featuresSelect := 0
    ackedFeaturesSelect := 0
    queueSelect := 0
    interruptStatus := 0
    deviceStatus := init
    device := { transport.device with
      queues := transport.device.queues.map fun queue => Queue.new queue.maxSize queue.offered } }

variable (kind : DeviceKind)

/-- A device that does not support it is only marked as failed. -/
def resetDevice (transport : MmioTransport) : MmioTransport :=
  if transport.device.activated then
    match kind.reset transport.device with
    | some device => transport.withDevice device
    | none => transport.withStatus (transport.deviceStatus ||| failed)
  else transport

variable (mem : GuestLayout)

def activateDevice (transport : MmioTransport) : Program MmioTransport :=
  if transport.device.activated then pure transport
  else do
    let valid ← areQueuesValid mem transport.device.queues
    if valid then do
      let device ← transport.device.activate kind
      return transport.withDevice device
    else return transport

def changedBits (status : UInt32) : UInt32 :=
  ~~~transport.deviceStatus &&& status

def setDeviceStatus (transport : MmioTransport) (status : UInt32) : Program MmioTransport :=
  let changed := transport.changedBits status
  if changed = acknowledge ∧ transport.deviceStatus = init then
    pure (transport.withStatus status)
  else if changed = driver ∧ transport.deviceStatus = acknowledge then
    pure (transport.withStatus status)
  else if changed = featuresOk ∧ transport.deviceStatus = acknowledge ||| driver then
    pure (transport.withStatus status)
  else if changed = driverOk ∧ transport.deviceStatus = acknowledge ||| driver ||| featuresOk then
    (transport.withStatus status).activateDevice kind mem
  else if status &&& failed ≠ 0 then
    pure (transport.withStatus (transport.deviceStatus ||| failed))
  else if status = 0 then
    let after := transport.resetDevice kind
    pure (if after.deviceStatus &&& failed = 0 then after.reset else after)
  else pure transport

def hi (address : UInt64) (x : UInt32) : UInt64 :=
  (address &&& (0xffffffff : UInt64)) ||| (x.toUInt64 <<< 32)

def lo (address : UInt64) (x : UInt32) : UInt64 :=
  (address &&& ~~~(0xffffffff : UInt64)) ||| x.toUInt64

def queueRegister (offset : UInt64) (v : UInt32) : Option (Queue → Queue) :=
  if offset = 0x38 then some fun queue => { queue with size := v.toUInt16 }
  else if offset = 0x44 then some fun queue => { queue with ready := v = 1 }
  else if offset = 0x80 then some fun queue => { queue with descTable := lo queue.descTable v }
  else if offset = 0x84 then some fun queue => { queue with descTable := hi queue.descTable v }
  else if offset = 0x90 then some fun queue => { queue with availRing := lo queue.availRing v }
  else if offset = 0x94 then some fun queue => { queue with availRing := hi queue.availRing v }
  else if offset = 0xa0 then some fun queue => { queue with usedRing := lo queue.usedRing v }
  else if offset = 0xa4 then some fun queue => { queue with usedRing := hi queue.usedRing v }
  else none

def ackFeatures (v : UInt32) : MmioTransport :=
  if transport.checkDeviceStatus driver (featuresOk ||| failed) then
    transport.withDevice (transport.device.ackFeaturesByPage transport.ackedFeaturesSelect v)
  else transport

def writeRegister (offset : UInt64) (v : UInt32) : MmioTransport :=
  if offset = 0x14 then { transport with featuresSelect := v }
  else if offset = 0x20 then transport.ackFeatures v
  else if offset = 0x24 then { transport with ackedFeaturesSelect := v }
  else if offset = 0x30 then { transport with queueSelect := v }
  else if offset = 0x64 then
    if transport.checkDeviceStatus driverOk 0 then
      { transport with interruptStatus := transport.interruptStatus &&& ~~~v.toUInt64 }
    else transport
  else transport

def writeConfig (kind : DeviceKind) (transport : MmioTransport) (offset : UInt64)
  (data : List UInt8) : MmioTransport :=
  if transport.checkDeviceStatus driver failed then
    transport.withDevice { transport.device with
      config := kind.writeConfig transport.device.config (offset - 0x100) data }
  else transport

def write (transport : MmioTransport) (offset : UInt64) (data : List UInt8) : Program MmioTransport :=
  if offset ≤ 0xff ∧ data.length = 4 then
    let v := UInt32.ofNat (ofLittleEndian data)
    if offset = 0x70 then transport.setDeviceStatus kind mem v
    else
      match queueRegister offset v with
      | some change => pure (transport.updateQueueField change)
      | none => pure (transport.writeRegister offset v)
  else if 0x100 ≤ offset ∧ offset ≤ 0xfff then pure (transport.writeConfig kind offset data)
  else pure transport

def writeAll (kind : DeviceKind) (mem : GuestLayout) :
  MmioTransport → List (UInt64 × List UInt8) → Program MmioTransport
  | transport, [] => pure transport
  | transport, (offset, data) :: rest => do
    let next ← transport.write kind mem offset data
    writeAll kind mem next rest

end MmioTransport

def plainKind : DeviceKind where
  activate := fun device => some device.queues
  writeConfig := fun config _ _ => config
  reset := fun _ => none

def plainDevice : VirtioDevice where
  availFeatures := 0x100000001
  ackedFeatures := 0
  queues := [Queue.new queueSizeMax queueSizeMax_offered]
  activated := false
  activations := 0
  config := []

end Spacer.Virtio
