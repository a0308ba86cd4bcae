import Spacer.Lib.Bytes
import Spacer.Lib.Program

/-!
The split virtqueue as the device sees it.  Every access to guest memory is a stop of the
program, so that the guest may run between any two of them.
-/

namespace Spacer.Virtio

open Lib

/-- The regions of guest memory, sorted and disjoint as `from_regions` requires. -/
structure GuestLayout where
  regions : List (Nat × Nat)
  fits : ∀ region ∈ regions, region.1 + region.2 < 2 ^ 64
  disjoint : regions.Pairwise fun first second => first.1 + first.2 ≤ second.1

namespace GuestLayout

def addressInRange (mem : GuestLayout) (addr : Nat) : Bool :=
  mem.regions.any fun region => region.1 ≤ addr && addr < region.1 + region.2

def checkedOffset (mem : GuestLayout) (base : UInt64) (offset : Nat) : Option UInt64 :=
  if base.toNat + offset < 2 ^ 64 ∧ mem.addressInRange (base.toNat + offset) then
    some (base + UInt64.ofNat offset)
  else none

end GuestLayout

def readObj {α : Type} (addr : UInt64) (size : Nat) (parse : List UInt8 → α) : Program (Option α) := do
  let bytes ← Program.readBytes addr.toNat size
  return bytes.map parse

def parseU16 (bytes : List UInt8) : UInt16 := UInt16.ofNat (ofLittleEndian bytes)

def readU16 (addr : UInt64) : Program (Option UInt16) := readObj addr 2 parseU16

def unwrapU16 (addr : UInt64) : Program UInt16 := do
  let answer ← readU16 addr
  Program.unwrap answer

def writeU16 (value : UInt16) (addr : UInt64) : Program Bool :=
  Program.writeBytes addr.toNat (littleEndian 2 value.toNat)

def writeU32 (value : UInt32) (addr : UInt64) : Program Bool :=
  Program.writeBytes addr.toNat (littleEndian 4 value.toNat)

/-- The remainder of an integer division, which panics on a zero divisor. -/
def checkedRem (dividend divisor : UInt16) : Program UInt16 :=
  if divisor = 0 then .panic else pure (dividend % divisor)

structure Descriptor where
  addr : UInt64
  len : UInt32
  flags : UInt16
  next : UInt16

def parseDescriptor (bytes : List UInt8) : Descriptor where
  addr := UInt64.ofNat (ofLittleEndian (bytes.take 8))
  len := UInt32.ofNat (ofLittleEndian ((bytes.drop 8).take 4))
  flags := UInt16.ofNat (ofLittleEndian ((bytes.drop 12).take 2))
  next := UInt16.ofNat (ofLittleEndian ((bytes.drop 14).take 2))

def virtqDescFNext : UInt16 := 0x1

def virtqDescFWrite : UInt16 := 0x2

structure DescriptorChain where
  descTable : UInt64
  queueSize : UInt16
  ttl : UInt16
  index : UInt16
  addr : UInt64
  len : UInt32
  flags : UInt16
  next : UInt16

namespace DescriptorChain

variable (chain : DescriptorChain)

def hasNext : Bool := chain.flags &&& virtqDescFNext ≠ 0 && chain.ttl > 1

def isValid : Bool := !chain.hasNext || chain.next < chain.queueSize

def isWriteOnly : Bool := chain.flags &&& virtqDescFWrite ≠ 0

def ofDescriptor (descTable : UInt64) (queueSize index : UInt16) (desc : Descriptor) :
  Option DescriptorChain :=
  let chain : DescriptorChain :=
    ⟨descTable, queueSize, queueSize, index, desc.addr, desc.len, desc.flags, desc.next⟩
  if chain.isValid then some chain else none

variable (mem : GuestLayout) (descTable : UInt64)

def descHead (queueSize index : UInt16) : Option UInt64 := do
  guard (index < queueSize)
  let head ← mem.checkedOffset descTable (index.toNat * 16)
  let _ ← mem.checkedOffset head 16
  return head

def checkedNew (queueSize index : UInt16) : Program (Option DescriptorChain) :=
  match descHead mem descTable queueSize index with
  | none => pure none
  | some head => do
    let desc ← readObj head 16 parseDescriptor
    return desc.bind (ofDescriptor descTable queueSize index)

def nextDescriptor (chain : DescriptorChain) : Program (Option DescriptorChain) :=
  if chain.hasNext then do
    let next ← checkedNew mem chain.descTable chain.queueSize chain.next
    return next.map fun found => { found with ttl := chain.ttl - 1 }
  else pure none

end DescriptorChain

def queueSizeMax : UInt16 := 256

theorem queueSizeMax_offered : queueSizeMax ≤ queueSizeMax := by decide

structure Queue where
  maxSize : UInt16
  size : UInt16
  ready : Bool
  descTable : UInt64
  availRing : UInt64
  usedRing : UInt64
  nextAvail : UInt16
  nextUsed : UInt16
  usesNotifSuppression : Bool
  numAdded : UInt16
  offered : maxSize ≤ queueSizeMax
  deriving DecidableEq

inductive QueueError
  | descIndexOutOfBounds (index : UInt16)
  | usedRing

namespace Queue

def new (maxSize : UInt16) (offered : maxSize ≤ queueSizeMax) : Queue where
  maxSize := maxSize
  size := 0
  ready := false
  descTable := 0
  availRing := 0
  usedRing := 0
  nextAvail := 0
  nextUsed := 0
  usesNotifSuppression := false
  numAdded := 0
  offered := offered

variable (queue : Queue)

def actualSize : UInt16 :=
  if queue.size ≤ queue.maxSize then queue.size else queue.maxSize

def availIdx : Program UInt16 := unwrapU16 (queue.availRing + 2)

def len : Program UInt16 := do
  let idx ← queue.availIdx
  return idx - queue.nextAvail

variable (mem : GuestLayout)

def endsOutside (start : UInt64) (size : Nat) : Bool :=
  !(start.toNat + size < 2 ^ 64 && mem.addressInRange (start.toNat + size))

def isValid : Program Bool :=
  let queueSize := queue.actualSize.toNat
  if !queue.ready then pure false
  else if queue.size > queue.maxSize || queue.size = 0 || queue.size &&& (queue.size - 1) ≠ 0 then
    pure false
  else if endsOutside mem queue.descTable (16 * queueSize) then pure false
  else if endsOutside mem queue.availRing (6 + 2 * queueSize) then pure false
  else if endsOutside mem queue.usedRing (6 + 8 * queueSize) then pure false
  else if queue.descTable &&& 0xf ≠ 0 then pure false
  else if queue.availRing &&& 0x1 ≠ 0 then pure false
  else if queue.usedRing &&& 0x3 ≠ 0 then pure false
  else do
    let available ← queue.len
    if available > queue.maxSize then do
      -- the message reads the length once more
      let _ ← queue.len
      return false
    else return true

/-- The queue moves on only if the chain was valid. -/
def afterPop (chain : Option DescriptorChain) : Option DescriptorChain × Queue :=
  (chain, if chain.isSome then { queue with nextAvail := queue.nextAvail + 1 } else queue)

def doPopUnchecked : Program (Option DescriptorChain × Queue) := do
  let position ← checkedRem queue.nextAvail queue.actualSize
  let indexOffset := 4 + 2 * position
  let descIndex ← unwrapU16 (queue.availRing + indexOffset.toUInt64)
  let chain ← DescriptorChain.checkedNew mem queue.descTable queue.actualSize descIndex
  return queue.afterPop chain

def pop : Program (Option DescriptorChain × Queue) := do
  let available ← queue.len
  if available = 0 then return (none, queue)
  else queue.doPopUnchecked mem

def undoPop : Queue := { queue with nextAvail := queue.nextAvail - 1 }

def addUsed (descIndex : UInt16) (len : UInt32) : Program (Except QueueError Unit × Queue) :=
  if descIndex ≥ queue.actualSize then
    pure (.error (.descIndexOutOfBounds descIndex), queue)
  else do
    let nextUsed ← checkedRem queue.nextUsed queue.actualSize
    let usedElem := queue.usedRing + (4 + nextUsed.toUInt64 * 8)
    let wroteIndex ← writeU32 descIndex.toUInt32 usedElem
    if !wroteIndex then return (.error .usedRing, queue)
    else do
      let wroteLen ← writeU32 len (usedElem + 4)
      if !wroteLen then return (.error .usedRing, queue)
      else do
        let queue := { queue with numAdded := queue.numAdded + 1, nextUsed := queue.nextUsed + 1 }
        let wroteUsed ← writeU16 queue.nextUsed (queue.usedRing + 2)
        return (if wroteUsed then .ok () else .error .usedRing, queue)

def usedEvent : Program UInt16 :=
  unwrapU16 (queue.availRing + (4 + 2 * queue.actualSize).toUInt64)

def setAvailEvent (value : UInt16) : Program Unit := do
  let wrote ← writeU16 value (queue.usedRing + (4 + 8 * queue.actualSize).toUInt64)
  Program.unwrap (if wrote then some () else none)

def tryEnableNotification : Program Bool :=
  if !queue.usesNotifSuppression then pure true
  else do
    let available ← queue.len
    if available ≠ 0 then return false
    else do
      queue.setAvailEvent queue.nextAvail
      let idx ← queue.availIdx
      return queue.nextAvail = idx

def popOrEnableNotification : Program (Option DescriptorChain × Queue) :=
  if !queue.usesNotifSuppression then queue.pop mem
  else do
    let enabled ← queue.tryEnableNotification
    if enabled then return (none, queue)
    else queue.doPopUnchecked mem

def enableNotifSuppression : Queue := { queue with usesNotifSuppression := true }

def prepareKick : Program (Bool × Queue) :=
  if !queue.usesNotifSuppression then pure (true, queue)
  else do
    let new := queue.nextUsed
    let old := queue.nextUsed - queue.numAdded
    let usedEvent ← queue.usedEvent
    return (new - usedEvent - 1 < new - old, { queue with numAdded := 0 })

end Queue

end Spacer.Virtio
