import Spacer.Virtio.Queue

/-!
The vsock packet: a header of which the device keeps a local copy, and a data buffer that
stays in guest memory.
-/

namespace Spacer.Vsock

open Lib Virtio

def maxPktBufSize : Nat := 64 * 1024

def vsockPktHdrSize : Nat := 44

def vsockOpRequest : UInt16 := 1

def vsockOpResponse : UInt16 := 2

def vsockOpRst : UInt16 := 3

def vsockOpShutdown : UInt16 := 4

def vsockOpRw : UInt16 := 5

def vsockOpCreditUpdate : UInt16 := 6

def vsockOpCreditRequest : UInt16 := 7

def vsockFlagsShutdownRcv : UInt32 := 1

def vsockFlagsShutdownSend : UInt32 := 2

def vsockTypeStream : UInt16 := 1

def vsockHostCid : UInt64 := 2

/-- The kinds of I/O errors that the code tells apart, and the one the TX buffer raises. -/
inductive IoError
  | wouldBlock
  | txBufFull
  | other
  deriving DecidableEq

inductive VsockError
  | bufDescTooSmall
  | bufDescMissing
  | guestMemoryMmap (err : IoError)
  | guestMemoryBounds
  | hdrDescTooSmall (len : UInt32)
  | invalidPktLen (len : UInt32)
  | noData
  | pktBufMissing
  | unreadableDescriptor
  | unwritableDescriptor
  deriving DecidableEq

structure VsockPacketHeader where
  srcCid : UInt64
  dstCid : UInt64
  srcPort : UInt32
  dstPort : UInt32
  len : UInt32
  type : UInt16
  op : UInt16
  flags : UInt32
  bufAlloc : UInt32
  fwdCnt : UInt32
  deriving DecidableEq

def VsockPacketHeader.default : VsockPacketHeader := ⟨0, 0, 0, 0, 0, 0, 0, 0, 0, 0⟩

structure VsockPacket where
  hdrAddr : UInt64
  hdr : VsockPacketHeader
  bufAddr : Option UInt64
  bufSize : Nat

variable (mem : GuestLayout)

/-- `check_range`: the range lies in guest memory, which may be several adjacent regions; an
empty range has to start in one. -/
def checkRange (addr : UInt64) (len : Nat) : Bool :=
  decide (Program.Covered mem.addressInRange addr.toNat (if len = 0 then 1 else len))

/-- All `count` bytes, of which there is at least one, lie in the same region. -/
def inOneRegion (addr count : Nat) : Bool :=
  0 < count && mem.regions.any fun region =>
    region.1 ≤ addr && addr + (count - 1) < region.1 + region.2

namespace VsockPacket

def checkDescWriteOnly (desc : DescriptorChain) (expectedWriteOnly : Bool) : Except VsockError Unit :=
  if desc.isWriteOnly ≠ expectedWriteOnly then
    .error (if desc.isWriteOnly then .unreadableDescriptor else .unwritableDescriptor)
  else .ok ()

variable (hdrDesc : DescriptorChain)

def checkHdrDesc (expectedWriteOnly : Bool) : Except VsockError Unit := do
  checkDescWriteOnly hdrDesc expectedWriteOnly
  if !checkRange mem hdrDesc.addr vsockPktHdrSize then .error .guestMemoryBounds
  else if hdrDesc.len.toNat < vsockPktHdrSize then .error (.hdrDescTooSmall hdrDesc.len)
  else .ok ()

variable (pkt : VsockPacket) (next : Option DescriptorChain)

/-- `next` is what `hdr_desc.next_descriptor()` returns. -/
def initBuf (expectedWriteOnly : Bool) : Except VsockError VsockPacket :=
  match next with
  | none => .error .bufDescMissing
  | some bufDesc => do
    checkDescWriteOnly bufDesc expectedWriteOnly
    if !checkRange mem bufDesc.addr bufDesc.len.toNat then .error .guestMemoryBounds
    else .ok { pkt with bufAddr := some bufDesc.addr, bufSize := bufDesc.len.toNat }

def checkLen : Except VsockError Unit :=
  if pkt.hdr.len.toNat > maxPktBufSize then .error (.invalidPktLen pkt.hdr.len) else .ok ()

/-- `hdr` is the header that stands in guest memory. -/
def fromTxVirtqHead (hdrDesc : DescriptorChain) (hdr : VsockPacketHeader) (next : Option DescriptorChain) :
  Except VsockError VsockPacket := do
  checkHdrDesc mem hdrDesc false
  -- the address is checked a second time
  if !checkRange mem hdrDesc.addr vsockPktHdrSize then .error .guestMemoryBounds
  else
    let pkt : VsockPacket := ⟨hdrDesc.addr, hdr, none, 0⟩
    if pkt.hdr.len = 0 then .ok pkt
    else do
      pkt.checkLen
      let pkt ← initBuf mem pkt next false
      if pkt.bufSize < pkt.hdr.len.toNat then .error .bufDescTooSmall else .ok pkt

def fromRxVirtqHead : Except VsockError VsockPacket := do
  checkHdrDesc mem hdrDesc true
  initBuf mem ⟨hdrDesc.addr, .default, none, 0⟩ next true

def commitHdr : Except VsockError VsockPacketHeader := do
  pkt.checkLen
  if checkRange mem pkt.hdrAddr vsockPktHdrSize then .ok pkt.hdr
  else .error (.guestMemoryMmap .other)

def bufRegionAddr (offset count : Nat) : Except VsockError Nat :=
  if pkt.bufSize < offset + count then .error .guestMemoryBounds
  else match pkt.bufAddr with
    | none => .error .pktBufMissing
    | some addr =>
      if addr.toNat + offset < 2 ^ 64 ∧ inOneRegion mem (addr.toNat + offset) count then
        .ok (addr.toNat + offset)
      else .error .guestMemoryBounds

def writeFromOffsetTo {F : Type} (write : F → List UInt8 → Except IoError Nat × F)
  (mem : GuestLayout) (memory : Nat → UInt8) (pkt : VsockPacket) (offset : Nat) (dst : F)
  (count : Nat) : Except VsockError Nat × F :=
  match bufRegionAddr mem pkt offset count with
  | .error err => (.error err, dst)
  | .ok addr =>
    let answer := write dst (load memory addr count)
    (answer.1.mapError .guestMemoryMmap, answer.2)

def readAtOffsetFrom {F : Type} (read : F → Nat → Except IoError (List UInt8) × F)
  (mem : GuestLayout) (pkt : VsockPacket) (offset : Nat) (src : F) (count : Nat) :
  Except VsockError (List UInt8) × F :=
  match bufRegionAddr mem pkt offset count with
  | .error err => (.error err, src)
  | .ok _ =>
    let answer := read src count
    (answer.1.mapError .guestMemoryMmap, answer.2)

def setOp (op : UInt16) : VsockPacket :=
  { pkt with hdr := { pkt.hdr with op := op } }

def setLen (len : UInt32) : VsockPacket :=
  { pkt with hdr := { pkt.hdr with len := len } }

def setFlag (flag : UInt32) : VsockPacket :=
  { pkt with hdr := { pkt.hdr with flags := pkt.hdr.flags ||| flag } }

end VsockPacket

/-- What `recv_pkt` of a channel leaves behind: its result, the packet, which it changes in
place, the bytes it read into the data buffer, and the channel. -/
structure Received (C : Type) where
  result : Except VsockError Unit
  pkt : VsockPacket
  payload : List UInt8
  channel : C

end Spacer.Vsock
