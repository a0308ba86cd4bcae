import Spacer.Disk.Engine

/-!
Block requests: `request.rs`.
-/

namespace Spacer.Disk

open Lib Virtio

def sectorShift : UInt64 := 9

def sectorSize : UInt64 := 1 <<< sectorShift

def virtioBlkIdBytes : UInt32 := 20

inductive RequestType
  | in
  | out
  | flush
  | getDeviceId
  | unsupported (op : UInt32)
  deriving DecidableEq

def RequestType.ofU32 (value : UInt32) : RequestType :=
  if value = 0 then .in
  else if value = 1 then .out
  else if value = 4 then .flush
  else if value = 8 then .getDeviceId
  else .unsupported value

inductive BlockError
  | descriptorChainTooShort
  | descriptorLengthTooSmall
  | guestMemory
  | invalidDataLength
  | invalidOffset
  | unexpectedReadOnlyDescriptor
  | unexpectedWriteOnlyDescriptor

inductive IoErr
  | getId
  | partialTransfer (completed expected : UInt32)
  | fileEngine (cause : IoError)

inductive Status
  | ok (numBytesToMem : UInt32)
  | ioErr (numBytesToMem : UInt32) (err : IoErr)
  | unsupported (op : UInt32)

def Status.fromData (dataLen transferredDataLen : UInt32) (dataToMem : Bool) : Status :=
  let numBytesToMem := if dataToMem then transferredDataLen else 0
  if transferredDataLen = dataLen then .ok numBytesToMem
  else .ioErr numBytesToMem (.partialTransfer transferredDataLen dataLen)

def Status.report : Status → UInt32 × UInt8
  | .ok numBytesToMem => (numBytesToMem, 0)
  | .ioErr numBytesToMem _ => (numBytesToMem, 1)
  | .unsupported _ => (0, 2)

structure FinishedRequest where
  numBytesToMem : UInt32
  descIdx : UInt16

/-- The source has no `serial`: it numbers the chains the device has taken. -/
structure PendingRequest where
  type : RequestType
  dataLen : UInt32
  statusAddr : UInt64
  descIdx : UInt16
  serial : Nat
  deriving DecidableEq

namespace PendingRequest

variable (pending : PendingRequest)

/-- A status that cannot be written discards the descriptor. -/
def writeStatusAndFinish (status : Status) : Program FinishedRequest := do
  let (numBytesToMem, statusCode) := status.report
  let wrote ← Program.writeBytes pending.statusAddr.toNat [statusCode]
  return ⟨if wrote then numBytesToMem + 1 else 0, pending.descIdx⟩

variable (res : Except IoErr UInt32)

def status : Status :=
  match res, pending.type with
  | .ok count, .in => .fromData pending.dataLen count true
  | .ok count, .out => .fromData pending.dataLen count false
  | .ok _, .flush => .ok 0
  | .ok count, .getDeviceId => .fromData pending.dataLen count true
  | _, .unsupported op => .unsupported op
  | .error err, _ => .ioErr 0 err

def finish : Program FinishedRequest :=
  pending.writeStatusAndFinish (pending.status res)

end PendingRequest

structure RequestHeader where
  requestType : UInt32
  sector : UInt64

def parseHeader (bytes : List UInt8) : RequestHeader where
  requestType := UInt32.ofNat (ofLittleEndian (bytes.take 4))
  sector := UInt64.ofNat (ofLittleEndian ((bytes.drop 8).take 8))

structure Request where
  type : RequestType
  dataLen : UInt32
  statusAddr : UInt64
  sector : UInt64
  dataAddr : UInt64

inductive ProcessingResult
  | submitted
  | throttled
  | executed (finished : FinishedRequest)

structure Budget where
  ops : Bool
  bytes : Bool

namespace Request

def checkData (type : RequestType) (data : DescriptorChain) : Except BlockError Unit :=
  if data.isWriteOnly ∧ type = .out then .error .unexpectedWriteOnlyDescriptor
  else if ¬data.isWriteOnly ∧ type = .in then .error .unexpectedReadOnlyDescriptor
  else if ¬data.isWriteOnly ∧ type = .getDeviceId then .error .unexpectedReadOnlyDescriptor
  else .ok ()

variable (request : Request)

def checkValidity (numDiskSectors : UInt64) : Except BlockError Unit :=
  match request.type with
  | .in | .out =>
    if request.dataLen.toUInt64 % sectorSize ≠ 0 then .error .invalidDataLength
    else
      let topSector := request.sector.toNat + (request.dataLen.toUInt64 >>> sectorShift).toNat
      if 2 ^ 64 ≤ topSector then .error .invalidOffset
      else if numDiskSectors.toNat < topSector then .error .invalidOffset
      else .ok ()
  | .getDeviceId => if request.dataLen < virtioBlkIdBytes then .error .invalidDataLength else .ok ()
  | _ => .ok ()

variable (status : DescriptorChain)

def checkStatus : Except BlockError Unit :=
  if ¬status.isWriteOnly then .error .unexpectedReadOnlyDescriptor
  else if status.len < 1 then .error .descriptorLengthTooSmall
  else .ok ()

def close (numDiskSectors : UInt64) : Except BlockError Request := do
  request.checkValidity numDiskSectors
  checkStatus status
  return { request with statusAddr := status.addr }

variable (mem : GuestLayout)

def parseRest (request : Request) (numDiskSectors : UInt64)
  (desc : DescriptorChain) : Program (Except BlockError Request) :=
  if !desc.hasNext then
    return if request.type ≠ .flush then .error .descriptorChainTooShort
      else request.close desc numDiskSectors
  else do
    let status ← desc.nextDescriptor mem
    match status with
    | none => return .error .descriptorChainTooShort
    | some status =>
      return do
        checkData request.type desc
        close { request with dataAddr := desc.addr, dataLen := desc.len } status numDiskSectors

def parse (availDesc : DescriptorChain) (numDiskSectors : UInt64) : Program (Except BlockError Request) :=
  if availDesc.isWriteOnly then return .error .unexpectedWriteOnlyDescriptor
  else do
    let header ← readObj availDesc.addr 16 parseHeader
    match header with
    | none => return .error .guestMemory
    | some header => do
      let desc ← availDesc.nextDescriptor mem
      match desc with
      | none => return .error .descriptorChainTooShort
      | some desc =>
        parseRest mem ⟨.ofU32 header.requestType, 0, 0, header.sector, 0⟩ numDiskSectors desc

def rateLimit (budget : Budget) : Bool :=
  if !budget.ops then true
  else if request.type = .in ∨ request.type = .out then !budget.bytes
  else false

def toPendingRequest (descIdx : UInt16) (serial : Nat) : PendingRequest :=
  ⟨request.type, request.dataLen, request.statusAddr, descIdx, serial⟩

def conclude (answer : FileEngine.Answer PendingRequest) : Program ProcessingResult :=
  match answer with
  | .ok .submitted => return .submitted
  | .ok (.executed pending count) => do
    let finished ← pending.finish (.ok count)
    return .executed finished
  | .error err =>
    if err.error.isThrottlingErr then return .throttled
    else do
      let finished ← err.userData.finish (.error (.fileEngine err.error))
      return .executed finished

def process (blocking : Option UInt32) (imageId : List UInt8)
  (engine : FileEngine PendingRequest) (request : Request) (descIdx : UInt16) (serial : Nat) :
  Program (ProcessingResult × FileEngine PendingRequest) :=
  let pending := request.toPendingRequest descIdx serial
  match request.type with
  | .in => do
    let (answer, engine) := engine.read mem blocking request.dataAddr request.dataLen pending
    let result ← conclude answer
    return (result, engine)
  | .out => do
    let (answer, engine) := engine.write mem blocking request.dataAddr request.dataLen pending
    let result ← conclude answer
    return (result, engine)
  | .flush => do
    let (answer, engine) := engine.flush blocking pending
    let result ← conclude answer
    return (result, engine)
  | .getDeviceId => do
    let wrote ← Program.writeBytes request.dataAddr.toNat imageId
    let finished ← pending.finish (if wrote then .ok virtioBlkIdBytes else .error .getId)
    return (.executed finished, engine)
  | .unsupported _ => do
    let finished ← pending.finish (.ok 0)
    return (.executed finished, engine)

end Request

end Spacer.Disk
