import Spacer.Dumbo.Segment

/-!
The TCP connection of the MMDS: passive open, what an incoming segment changes, and which segment
is written next.
-/

namespace Spacer.Dumbo

open Lib

structure ConnStatusFlags where
  synReceived : Bool := false
  synackSent : Bool := false
  established : Bool := false
  finSent : Bool := false
  finAcked : Bool := false
  reset : Bool := false

structure RecvStatusFlags where
  invalidAck : Bool := false
  dupAck : Bool := false
  segmentBeyondRwnd : Bool := false
  unexpectedSeq : Bool := false
  remoteRwndEdge : Bool := false
  dataBeyondFin : Bool := false
  resetReceived : Bool := false
  invalidRst : Bool := false
  invalidSegment : Bool := false
  connResetting : Bool := false
  invalidFin : Bool := false

inductive PassiveOpenError
  | invalidSyn
  | mssOption

inductive RecvError
  | bufferTooSmall
  | connectionReset

inductive WriteNextError
  | connectionReset
  | dataAfterFin
  | mssRemaining
  | payloadBufTooLarge
  | payloadMissingSeq
  | tcpSegment (error : TcpSegmentError)

inductive NextSegmentStatus
  | available
  | nothing
  | timeout (value : UInt64)
  deriving DecidableEq

abbrev PayloadSource := Option (List UInt8 × UInt32)

structure Connection where
  ackToSend : UInt32
  highestAckReceived : UInt32
  firstNotSent : UInt32
  localRwndEdge : UInt32
  remoteRwndEdge : UInt32
  rtoStart : UInt64
  rtoPeriod : UInt64
  rtoCount : UInt16
  rtoCountMax : UInt16
  finReceived : Option UInt32
  sendFin : Option UInt32
  sendRst : Option RstConfig
  mss : UInt16
  pendingAck : Bool
  dupAck : Bool
  statusFlags : ConnStatusFlags

def parseMssOption (segment : TcpSegment) : Exec (Except PassiveOpenError UInt16) := do
  match ← segment.parseMssOption with
  | .ok (some value) => .ok (.ok value)
  | .ok none => .ok (.ok mssDefault)
  | .error _ => .ok (.error .mssOption)

def isValidSyn (segment : TcpSegment) : Bool :=
  segment.flags = { syn := true } && segment.payload = []

structure Received where
  bytes : Option (List UInt8)
  status : RecvStatusFlags

namespace Connection

/-- `isn` is the initial sequence number that was drawn. -/
def passiveOpen (segment : TcpSegment) (localRwndSize : UInt32) (rtoPeriod : UInt64)
  (rtoCountMax : UInt16) (isn : UInt32) : Exec (Except PassiveOpenError Connection) :=
  if !isValidSyn segment then .ok (.error .invalidSyn)
  else do
    match ← parseMssOption segment with
    | .error error => .ok (.error error)
    | .ok mss =>
      let ackToSend := segment.sequenceNumber + 1
      let firstNotSent := isn + 1
      .ok (.ok
        { ackToSend, highestAckReceived := isn, firstNotSent,
          localRwndEdge := ackToSend + localRwndSize,
          remoteRwndEdge := firstNotSent + segment.windowSize.toUInt32,
          rtoStart := 0, rtoPeriod, rtoCount := 0, rtoCountMax,
          finReceived := none, sendFin := none, sendRst := none, mss,
          pendingAck := false, dupAck := false, statusFlags := { synReceived := true } })

section

variable (conn : Connection)

def synackPending : Bool := conn.statusFlags.synReceived && !conn.statusFlags.synackSent

def rstPending : Bool := conn.sendRst.isSome

def isEstablished : Bool := conn.statusFlags.established

def isReset : Bool := conn.statusFlags.reset

def rtoExpired (now : UInt64) : Bool := now - conn.rtoStart ≥ conn.rtoPeriod

def canSendFirstFin : Bool :=
  !conn.statusFlags.finSent && conn.sendFin = some conn.highestAckReceived

def localRwnd : UInt16 :=
  let rwnd := conn.localRwndEdge - conn.ackToSend
  if rwnd > 65535 then 65535 else rwnd.toUInt16

def makeRstConfig : RstConfig :=
  if conn.isEstablished then .seq conn.firstNotSent else .ack conn.ackToSend

def isDone : Bool :=
  conn.isReset || (conn.finReceived.isSome && conn.statusFlags.finSent)

def controlSegmentOrTimeoutStatus : NextSegmentStatus :=
  if conn.synackPending || conn.rstPending || conn.canSendFirstFin || conn.pendingAck then
    .available
  else if conn.highestAckReceived ≠ conn.firstNotSent then
    .timeout (conn.rtoStart + conn.rtoPeriod)
  else .nothing

def close : Connection :=
  if conn.sendFin.isNone then { conn with sendFin := some conn.firstNotSent } else conn

def reset : Connection :=
  if !conn.rstPending then { conn with sendRst := some conn.makeRstConfig } else conn

def resetForSegment (segment : TcpSegment) : Connection :=
  if !conn.rstPending then { conn with sendRst := some (.new segment) } else conn

def advanceLocalRwndEdge (value : UInt32) : Connection :=
  let currentW := conn.localRwndEdge - conn.ackToSend
  { conn with
    pendingAck := conn.pendingAck || currentW = 0
    localRwndEdge :=
      if value + currentW > maxWindowSize then conn.ackToSend + maxWindowSize
      else conn.localRwndEdge + value }

def isSameSyn (segment : TcpSegment) : Exec Bool :=
  if !isValidSyn segment || conn.ackToSend ≠ segment.sequenceNumber + 1 then .ok false
  else do
    match ← parseMssOption segment with
    | .ok mss => .ok (mss = conn.mss)
    | .error _ => .ok false

end

section

variable (conn : Connection) (segment : TcpSegment) (flags : RecvStatusFlags)

def resetForSegmentHelper : Connection × Received :=
  (conn.resetForSegment segment, ⟨none, { flags with connResetting := true }⟩)

def receiveRst : Connection × Received :=
  if seqAtOrAfter segment.sequenceNumber conn.ackToSend &&
      seqAfter conn.localRwndEdge segment.sequenceNumber then
    ({ conn with statusFlags.reset := true }, ⟨none, { resetReceived := true }⟩)
  else (conn, ⟨none, { invalidRst := true }⟩)

def receiveHandshake : Exec (Option (Connection × Received)) :=
  if !conn.statusFlags.synackSent then do
    if ← conn.isSameSyn segment then .ok (some (conn, ⟨none, {}⟩))
    else .ok (some (conn.resetForSegmentHelper segment { invalidSegment := true }))
  else if !conn.isEstablished then do
    if ← conn.isSameSyn segment then
      .ok (some ({ conn with statusFlags.synackSent := false }, ⟨none, {}⟩))
    else if segment.flags.syn then
      .ok (some (conn.resetForSegmentHelper segment { invalidSegment := true }))
    else .ok none
  else if segment.flags.syn then
    .ok (some (conn.resetForSegmentHelper segment { invalidSegment := true }))
  else .ok none

def advanceAck (ack : UInt32) (now : UInt64) : Connection :=
  { conn with
    highestAckReceived := ack
    rtoStart := now
    statusFlags.established := conn.isEstablished || conn.statusFlags.synackSent
    statusFlags.finAcked :=
      conn.statusFlags.finAcked || (conn.statusFlags.finSent && ack = conn.firstNotSent) }

def updateRemoteRwnd : Connection × RecvStatusFlags :=
  let edge := segment.ackNumber + segment.windowSize.toUInt32
  if !conn.isEstablished then (conn, flags)
  else if seqAfter edge conn.remoteRwndEdge then ({ conn with remoteRwndEdge := edge }, flags)
  else if edge ≠ conn.remoteRwndEdge then (conn, { flags with remoteRwndEdge := true })
  else (conn, flags)

def receiveAck (now : UInt64) : Connection × Except RecvStatusFlags RecvStatusFlags :=
  let ack := segment.ackNumber
  if !segment.flags.ack then (conn, .ok {})
  else if seqAtOrAfter ack conn.highestAckReceived && seqAtOrAfter conn.firstNotSent ack then
    let alive := { conn with rtoCount := 0 }
    if ack = conn.highestAckReceived && ack ≠ conn.firstNotSent then
      if !conn.isEstablished then
        (alive.resetForSegment segment, .error { invalidAck := true, connResetting := true })
      else
        let (next, flags) :=
          updateRemoteRwnd { alive with dupAck := true } segment { dupAck := true }
        (next, .ok flags)
    else
      let (next, flags) := (alive.advanceAck ack now).updateRemoteRwnd segment {}
      (next, .ok flags)
  else if !conn.isEstablished then
    (conn.resetForSegment segment, .error { invalidAck := true, connResetting := true })
  else (conn, .ok { invalidAck := true })

def enqueueAckIf (wanted : Bool) : Connection :=
  { conn with pendingAck := conn.pendingAck || wanted }

def receiveFin (bytes : Option (List UInt8)) : Connection × Received :=
  let finSeq := segment.sequenceNumber + UInt32.ofNat segment.payload.length
  if segment.flags.fin && conn.finReceived.isNone then
    if finSeq = conn.ackToSend then
      ({ conn with finReceived := some finSeq, ackToSend := conn.ackToSend + 1,
                   pendingAck := true }, ⟨bytes, flags⟩)
    else (conn.enqueueAckIf bytes.isSome, ⟨bytes, { flags with invalidFin := true }⟩)
  else (conn.enqueueAckIf bytes.isSome, ⟨bytes, flags⟩)

def beyondFin (dataEndSeq : UInt32) : Bool :=
  match conn.finReceived with
  | some finSeq => !seqAtOrAfter finSeq dataEndSeq
  | none => false

def receivePayload (bufLen : Nat) (flags : RecvStatusFlags) : Connection × Except RecvError Received :=
  let dataEndSeq := segment.sequenceNumber + UInt32.ofNat segment.payload.length
  if !conn.isEstablished then (conn, .ok ⟨none, flags⟩)
  else if segment.payload.length > bufLen then (conn, .error .bufferTooSmall)
  else if segment.payload = [] then
    let (next, received) := conn.receiveFin segment flags none
    (next, .ok received)
  else if conn.beyondFin dataEndSeq then
    (conn, .ok ⟨none, { flags with dataBeyondFin := true }⟩)
  else if !seqAtOrAfter conn.localRwndEdge dataEndSeq then
    (conn, .ok ⟨none, { flags with segmentBeyondRwnd := true }⟩)
  else if segment.sequenceNumber ≠ conn.ackToSend then
    (conn.enqueueAckIf true, .ok ⟨none, { flags with unexpectedSeq := true }⟩)
  else
    let (next, received) :=
      receiveFin { conn with ackToSend := dataEndSeq } segment flags (some segment.payload)
    (next, .ok received)

def receiveSegment (bufLen : Nat) (now : UInt64) : Exec (Connection × Except RecvError Received) :=
  if conn.rstPending || conn.isReset then .ok (conn, .error .connectionReset)
  else if segment.flags.rst then
    let (next, received) := conn.receiveRst segment
    .ok (next, .ok received)
  else do
    match ← conn.receiveHandshake segment with
    | some (next, received) => .ok (next, .ok received)
    | none =>
      match conn.receiveAck segment now with
      | (next, .error flags) => .ok (next, .ok ⟨none, flags⟩)
      | (next, .ok flags) => .ok (next.receivePayload segment bufLen flags)

end

section

variable (conn : Connection) (bufLen : Nat) (mssReserved : UInt16)

def writeSegment (seq ack : UInt32) (flags : TcpFlags) (payload : Option (List UInt8 × Nat)) :
  Except WriteNextError (Connection × Incomplete) :=
  let mssOption := if flags = { syn := true, ack := true } then some conn.mss else none
  if conn.mss < mssReserved then .error .mssRemaining
  else
    match writeIncompleteSegment bufLen seq ack flags conn.localRwnd mssOption
        (conn.mss - mssReserved) payload with
    | .error error => .error (.tcpSegment error)
    | .ok segment => .ok ({ conn with pendingAck := conn.pendingAck && !flags.ack }, segment)

def controlFields : UInt32 × UInt32 × TcpFlags :=
  match conn.sendRst with
  | some config => config.seqAckTcpFlags
  | none =>
    if !conn.isEstablished then
      (conn.firstNotSent - 1, conn.ackToSend, { syn := true, ack := true })
    else match conn.sendFin with
      | some finSeq =>
        if !conn.statusFlags.finAcked && seqAtOrAfter conn.highestAckReceived finSeq then
          (finSeq, conn.ackToSend, { ack := true, fin := true })
        else (conn.highestAckReceived, conn.ackToSend, { ack := true })
      | none => (conn.highestAckReceived, conn.ackToSend, { ack := true })

def writeControlSegment : Except WriteNextError (Connection × Incomplete) :=
  let (seq, ack, flags) := conn.controlFields
  conn.writeSegment bufLen mssReserved seq ack flags none

def finish (written : Except WriteNextError (Connection × Incomplete))
  (record : Connection → Incomplete → Connection × Incomplete) :
  Connection × Except WriteNextError (Option Incomplete) :=
  match written with
  | .error error => (conn, .error error)
  | .ok (next, segment) =>
    let (recorded, sent) := record next segment
    (recorded, .ok (some sent))

def writeRst : Connection × Except WriteNextError (Option Incomplete) :=
  conn.finish (conn.writeControlSegment bufLen mssReserved)
    fun next segment => ({ next with statusFlags.reset := true }, segment)

variable (now : UInt64)

def writeSynack : Connection × Except WriteNextError (Option Incomplete) :=
  conn.finish (conn.writeControlSegment bufLen mssReserved)
    fun next segment => ({ next with statusFlags.synackSent := true, rtoStart := now }, segment)

def rewriteControl : Connection × Except WriteNextError (Option Incomplete) :=
  conn.finish (conn.writeControlSegment bufLen mssReserved)
    fun next segment => ({ next with rtoStart := now }, segment)

def countRto : Connection := { conn with rtoCount := conn.rtoCount + 1 }

def awaitEstablished : Connection × Except WriteNextError (Option Incomplete) :=
  if conn.rtoExpired now then
    if conn.countRto.rtoCount ≥ conn.rtoCountMax then
      conn.countRto.reset.writeRst bufLen mssReserved
    else conn.countRto.rewriteControl bufLen mssReserved now
  else (conn, .ok none)

def writeAckOrFin : Connection × Except WriteNextError (Option Incomplete) :=
  let sendFirstFin := conn.canSendFirstFin
  if conn.pendingAck || sendFirstFin then
    conn.finish (conn.writeControlSegment bufLen mssReserved) fun next segment =>
      (if sendFirstFin then
        { next with firstNotSent := next.firstNotSent + 1, statusFlags.finSent := true }
      else next, segment)
  else (conn, .ok none)

inductive SendPlan
  | reset
  | fin
  | data (seqToSend : UInt32) (rtoTriggered : Bool)

def sendPlan : Connection × SendPlan :=
  if conn.highestAckReceived ≠ conn.firstNotSent && conn.rtoExpired now then
    if conn.countRto.rtoCount ≥ conn.rtoCountMax then (conn.countRto, .reset)
    else if conn.sendFin = some conn.highestAckReceived then (conn.countRto, .fin)
    else (conn.countRto, .data conn.highestAckReceived true)
  else if conn.dupAck then (conn, .data conn.highestAckReceived false)
  else (conn, .data conn.firstNotSent false)

variable (readBuf : List UInt8) (payloadSeq : UInt32)

def actualEnd : UInt32 :=
  let payloadEnd := payloadSeq + UInt32.ofNat readBuf.length
  if seqAtOrAfter conn.remoteRwndEdge payloadEnd then payloadEnd else conn.remoteRwndEdge

def dataAfterFin (dataEnd : UInt32) : Bool :=
  match conn.sendFin with
  | some finSeq => seqAfter dataEnd finSeq
  | none => false

def recordData (seqToSend : UInt32) (rtoTriggered : Bool) (now : UInt64) (segment : Incomplete) :
  Connection × Incomplete :=
  let dataEnd := seqToSend + UInt32.ofNat segment.payload.length
  let last : Bool := conn.sendFin = some dataEnd
  let firstSeqAfter := if last then dataEnd + 1 else dataEnd
  ({ conn with
      dupAck := false
      statusFlags.finSent := conn.statusFlags.finSent || last
      rtoStart :=
        if rtoTriggered || conn.firstNotSent = conn.highestAckReceived then now
        else conn.rtoStart
      firstNotSent :=
        if seqAfter firstSeqAfter conn.firstNotSent then firstSeqAfter else conn.firstNotSent },
    if last then { segment with flags := { ack := true, fin := true } } else segment)

def writeData (seqToSend : UInt32) (rtoTriggered : Bool)
  (now : UInt64) : Connection × Except WriteNextError (Option Incomplete) :=
  let dataEnd := conn.actualEnd readBuf payloadSeq
  if !seqAtOrAfter seqToSend payloadSeq then (conn, .error .payloadMissingSeq)
  else if conn.dataAfterFin dataEnd then (conn, .error .dataAfterFin)
  else if seqAfter dataEnd seqToSend then
    conn.finish (conn.writeSegment bufLen mssReserved seqToSend conn.ackToSend { ack := true }
        (some (readBuf, (dataEnd - seqToSend).toNat)))
      fun next segment => next.recordData seqToSend rtoTriggered now segment
  else conn.writeAckOrFin bufLen mssReserved

def writePayload (now : UInt64) : Connection × Except WriteNextError (Option Incomplete) :=
  if readBuf.length > maxWindowSize.toNat then (conn, .error .payloadBufTooLarge)
  else match conn.sendPlan now with
    | (next, .reset) => next.reset.writeRst bufLen mssReserved
    | (next, .fin) => next.rewriteControl bufLen mssReserved now
    | (next, .data seqToSend rtoTriggered) =>
      next.writeData bufLen mssReserved readBuf payloadSeq seqToSend rtoTriggered now

def writeNextSegment (payloadSrc : PayloadSource) (now : UInt64) :
  Connection × Except WriteNextError (Option Incomplete) :=
  if conn.isReset then (conn, .error .connectionReset)
  else if conn.rstPending then conn.writeRst bufLen mssReserved
  else if conn.synackPending then conn.writeSynack bufLen mssReserved now
  else if !conn.isEstablished then conn.awaitEstablished bufLen mssReserved now
  else match payloadSrc with
    | some (readBuf, payloadSeq) => conn.writePayload bufLen mssReserved readBuf payloadSeq now
    | none => conn.writeAckOrFin bufLen mssReserved

end

end Connection

end Spacer.Dumbo
