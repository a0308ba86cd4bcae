import Spacer.Vsock.TxBuf

/-!
The connection state machine.  The host stream's answers, the clock and the contents of guest
memory are arguments of the functions that ask for them.
-/

namespace Spacer.Vsock

open Lib Virtio

def connCreditUpdateThreshold : UInt32 := 4 * 1024

/-- Instants count nanoseconds. -/
def fromMillis (millis : Nat) : Nat := millis * 1000000

def connRequestTimeoutMs : Nat := 2000

def connShutdownTimeoutMs : Nat := 2000

inductive ConnState
  | localInit
  | peerInit
  | established
  | localClosed
  | peerClosed (recvOff sendOff : Bool)
  | killed
  deriving DecidableEq

inductive PendingRx
  | request
  | response
  | rst
  | rw
  | creditUpdate
  deriving DecidableEq

/-- A set of RX indications; the source keeps one bit for each. -/
structure PendingRxSet where
  contains : PendingRx → Bool

namespace PendingRxSet

def of (it : PendingRx) : PendingRxSet := ⟨fun other => other = it⟩

variable (set : PendingRxSet) (it : PendingRx)

def insert : PendingRxSet :=
  ⟨fun other => other = it || set.contains other⟩

def remove : PendingRxSet :=
  ⟨fun other => other ≠ it && set.contains other⟩

def isEmpty : Bool :=
  !(set.contains .request || set.contains .response || set.contains .rst || set.contains .rw ||
    set.contains .creditUpdate)

end PendingRxSet

structure EventSet where
  readable : Bool
  writable : Bool
  deriving DecidableEq

def EventSet.isEmpty (evset : EventSet) : Bool := !evset.readable && !evset.writable

structure VsockConnection where
  state : ConnState
  localCid : UInt64
  peerCid : UInt64
  localPort : UInt32
  peerPort : UInt32
  stream : Stream
  txBuf : TxBuf
  fwdCnt : UInt32
  peerBufAlloc : UInt32
  peerFwdCnt : UInt32
  rxCnt : UInt32
  lastFwdCntToPeer : UInt32
  pendingRx : PendingRxSet
  expiry : Option Nat

namespace VsockConnection

def newPeerInit (stream : Stream) (localCid peerCid : UInt64) (localPort peerPort : UInt32)
  (peerBufAlloc : UInt32) : VsockConnection where
  state := .peerInit
  localCid := localCid
  peerCid := peerCid
  localPort := localPort
  peerPort := peerPort
  stream := stream
  txBuf := .new
  fwdCnt := 0
  peerBufAlloc := peerBufAlloc
  peerFwdCnt := 0
  rxCnt := 0
  lastFwdCntToPeer := 0
  pendingRx := .of .response
  expiry := none

def newLocalInit (stream : Stream) (localCid peerCid : UInt64) (localPort peerPort : UInt32) :
  VsockConnection where
  state := .localInit
  localCid := localCid
  peerCid := peerCid
  localPort := localPort
  peerPort := peerPort
  stream := stream
  txBuf := .new
  fwdCnt := 0
  peerBufAlloc := 0
  peerFwdCnt := 0
  rxCnt := 0
  lastFwdCntToPeer := 0
  pendingRx := .of .request
  expiry := none

inductive Opening
  | peerInit (fd : Nat) (localCid peerCid : UInt64) (localPort peerPort peerBufAlloc : UInt32)
  | localInit (fd : Nat) (localCid peerCid : UInt64) (localPort peerPort : UInt32)

def opened : Opening → VsockConnection
  | .peerInit fd localCid peerCid localPort peerPort peerBufAlloc =>
    newPeerInit (.new fd) localCid peerCid localPort peerPort peerBufAlloc
  | .localInit fd localCid peerCid localPort peerPort =>
    newLocalInit (.new fd) localCid peerCid localPort peerPort

variable (conn : VsockConnection)

def hasPendingRx : Bool := !conn.pendingRx.isEmpty

def willExpire (now : Nat) : Bool :=
  match conn.expiry with
  | none => false
  | some time => time > now

def hasExpired (now : Nat) : Bool :=
  match conn.expiry with
  | none => false
  | some time => time ≤ now

variable (it : PendingRx)

def insertRx : VsockConnection :=
  { conn with pendingRx := conn.pendingRx.insert it }

def removeRx : VsockConnection :=
  { conn with pendingRx := conn.pendingRx.remove it }

def kill : VsockConnection :=
  { conn with state := .killed }.insertRx .rst

def peerNeedsCreditUpdate : Bool :=
  connTxBufSize - (conn.fwdCnt - conn.lastFwdCntToPeer) < connCreditUpdateThreshold

def peerAvailCredit : Nat :=
  (conn.peerBufAlloc - (conn.rxCnt - conn.peerFwdCnt)).toNat

def needCreditUpdateFromPeer : Bool := conn.peerAvailCredit = 0

variable (pkt : VsockPacket)

def initPkt : VsockPacket :=
  { pkt with hdr :=
    { pkt.hdr with
      srcCid := conn.localCid
      dstCid := conn.peerCid
      srcPort := conn.localPort
      dstPort := conn.peerPort
      type := vsockTypeStream
      bufAlloc := connTxBufSize
      fwdCnt := conn.fwdCnt } }

def filled : Received VsockConnection :=
  ⟨.ok (), pkt, [], conn⟩

def creditSent : VsockConnection :=
  { conn with lastFwdCntToPeer := conn.fwdCnt }

/-- The end of `recv_pkt`: a credit update if there is nothing else to say. -/
def recvCreditUpdate : Received VsockConnection :=
  if conn.pendingRx.contains .creditUpdate && !(conn.removeRx .creditUpdate).hasPendingRx then
    (conn.removeRx .creditUpdate).creditSent.filled (pkt.setOp vsockOpCreditUpdate)
  else ⟨.error .noData, pkt, [], conn.removeRx .creditUpdate⟩

def mayReadStream : Bool :=
  match conn.state with
  | .established => true
  | .peerClosed recvOff _ => !recvOff
  | _ => false

def readLimit : Nat :=
  if pkt.bufSize ≤ conn.peerAvailCredit then pkt.bufSize else conn.peerAvailCredit

variable (mem : GuestLayout)

def recvData (pkt : VsockPacket) (answer : ReadAnswer) (now : Nat) : Received VsockConnection :=
  match pkt.readAtOffsetFrom (Stream.read answer) mem 0 conn.stream (conn.readLimit pkt) with
  | (.ok [], stream) =>
    let pkt := ((pkt.setOp vsockOpShutdown).setFlag vsockFlagsShutdownRcv).setFlag vsockFlagsShutdownSend
    let conn : VsockConnection :=
      { conn with
        stream := stream
        state := .localClosed
        expiry := some (now + fromMillis connShutdownTimeoutMs)
        rxCnt := conn.rxCnt + pkt.hdr.len }
    conn.creditSent.filled pkt
  | (.ok bytes, stream) =>
    let pkt := (pkt.setOp vsockOpRw).setLen (UInt32.ofNat bytes.length)
    let conn : VsockConnection :=
      { conn with stream := stream, rxCnt := conn.rxCnt + pkt.hdr.len }
    ⟨.ok (), pkt, bytes, conn.creditSent⟩
  | (.error (.guestMemoryMmap .wouldBlock), stream) =>
    { conn with stream := stream }.recvCreditUpdate pkt
  | (.error _, stream) =>
    { conn with stream := stream }.creditSent.filled (pkt.setOp vsockOpRst)

def recvRw (pkt : VsockPacket) (answer : ReadAnswer) (now : Nat) : Received VsockConnection :=
  if !conn.mayReadStream then conn.filled (pkt.setOp vsockOpRst)
  else if conn.needCreditUpdateFromPeer then
    conn.creditSent.filled (pkt.setOp vsockOpCreditRequest)
  else conn.recvData mem pkt answer now

def recvPkt (pkt : VsockPacket) (answer : ReadAnswer) (now : Nat) : Received VsockConnection :=
  let pkt := conn.initPkt pkt
  if conn.pendingRx.contains .rst then (conn.removeRx .rst).filled (pkt.setOp vsockOpRst)
  else if conn.pendingRx.contains .response then
    { conn.removeRx .response with state := .established }.filled (pkt.setOp vsockOpResponse)
  else if conn.pendingRx.contains .request then
    { conn.removeRx .request with
      expiry := some (now + fromMillis connRequestTimeoutMs) }.filled (pkt.setOp vsockOpRequest)
  else if conn.pendingRx.contains .rw then (conn.removeRx .rw).recvRw mem pkt answer now
  else conn.recvCreditUpdate pkt

variable (memory : Nat → UInt8)

def pushBytes (pkt : VsockPacket) (offset count : Nat) : Except VsockError Unit × VsockConnection :=
  let pushed := pkt.writeFromOffsetTo TxBuf.write mem memory offset conn.txBuf count
  (pushed.1.map fun _ => (), { conn with txBuf := pushed.2 })

def pushRest (pkt : VsockPacket) (written len : Nat) : Except VsockError Unit × VsockConnection :=
  let conn := { conn with fwdCnt := conn.fwdCnt + UInt32.ofNat written }
  if written < len then conn.pushBytes mem memory pkt written (len - written)
  else (.ok (), conn)

def sendBytes (pkt : VsockPacket) (answer : WriteAnswer) : Except VsockError Unit × VsockConnection :=
  let len := pkt.hdr.len.toNat
  if !conn.txBuf.isEmpty then conn.pushBytes mem memory pkt 0 len
  else
    let sent := pkt.writeFromOffsetTo (Stream.write answer) mem memory 0 conn.stream len
    let conn := { conn with stream := sent.2 }
    match sent.1 with
    | .error (.guestMemoryMmap .wouldBlock) => conn.pushRest mem memory pkt 0 len
    | .error err => (.error err, conn)
    | .ok written => conn.pushRest mem memory pkt written len

def updateCredit : VsockConnection :=
  if conn.peerNeedsCreditUpdate then conn.insertRx .creditUpdate else conn

def sendRw (pkt : VsockPacket) (answer : WriteAnswer) : VsockConnection :=
  if pkt.bufSize = 0 then conn
  else match conn.sendBytes mem memory pkt answer with
    | (.error _, conn) => conn.kill
    | (.ok (), conn) => conn.updateCredit

def shutdownRecv : Bool := pkt.hdr.flags &&& vsockFlagsShutdownRcv ≠ 0

def shutdownSend : Bool := pkt.hdr.flags &&& vsockFlagsShutdownSend ≠ 0

variable (now : Nat)

def sendShutdown : VsockConnection :=
  let conn : VsockConnection :=
    { conn with state := .peerClosed (shutdownRecv pkt) (shutdownSend pkt) }
  if shutdownRecv pkt && shutdownSend pkt then
    if conn.txBuf.isEmpty then conn.insertRx .rst
    else { conn with expiry := some (now + fromMillis connShutdownTimeoutMs) }
  else conn

def sendShutdownMore (recvOff sendOff : Bool) (pkt : VsockPacket) :
  VsockConnection :=
  let recvOff := recvOff || shutdownRecv pkt
  let sendOff := sendOff || shutdownSend pkt
  let conn : VsockConnection := { conn with state := .peerClosed recvOff sendOff }
  if recvOff && sendOff && conn.txBuf.isEmpty then conn.insertRx .rst else conn

def maySend : Bool :=
  match conn.state with
  | .established => true
  | .peerClosed _ sendOff => !sendOff
  | _ => false

def sendControl : VsockConnection :=
  match conn.state with
  | .localInit =>
    if pkt.hdr.op = vsockOpResponse then { conn with expiry := none, state := .established }
    else conn
  | .established =>
    if pkt.hdr.op = vsockOpShutdown then conn.sendShutdown pkt now
    else if pkt.hdr.op = vsockOpCreditRequest then conn.insertRx .creditUpdate
    else conn
  | .peerClosed recvOff sendOff =>
    if pkt.hdr.op = vsockOpShutdown then conn.sendShutdownMore recvOff sendOff pkt
    else if !sendOff && pkt.hdr.op = vsockOpCreditRequest then conn.insertRx .creditUpdate
    else conn
  | .peerInit => if pkt.hdr.op = vsockOpCreditRequest then conn.insertRx .creditUpdate else conn
  | .localClosed => conn
  | .killed => conn

def updatePeerCredit : VsockConnection :=
  { conn with peerBufAlloc := pkt.hdr.bufAlloc, peerFwdCnt := pkt.hdr.fwdCnt }

def sendPkt (pkt : VsockPacket) (answer : WriteAnswer) (now : Nat) : VsockConnection :=
  let conn := conn.updatePeerCredit pkt
  if conn.maySend && pkt.hdr.op = vsockOpRw then conn.sendRw mem memory pkt answer
  else conn.sendControl pkt now

/-- A failed flush kills the connection unless it would only have to wait. -/
def afterFlush : Except IoError Nat → VsockConnection
  | .ok flushed => { conn with fwdCnt := conn.fwdCnt + UInt32.ofNat flushed }
  | .error .wouldBlock => conn
  | .error _ => conn.kill

def notifyWritable (answers : List WriteAnswer) : VsockConnection :=
  if conn.txBuf.isEmpty then conn
  else
    let flushed := conn.txBuf.flushTo conn.stream answers
    let conn := { conn with txBuf := flushed.2.1, stream := flushed.2.2 }.afterFlush flushed.1
    if conn.state = .peerClosed true true && conn.txBuf.isEmpty then conn.insertRx .rst
    else conn.updateCredit

def notify (evset : EventSet) (answers : List WriteAnswer) :
  VsockConnection :=
  let conn := if evset.readable then conn.insertRx .rw else conn
  if evset.writable then conn.notifyWritable answers else conn

def sendBytesRaw (bytes : List UInt8) (answer : WriteAnswer) : Except IoError Nat × VsockConnection :=
  let sent := conn.stream.write answer bytes
  (sent.1, { conn with stream := sent.2 })

def ackMessage (localPort : UInt32) : List UInt8 :=
  encodeUtf8 ("OK " ++ toString localPort.toNat ++ "\n")

/-- The muxer's part: a request of the host that was just answered is acknowledged, and the
connection killed if that does not go through at once. -/
def ackHost (prevState : ConnState) (localPort : UInt32) (answer : WriteAnswer) : VsockConnection :=
  if prevState = .localInit ∧ conn.state = .established then
    match conn.sendBytesRaw (ackMessage localPort) answer with
    | (.ok written, conn) => if written = (ackMessage localPort).length then conn else conn.kill
    | (.error _, conn) => conn.kill
  else conn

def getPolledEvset : EventSet where
  writable := !conn.txBuf.isEmpty
  readable :=
    match conn.state with
    | .killed => false
    | .localClosed => false
    | .peerClosed true _ => false
    | _ => !conn.needCreditUpdateFromPeer

variable {conn}

structure SameData (conn other : VsockConnection) : Prop where
  stream : other.stream = conn.stream
  txBuf : other.txBuf = conn.txBuf
  fwdCnt : other.fwdCnt = conn.fwdCnt
  rxCnt : other.rxCnt = conn.rxCnt
  lastFwdCntToPeer : other.lastFwdCntToPeer = conn.lastFwdCntToPeer

variable (conn)

theorem SameData.refl : conn.SameData conn := ⟨rfl, rfl, rfl, rfl, rfl⟩

theorem SameData.trans {first second third : VsockConnection} (before : first.SameData second)
  (after : second.SameData third) : first.SameData third :=
  ⟨after.stream.trans before.stream, after.txBuf.trans before.txBuf,
    after.fwdCnt.trans before.fwdCnt, after.rxCnt.trans before.rxCnt,
    after.lastFwdCntToPeer.trans before.lastFwdCntToPeer⟩

theorem insertRx_same : conn.SameData (conn.insertRx it) := ⟨rfl, rfl, rfl, rfl, rfl⟩

theorem updateCredit_same : conn.SameData conn.updateCredit := by
  unfold updateCredit
  split
  · exact insertRx_same _ _
  · exact SameData.refl _

theorem updateCredit_state : conn.updateCredit.state = conn.state := by
  unfold updateCredit
  split <;> rfl

theorem sendShutdown_same : conn.SameData (conn.sendShutdown pkt now) := by
  unfold sendShutdown
  dsimp only
  split
  · split
    · exact ⟨rfl, rfl, rfl, rfl, rfl⟩
    · exact ⟨rfl, rfl, rfl, rfl, rfl⟩
  · exact ⟨rfl, rfl, rfl, rfl, rfl⟩

theorem sendShutdownMore_same (recvOff : Bool)
  (pkt : VsockPacket) : conn.SameData (conn.sendShutdownMore recvOff sendOff pkt) := by
  unfold sendShutdownMore
  dsimp only
  split
  · exact ⟨rfl, rfl, rfl, rfl, rfl⟩
  · exact ⟨rfl, rfl, rfl, rfl, rfl⟩

theorem sendControl_same : conn.SameData (conn.sendControl pkt now) := by
  unfold sendControl
  split
  · split
    · exact ⟨rfl, rfl, rfl, rfl, rfl⟩
    · exact SameData.refl _
  · split
    · exact sendShutdown_same conn pkt now
    split
    · exact insertRx_same _ _
    · exact SameData.refl _
  · split
    · exact sendShutdownMore_same conn _ pkt
    split
    · exact insertRx_same _ _
    · exact SameData.refl _
  · split
    · exact insertRx_same _ _
    · exact SameData.refl _
  · exact SameData.refl _
  · exact SameData.refl _

end VsockConnection

end Spacer.Vsock
