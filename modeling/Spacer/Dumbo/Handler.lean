import Spacer.Dumbo.Endpoint
import Spacer.Lib.HashMap
import Spacer.Lib.Least

/-!
The TCP over IPv4 listener of the MMDS.  The orders in which hash maps and sets are visited, the
clock readings and the initial sequence numbers are arguments.
-/

namespace Spacer.Dumbo

open Lib

structure ConnectionTuple where
  remoteAddr : UInt32
  remotePort : UInt16
  deriving DecidableEq

inductive RecvEvent
  | endpointDone
  | failedNewConnection
  | newConnectionSuccessful
  | newConnectionDropped
  | newConnectionReplacing
  | nothing
  | unexpectedSegment

inductive WriteEvent
  | endpointDone
  | nothing

inductive HandlerRecvError
  | invalidPort
  | tcpSegment (error : TcpSegmentError)

inductive IPv4PacketError
  | sliceTooShort

inductive HandlerWriteError
  | ipv4Packet (error : IPv4PacketError)
  | tcpSegment (error : TcpSegmentError)

structure IPv4Packet where
  sourceAddress : UInt32
  payload : List UInt8

/-- The reset that was queued last is the first of `rstQueue`. -/
structure TcpIPv4Handler where
  localIpv4Addr : UInt32
  localPort : UInt16
  connections : Dict ConnectionTuple Endpoint
  maxConnections : Nat
  activeConnections : Dict ConnectionTuple Unit
  nextTimeout : Option (UInt64 × ConnectionTuple)
  rstQueue : List (ConnectionTuple × RstConfig)
  maxPendingResets : Nat

structure RecvAmbient where
  now : UInt64
  isn : UInt32
  evictOrder : List ConnectionTuple
  evictClock : ConnectionTuple → UInt64
  removeOrder : List ConnectionTuple
  checkOrder : List ConnectionTuple

/-- The same for a packet that is written; `clock` is read once for each endpoint that is asked. -/
structure WriteAmbient where
  activeOrder : List ConnectionTuple
  clock : Nat → UInt64
  removeOrder : List ConnectionTuple
  checkOrder : List ConnectionTuple

namespace TcpIPv4Handler

def new (localIpv4Addr : UInt32) (localPort : UInt16) (maxConnections maxPendingResets : Nat) :
  TcpIPv4Handler :=
  { localIpv4Addr, localPort, connections := .empty, maxConnections, activeConnections := .empty,
    nextTimeout := none, rstQueue := [], maxPendingResets }

section

variable (handler : TcpIPv4Handler)

def checkTimeout (value : UInt64) (tuple : ConnectionTuple) : TcpIPv4Handler :=
  { handler with nextTimeout := keepLeast handler.nextTimeout (value, tuple) }

def waiting (entry : ConnectionTuple × Endpoint) : Option (UInt64 × ConnectionTuple) :=
  match entry.2.nextSegmentStatus with
  | .timeout value => some (value, entry.1)
  | _ => none

def findNextTimeout (order : List ConnectionTuple) : TcpIPv4Handler :=
  { handler with nextTimeout := findLeast waiting (handler.connections.walk order) }

variable (tuple : ConnectionTuple) (order : List ConnectionTuple)

/-- Looks for the next timeout again if it was that of `tuple`. -/
def refreshTimeout : TcpIPv4Handler :=
  match handler.nextTimeout with
  | some (_, timeoutTuple) =>
    if tuple = timeoutTuple then handler.findNextTimeout order else handler
  | none => handler

variable (status : NextSegmentStatus)

def checkNextSegmentStatus (order : List ConnectionTuple) : TcpIPv4Handler × Bool :=
  let next := handler.refreshTimeout tuple order
  match status with
  | .available => ({ next with activeConnections := next.activeConnections.set tuple () }, true)
  | .timeout value => (next.checkTimeout value tuple, false)
  | .nothing => (next, false)

def updateStatus (order : List ConnectionTuple) : TcpIPv4Handler :=
  let (next, added) := handler.checkNextSegmentStatus tuple status order
  if !added then { next with activeConnections := next.activeConnections.erase tuple } else next

def addConnection (endpoint : Endpoint) (order : List ConnectionTuple) :
  TcpIPv4Handler :=
  let next := (handler.checkNextSegmentStatus tuple endpoint.nextSegmentStatus order).1
  { next with connections := next.connections.set tuple endpoint }

def removeConnection : TcpIPv4Handler :=
  refreshTimeout { handler with
    activeConnections := handler.activeConnections.erase tuple
    connections := handler.connections.erase tuple } tuple order

def findEvictableConnection (clock : ConnectionTuple → UInt64) : Option (ConnectionTuple × Endpoint) :=
  (handler.connections.walk order).find? fun entry => entry.2.isEvictable (clock entry.1)

def enqueueRstConfig (config : RstConfig) : TcpIPv4Handler :=
  if handler.rstQueue.length < handler.maxPendingResets then
    { handler with rstQueue := (tuple, config) :: handler.rstQueue }
  else handler

def enqueueRst (segment : TcpSegment) : TcpIPv4Handler :=
  handler.enqueueRstConfig tuple (.new segment)

end

section

variable (handler : TcpIPv4Handler) (tuple : ConnectionTuple)

def receiveKnown (endpoint : Endpoint) (segment : TcpSegment)
  (respond : List UInt8 → Response) (ambient : RecvAmbient) :
  Exec (TcpIPv4Handler × RecvEvent) := do
  let (next, _) ← endpoint.receiveSegment segment respond ambient.now
  let updated := { handler with connections := handler.connections.set tuple next }
  if next.isDone then .ok (updated.removeConnection tuple ambient.removeOrder, .endpointDone)
  else .ok (updated.updateStatus tuple next.nextSegmentStatus ambient.checkOrder, .nothing)

def receiveSyn (segment : TcpSegment) (ambient : RecvAmbient) : Exec (TcpIPv4Handler × RecvEvent) := do
  match ← Endpoint.newWithDefaults segment ambient.isn ambient.now with
  | .error _ => .ok (handler, .failedNewConnection)
  | .ok endpoint =>
    if handler.connections.size ≥ handler.maxConnections then
      match handler.findEvictableConnection ambient.evictOrder ambient.evictClock with
      | some (evictTuple, evicted) =>
        let reset := handler.enqueueRstConfig evictTuple evicted.connection.makeRstConfig
        let removed := reset.removeConnection evictTuple ambient.removeOrder
        .ok (removed.addConnection tuple endpoint ambient.checkOrder, .newConnectionReplacing)
      | none => .ok (handler.enqueueRst tuple segment, .newConnectionDropped)
    else
      .ok (handler.addConnection tuple endpoint ambient.checkOrder, .newConnectionSuccessful)

def receivePacket (packet : IPv4Packet) (respond : List UInt8 → Response)
  (ambient : RecvAmbient) : Exec (TcpIPv4Handler × Except HandlerRecvError RecvEvent) :=
  match TcpSegment.fromBytes packet.payload with
  | .error error => .ok (handler, .error (.tcpSegment error))
  | .ok segment =>
    if segment.destinationPort ≠ handler.localPort then .ok (handler, .error .invalidPort)
    else do
      let tuple := ⟨packet.sourceAddress, segment.sourcePort⟩
      match handler.connections.get? tuple with
      | some endpoint =>
        let (next, event) ← handler.receiveKnown tuple endpoint segment respond ambient
        .ok (next, .ok event)
      | none =>
        if segment.flags = { syn := true } then
          let (next, event) ← handler.receiveSyn tuple segment ambient
          .ok (next, .ok event)
        else if segment.flags.rst then .ok (handler, .ok .unexpectedSegment)
        else .ok (handler.enqueueRst tuple segment, .ok .unexpectedSegment)

end

structure Packet where
  tuple : ConnectionTuple
  segment : Incomplete

def Packet.len (packet : Packet) : Nat := 20 + packet.segment.len

/-- The endpoints as they are once one of those asked has written a segment of its own; that
endpoint comes with it. -/
structure Written where
  connections : Dict ConnectionTuple Endpoint
  writer : Option (ConnectionTuple × Endpoint × Incomplete)

def writeFirst (connections : Dict ConnectionTuple Endpoint) (bufLen : Nat)
  (clock : Nat → UInt64) : Nat → List ConnectionTuple → Exec Written
  | _, [] => .ok ⟨connections, none⟩
  | index, tuple :: rest =>
    match connections.get? tuple with
    | none => .error .panic
    | some endpoint => do
      let (next, sends) ← endpoint.writeNextSegment bufLen 0 (clock index)
      match sends with
      | some segment => .ok ⟨connections.set tuple next, some (tuple, next, segment)⟩
      | none => writeFirst (connections.set tuple next) bufLen clock (index + 1) rest

section

variable (handler : TcpIPv4Handler)

def writers (order : List ConnectionTuple) : List ConnectionTuple :=
  (handler.activeConnections.walk order).map Prod.fst ++ (handler.nextTimeout.map Prod.snd).toList

def writeNextPacket (bufLen : Nat) (ambient : WriteAmbient) :
  Exec (TcpIPv4Handler × Except HandlerWriteError (Option Packet × WriteEvent)) :=
  if bufLen < 20 then .ok (handler, .error (.ipv4Packet .sliceTooShort))
  else match handler.rstQueue with
    | (tuple, config) :: queue =>
      let popped := { handler with rstQueue := queue }
      let (seq, ack, flags) := config.seqAckTcpFlags
      match writeIncompleteSegment (bufLen - 20) seq ack flags 10000 none 0 none with
      | .error error => .ok (popped, .error (.tcpSegment error))
      | .ok segment => .ok (popped, .ok (some ⟨tuple, segment⟩, .nothing))
    | [] => do
      let wrote ← writeFirst handler.connections (bufLen - 20) ambient.clock 0
        (handler.writers ambient.activeOrder)
      let updated := { handler with connections := wrote.connections }
      match wrote.writer with
      | none => .ok (updated, .ok (none, .nothing))
      | some (tuple, endpoint, segment) =>
        if endpoint.isDone then
          .ok (updated.removeConnection tuple ambient.removeOrder,
            .ok (some ⟨tuple, segment⟩, .endpointDone))
        else
          .ok (updated.updateStatus tuple endpoint.nextSegmentStatus ambient.checkOrder,
            .ok (some ⟨tuple, segment⟩, .nothing))

def nextSegmentStatus : NextSegmentStatus :=
  if handler.activeConnections.size ≠ 0 || handler.rstQueue ≠ [] then .available
  else match handler.nextTimeout with
    | some (value, _) => .timeout value
    | none => .nothing

end

inductive Event
  | receive (packet : IPv4Packet) (respond : List UInt8 → Response) (ambient : RecvAmbient)
  | write (bufLen : Nat) (ambient : WriteAmbient)

def step (handler : TcpIPv4Handler) : Event → Exec TcpIPv4Handler
  | .receive packet respond ambient => do
    let (next, _) ← handler.receivePacket packet respond ambient
    .ok next
  | .write bufLen ambient => do
    let (next, _) ← handler.writeNextPacket bufLen ambient
    .ok next

def run (handler : TcpIPv4Handler) : List Event → Exec TcpIPv4Handler
  | [] => .ok handler
  | event :: events => do
    let next ← handler.step event
    next.run events

end TcpIPv4Handler

end Spacer.Dumbo
