import Spacer.Dumbo.Connection

/-!
The local end of a connection to the MMDS: it looks for requests in what it receives, and sends
one response after the other.  Clock readings are arguments.
-/

namespace Spacer.Dumbo

open Lib

def evictionThresholdDefault : UInt64 := 40000000000

def connectionRtoPeriod : UInt64 := 1200000000

def connectionRtoCountMax : UInt16 := 15

def rcvBufMaxSize : Nat := 2500

/-- A serialised response.  It has a status line, so it is never empty. -/
structure Response where
  bytes : List UInt8
  nonempty : bytes ≠ []

structure Endpoint where
  receiveBuf : List UInt8
  responseBuf : List UInt8
  initialResponseSeq : UInt32
  responseSeq : UInt32
  connection : Connection
  lastSegmentReceivedTimestamp : UInt64
  evictionThreshold : UInt64
  stopReceiving : Bool

/-- Where the first double new line ends, for bytes that start at `index`. -/
def requestEnd : Nat → List UInt8 → Option Nat
  | index, a :: b :: rest =>
    if a = 10 then
      if b = 10 then some (index + 2)
      else if b = 13 && rest.head? = some 10 then some (index + 3)
      else requestEnd (index + 1) (b :: rest)
    else requestEnd (index + 1) (b :: rest)
  | _, _ => none

def findRequest (receiveBuf : List UInt8) : Option Nat :=
  if receiveBuf.length > 2 then requestEnd 0 receiveBuf else none

namespace Endpoint

def new (segment : TcpSegment) (evictionThreshold connectionRtoPeriod : UInt64)
  (connectionRtoCountMax : UInt16) (isn : UInt32) (now : UInt64) :
  Exec (Except PassiveOpenError Endpoint) := do
  match ← Connection.passiveOpen segment (UInt32.ofNat rcvBufMaxSize) connectionRtoPeriod
      connectionRtoCountMax isn with
  | .error error => .ok (.error error)
  | .ok connection =>
    .ok (.ok
      { receiveBuf := [], responseBuf := [], initialResponseSeq := connection.firstNotSent,
        responseSeq := connection.firstNotSent, connection,
        lastSegmentReceivedTimestamp := now, evictionThreshold, stopReceiving := false })

def newWithDefaults (segment : TcpSegment) (isn : UInt32) (now : UInt64) :
  Exec (Except PassiveOpenError Endpoint) :=
  new segment evictionThresholdDefault connectionRtoPeriod connectionRtoCountMax isn now

section

variable (endpoint : Endpoint)

def dropAcked : Endpoint :=
  if endpoint.responseBuf ≠ [] && endpoint.connection.highestAckReceived =
      endpoint.initialResponseSeq + UInt32.ofNat endpoint.responseBuf.length then
    { endpoint with
      responseSeq := endpoint.connection.highestAckReceived
      initialResponseSeq := endpoint.connection.highestAckReceived
      responseBuf := [] }
  else endpoint

def closeIfDone : Endpoint :=
  if endpoint.connection.finReceived.isSome && endpoint.responseBuf = [] then
    { endpoint with connection := endpoint.connection.close }
  else endpoint

def resetIfFull : Endpoint :=
  if endpoint.receiveBuf.length = rcvBufMaxSize then
    { endpoint with connection := endpoint.connection.reset, stopReceiving := true }
  else endpoint.closeIfDone

def takeRequest (len : Nat) (response : Response) : Endpoint :=
  { endpoint with
    responseBuf := response.bytes
    receiveBuf := endpoint.receiveBuf.drop len
    connection := endpoint.connection.advanceLocalRwndEdge (UInt32.ofNat len) }

def answer (respond : List UInt8 → Response) : Exec (Endpoint × Option Response) :=
  if endpoint.responseBuf ≠ [] then .ok (endpoint.closeIfDone, none)
  else match findRequest endpoint.receiveBuf with
    | none => .ok (endpoint.resetIfFull, none)
    | some len =>
      let response := respond (endpoint.receiveBuf.take len)
      if response.bytes.length < 2 ^ 32 - 1 then
        .ok ((endpoint.takeRequest len response).resetIfFull, some response)
      else .error .panic

/-- `respond` parses the bytes of a request and answers it. -/
def receiveSegment (segment : TcpSegment) (respond : List UInt8 → Response) (now : UInt64) :
  Exec (Endpoint × Option Response) :=
  if endpoint.stopReceiving then .ok (endpoint, none)
  else if endpoint.receiveBuf.length > rcvBufMaxSize then .error .panic
  else do
    let (connection, result) ← endpoint.connection.receiveSegment segment
      (rcvBufMaxSize - endpoint.receiveBuf.length) now
    let next := { endpoint with connection, lastSegmentReceivedTimestamp := now }
    match result with
    | .error _ => .ok (next, none)
    | .ok received =>
      if received.status.connResetting then .ok ({ next with stopReceiving := true }, none)
      else
        let stored := { next with receiveBuf := next.receiveBuf ++ received.bytes.getD [] }
        stored.dropAcked.answer respond

end

section

variable (endpoint : Endpoint)

def payloadSrc : Exec PayloadSource :=
  if endpoint.responseBuf ≠ [] then
    let offset := (endpoint.responseSeq - endpoint.initialResponseSeq).toNat
    if offset ≤ endpoint.responseBuf.length then
      .ok (some (endpoint.responseBuf.drop offset, endpoint.responseSeq))
    else .error .panic
  else .ok none

def writeNextSegment (bufLen : Nat) (mssReserved : UInt16) (now : UInt64) :
  Exec (Endpoint × Option Incomplete) := do
  let src ← endpoint.payloadSrc
  match endpoint.connection.writeNextSegment bufLen mssReserved src now with
  | (connection, .ok (some segment)) =>
    .ok ({ endpoint with
            connection
            responseSeq := endpoint.responseSeq + UInt32.ofNat segment.payload.length },
      some segment)
  | (connection, _) => .ok ({ endpoint with connection }, none)

def isDone : Bool := endpoint.connection.isDone

def isEvictable (now : UInt64) : Bool :=
  now - endpoint.lastSegmentReceivedTimestamp > endpoint.evictionThreshold

def nextSegmentStatus : NextSegmentStatus :=
  let canSendNewData := endpoint.responseBuf ≠ [] &&
    seqAfter endpoint.connection.remoteRwndEdge endpoint.connection.firstNotSent
  if canSendNewData || endpoint.connection.dupAck then .available
  else endpoint.connection.controlSegmentOrTimeoutStatus

end

inductive Event
  | receive (segment : TcpSegment) (respond : List UInt8 → Response) (now : UInt64)
  | write (bufLen : Nat) (mssReserved : UInt16) (now : UInt64)

inductive Output
  | response (response : Response)
  | segment (segment : Incomplete)

def step (endpoint : Endpoint) : Event → Exec (Endpoint × List Output)
  | .receive segment respond now => do
    let (next, response) ← endpoint.receiveSegment segment respond now
    .ok (next, response.toList.map .response)
  | .write bufLen mssReserved now => do
    let (next, segment) ← endpoint.writeNextSegment bufLen mssReserved now
    .ok (next, segment.toList.map .segment)

def run (endpoint : Endpoint) : List Event → Exec (Endpoint × List Output)
  | [] => .ok (endpoint, [])
  | event :: events => do
    let (next, first) ← endpoint.step event
    let (final, rest) ← next.run events
    .ok (final, first ++ rest)

end Endpoint

end Spacer.Dumbo
