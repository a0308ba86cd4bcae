import Spacer.Lib.HashMap
import Spacer.Lib.SyncQueue
import Spacer.Vsock.Session

/-!
The connection multiplexer.  What it asks of the system around it (the host streams, the
clock, epoll, the order in which a hash map is walked) are arguments of its operations.
-/

namespace Spacer.Vsock

open Lib Virtio List

def maxConnections : Nat := 1023

def muxerRxqSize : Nat := 256

def muxerKillqSize : Nat := 128

structure ConnMapKey where
  localPort : UInt32
  peerPort : UInt32
  deriving DecidableEq

inductive MuxerRx
  | connRx (key : ConnMapKey)
  | rstPkt (localPort peerPort : UInt32)
  deriving DecidableEq

structure MuxerKillQItem where
  key : ConnMapKey
  killTime : Nat
  deriving DecidableEq

abbrev MuxerRxQ := SyncQueue MuxerRx muxerRxqSize

abbrev MuxerKillQ := SyncQueue MuxerKillQItem muxerKillqSize

namespace MuxerRxQ

def pendingItem (entry : ConnMapKey × VsockConnection) : Option MuxerRx :=
  if entry.2.hasPendingRx then some (.connRx entry.1) else none

/-- `pool` is the connection pool in the order in which it is walked. -/
def fromConnMap (pool : List (ConnMapKey × VsockConnection)) : MuxerRxQ where
  q := (SyncQueue.gather muxerRxqSize pendingItem [] pool).1
  synced := (SyncQueue.gather muxerRxqSize pendingItem [] pool).2
  bounded := SyncQueue.gather_bounded pool (Nat.zero_le _)

def evictFirst (rx : MuxerRx) : List MuxerRx → Option (List MuxerRx)
  | [] => none
  | .connRx _ :: rest => some (rx :: rest)
  | .rstPkt localPort peerPort :: rest => (evictFirst rx rest).map (.rstPkt localPort peerPort :: ·)

def evict (rx : MuxerRx) (q : List MuxerRx) : Option (List MuxerRx) :=
  (evictFirst rx q.reverse).map List.reverse

theorem evictFirst_length (found : evictFirst rx q = some evicted) : evicted.length = q.length := by
  induction q generalizing evicted with
  | nil => cases found
  | cons first rest ih =>
    cases first with
    | connRx key =>
      cases found
      rfl
    | rstPkt localPort peerPort =>
      rw [evictFirst, Option.map_eq_some_iff] at found
      obtain ⟨others, later, rfl⟩ := found
      rw [length_cons, length_cons, ih later]

theorem evict_bounded {queue : MuxerRxQ} (found : evict rx queue.q = some evicted) :
  evicted.length ≤ muxerRxqSize := by
  rw [evict, Option.map_eq_some_iff] at found
  obtain ⟨reversed, found, rfl⟩ := found
  rw [length_reverse, evictFirst_length found, length_reverse]
  exact queue.bounded

/-- What becomes of an RST for which there is no room: it takes the place of a connection,
which can be asked again later, or is dropped. -/
def displace (queue : MuxerRxQ) (rx : MuxerRx) : MuxerRxQ :=
  match found : evict rx queue.q with
  | some evicted => ⟨evicted, false, evict_bounded found⟩
  | none => queue

def push (queue : MuxerRxQ) (rx : MuxerRx) : MuxerRxQ :=
  match rx with
  | .connRx _ => queue.offer rx
  | .rstPkt _ _ => if queue.synced ∧ queue.isFull = false then queue.offer rx else queue.displace rx

end MuxerRxQ

namespace MuxerKillQ

variable (clock : ConnMapKey → Nat)

def expiringItem (entry : ConnMapKey × VsockConnection) : Option MuxerKillQItem :=
  if entry.2.willExpire (clock entry.1) then entry.2.expiry.map fun time => ⟨entry.1, time⟩
  else none

/-- Items of one time may come in any order, as the walk before may. -/
def sortByKey (items : List MuxerKillQItem) : List MuxerKillQItem :=
  items.insertionSort fun first second => first.killTime ≤ second.killTime

variable (pool : List (ConnMapKey × VsockConnection))

theorem fromConnMap_bounded :
  (sortByKey (SyncQueue.gather muxerKillqSize (expiringItem clock) [] pool).1).length ≤ muxerKillqSize := by
  rw [sortByKey, length_insertionSort]
  exact SyncQueue.gather_bounded pool (Nat.zero_le _)

def fromConnMap : MuxerKillQ where
  q := sortByKey (SyncQueue.gather muxerKillqSize (expiringItem clock) [] pool).1
  synced := (SyncQueue.gather muxerKillqSize (expiringItem clock) [] pool).2
  bounded := fromConnMap_bounded clock pool

def push (queue : MuxerKillQ) (key : ConnMapKey) (killTime : Nat) : MuxerKillQ :=
  queue.offer ⟨key, killTime⟩

end MuxerKillQ

inductive EpollListener
  | connection (key : ConnMapKey) (evset : EventSet)
  | hostSock
  | localStream (stream : Stream)

structure VsockMuxer where
  cid : UInt64
  connMap : Dict ConnMapKey VsockConnection
  listenerMap : Dict Nat EpollListener
  rxq : MuxerRxQ
  killq : MuxerKillQ
  hostSock : Nat
  localPortSet : List UInt32
  localPortLast : UInt32

/-- The answers that one mutation of a connection gets: the clock before and after it, the
write of the acknowledgement and the change of the epoll listener. -/
structure MutationEnv where
  before : Nat
  ack : WriteAnswer
  after : Nat
  epollOk : Bool

/-- One round of a sweep: the time at each look at the front of the queue, how much later the
connection is asked whether it has expired, and the walk that builds the queue anew. -/
structure Round where
  pop : Nat → Nat
  delay : Nat → Nat
  order : List ConnMapKey
  clock : ConnMapKey → Nat

structure RecvEnv where
  answer : ReadAnswer
  now : Nat
  mutation : MutationEnv

/-- `connected` is the stream to the host socket, `rounds` and `epollOk` are for the connection
that is then added. -/
structure SendEnv where
  memory : Nat → UInt8
  answer : WriteAnswer
  now : Nat
  mutation : MutationEnv
  connected : Option Nat
  rounds : List Round
  epollOk : Bool

/-- An event that epoll reports, with the host's answers: the stream that was accepted, and the
port that a connect command asks for. -/
structure EpollEvent where
  fd : Nat
  evset : EventSet
  answers : List WriteAnswer
  mutation : MutationEnv
  accepted : Option Nat
  peerPort : Option UInt32
  rounds : List Round
  epollOk : Bool

namespace VsockMuxer

def new (cid : UInt64) (hostSock : Nat) : VsockMuxer where
  cid := cid
  connMap := .empty
  listenerMap := Dict.empty.set hostSock .hostSock
  rxq := .new
  killq := .new
  hostSock := hostSock
  localPortSet := []
  localPortLast := 0x3fffffff

variable (muxer : VsockMuxer)

def hasPendingRx : Bool := !muxer.rxq.isEmpty || !muxer.rxq.synced

def removeListener (fd : Nat) : VsockMuxer :=
  { muxer with listenerMap := muxer.listenerMap.erase fd }

def freeLocalPort (port : UInt32) : VsockMuxer :=
  { muxer with localPortSet := muxer.localPortSet.filter (· ≠ port) }

variable (key : ConnMapKey)

def removeConnection : VsockMuxer :=
  match muxer.connMap.get? key with
  | some conn =>
    ({ muxer with connMap := muxer.connMap.erase key }.removeListener
      conn.stream.fd).freeLocalPort key.localPort
  | none => muxer.freeLocalPort key.localPort

def killConnection : VsockMuxer :=
  let hadRx :=
    match muxer.connMap.get? key with
    | some conn => conn.hasPendingRx
    | none => false
  { muxer with
    connMap := muxer.connMap.modify key VsockConnection.kill
    rxq := if hadRx then muxer.rxq else muxer.rxq.push (.connRx key) }

variable (conn : VsockConnection)

def updateListener (epollOk : Bool) : VsockMuxer :=
  let fd := conn.stream.fd
  let newEvset := conn.getPolledEvset
  if newEvset.isEmpty then muxer.removeListener fd
  else match muxer.listenerMap.get? fd with
    | some (.connection owner evset) =>
      if evset ≠ newEvset then
        let muxer :=
          { muxer with listenerMap := muxer.listenerMap.set fd (.connection owner newEvset) }
        if epollOk then muxer else muxer.killConnection key
      else muxer
    | _ =>
      if epollOk then
        { muxer with listenerMap := muxer.listenerMap.set fd (.connection key newEvset) }
      else muxer.killConnection key

def schedule (next : VsockConnection) (env : MutationEnv) : VsockMuxer :=
  { muxer with
    connMap := muxer.connMap.set key next
    rxq :=
      if !conn.hasPendingRx && next.hasPendingRx then muxer.rxq.push (.connRx key)
      else muxer.rxq
    killq :=
      if !conn.willExpire env.before && next.willExpire env.after then
        muxer.killq.push key (next.expiry.getD 0)
      else muxer.killq }

def applyConnMutation (mutFn : VsockConnection → VsockConnection) (env : MutationEnv) : VsockMuxer :=
  match muxer.connMap.get? key with
  | none => muxer
  | some conn =>
    let next := (mutFn conn).ackHost conn.state key.localPort env.ack
    (muxer.schedule key conn next env).updateListener key next env.epollOk

def rstPacket (localPort peerPort : UInt32) (pkt : VsockPacket) :
  VsockPacket :=
  { pkt with hdr :=
    { srcCid := vsockHostCid
      dstCid := muxer.cid
      srcPort := localPort
      dstPort := peerPort
      len := 0
      type := vsockTypeStream
      op := vsockOpRst
      flags := 0
      bufAlloc := 0
      fwdCnt := 0 } }

def recvConn (mem : GuestLayout) (muxer : VsockMuxer) (key : ConnMapKey) (pkt : VsockPacket)
  (env : RecvEnv) : Received VsockMuxer :=
  match muxer.connMap.get? key with
  | none => ⟨.error .noData, pkt, [], { muxer with rxq := muxer.rxq.pop }⟩
  | some conn =>
    let received := conn.recvPkt mem pkt env.answer env.now
    let muxer := muxer.applyConnMutation key (fun _ => received.channel) env.mutation
    ⟨received.result, received.pkt, received.payload,
      if received.channel.hasPendingRx then muxer else { muxer with rxq := muxer.rxq.pop }⟩

/-- The loop of `recv_pkt`; `env` has the answers for each turn, and no result means that the
loop takes more turns than allowed. -/
def recvLoop (mem : GuestLayout) (env : Nat → RecvEnv) :
  Nat → Nat → VsockMuxer → VsockPacket → Option (Received VsockMuxer)
  | 0, _, _, _ => none
  | turns + 1, turn, muxer, pkt =>
    match muxer.rxq.q with
    | [] => some ⟨.error .noData, pkt, [], muxer⟩
    | .rstPkt localPort peerPort :: _ =>
      some ⟨.ok (), muxer.rstPacket localPort peerPort pkt, [], { muxer with rxq := muxer.rxq.pop }⟩
    | .connRx key :: _ =>
      let received := recvConn mem muxer key pkt (env turn)
      match received.result with
      | .ok () =>
        let hdr := received.pkt.hdr
        some { received with
          channel :=
            if hdr.op = vsockOpRst then
              received.channel.removeConnection ⟨hdr.srcPort, hdr.dstPort⟩
            else received.channel }
      | .error _ => recvLoop mem env turns (turn + 1) received.channel received.pkt

def resync (order : List ConnMapKey) : VsockMuxer :=
  if muxer.rxq.isEmpty && !muxer.rxq.synced then
    { muxer with rxq := MuxerRxQ.fromConnMap (muxer.connMap.walk order) }
  else muxer

def recvPkt (mem : GuestLayout) (muxer : VsockMuxer) (pkt : VsockPacket)
  (env : Nat → RecvEnv) (order : List ConnMapKey) (turns : Nat) :
  Option (Received VsockMuxer) :=
  recvLoop mem env turns 0 (muxer.resync order) pkt

def enqRst (localPort peerPort : UInt32) : VsockMuxer :=
  { muxer with rxq := muxer.rxq.push (.rstPkt localPort peerPort) }

def expire (now : Nat) : VsockMuxer :=
  match muxer.connMap.get? key with
  | some conn => if conn.hasExpired now then muxer.killConnection key else muxer
  | none => muxer

/-- Pops what is due, from the front; `items` bounds the number of turns. -/
def reap (round : Round) : Nat → Nat → VsockMuxer → VsockMuxer
  | 0, _, muxer => muxer
  | items + 1, turn, muxer =>
    match muxer.killq.q with
    | [] => muxer
    | item :: _ =>
      if round.pop turn > item.killTime then
        reap round items (turn + 1) ({ muxer with killq := muxer.killq.pop }.expire item.key
            (round.pop turn + round.delay turn))
      else muxer

/-- The queue is built anew once it was drained, and the sweep then starts again; no result
means that there are more rounds than given. -/
def sweepKillq (muxer : VsockMuxer) : List Round → Option VsockMuxer
  | [] => none
  | round :: rounds =>
    let muxer := reap round muxer.killq.q.length 0 muxer
    if muxer.killq.isEmpty && !muxer.killq.synced then
      { muxer with
        killq := MuxerKillQ.fromConnMap round.clock (muxer.connMap.walk round.order) }.sweepKillq rounds
    else some muxer

def addConnection (rounds : List Round) (epollOk : Bool) : Option (Bool × VsockMuxer) := do
  let muxer ← muxer.sweepKillq rounds
  if muxer.connMap.size ≥ maxConnections then some (false, muxer)
  else if epollOk then
    some (true, { muxer with
        listenerMap :=
          muxer.listenerMap.set conn.stream.fd (.connection key conn.getPolledEvset)
        rxq := if conn.hasPendingRx then muxer.rxq.push (.connRx key) else muxer.rxq
        connMap := muxer.connMap.set key conn })
  else some (false, muxer)

def nextLocalPort (port : UInt32) : UInt32 := (port + 1) &&& 0x7fffffff ||| 0x40000000

/-- The next port that is not in use.  After one more attempt than there are ports in use there
will be none. -/
def findLocalPort (used : List UInt32) : Nat → UInt32 → Option UInt32
  | 0, _ => none
  | attempts + 1, last =>
    if nextLocalPort last ∈ used then findLocalPort used attempts (nextLocalPort last)
    else some (nextLocalPort last)

def allocateLocalPort : Option (UInt32 × VsockMuxer) := do
  let port ← findLocalPort muxer.localPortSet (muxer.localPortSet.length + 1) muxer.localPortLast
  some (port, { muxer with localPortSet := port :: muxer.localPortSet, localPortLast := port })

def handlePeerRequestPkt (pkt : VsockPacket) (env : SendEnv) : Option VsockMuxer :=
  let hdr := pkt.hdr
  match env.connected with
  | none => some (muxer.enqRst hdr.dstPort hdr.srcPort)
  | some fd => do
    let (added, muxer) ← muxer.addConnection ⟨hdr.dstPort, hdr.srcPort⟩
      (.newPeerInit (.new fd) vsockHostCid muxer.cid hdr.dstPort hdr.srcPort hdr.bufAlloc)
      env.rounds env.epollOk
    if added then some muxer else some (muxer.enqRst hdr.dstPort hdr.srcPort)

def sendPkt (mem : GuestLayout) (muxer : VsockMuxer) (pkt : VsockPacket) (env : SendEnv) :
  Option VsockMuxer :=
  let hdr := pkt.hdr
  let key : ConnMapKey := ⟨hdr.dstPort, hdr.srcPort⟩
  if hdr.type ≠ vsockTypeStream then some (muxer.enqRst hdr.dstPort hdr.srcPort)
  else if hdr.dstCid ≠ vsockHostCid then some muxer
  else if !muxer.connMap.contains key then
    if hdr.op = vsockOpRequest then muxer.handlePeerRequestPkt pkt env
    else some (muxer.enqRst hdr.dstPort hdr.srcPort)
  else if hdr.op = vsockOpRst then some (muxer.removeConnection key)
  else some (muxer.applyConnMutation key
    (fun conn => conn.sendPkt mem env.memory pkt env.answer env.now) env.mutation)

def acceptConnect (stream : Stream) (event : EpollEvent) : Option VsockMuxer :=
  match event.peerPort with
  | none => some muxer
  | some peerPort => do
    let (localPort, muxer) ← muxer.allocateLocalPort
    let (_, muxer) ← muxer.addConnection ⟨localPort, peerPort⟩
      (.newLocalInit stream vsockHostCid muxer.cid localPort peerPort) event.rounds
      event.epollOk
    some muxer

def handleEvent (event : EpollEvent) : Option VsockMuxer :=
  match muxer.listenerMap.get? event.fd with
  | some (.connection key _) =>
    some (muxer.applyConnMutation key (fun conn => conn.notify event.evset event.answers) event.mutation)
  | some .hostSock =>
    if muxer.connMap.size = maxConnections then some muxer
    else match event.accepted with
      | none => some muxer
      | some fd =>
        if event.epollOk then
          some { muxer with
            listenerMap := muxer.listenerMap.set fd (.localStream (.new fd)) }
        else some muxer
  | some (.localStream stream) => (muxer.removeListener event.fd).acceptConnect stream event
  | none => some muxer

def notify (events : List EpollEvent) : Option VsockMuxer :=
  events.foldlM handleEvent muxer

end VsockMuxer

inductive MuxerEvent
  | recv (pkt : VsockPacket) (env : Nat → RecvEnv) (order : List ConnMapKey) (turns : Nat)
  | send (pkt : VsockPacket) (env : SendEnv)
  | epoll (event : EpollEvent)
  | sweep (rounds : List Round)

variable {muxer : VsockMuxer}

namespace VsockMuxer

variable (mem)

def step (muxer : VsockMuxer) : MuxerEvent → Option VsockMuxer
  | .recv pkt env order turns =>
    (muxer.recvPkt mem pkt env order turns).map fun received => received.channel
  | .send pkt env => muxer.sendPkt mem pkt env
  | .epoll event => muxer.handleEvent event
  | .sweep rounds => muxer.sweepKillq rounds

def run (muxer : VsockMuxer) (events : List MuxerEvent) : Option VsockMuxer :=
  events.foldlM (step mem) muxer

theorem notify_eq_run (muxer : VsockMuxer) (events : List EpollEvent) :
  muxer.notify events = muxer.run mem (events.map .epoll) := by
  rw [notify, run, foldlM_map]
  rfl

variable {mem}

theorem run_invariant (Inv : List MuxerEvent → VsockMuxer → Prop)
  (keeps : ∀ muxer event events next, Inv (event :: events) muxer →
    step mem muxer event = some next → Inv events next) (holds : Inv events muxer)
  (ran : muxer.run mem events = some last) : Inv [] last := by
  induction events generalizing muxer with
  | nil =>
    cases ran
    exact holds
  | cons event events ih =>
    obtain ⟨next, stepped, rest⟩ := Option.bind_eq_some_iff.mp ran
    exact ih (keeps muxer event events next holds stepped) rest

theorem killConnection_some (found : muxer.connMap.get? key = some conn) :
  muxer.killConnection key = { muxer with
      connMap := muxer.connMap.set key conn.kill
      rxq := if !conn.hasPendingRx then muxer.rxq.push (.connRx key) else muxer.rxq } := by
  unfold killConnection Dict.modify
  rw [found]
  dsimp only
  cases conn.hasPendingRx <;> rfl

theorem killConnection_none (absent : muxer.connMap.get? key = none) :
  muxer.killConnection key = { muxer with rxq := muxer.rxq.push (.connRx key) } := by
  unfold killConnection Dict.modify
  rw [absent]
  rfl

theorem recvConn_none (absent : muxer.connMap.get? key = none) :
  recvConn mem muxer key pkt env = ⟨.error .noData, pkt, [], { muxer with rxq := muxer.rxq.pop }⟩ := by
  unfold recvConn
  rw [absent]

theorem recvConn_some (found : muxer.connMap.get? key = some conn) :
  recvConn mem muxer key pkt env = let received := conn.recvPkt mem pkt env.answer env.now
      let muxer := muxer.applyConnMutation key (fun _ => received.channel) env.mutation
      ⟨received.result, received.pkt, received.payload,
        if received.channel.hasPendingRx then muxer
        else { muxer with rxq := muxer.rxq.pop }⟩ := by
  unfold recvConn
  rw [found]

theorem updateListener_cases (muxer : VsockMuxer) (key : ConnMapKey) (conn : VsockConnection)
  (epollOk : Bool) :
  ∃ listeners, muxer.updateListener key conn epollOk = { muxer with listenerMap := listeners } ∨
    epollOk = false ∧ muxer.updateListener key conn epollOk =
      { muxer with listenerMap := listeners }.killConnection key := by
  unfold updateListener
  dsimp only
  split
  · exact ⟨_, .inl rfl⟩
  split
  · split
    · split
      · exact ⟨_, .inl rfl⟩
      rename_i failed
      exact ⟨_, .inr ⟨(Bool.not_eq_true _).mp failed, rfl⟩⟩
    · exact ⟨_, .inl rfl⟩
  split
  · exact ⟨_, .inl rfl⟩
  rename_i failed
  exact ⟨muxer.listenerMap, .inr ⟨(Bool.not_eq_true _).mp failed, rfl⟩⟩

structure Closed (Inv : VsockMuxer → Prop) : Prop where
  listeners : ∀ muxer listeners, Inv muxer → Inv { muxer with listenerMap := listeners }
  ports : ∀ muxer used last, Inv muxer → Inv { muxer with localPortSet := used, localPortLast := last }
  kill : ∀ muxer key, Inv muxer → Inv (muxer.killConnection key)
  remove : ∀ muxer key, Inv muxer → Inv (muxer.removeConnection key)
  reset : ∀ muxer localPort peerPort, Inv muxer → Inv (muxer.enqRst localPort peerPort)

section

variable {Inv : VsockMuxer → Prop} {muxer next : VsockMuxer}

theorem Closed.applyConnMutation (closed : Closed Inv) (holds : Inv muxer)
  (scheduled : ∀ conn, muxer.connMap.get? key = some conn → Inv (muxer.schedule key conn
    ((mutFn conn).ackHost conn.state key.localPort env.ack) env)) :
  Inv (muxer.applyConnMutation key mutFn env) := by
  unfold VsockMuxer.applyConnMutation
  cases found : muxer.connMap.get? key with
  | none => exact holds
  | some conn =>
    dsimp only
    have stored := scheduled conn found
    obtain ⟨listeners, same | failed⟩ := updateListener_cases (muxer.schedule key conn
      ((mutFn conn).ackHost conn.state key.localPort env.ack) env) key
      ((mutFn conn).ackHost conn.state key.localPort env.ack) env.epollOk
    · rw [same]
      exact closed.listeners _ listeners stored
    rw [failed.2]
    exact closed.kill _ key (closed.listeners _ listeners stored)

theorem reap_keeps {round : Round} (kill : ∀ muxer key, Inv muxer → Inv (muxer.killConnection key))
  (blind : ∀ muxer killq, Inv muxer → Inv { muxer with killq := killq }) (holds : Inv muxer) :
  Inv (reap round items turn muxer) := by
  induction items generalizing turn muxer with
  | zero => exact holds
  | succ items ih =>
    unfold reap
    split
    · exact holds
    split
    · apply ih
      have popped := blind muxer muxer.killq.pop holds
      unfold expire
      split
      · split
        · exact kill _ _ popped
        · exact popped
      · exact popped
    · exact holds

theorem Closed.sendPkt (closed : Closed Inv) (holds : Inv muxer)
  (scheduled : ∀ conn, muxer.connMap.get? ⟨pkt.hdr.dstPort, pkt.hdr.srcPort⟩ = some conn →
    Inv (muxer.schedule ⟨pkt.hdr.dstPort, pkt.hdr.srcPort⟩ conn
      ((conn.sendPkt mem env.memory pkt env.answer env.now).ackHost conn.state
        pkt.hdr.dstPort env.mutation.ack) env.mutation))
  (grown : ∀ fd added other, muxer.addConnection ⟨pkt.hdr.dstPort, pkt.hdr.srcPort⟩
    (.newPeerInit (.new fd) vsockHostCid muxer.cid pkt.hdr.dstPort pkt.hdr.srcPort
      pkt.hdr.bufAlloc) env.rounds env.epollOk = some (added, other) → Inv other)
  (sent : muxer.sendPkt mem pkt env = some next) : Inv next := by
  unfold VsockMuxer.sendPkt at sent
  dsimp only at sent
  split at sent
  · cases sent
    exact closed.reset muxer _ _ holds
  split at sent
  · cases sent
    exact holds
  split at sent
  · split at sent
    · unfold handlePeerRequestPkt at sent
      dsimp only at sent
      split at sent
      · cases sent
        exact closed.reset muxer _ _ holds
      rename_i fd _
      obtain ⟨⟨added, other⟩, adds, rest⟩ := Option.bind_eq_some_iff.mp sent
      have stored := grown fd added other adds
      dsimp only at rest
      split at rest
      · cases rest
        exact stored
      cases rest
      exact closed.reset other _ _ stored
    cases sent
    exact closed.reset muxer _ _ holds
  split at sent
  · cases sent
    exact closed.remove muxer _ holds
  cases sent
  exact closed.applyConnMutation holds scheduled

theorem Closed.handleEvent (closed : Closed Inv) (holds : Inv muxer)
  (scheduled : ∀ key conn, muxer.connMap.get? key = some conn → Inv (muxer.schedule key conn
    ((conn.notify event.evset event.answers).ackHost conn.state key.localPort
      event.mutation.ack) event.mutation))
  (grown : ∀ listeners used last stream localPort peerPort added other, { muxer with
      listenerMap := listeners
      localPortSet := used
      localPortLast := last }.addConnection ⟨localPort, peerPort⟩
      (.newLocalInit stream vsockHostCid muxer.cid localPort peerPort) event.rounds
      event.epollOk = some (added, other) → Inv other)
  (handled : muxer.handleEvent event = some next) : Inv next := by
  unfold VsockMuxer.handleEvent at handled
  split at handled
  · cases handled
    exact closed.applyConnMutation holds (scheduled _)
  · split at handled
    · cases handled
      exact holds
    split at handled
    · cases handled
      exact holds
    split at handled
    · cases handled
      exact closed.listeners muxer _ holds
    cases handled
    exact holds
  · unfold acceptConnect at handled
    split at handled
    · cases handled
      exact closed.listeners muxer _ holds
    obtain ⟨⟨port, other⟩, allocates, rest⟩ := Option.bind_eq_some_iff.mp handled
    obtain ⟨free, _, same⟩ := Option.bind_eq_some_iff.mp allocates
    cases same
    obtain ⟨⟨added, last⟩, adds, done⟩ := Option.bind_eq_some_iff.mp rest
    cases done
    exact grown _ _ _ _ _ _ added _ adds
  cases handled
  exact holds

end

variable (now : Nat)

def calm : MutationEnv := ⟨now, .accept 0, now, true⟩

def roundAt : Round := ⟨fun _ => now, fun _ => 0, [], fun _ => now⟩

def guestPacket (type op : UInt16) (srcPort dstPort : UInt32) : VsockPacket where
  hdrAddr := 0
  hdr :=
    { VsockPacketHeader.default with
      srcCid := 3
      dstCid := vsockHostCid
      srcPort := srcPort
      dstPort := dstPort
      type := type
      op := op }
  bufAddr := none
  bufSize := 0

def guestSends (pkt : VsockPacket) : MuxerEvent :=
  .send pkt ⟨fun _ => 0, .accept 0, now, calm now, some 7, [roundAt now], true⟩

def recvAt : Nat → RecvEnv := fun _ => ⟨.fail .wouldBlock, now, calm now⟩

def guestAsks : MuxerEvent := .recv (guestPacket 0 0 0 0) (recvAt now) [] 2

end VsockMuxer

end Spacer.Vsock
