import Spacer.Virtio.Safety
import Spacer.Vsock.Device

/-!
Everything that can happen to one connection, in any order and with any answers of the host
stream, with a record of what went in and out.
-/

namespace Spacer.Vsock

open Lib Virtio

structure TxBuffer where
  head : DescriptorChain
  next : Option DescriptorChain
  hdr : VsockPacketHeader
  memory : Nat → UInt8

def VsockPacket.data (memory : Nat → UInt8) (pkt : VsockPacket) : List UInt8 :=
  match pkt.bufAddr with
  | some addr => load memory addr.toNat pkt.hdr.len.toNat
  | none => []

inductive Event
  | rx (buffers : List (RxBuffer × ReadAnswer × Nat))
  | tx (buffer : TxBuffer) (answer ack : WriteAnswer) (now : Nat)
  | notify (evset : EventSet) (answers : List WriteAnswer)
  | kill

variable (mem : GuestLayout)

def VsockConnection.recvWith (conn : VsockConnection) (pkt : VsockPacket)
  (env : ReadAnswer × Nat) : Received VsockConnection :=
  conn.recvPkt mem pkt env.1 env.2

structure Session where
  conn : VsockConnection
  -- the entries put into the used ring of the RX queue
  used : List UsedPacket
  -- the data the guest sent in states that allow it
  sent : List UInt8
  -- what the stream took of the connect acknowledgement
  acked : List UInt8
  -- killed at some time
  dead : Bool

namespace Session

def opened (opening : VsockConnection.Opening) : Session where
  conn := VsockConnection.opened opening
  used := []
  sent := []
  acked := []
  dead := false

variable (session : Session)

def deliver (memory : Nat → UInt8) (pkt : VsockPacket) (answer ack : WriteAnswer) (now : Nat) : Session :=
  let conn := session.conn.sendPkt mem memory pkt answer now
  let acked := conn.ackHost session.conn.state session.conn.localPort ack
  { session with
    conn := acked
    sent := session.sent ++
      if session.conn.maySend && pkt.hdr.op = vsockOpRw then pkt.data memory else []
    acked := session.acked ++ acked.stream.written.drop conn.stream.written.length
    dead := session.dead || acked.state = .killed }

def apply : Event → Session
  | .rx buffers =>
    let turn := processRx (VsockConnection.recvWith mem) mem session.conn buffers
    { session with conn := turn.2, used := session.used ++ turn.1 }
  | .tx buffer answer ack now =>
    match VsockPacket.fromTxVirtqHead mem buffer.head buffer.hdr buffer.next with
    | .error _ => session
    | .ok pkt => session.deliver mem buffer.memory pkt answer ack now
  | .notify evset answers =>
    let conn := session.conn.notify evset answers
    { session with conn := conn, dead := session.dead || conn.state = .killed }
  | .kill => { session with conn := session.conn.kill, dead := true }

def run (events : List Event) : Session :=
  events.foldl (apply mem) session

theorem roomySize_small : 0x10000000 < 2 ^ 62 := by decide

def roomyLayout : GuestLayout := archLayout 0x10000000 roomySize_small

theorem roomyLayout_covered (inside : addr + count ≤ 0x10000000) :
  Program.Covered roomyLayout.addressInRange addr count := by
  intro offset small
  have regions : roomyLayout.regions = [(0, 0x10000000)] := rfl
  simp only [GuestLayout.addressInRange, regions, List.any_cons, List.any_nil, Bool.or_false,
    Bool.and_eq_true, decide_eq_true_eq]
  omega

def roomyBuffer (len : UInt32) : RxBuffer where
  head := ⟨0x1000, 256, 256, 0, 0x2000, 44, 3, 1⟩
  next := some ⟨0x1000, 256, 255, 1, 0x10000, len, 2, 0⟩

def greeting : List Event :=
  [.rx [(roomyBuffer 1, .fail .wouldBlock, 0)], .notify ⟨true, false⟩ []]

def fourBytes : TxBuffer where
  head := ⟨0x1000, 256, 256, 2, 0x3000, 44, 1, 3⟩
  next := some ⟨0x1000, 256, 255, 3, 0x4000, 4, 0, 0⟩
  hdr := { VsockPacketHeader.default with len := 4, op := vsockOpRw }
  memory := UInt8.ofNat

def guestRequest : VsockConnection.Opening := .peerInit 7 2 3 1024 5000 0x20000

end Session

end Spacer.Vsock
