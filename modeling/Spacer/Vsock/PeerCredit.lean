import Spacer.Vsock.Delivery

/-! Flow control from the host to the guest.  The credit is a wrapping difference. -/

namespace Spacer.Vsock

open Lib Virtio

variable {conn : VsockConnection}

namespace VsockConnection

variable (conn)

def inFlight : Nat := (conn.rxCnt - conn.peerFwdCnt).toNat

def freeSpace : Nat := conn.peerBufAlloc.toNat - conn.inFlight

def WithinFreeSpace (mem : GuestLayout) (conn : VsockConnection) (pkt : VsockPacket)
  (answer : ReadAnswer) (now : Nat) : Prop :=
  (conn.recvPkt mem pkt answer now).result = .ok () →
  (conn.recvPkt mem pkt answer now).pkt.hdr.op = vsockOpRw →
  (conn.recvPkt mem pkt answer now).payload.length ≤ conn.freeSpace

def Advertised (mem : GuestLayout) (conn : VsockConnection) (pkt : VsockPacket)
  (answer : ReadAnswer) : Prop :=
  conn.reads mem pkt = true → (∃ bytes, answer = .data bytes ∧ bytes ≠ []) →
    conn.inFlight ≤ conn.peerBufAlloc.toNat

variable {conn}

theorem peerAvailCredit_eq (covered : conn.inFlight ≤ conn.peerBufAlloc.toNat) :
  conn.peerAvailCredit = conn.freeSpace := by
  unfold peerAvailCredit
  rw [UInt32.toNat_sub_of_le _ _ (UInt32.le_iff_toNat_le.mpr covered)]
  rfl

theorem readLimit_pos (active : conn.reads mem pkt = true) : 0 < conn.readLimit pkt := by
  unfold reads at active
  rw [Bool.and_eq_true] at active
  cases place : pkt.bufRegionAddr mem 0 (conn.readLimit pkt) with
  | error err =>
    rw [place] at active
    cases active.2
  | ok addr =>
    unfold VsockPacket.bufRegionAddr at place
    split at place
    · cases place
    split at place
    · cases place
    split at place
    · rename_i inside
      have nonempty := inside.2
      rw [inOneRegion, Bool.and_eq_true, decide_eq_true_iff] at nonempty
      exact nonempty.1
    · cases place

theorem readBytes_nonempty_iff : conn.readBytes mem pkt answer ≠ [] ↔
    conn.reads mem pkt = true ∧ ∃ bytes, answer = .data bytes ∧ bytes ≠ [] := by
  cases answer with
  | fail err => simp [readBytes]
  | data bytes =>
    simp only [readBytes, ReadAnswer.data.injEq, exists_eq_left']
    cases reads : conn.reads mem pkt with
    | false => simp
    | true =>
      have positive := readLimit_pos reads
      simp only [↓reduceIte, ne_eq, List.take_eq_nil_iff, true_and]
      constructor
      · intro some none
        exact some (.inr none)
      rintro some (zero | none)
      · omega
      · exact some none

theorem withinFreeSpace_iff (mem : GuestLayout) (conn : VsockConnection) (pkt : VsockPacket)
  (answer : ReadAnswer) (now : Nat) :
  conn.WithinFreeSpace mem pkt answer now ↔ conn.Advertised mem pkt answer := by
  unfold WithinFreeSpace Advertised
  rcases conn.recvPkt_spec mem pkt answer now with ⟨nonempty, carries⟩ | ⟨empty, quiet⟩
  · rw [carries.result, carries.op, carries.payload]
    obtain ⟨active, some⟩ := readBytes_nonempty_iff.mp nonempty
    constructor
    · intro within _ _
      have small := within rfl rfl
      have positive := List.length_pos_iff.mpr nonempty
      unfold freeSpace at small
      omega
    intro advertised _ _
    rw [← peerAvailCredit_eq (advertised active some)]
    exact conn.readBytes_length_le mem pkt answer
  constructor
  · intro _ active some
    exact absurd empty (readBytes_nonempty_iff.mpr ⟨active, some⟩)
  intro _ done data
  exact absurd data (quiet.op done)

end VsockConnection

section

variable (holds : VsockConnection → VsockPacket → ReadAnswer → Nat → Prop) (mem : GuestLayout)

def EachBuffer (conn : VsockConnection) : List (RxBuffer × ReadAnswer × Nat) → Prop
  | [] => True
  | (buffer, env) :: buffers =>
    (∀ pkt, VsockPacket.fromRxVirtqHead mem buffer.head buffer.next = .ok pkt →
      holds conn pkt env.1 env.2) ∧
    match processRxBuffer (VsockConnection.recvWith mem) mem conn buffer env with
    | (none, _) => True
    | (some _, conn) => EachBuffer conn buffers

def EachRecv (session : Session) : List Event → Prop
  | [] => True
  | event :: events =>
    (match event with
      | .rx buffers => EachBuffer holds mem session.conn buffers
      | _ => True) ∧
    EachRecv (session.apply mem event) events

variable {holds} {holds' : VsockConnection → VsockPacket → ReadAnswer → Nat → Prop}
  (same : ∀ conn pkt answer now, holds conn pkt answer now ↔ holds' conn pkt answer now)

include same

theorem eachBuffer_congr (conn : VsockConnection) (buffers : List (RxBuffer × ReadAnswer × Nat)) :
  EachBuffer holds mem conn buffers ↔ EachBuffer holds' mem conn buffers := by
  induction buffers generalizing conn with
  | nil => exact Iff.rfl
  | cons first buffers ih =>
    unfold EachBuffer
    apply and_congr
    · apply forall_congr'
      intro pkt
      rw [same]
    split
    · exact Iff.rfl
    · exact ih _

theorem eachRecv_congr (session : Session) (events : List Event) :
  EachRecv holds mem session events ↔ EachRecv holds' mem session events := by
  induction events generalizing session with
  | nil => exact Iff.rfl
  | cons event events ih =>
    unfold EachRecv
    apply and_congr
    · cases event with
      | rx buffers => exact eachBuffer_congr mem same session.conn buffers
      | tx | notify | kill => exact Iff.rfl
    · exact ih _

end

namespace Session

open VsockConnection

/-- The data packets of a run fit into the free space last advertised exactly if the guest
never advertises less than what is in flight when data is read for it. -/
theorem within_free_space_iff (mem : GuestLayout) (opening : Opening) (events : List Event) :
  EachRecv (WithinFreeSpace mem) mem (opened opening) events ↔
    EachRecv (fun conn pkt answer _ => conn.Advertised mem pkt answer) mem (opened opening)
      events :=
  eachRecv_congr mem (VsockConnection.withinFreeSpace_iff mem) (opened opening) events

def shrinking : List Event :=
  greeting ++ [.rx [(roomyBuffer 8, .data [1, 2, 3], 0)],
      .tx ⟨⟨0x1000, 256, 256, 2, 0x3000, 44, 0, 0⟩, none,
        { VsockPacketHeader.default with op := vsockOpCreditUpdate, bufAlloc := 1 }, UInt8.ofNat⟩
        (.accept 0) (.accept 0) 0,
      .notify ⟨true, false⟩ [],
      .rx [(roomyBuffer 8, .data [4, 5, 6, 7, 8, 9, 10, 11], 0)]]

theorem shrinking_exceeds :
  ¬EachRecv (WithinFreeSpace roomyLayout) roomyLayout (opened guestRequest) shrinking := by
  intro all
  obtain ⟨_, _, _, _, _, last, _⟩ := all
  have small := last.1 _ rfl (by decide) (by decide)
  revert small
  decide

end Session

end Spacer.Vsock
