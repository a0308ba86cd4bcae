import Spacer.Lib.Lists
import Spacer.Vsock.Connection

/-! The RX queue loop of the device, for any channel that fills in packets. -/

namespace Spacer.Vsock

open Lib Virtio

/-- A buffer of the RX queue: what `pop` returns, and what follows it in its chain. -/
structure RxBuffer where
  head : DescriptorChain
  next : Option DescriptorChain

/-- An entry of the used ring, with what was written to guest memory before. -/
structure UsedPacket where
  index : UInt16
  usedLen : UInt32
  header : Option VsockPacketHeader
  payload : List UInt8

/-- Commits the header; if that fails the packet is discarded with what was read for it. -/
def commitUsed {C : Type} (mem : GuestLayout) (index : UInt16) (received : Received C) :
  UsedPacket :=
  match received.pkt.commitHdr mem with
  | .ok hdr =>
    ⟨index, UInt32.ofNat vsockPktHdrSize + received.pkt.hdr.len, some hdr, received.payload⟩
  | .error _ => ⟨index, 0, none, received.payload⟩

section

variable {C Env : Type} (recvPkt : C → VsockPacket → Env → Received C) (mem : GuestLayout)

/-- One turn of the loop; no entry means that the channel had nothing for the buffer, which is
then left for the next time. -/
def processRxBuffer (channel : C) (buffer : RxBuffer) (env : Env) : Option UsedPacket × C :=
  match VsockPacket.fromRxVirtqHead mem buffer.head buffer.next with
  | .error _ => (some ⟨buffer.head.index, 0, none, []⟩, channel)
  | .ok pkt =>
    let received := recvPkt channel pkt env
    match received.result with
    | .error _ => (none, received.channel)
    | .ok () => (some (commitUsed mem buffer.head.index received), received.channel)

def processRx (channel : C) : List (RxBuffer × Env) → List UsedPacket × C
  | [] => ([], channel)
  | (buffer, env) :: buffers =>
    match processRxBuffer recvPkt mem channel buffer env with
    | (none, channel) => ([], channel)
    | (some used, channel) =>
      let rest := processRx channel buffers
      (used :: rest.1, rest.2)

theorem processRx_relates {relates : C → C → Prop} (refl : ∀ channel, relates channel channel)
  (trans : ∀ first second third, relates first second → relates second third → relates first third)
  (step : ∀ channel pkt env, relates channel (recvPkt channel pkt env).channel) (channel : C) :
  relates channel (processRx recvPkt mem channel buffers).2 := by
  have turn (channel : C) (buffer : RxBuffer) (env : Env) :
      relates channel (processRxBuffer recvPkt mem channel buffer env).2 := by
    unfold processRxBuffer
    split
    · exact refl channel
    dsimp only
    split
    · exact step channel _ env
    · exact step channel _ env
  induction buffers generalizing channel with
  | nil => exact refl channel
  | cons first buffers ih =>
    obtain ⟨buffer, env⟩ := first
    have moved := turn channel buffer env
    unfold processRx
    split
    · rename_i next done
      rw [done] at moved
      exact moved
    rename_i used next done
    rw [done] at moved
    exact trans channel next _ moved (ih next)

end

theorem checkHdrDesc_ok (accepted : VsockPacket.checkHdrDesc mem desc writeOnly = .ok ()) :
  checkRange mem desc.addr vsockPktHdrSize = true := by
  obtain ⟨_, _, rest⟩ := ok_of_bind accepted
  split at rest
  · cases rest
  rename_i inside
  simpa using inside

theorem initBuf_ok (accepted : VsockPacket.initBuf mem pkt next writeOnly = .ok filled) :
  ∃ addr size, filled = { pkt with bufAddr := some addr, bufSize := size } := by
  unfold VsockPacket.initBuf at accepted
  split at accepted
  · cases accepted
  rename_i desc
  obtain ⟨_, _, rest⟩ := ok_of_bind accepted
  split at rest
  · cases rest
  cases rest
  exact ⟨desc.addr, desc.len.toNat, rfl⟩

theorem fromRxVirtqHead_ok (accepted : VsockPacket.fromRxVirtqHead mem head next = .ok pkt) :
  checkRange mem pkt.hdrAddr vsockPktHdrSize = true ∧ pkt.hdr = .default := by
  obtain ⟨_, checked, rest⟩ := ok_of_bind accepted
  obtain ⟨addr, size, rfl⟩ := initBuf_ok rest
  exact ⟨checkHdrDesc_ok checked, rfl⟩

theorem commitHdr_eq {pkt : VsockPacket} (inside : checkRange mem pkt.hdrAddr vsockPktHdrSize = true) :
  pkt.commitHdr mem =
    if pkt.hdr.len.toNat ≤ maxPktBufSize then .ok pkt.hdr
    else .error (.invalidPktLen pkt.hdr.len) := by
  unfold VsockPacket.commitHdr VsockPacket.checkLen
  by_cases small : pkt.hdr.len.toNat ≤ maxPktBufSize
  · rw [if_neg (Nat.not_lt.mpr small), if_pos small]
    change (if _ then _ else _) = _
    rw [if_pos inside]
  rw [if_pos (Nat.lt_of_not_le small), if_neg small]
  rfl

end Spacer.Vsock
