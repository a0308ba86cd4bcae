import Spacer.Vsock.Steps

/-! How a connection that the guest has shut down comes to its end. -/

namespace Spacer.Vsock

open Lib Virtio

inductive PeerEvent
  | recv (pkt : VsockPacket) (answer : ReadAnswer) (now : Nat)
  | send (memory : Nat → UInt8) (pkt : VsockPacket) (answer ack : WriteAnswer) (now : Nat)
  | notify (evset : EventSet) (answers : List WriteAnswer)
  | kill

namespace VsockConnection

variable (mem : GuestLayout) (conn : VsockConnection)

/-- The connection after an event: none once it has yielded a reset, for then the muxer drops it. -/
def handle : PeerEvent → Option VsockConnection
  | .recv pkt answer now =>
    let received := conn.recvPkt mem pkt answer now
    match received.result with
    | .ok () => if received.pkt.hdr.op = vsockOpRst then none else some received.channel
    | .error _ => some received.channel
  | .send memory pkt answer ack now =>
    some ((conn.sendPkt mem memory pkt answer now).ackHost conn.state conn.localPort ack)
  | .notify evset answers => some (conn.notify evset answers)
  | .kill => some conn.kill

def handleAll (events : List PeerEvent) : Option VsockConnection := events.foldlM (handle mem) conn

/-- A SHUTDOWN that closes the second direction after the first finds the TX buffer empty. -/
def closesDrained : PeerEvent → Bool
  | .send _ pkt _ _ _ =>
    match conn.state with
    | .peerClosed recvOff sendOff => recvOff && sendOff || pkt.hdr.op ≠ vsockOpShutdown ||
      !((recvOff || shutdownRecv pkt) && (sendOff || shutdownSend pkt)) || conn.txBuf.isEmpty
    | _ => true
  | _ => true

def allCloseDrained (conn : VsockConnection) : List PeerEvent → Bool
  | [] => true
  | event :: events => conn.closesDrained event &&
    match conn.handle mem event with
    | none => true
    | some next => allCloseDrained next events

def Ending : Prop :=
  conn.state = .peerClosed true true → conn.pendingRx.contains .rst = true ∨ conn.expiry ≠ none

variable {mem conn}

theorem Proceeds.ending (proceeds : conn.Proceeds other) (ending : conn.Ending) : other.Ending := by
  intro closed
  rcases proceeds.state with same | ⟨killed, _⟩
  · rw [proceeds.expiry]
    exact (ending (same.symm.trans closed)).imp_left (proceeds.pending.kept .rst)
  rw [killed] at closed
  cases closed

theorem Receives.ending {received : Received VsockConnection}
  (receives : conn.Receives pkt now received) (ending : conn.Ending) :
  (received.result = .ok () ∧ received.pkt.hdr.op = vsockOpRst) ∨ received.channel.Ending := by
  -- no reset is pending, so the timer of a closed connection is armed, and stays so
  have kept {other : VsockConnection} (settled : conn.Settled) (state : other.state = conn.state)
      (expiry : other.expiry = conn.expiry) : other.Ending := by
    intro closed
    rw [expiry]
    refine .inr ((ending (state.symm.trans closed)).resolve_left ?_)
    rw [settled.noRst]
    exact nofun
  cases receives with
  | reset | refused | failed => exact .inl ⟨rfl, rfl⟩
  | response | eof => exact .inr nofun
  | request => exact .inr fun _ => .inr nofun
  | starved settled | data settled | creditUpdate settled | noData settled => exact .inr (kept settled rfl rfl)

theorem sendShutdown_ending (pkt : VsockPacket) (now : Nat) : (conn.sendShutdown pkt now).Ending := by
  unfold sendShutdown
  dsimp only
  split
  · split
    · exact fun _ => .inl (by simp [insertRx, PendingRxSet.insert])
    · exact fun _ => .inr (Option.some_ne_none _)
  rename_i halfOpen
  intro closed
  obtain ⟨recv, send⟩ := ConnState.peerClosed.inj closed
  rw [recv, send] at halfOpen
  exact absurd rfl halfOpen

theorem sendControl_ending (ending : conn.Ending)
  (drained : conn.closesDrained (.send memory pkt answer acked now) = true) :
  (conn.sendControl pkt now).Ending := by
  have credited : (conn.insertRx .creditUpdate).Ending :=
    (insertRx_proceeds conn (by decide)).ending ending
  unfold sendControl
  split
  · split
    · exact nofun
    · exact ending
  · split
    · exact sendShutdown_ending pkt now
    split
    · exact credited
    · exact ending
  · rename_i recvOff sendOff state
    split
    · rename_i shutdown
      unfold sendShutdownMore
      dsimp only
      split
      · exact fun _ => .inl (by simp [insertRx, PendingRxSet.insert])
      rename_i waits
      intro closed
      obtain ⟨recv, send⟩ := ConnState.peerClosed.inj closed
      rw [recv, send, Bool.and_self, Bool.true_and] at waits
      rw [closesDrained, state] at drained
      simp only [shutdown, recv, send, (Bool.not_eq_true _).mp waits, ne_eq, not_true_eq_false,
        decide_false, Bool.and_self, Bool.not_true, Bool.or_false, Bool.and_eq_true] at drained
      exact ending (by rw [state, drained.1, drained.2])
    split
    · exact credited
    · exact ending
  · split
    · exact credited
    · exact ending
  · exact ending
  · exact ending

theorem handle_ending (ending : conn.Ending) (drained : conn.closesDrained event = true)
  (handled : conn.handle mem event = some other) : other.Ending := by
  cases event with
  | recv pkt answer now =>
    have received := (conn.recvPkt_receives mem pkt answer now).ending ending
    simp only [handle] at handled
    cases result : (conn.recvPkt mem pkt answer now).result with
    | ok done =>
      rw [result] at handled received
      dsimp only at handled
      split at handled
      · cases handled
      rename_i other
      cases handled
      exact received.resolve_left fun reset => other reset.2
    | error err =>
      rw [result] at handled received
      cases handled
      exact received.resolve_left fun reset => nomatch reset.1
  | send memory pkt answer ack now =>
    cases handled
    refine (ackHost_proceeds _ _ _ _).ending ?_
    unfold sendPkt
    dsimp only
    split
    · exact (sendRw_proceeds (conn.updatePeerCredit pkt) mem memory pkt answer).ending ending
    · exact @sendControl_ending (conn.updatePeerCredit pkt) memory pkt answer ack now ending drained
  | notify evset answers =>
    cases handled
    exact (conn.notify_proceeds evset answers).ending ending
  | kill =>
    cases handled
    exact nofun

theorem handleAll_ending (ending : conn.Ending) (drained : conn.allCloseDrained mem events = true)
  (reached : conn.handleAll mem events = some other) : other.Ending := by
  induction events generalizing conn with
  | nil =>
    cases reached
    exact ending
  | cons event events ih =>
    rw [handleAll, List.foldlM_cons] at reached
    obtain ⟨next, handled, rest⟩ := Option.bind_eq_some_iff.mp reached
    rw [allCloseDrained, handled, Bool.and_eq_true] at drained
    exact ih (handle_ending ending drained.1 handled) drained.2 rest

/-- A connection that is shut down in both directions has a reset pending or its timer armed,
whatever has happened to it, when the directions are closed at once or the TX buffer is empty
by the second. -/
theorem shutdown_ends (opening : Opening) (events : List PeerEvent)
  (drained : (opened opening).allCloseDrained mem events = true)
  (reached : (opened opening).handleAll mem events = some conn)
  (closed : conn.state = .peerClosed true true) :
  conn.pendingRx.contains .rst = true ∨ conn.expiry ≠ none := by
  refine handleAll_ending ?_ drained reached closed
  cases opening <;> exact nofun

def controlPkt (op : UInt16) (flags : UInt32) : VsockPacket :=
  ⟨0x3000, { VsockPacketHeader.default with op := op, flags := flags }, none, 0⟩

def dataPkt : VsockPacket :=
  ⟨0x3000, { VsockPacketHeader.default with op := vsockOpRw, len := 4 }, some 0x4000, 4⟩

def guestSends (pkt : VsockPacket) : PeerEvent :=
  .send UInt8.ofNat pkt (.fail .wouldBlock) (.accept 0) 0

/-- The guest's connection is established, and its host does not read what is sent. -/
def heldUp : List PeerEvent := [.recv (controlPkt 0 0) (.fail .wouldBlock) 0, guestSends dataPkt]

theorem shutdown_ends_at_once : ∃ conn, (opened Session.guestRequest).handleAll Session.roomyLayout
      (heldUp ++ [guestSends (controlPkt vsockOpShutdown 3)]) = some conn ∧
    conn.state = .peerClosed true true ∧ conn.txBuf.isEmpty = false ∧
    (conn.pendingRx.contains .rst = true ∨ conn.expiry ≠ none) :=
  ⟨_, rfl, rfl, rfl, shutdown_ends Session.guestRequest
    (heldUp ++ [guestSends (controlPkt vsockOpShutdown 3)]) rfl rfl rfl⟩

theorem shutdown_in_turn_lingers : ∃ conn, (opened Session.guestRequest).handleAll Session.roomyLayout
      (heldUp ++ [guestSends (controlPkt vsockOpShutdown 1),
        guestSends (controlPkt vsockOpShutdown 2)]) = some conn ∧
    conn.state = .peerClosed true true ∧ conn.pendingRx.contains .rst = false ∧
    conn.expiry = none :=
  ⟨_, rfl, rfl, rfl, rfl⟩

end VsockConnection

end Spacer.Vsock
