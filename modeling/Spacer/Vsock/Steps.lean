import Spacer.Vsock.Session

/-!
Everything that a connection can do: one case for each packet that `recv_pkt` can yield, and
one for each effect that a packet without data can have.
-/

namespace Spacer.Vsock

open Lib Virtio

theorem PendingRxSet.ext {first second : PendingRxSet}
  (same : ∀ it, first.contains it = second.contains it) : first = second := by
  cases first with
  | mk contains =>
    cases second with
    | mk contains' => exact congrArg PendingRxSet.mk (funext same)

variable {pkt : VsockPacket}

theorem bufRegionAddr_error : pkt.bufRegionAddr mem offset count ≠ .error (.guestMemoryMmap io) := by
  intro place
  unfold VsockPacket.bufRegionAddr at place
  split at place
  · cases place
  split at place
  · cases place
  · split at place <;> cases place

variable {conn other : VsockConnection}

namespace VsockConnection

theorem removeRx_absent (absent : conn.pendingRx.contains it = false) : conn.removeRx it = conn := by
  have same : conn.pendingRx.remove it = conn.pendingRx := by
    apply PendingRxSet.ext
    intro other
    by_cases this : other = it
    · simp [PendingRxSet.remove, this, absent]
    · simp [PendingRxSet.remove, this]
  rw [removeRx, same]

structure Settled (conn : VsockConnection) : Prop where
  noRst : conn.pendingRx.contains .rst = false
  noResponse : conn.pendingRx.contains .response = false
  noRequest : conn.pendingRx.contains .request = false

theorem Settled.hasPendingRx (settled : conn.Settled) (noRw : conn.pendingRx.contains .rw = false)
  (noCredit : conn.pendingRx.contains .creditUpdate = false) : conn.hasPendingRx = false := by
  unfold VsockConnection.hasPendingRx PendingRxSet.isEmpty
  rw [settled.noRst, settled.noResponse, settled.noRequest, noRw, noCredit]
  rfl

def shutdownPkt (pkt : VsockPacket) : VsockPacket :=
  ((pkt.setOp vsockOpShutdown).setFlag vsockFlagsShutdownRcv).setFlag vsockFlagsShutdownSend

/-- What `recv_pkt` can leave behind; `pkt` is the packet with its header filled in. -/
inductive Receives (conn : VsockConnection) (pkt : VsockPacket) (now : Nat) :
  Received VsockConnection → Prop
  | reset (pending : conn.pendingRx.contains .rst = true) :
      Receives conn pkt now ((conn.removeRx .rst).filled (pkt.setOp vsockOpRst))
  | response (noRst : conn.pendingRx.contains .rst = false)
      (pending : conn.pendingRx.contains .response = true) :
      Receives conn pkt now ({ conn.removeRx .response with state := .established }.filled
          (pkt.setOp vsockOpResponse))
  | request (noRst : conn.pendingRx.contains .rst = false)
      (noResponse : conn.pendingRx.contains .response = false)
      (pending : conn.pendingRx.contains .request = true) :
      Receives conn pkt now ({ conn.removeRx .request with
            expiry := some (now + fromMillis connRequestTimeoutMs) }.filled
          (pkt.setOp vsockOpRequest))
  | refused (settled : conn.Settled) (pending : conn.pendingRx.contains .rw = true)
      (closed : conn.mayReadStream = false) :
      Receives conn pkt now ((conn.removeRx .rw).filled (pkt.setOp vsockOpRst))
  | starved (settled : conn.Settled) (pending : conn.pendingRx.contains .rw = true)
      (readable : conn.mayReadStream = true) (starved : conn.needCreditUpdateFromPeer = true) :
      Receives conn pkt now ((conn.removeRx .rw).creditSent.filled (pkt.setOp vsockOpCreditRequest))
  | eof (settled : conn.Settled) (pending : conn.pendingRx.contains .rw = true)
      (readable : conn.mayReadStream = true) :
      Receives conn pkt now ({ conn.removeRx .rw with
            state := .localClosed
            expiry := some (now + fromMillis connShutdownTimeoutMs)
            rxCnt := conn.rxCnt + pkt.hdr.len }.creditSent.filled (shutdownPkt pkt))
  | data (settled : conn.Settled) (pending : conn.pendingRx.contains .rw = true)
      (readable : conn.mayReadStream = true) (bytes : List UInt8) (nonempty : bytes ≠ [])
      (fits : bytes.length ≤ conn.readLimit pkt) :
      Receives conn pkt now ⟨.ok (), (pkt.setOp vsockOpRw).setLen (UInt32.ofNat bytes.length), bytes,
          { conn.removeRx .rw with
            stream := { conn.stream with received := conn.stream.received ++ bytes }
            rxCnt := conn.rxCnt + UInt32.ofNat bytes.length }.creditSent⟩
  | failed (settled : conn.Settled) (pending : conn.pendingRx.contains .rw = true)
      (readable : conn.mayReadStream = true) :
      Receives conn pkt now ((conn.removeRx .rw).creditSent.filled (pkt.setOp vsockOpRst))
  | creditUpdate (settled : conn.Settled)
      (pending : conn.pendingRx.contains .creditUpdate = true) :
      Receives conn pkt now (((conn.removeRx .rw).removeRx .creditUpdate).creditSent.filled
          (pkt.setOp vsockOpCreditUpdate))
  | noData (settled : conn.Settled)
      (noCredit : conn.pendingRx.contains .creditUpdate = false) :
      Receives conn pkt now ⟨.error .noData, pkt, [], conn.removeRx .rw⟩

theorem removeRx_settled (settled : conn.Settled) (it : PendingRx) : (conn.removeRx it).Settled := by
  constructor
  · simp [removeRx, PendingRxSet.remove, settled.noRst]
  · simp [removeRx, PendingRxSet.remove, settled.noResponse]
  · simp [removeRx, PendingRxSet.remove, settled.noRequest]

theorem recvCreditUpdate_receives (settled : conn.Settled) (pkt : VsockPacket) (now : Nat) :
  conn.Receives pkt now ((conn.removeRx .rw).recvCreditUpdate pkt) := by
  have kept : (conn.removeRx .rw).pendingRx.contains .creditUpdate =
      conn.pendingRx.contains .creditUpdate := by simp [removeRx, PendingRxSet.remove]
  have alone : ((conn.removeRx .rw).removeRx .creditUpdate).hasPendingRx = false := by
    apply (removeRx_settled (removeRx_settled settled .rw) .creditUpdate).hasPendingRx
    · simp [removeRx, PendingRxSet.remove]
    · simp [removeRx, PendingRxSet.remove]
  unfold recvCreditUpdate
  rw [kept, alone, Bool.not_false, Bool.and_true]
  split
  · rename_i pending
    exact .creditUpdate settled pending
  rename_i absent
  have noCredit : conn.pendingRx.contains .creditUpdate = false := (Bool.not_eq_true _).mp absent
  rw [removeRx_absent (kept.trans noCredit)]
  exact .noData settled noCredit

theorem recvData_receives (settled : conn.Settled) (pending : conn.pendingRx.contains .rw = true)
  (readable : conn.mayReadStream = true) (mem : GuestLayout) (answer : ReadAnswer) (now : Nat) :
  conn.Receives pkt now ((conn.removeRx .rw).recvData mem pkt answer now) := by
  unfold recvData VsockPacket.readAtOffsetFrom
  cases place : pkt.bufRegionAddr mem 0 ((conn.removeRx .rw).readLimit pkt) with
  | error err =>
    dsimp only
    split
    · rename_i same
      cases same
    · rename_i same
      cases same
    · rename_i same
      cases same
      exact absurd place bufRegionAddr_error
    rename_i same
    cases same
    exact .failed settled pending readable
  | ok addr =>
    cases answer with
    | fail io =>
      cases io with
      | wouldBlock => exact recvCreditUpdate_receives settled pkt now
      | txBufFull | other => exact .failed settled pending readable
    | data bytes =>
      cases taken : bytes.take ((conn.removeRx .rw).readLimit pkt) with
      | nil =>
        simp only [Stream.read, taken, Except.mapError, List.append_nil]
        exact .eof settled pending readable
      | cons byte rest =>
        have fits : (byte :: rest).length ≤ conn.readLimit pkt := by
          rw [← taken, List.length_take]
          exact Nat.min_le_left _ _
        simp only [Stream.read, taken, Except.mapError]
        exact .data settled pending readable (byte :: rest) (List.cons_ne_nil _ _) fits

theorem recvPkt_receives (conn : VsockConnection) (mem : GuestLayout) (pkt : VsockPacket)
  (answer : ReadAnswer) (now : Nat) :
  conn.Receives (conn.initPkt pkt) now (conn.recvPkt mem pkt answer now) := by
  unfold recvPkt
  dsimp only
  split
  · rename_i pending
    exact .reset pending
  rename_i noRst
  split
  · rename_i pending
    exact .response ((Bool.not_eq_true _).mp noRst) pending
  rename_i noResponse
  split
  · rename_i pending
    exact .request ((Bool.not_eq_true _).mp noRst) ((Bool.not_eq_true _).mp noResponse) pending
  rename_i noRequest
  have settled : conn.Settled :=
    ⟨(Bool.not_eq_true _).mp noRst, (Bool.not_eq_true _).mp noResponse, (Bool.not_eq_true _).mp noRequest⟩
  split
  · rename_i pending
    unfold recvRw
    split
    · rename_i closed
      exact .refused settled pending ((Bool.not_eq_true' _).mp closed)
    rename_i notClosed
    have readable : (conn.removeRx .rw).mayReadStream = true := by simpa using notClosed
    split
    · rename_i starved
      exact .starved settled pending readable starved
    · exact recvData_receives settled pending readable mem answer now
  rename_i noRw
  have same := removeRx_absent ((Bool.not_eq_true _).mp noRw)
  have credit := recvCreditUpdate_receives settled (conn.initPkt pkt) now
  rw [same] at credit
  exact credit

inductive Controls (conn : VsockConnection) (now : Nat) : VsockConnection → Prop
  | ignored : Controls conn now conn
  | answered (init : conn.state = .localInit) :
      Controls conn now { conn with expiry := none, state := .established }
  | closing (recvOff sendOff : Bool)
      (opened : conn.state = .established ∨ ∃ recvOff' sendOff', conn.state =
        .peerClosed recvOff' sendOff' ∧ (recvOff' → recvOff) ∧ (sendOff' → sendOff)) :
      Controls conn now { conn with state := .peerClosed recvOff sendOff }
  | drained
      (opened : conn.state = .established ∨ ∃ recvOff' sendOff', conn.state =
        .peerClosed recvOff' sendOff') (empty : conn.txBuf.isEmpty = true) :
      Controls conn now ({ conn with state := .peerClosed true true }.insertRx .rst)
  | lingering (established : conn.state = .established) (waits : conn.txBuf.isEmpty = false) :
      Controls conn now { conn with
          state := .peerClosed true true
          expiry := some (now + fromMillis connShutdownTimeoutMs) }
  | creditUpdate
      (opened : conn.state = .peerInit ∨ conn.maySend = true) :
      Controls conn now (conn.insertRx .creditUpdate)

theorem sendShutdown_controls (established : conn.state = .established) (pkt : VsockPacket)
  (now : Nat) : conn.Controls now (conn.sendShutdown pkt now) := by
  unfold sendShutdown
  dsimp only
  split
  · rename_i both
    rw [Bool.and_eq_true] at both
    rw [both.1, both.2]
    split
    · rename_i empty
      exact .drained (.inl established) empty
    rename_i waits
    exact .lingering established ((Bool.not_eq_true _).mp waits)
  · exact .closing _ _ (.inl established)

theorem sendShutdownMore_controls (closed : conn.state = .peerClosed recvOff sendOff) (pkt : VsockPacket)
  (now : Nat) : conn.Controls now (conn.sendShutdownMore recvOff sendOff pkt) := by
  unfold sendShutdownMore
  dsimp only
  split
  · rename_i all
    simp only [Bool.and_eq_true] at all
    rw [all.1.1, all.1.2]
    exact .drained (.inr ⟨recvOff, sendOff, closed⟩) all.2
  refine .closing _ _ (.inr ⟨recvOff, sendOff, closed, ?_, ?_⟩)
  · intro off
    rw [off, Bool.true_or]
  intro off
  rw [off, Bool.true_or]

theorem sendControl_controls (conn : VsockConnection) (pkt : VsockPacket) (now : Nat) :
  conn.Controls now (conn.sendControl pkt now) := by
  unfold sendControl
  split
  · rename_i init
    split
    · exact .answered init
    · exact .ignored
  · rename_i established
    split
    · exact sendShutdown_controls established pkt now
    split
    · exact .creditUpdate (.inr (by rw [maySend, established]))
    · exact .ignored
  · rename_i recvOff sendOff closed
    split
    · exact sendShutdownMore_controls closed pkt now
    split
    · rename_i asked
      refine .creditUpdate (.inr ?_)
      rw [Bool.and_eq_true] at asked
      rw [maySend, closed]
      exact asked.1
    · exact .ignored
  · rename_i init
    split
    · exact .creditUpdate (.inl init)
    · exact .ignored
  · exact .ignored
  · exact .ignored

structure SameControl (conn other : VsockConnection) : Prop where
  ports : (other.localPort, other.peerPort) = (conn.localPort, conn.peerPort)
  state : other.state = conn.state
  pendingRx : other.pendingRx = conn.pendingRx
  expiry : other.expiry = conn.expiry
  lastFwdCntToPeer : other.lastFwdCntToPeer = conn.lastFwdCntToPeer

variable (conn) (mem : GuestLayout) (memory : Nat → UInt8)

theorem pushRest_control (pkt : VsockPacket) (written len : Nat) :
  conn.SameControl (conn.pushRest mem memory pkt written len).2 := by
  unfold pushRest
  dsimp only
  split <;> exact ⟨rfl, rfl, rfl, rfl, rfl⟩

theorem sendBytes_control (pkt : VsockPacket) (answer : WriteAnswer) :
  conn.SameControl (conn.sendBytes mem memory pkt answer).2 := by
  unfold sendBytes
  dsimp only
  split
  · exact ⟨rfl, rfl, rfl, rfl, rfl⟩
  have rest (stream : Stream) (written : Nat) :
      conn.SameControl ({ conn with stream := stream }.pushRest mem memory pkt written
        pkt.hdr.len.toNat).2 := by
    have pushed := { conn with stream := stream }.pushRest_control mem memory pkt written pkt.hdr.len.toNat
    exact { pushed with }
  split
  · exact rest _ 0
  · exact ⟨rfl, rfl, rfl, rfl, rfl⟩
  · exact rest _ _

structure Grows (set other : PendingRxSet) : Prop where
  kept : ∀ it, set.contains it = true → other.contains it = true
  response : other.contains .response = set.contains .response
  request : other.contains .request = set.contains .request

theorem Grows.refl (set : PendingRxSet) : Grows set set := ⟨fun _ => id, rfl, rfl⟩

theorem Grows.trans (before : Grows first second) (after : Grows second third) : Grows first third :=
  ⟨fun it pending => after.kept it (before.kept it pending),
    after.response.trans before.response, after.request.trans before.request⟩

theorem insert_grows (set : PendingRxSet) (late : it ≠ .response ∧ it ≠ .request) :
  Grows set (set.insert it) := by
  refine ⟨?_, ?_, ?_⟩
  · intro other pending
    simp [PendingRxSet.insert, pending]
  · simp [PendingRxSet.insert, late.1.symm]
  · simp [PendingRxSet.insert, late.2.symm]

variable {conn}

theorem Controls.grows (controls : conn.Controls now other) : Grows conn.pendingRx other.pendingRx := by
  cases controls with
  | ignored | answered | closing | lingering => exact Grows.refl _
  | drained | creditUpdate => exact insert_grows _ (by decide)

structure Proceeds (conn other : VsockConnection) : Prop where
  ports : (other.localPort, other.peerPort) = (conn.localPort, conn.peerPort)
  pending : Grows conn.pendingRx other.pendingRx
  expiry : other.expiry = conn.expiry
  state : other.state = conn.state ∨ other.state = .killed ∧ other.pendingRx.contains .rst = true
  lastFwdCntToPeer : other.lastFwdCntToPeer = conn.lastFwdCntToPeer

theorem SameControl.proceeds (same : conn.SameControl other) : conn.Proceeds other :=
  ⟨same.ports, same.pendingRx ▸ Grows.refl _, same.expiry, .inl same.state, same.lastFwdCntToPeer⟩

variable (conn)

theorem Proceeds.refl : conn.Proceeds conn :=
  ⟨rfl, Grows.refl _, rfl, .inl rfl, rfl⟩

theorem Proceeds.trans {first second third : VsockConnection} (before : first.Proceeds second)
  (after : second.Proceeds third) : first.Proceeds third := by
  refine ⟨after.ports.trans before.ports, before.pending.trans after.pending,
    after.expiry.trans before.expiry, ?_,
    after.lastFwdCntToPeer.trans before.lastFwdCntToPeer⟩
  rcases after.state with same | killed
  · rcases before.state with same' | ⟨killed, pending⟩
    · exact .inl (same.trans same')
    · exact .inr ⟨same.trans killed, after.pending.kept .rst pending⟩
  · exact .inr killed

theorem insertRx_proceeds (late : it ≠ .response ∧ it ≠ .request) : conn.Proceeds (conn.insertRx it) :=
  ⟨rfl, insert_grows _ late, rfl, .inl rfl, rfl⟩

theorem kill_rst : conn.kill.pendingRx.contains .rst = true := by
  simp [kill, insertRx, PendingRxSet.insert]

theorem kill_proceeds : conn.Proceeds conn.kill :=
  ⟨rfl, insert_grows _ (by decide), rfl, .inr ⟨rfl, kill_rst conn⟩, rfl⟩

theorem updateCredit_proceeds : conn.Proceeds conn.updateCredit := by
  unfold updateCredit
  split
  · exact insertRx_proceeds conn (by decide)
  · exact Proceeds.refl conn

theorem sendRw_proceeds (pkt : VsockPacket) (answer : WriteAnswer) :
  conn.Proceeds (conn.sendRw mem memory pkt answer) := by
  have sent := (conn.sendBytes_control mem memory pkt answer).proceeds
  unfold sendRw
  split
  · exact Proceeds.refl conn
  split
  · rename_i other result
    rw [result] at sent
    exact sent.trans (kill_proceeds other)
  rename_i other result
  rw [result] at sent
  exact sent.trans (updateCredit_proceeds other)

theorem afterFlush_proceeds (result : Except IoError Nat) : conn.Proceeds (conn.afterFlush result) := by
  unfold afterFlush
  split
  · exact SameControl.proceeds ⟨rfl, rfl, rfl, rfl, rfl⟩
  · exact Proceeds.refl conn
  · exact kill_proceeds conn

theorem notifyWritable_proceeds (answers : List WriteAnswer) :
  conn.Proceeds (conn.notifyWritable answers) := by
  unfold notifyWritable
  dsimp only
  split
  · exact Proceeds.refl conn
  have moved : conn.Proceeds { conn with
        txBuf := (conn.txBuf.flushTo conn.stream answers).2.1
        stream := (conn.txBuf.flushTo conn.stream answers).2.2 } :=
    SameControl.proceeds ⟨rfl, rfl, rfl, rfl, rfl⟩
  have flushed := moved.trans (afterFlush_proceeds _ (conn.txBuf.flushTo conn.stream answers).1)
  split
  · exact flushed.trans (insertRx_proceeds _ (by decide))
  · exact flushed.trans (updateCredit_proceeds _)

theorem notify_proceeds (evset : EventSet)
  (answers : List WriteAnswer) : conn.Proceeds (conn.notify evset answers) := by
  have readable : conn.Proceeds (if evset.readable then conn.insertRx .rw else conn) := by
    split
    · exact insertRx_proceeds conn (by decide)
    · exact Proceeds.refl conn
  unfold notify
  dsimp only
  split
  · exact readable.trans (notifyWritable_proceeds _ answers)
  · exact readable

theorem ackHost_proceeds (prevState : ConnState) (localPort : UInt32)
  (answer : WriteAnswer) : conn.Proceeds (conn.ackHost prevState localPort answer) := by
  have sent (stream : Stream) : conn.Proceeds { conn with stream := stream } :=
    SameControl.proceeds ⟨rfl, rfl, rfl, rfl, rfl⟩
  unfold ackHost sendBytesRaw
  split
  · cases answer with
    | fail err => exact (sent _).trans (kill_proceeds _)
    | accept count =>
      simp only [Stream.write]
      split
      · exact sent _
      · exact (sent _).trans (kill_proceeds _)
  · exact Proceeds.refl conn

def AnswersGuest : Prop :=
  conn.pendingRx.contains .response = true → conn.state = .peerInit ∨ conn.state = .killed

variable {conn}

theorem Receives.answersGuest (receives : conn.Receives pkt now received)
  (answers : conn.AnswersGuest) : received.channel.AnswersGuest := by
  have settled {other : VsockConnection} (settled : conn.Settled)
      (fewer : other.pendingRx.contains .response = true →
        conn.pendingRx.contains .response = true) : other.AnswersGuest := by
    intro due
    have response := fewer due
    rw [settled.noResponse] at response
    cases response
  cases receives with
  | reset pending => exact answers
  | response noRst pending =>
    intro due
    cases due
  | request noRst noResponse pending =>
    intro due
    change conn.pendingRx.contains .response = true at due
    rw [noResponse] at due
    cases due
  | refused quiet | starved quiet | eof quiet | data quiet | failed quiet | creditUpdate quiet
  | noData quiet => exact settled quiet id

theorem Controls.answersGuest (controls : conn.Controls now other) (answers : conn.AnswersGuest) :
  other.AnswersGuest := by
  intro due
  rw [controls.grows.response] at due
  cases controls with
  | ignored | creditUpdate => exact answers due
  | answered init => rcases answers due with state | state <;> rw [init] at state <;> cases state
  | closing recvOff sendOff opened =>
    rcases opened with opened | ⟨_, _, opened, _⟩ <;> rcases answers due with state | state <;>
      rw [opened] at state <;> cases state
  | drained opened =>
    rcases opened with opened | ⟨_, _, opened⟩ <;> rcases answers due with state | state <;>
      rw [opened] at state <;> cases state
  | lingering opened =>
    rcases answers due with state | state <;> rw [opened] at state <;> cases state

theorem Proceeds.answersGuest (proceeds : conn.Proceeds other) (answers : conn.AnswersGuest) :
  other.AnswersGuest := by
  intro due
  rw [proceeds.pending.response] at due
  rcases proceeds.state with same | killed
  · rw [same]
    exact answers due
  · exact .inr killed.1

theorem sendPkt_answersGuest (answers : conn.AnswersGuest) (mem : GuestLayout)
  (memory : Nat → UInt8) (pkt : VsockPacket) (answer : WriteAnswer) (now : Nat) :
  (conn.sendPkt mem memory pkt answer now).AnswersGuest := by
  have credited : (conn.updatePeerCredit pkt).AnswersGuest := answers
  unfold sendPkt
  dsimp only
  split
  · exact (sendRw_proceeds _ mem memory pkt answer).answersGuest credited
  · exact (sendControl_controls _ pkt now).answersGuest credited

theorem Receives.ackHost_eq (receives : conn.Receives pkt now received)
  (answers : conn.AnswersGuest) (localPort : UInt32) (answer : WriteAnswer) :
  received.channel.ackHost conn.state localPort answer = received.channel := by
  have late : ¬(conn.state = .localInit ∧ received.channel.state = .established) := by
    rintro ⟨init, established⟩
    have kept (same : received.channel.state = conn.state) : False := by
      rw [same, init] at established
      cases established
    cases receives with
    | reset | request | refused | starved | data | failed | creditUpdate | noData => exact kept rfl
    | response _ pending =>
      rcases answers pending with state | state <;> rw [init] at state <;> cases state
    | eof => cases established
  rw [ackHost, if_neg late]

theorem Receives.of_error (receives : conn.Receives pkt now received)
  (failed : received.result = .error err) :
  conn.pendingRx.contains .rst = false ∧ received.channel.hasPendingRx = false := by
  cases receives with
  | noData settled noCredit =>
    refine ⟨settled.noRst, (removeRx_settled settled .rw).hasPendingRx ?_ ?_⟩
    · simp [removeRx, PendingRxSet.remove]
    · simp [removeRx, PendingRxSet.remove, noCredit]
  | _ => cases failed

end VsockConnection

end Spacer.Vsock
