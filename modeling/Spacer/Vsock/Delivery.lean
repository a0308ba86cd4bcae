import Spacer.Vsock.Session

/-! What becomes of the bytes read from the host stream. -/

namespace Spacer.Vsock

open Lib Virtio List

variable {conn : VsockConnection}

namespace VsockConnection

variable (conn) (mem : GuestLayout)

def reads (pkt : VsockPacket) : Bool :=
  conn.pendingRx.contains .rw && !conn.pendingRx.contains .rst &&
  !conn.pendingRx.contains .response && !conn.pendingRx.contains .request &&
  conn.mayReadStream && !conn.needCreditUpdateFromPeer &&
  (pkt.bufRegionAddr mem 0 (conn.readLimit pkt)).isOk

def readBytes (pkt : VsockPacket) : ReadAnswer → List UInt8
  | .data bytes => if conn.reads mem pkt then bytes.take (conn.readLimit pkt) else []
  | .fail _ => []

variable {conn}

structure Quiet (conn : VsockConnection) (received : Received VsockConnection) : Prop where
  stream : received.channel.stream.received = conn.stream.received
  payload : received.payload = []
  op : received.result = .ok () → received.pkt.hdr.op ≠ vsockOpRw

theorem filled_quiet {other : VsockConnection} (same : other.stream.received = conn.stream.received)
  (op : pkt.hdr.op ≠ vsockOpRw) : Quiet conn (other.filled pkt) :=
  ⟨same, rfl, fun _ => op⟩

theorem recvCreditUpdate_quiet {other : VsockConnection}
  (same : other.stream.received = conn.stream.received) : Quiet conn (other.recvCreditUpdate pkt) := by
  unfold recvCreditUpdate
  split
  · exact filled_quiet same (by simp [VsockPacket.setOp, vsockOpCreditUpdate, vsockOpRw])
  · exact ⟨same, rfl, nofun⟩

structure Carries (conn : VsockConnection) (pkt : VsockPacket) (bytes : List UInt8)
  (received : Received VsockConnection) : Prop where
  result : received.result = .ok ()
  stream : received.channel.stream.received = conn.stream.received ++ bytes
  payload : received.payload = bytes
  op : received.pkt.hdr.op = vsockOpRw
  len : received.pkt.hdr.len = UInt32.ofNat bytes.length
  hdrAddr : received.pkt.hdrAddr = pkt.hdrAddr
  state : received.channel.state = conn.state

variable (conn) (mem : GuestLayout) (pkt : VsockPacket) (answer : ReadAnswer)

theorem recvData_spec (now : Nat) :
  (∃ bytes, answer = .data bytes ∧ (pkt.bufRegionAddr mem 0 (conn.readLimit pkt)).isOk = true ∧
    bytes.take (conn.readLimit pkt) ≠ [] ∧
    Carries conn pkt (bytes.take (conn.readLimit pkt)) (conn.recvData mem pkt answer now)) ∨
  ((∀ bytes, answer = .data bytes → (pkt.bufRegionAddr mem 0 (conn.readLimit pkt)).isOk = true →
      bytes.take (conn.readLimit pkt) = []) ∧
    Quiet conn (conn.recvData mem pkt answer now)) := by
  have reset : vsockOpRst ≠ vsockOpRw := by decide
  have closed : vsockOpShutdown ≠ vsockOpRw := by decide
  unfold recvData VsockPacket.readAtOffsetFrom
  cases place : pkt.bufRegionAddr mem 0 (conn.readLimit pkt) with
  | error err =>
    refine .inr ⟨?_, ?_⟩
    · intro _ _ inside
      cases inside
    split
    · rename_i same
      cases same
    · rename_i same
      cases same
    · exact recvCreditUpdate_quiet (by rename_i same; cases same; rfl)
    · exact filled_quiet (by rename_i same; cases same; rfl) reset
  | ok addr =>
    cases answer with
    | fail io =>
      refine .inr ⟨by simp, ?_⟩
      cases io with
      | wouldBlock => exact recvCreditUpdate_quiet rfl
      | txBufFull | other => exact filled_quiet rfl reset
    | data bytes =>
      cases taken : bytes.take (conn.readLimit pkt) with
      | nil =>
        refine .inr ⟨?_, ?_⟩
        · rintro _ ⟨⟩ _
          exact taken
        simp only [Stream.read, taken]
        exact filled_quiet (by simp [creditSent]) closed
      | cons byte rest =>
        refine .inl ⟨bytes, rfl, rfl, ?_, ?_⟩
        · simp [taken]
        simp only [Stream.read, taken, Except.mapError]
        exact ⟨rfl, rfl, rfl, rfl, rfl, rfl, rfl⟩

theorem recvPkt_spec (now : Nat) : (conn.readBytes mem pkt answer ≠ [] ∧
    Carries conn pkt (conn.readBytes mem pkt answer) (conn.recvPkt mem pkt answer now)) ∨
  (conn.readBytes mem pkt answer = [] ∧ Quiet conn (conn.recvPkt mem pkt answer now)) := by
  have silent (idle : conn.reads mem pkt = false) : conn.readBytes mem pkt answer = [] := by
    cases answer <;> simp [readBytes, idle]
  have reset : vsockOpRst ≠ vsockOpRw := by decide
  unfold recvPkt
  split
  · rename_i rst
    exact .inr ⟨silent (by simp [reads, rst]), filled_quiet rfl reset⟩
  split
  · rename_i response
    exact .inr ⟨silent (by simp [reads, response]),
      filled_quiet rfl (show vsockOpResponse ≠ vsockOpRw by decide)⟩
  split
  · rename_i request
    exact .inr ⟨silent (by simp [reads, request]),
      filled_quiet rfl (show vsockOpRequest ≠ vsockOpRw by decide)⟩
  split
  case isFalse noRw => exact .inr ⟨silent (by simp [reads, noRw]), recvCreditUpdate_quiet rfl⟩
  rename_i noRst noResponse noRequest rw
  unfold recvRw
  split
  · rename_i closed
    have forbidden : conn.mayReadStream = false := (Bool.not_eq_true' _).mp closed
    exact .inr ⟨silent (by simp [reads, forbidden]), filled_quiet rfl reset⟩
  split
  · rename_i closed credit
    have starved : conn.needCreditUpdateFromPeer = true := credit
    exact .inr ⟨silent (by simp [reads, starved]),
      filled_quiet rfl (show vsockOpCreditRequest ≠ vsockOpRw by decide)⟩
  rename_i notClosed notStarved
  have allowed : conn.mayReadStream = true := (Bool.not_eq_false' (b := conn.mayReadStream)).mp
    ((Bool.not_eq_true _).mp notClosed)
  have fed : conn.needCreditUpdateFromPeer = false := (Bool.not_eq_true _).mp notStarved
  have active : conn.reads mem pkt = (pkt.bufRegionAddr mem 0 (conn.readLimit pkt)).isOk := by
    simp [reads, noRst, noResponse, noRequest, rw, allowed, fed]
  rcases (conn.removeRx .rw).recvData_spec mem (conn.initPkt pkt) answer now with
    ⟨bytes, rfl, inside, some, carries⟩ | ⟨none, quiet⟩
  · have same : conn.readBytes mem pkt (.data bytes) = bytes.take (conn.readLimit pkt) := by
      rw [readBytes, active]
      exact if_pos inside
    rw [same]
    exact .inl ⟨some, { carries with }⟩
  refine .inr ⟨?_, quiet.stream, quiet.payload, quiet.op⟩
  cases answer with
  | fail err => rfl
  | data bytes =>
    rw [readBytes, active]
    split
    · rename_i inside
      exact none bytes rfl inside
    · rfl

theorem readBytes_length_le : (conn.readBytes mem pkt answer).length ≤ conn.peerAvailCredit := by
  have limit : conn.readLimit pkt ≤ conn.peerAvailCredit := by
    unfold readLimit
    split
    · assumption
    · exact Nat.le_refl _
  unfold readBytes
  split
  · split
    · rw [length_take]
      exact Nat.le_trans (Nat.min_le_left _ _) limit
    · exact Nat.zero_le _
  · exact Nat.zero_le _

theorem readBytes_length_lt : (conn.readBytes mem pkt answer).length < 2 ^ 32 :=
  Nat.lt_of_le_of_lt (conn.readBytes_length_le mem pkt answer) (UInt32.toNat_lt _)

def ReadFits : Prop :=
  conn.reads mem pkt = true → pkt.bufSize ≤ maxPktBufSize ∨ conn.peerAvailCredit ≤ maxPktBufSize ∨
      ∀ bytes, answer = .data bytes → bytes.length ≤ maxPktBufSize

theorem readFits_iff :
  conn.ReadFits mem pkt answer ↔ (conn.readBytes mem pkt answer).length ≤ maxPktBufSize := by
  unfold ReadFits
  cases answer with
  | fail err => simp [readBytes]
  | data bytes =>
    simp only [readBytes, ReadAnswer.data.injEq, forall_eq']
    cases conn.reads mem pkt with
    | false => simp
    | true =>
      simp only [true_implies, ↓reduceIte, length_take, readLimit]
      split <;> omega

section

variable (conn : VsockConnection) (mem : GuestLayout) (memory : Nat → UInt8) (pkt : VsockPacket)
  (answer : WriteAnswer) (stream : Stream)

theorem write_received (bytes : List UInt8) : (stream.write answer bytes).2.received = stream.received := by
  cases answer <;> rfl

theorem writeFromOffsetTo_received (offset count : Nat) :
  (pkt.writeFromOffsetTo (Stream.write answer) mem memory offset stream count).2.received =
    stream.received := by
  unfold VsockPacket.writeFromOffsetTo
  split
  · rfl
  · exact write_received answer stream _

theorem flushTo_received (buf : TxBuf) (stream : Stream) (answers : List WriteAnswer) :
  (buf.flushTo stream answers).2.2.received = stream.received := by
  induction answers generalizing buf stream with
  | nil =>
    unfold TxBuf.flushTo
    split <;> rfl
  | cons answer answers ih =>
    unfold TxBuf.flushTo
    split
    · rfl
    dsimp only
    have first := write_received answer stream (load (buf.data.getD fun _ => 0)
      (buf.tail.toNat % TxBuf.size) (ringRoom TxBuf.size (buf.tail.toNat % TxBuf.size) buf.len))
    split
    · rename_i sink wrote
      rw [wrote] at first
      exact first
    rename_i written sink wrote
    rw [wrote] at first
    split
    · exact first
    split
    · rename_i more buf' sink' rest
      have later := ih (buf.advance written) sink
      rw [rest] at later
      exact later.trans first
    rename_i err buf' sink' rest
    have later := ih (buf.advance written) sink
    rw [rest] at later
    exact later.trans first

theorem pushRest_stream : (conn.pushRest mem memory pkt written len).2.stream = conn.stream := by
  unfold pushRest
  split <;> rfl

theorem sendBytes_received :
  (conn.sendBytes mem memory pkt answer).2.stream.received = conn.stream.received := by
  have wrote := writeFromOffsetTo_received mem memory pkt answer conn.stream 0 pkt.hdr.len.toNat
  unfold sendBytes
  dsimp only
  split
  · rfl
  split
  · rw [pushRest_stream]
    exact wrote
  · exact wrote
  rw [pushRest_stream]
  exact wrote

theorem sendRw_received : (conn.sendRw mem memory pkt answer).stream.received = conn.stream.received := by
  have sent := conn.sendBytes_received mem memory pkt answer
  unfold sendRw
  split
  · rfl
  split
  · rename_i failed result
    rw [result] at sent
    exact sent
  rename_i done result
  rw [result] at sent
  rw [(updateCredit_same _).stream]
  exact sent

theorem sendPkt_received (now : Nat) :
  (conn.sendPkt mem memory pkt answer now).stream.received = conn.stream.received := by
  unfold sendPkt
  dsimp only
  split
  · exact sendRw_received _ mem memory pkt answer
  rw [(sendControl_same _ pkt now).stream]
  rfl

theorem afterFlush_stream : (conn.afterFlush result).stream = conn.stream := by
  unfold afterFlush
  split <;> rfl

theorem notify_received (evset : EventSet) (answers : List WriteAnswer) :
  (conn.notify evset answers).stream.received = conn.stream.received := by
  have readable (other : VsockConnection) (same : other.stream = conn.stream)
      (buffer : other.txBuf = conn.txBuf) :
      (other.notifyWritable answers).stream.received = conn.stream.received := by
    unfold notifyWritable
    dsimp only
    rw [same, buffer]
    have flushed := flushTo_received conn.txBuf conn.stream answers
    split
    · rw [same]
    split
    · rw [(insertRx_same _ _).stream, afterFlush_stream]
      exact flushed
    rw [(updateCredit_same _).stream, afterFlush_stream]
    exact flushed
  unfold notify
  dsimp only
  split
  · split
    · exact readable _ rfl rfl
    · exact readable _ rfl rfl
  · split <;> rfl

theorem ackHost_received (localPort : UInt32) (answer : WriteAnswer) :
  (conn.ackHost prevState localPort answer).stream.received = conn.stream.received := by
  have wrote := write_received answer conn.stream (ackMessage localPort)
  unfold ackHost sendBytesRaw
  split
  · split
    · rename_i written next result
      rw [← (Prod.mk.inj result).2]
      split
      · exact wrote
      · exact wrote
    rename_i err next result
    rw [← (Prod.mk.inj result).2]
    exact wrote
  · rfl

end

end VsockConnection

def UsedPacket.isData (used : UsedPacket) : Bool :=
  match used.header with
  | some hdr => hdr.op = vsockOpRw && used.usedLen.toNat = vsockPktHdrSize + used.payload.length
  | none => false

def delivered (used : List UsedPacket) : List UInt8 :=
  used.flatMap fun packet => if packet.isData then packet.payload else []

theorem delivered_append : delivered (first ++ second) = delivered first ++ delivered second :=
  flatMap_append

def Moves (fits : Prop) (taken reached : List UInt8) : Prop :=
  (fits ∧ reached = taken) ∨ (¬fits ∧ reached.length < taken.length)

theorem Moves.nothing (holds : fits) : Moves fits [] [] := .inl ⟨holds, rfl⟩

theorem Moves.append (before : Moves first taken reached) (after : Moves second taken' reached') :
  Moves (first ∧ second) (taken ++ taken') (reached ++ reached') := by
  rcases before with ⟨fits, rfl⟩ | ⟨fails, fewer⟩
  · rcases after with ⟨fits', rfl⟩ | ⟨fails', fewer'⟩
    · exact .inl ⟨⟨fits, fits'⟩, rfl⟩
    refine .inr ⟨fun both => fails' both.2, ?_⟩
    simp only [length_append]
    omega
  refine .inr ⟨fun both => fails both.1, ?_⟩
  simp only [length_append]
  rcases after with ⟨_, rfl⟩ | ⟨_, fewer'⟩ <;> omega

def BufferFits (mem : GuestLayout) (conn : VsockConnection) (buffer : RxBuffer)
  (answer : ReadAnswer) : Prop :=
  ∀ pkt, VsockPacket.fromRxVirtqHead mem buffer.head buffer.next = .ok pkt → conn.ReadFits mem pkt answer

theorem delivered_of_empty (empty : used.payload = []) : delivered [used] = [] := by
  simp [delivered, empty]

theorem delivered_of_data (data : used.isData = true) : delivered [used] = used.payload := by
  simp [delivered, data]

theorem commitUsed_payload {C : Type} (mem : GuestLayout) (received : Received C) : (commitUsed mem index received).payload = received.payload := by
  unfold commitUsed
  split <;> rfl

theorem commitUsed_moves (index : UInt16) (inside : checkRange mem pkt.hdrAddr vsockPktHdrSize = true)
  (nonempty : bytes ≠ []) (short : bytes.length < 2 ^ 32) (carries : conn.Carries pkt bytes received) :
  Moves (bytes.length ≤ maxPktBufSize) bytes (delivered [commitUsed mem index received]) := by
  have len : received.pkt.hdr.len.toNat = bytes.length := by
    rw [carries.len]
    exact Nat.mod_eq_of_lt short
  have max : maxPktBufSize = 65536 := rfl
  rw [commitUsed, commitHdr_eq (by rw [carries.hdrAddr]; exact inside), len]
  by_cases fits : bytes.length ≤ maxPktBufSize
  · rw [if_pos fits]
    refine .inl ⟨fits, ?_⟩
    have total : (UInt32.ofNat vsockPktHdrSize + received.pkt.hdr.len).toNat =
        vsockPktHdrSize + bytes.length := by
      rw [UInt32.toNat_add, UInt32.toNat_ofNat']
      have header : vsockPktHdrSize = 44 := rfl
      omega
    rw [delivered_of_data, carries.payload]
    simp [UsedPacket.isData, carries.op, carries.payload, total]
  rw [if_neg fits]
  refine .inr ⟨fits, ?_⟩
  simpa [delivered, UsedPacket.isData] using length_pos_iff.mpr nonempty

variable (mem : GuestLayout)

theorem processRxBuffer_moves (conn : VsockConnection) (buffer : RxBuffer) (env : ReadAnswer × Nat) :
  ∃ taken, (processRxBuffer (VsockConnection.recvWith mem) mem conn buffer env).2.stream.received =
      conn.stream.received ++ taken ∧
    Moves (BufferFits mem conn buffer env.1) taken
      (delivered (processRxBuffer (VsockConnection.recvWith mem) mem conn buffer
        env).1.toList) := by
  unfold processRxBuffer
  cases accepted : VsockPacket.fromRxVirtqHead mem buffer.head buffer.next with
  | error err =>
    refine ⟨[], by simp, ?_⟩
    exact Moves.nothing fun pkt found => by simp [accepted] at found
  | ok pkt =>
    have only : BufferFits mem conn buffer env.1 ↔ conn.ReadFits mem pkt env.1 := by
      constructor
      · intro all
        exact all pkt accepted
      rintro fits other found
      rw [accepted] at found
      cases found
      exact fits
    obtain ⟨inside, _⟩ := fromRxVirtqHead_ok accepted
    rw [only, VsockConnection.readFits_iff]
    dsimp only [VsockConnection.recvWith]
    rcases conn.recvPkt_spec mem pkt env.1 env.2 with ⟨nonempty, carries⟩ | ⟨empty, quiet⟩
    · refine ⟨conn.readBytes mem pkt env.1, ?_, ?_⟩
      · rw [carries.result]
        exact carries.stream
      rw [carries.result]
      exact commitUsed_moves buffer.head.index inside nonempty
        (conn.readBytes_length_lt mem pkt env.1) carries
    refine ⟨[], ?_, ?_⟩
    · rw [append_nil]
      split
      · exact quiet.stream
      · exact quiet.stream
    rw [empty]
    have nothing : Moves (([] : List UInt8).length ≤ maxPktBufSize) [] [] :=
      Moves.nothing (Nat.zero_le _)
    split
    · exact nothing
    rw [Option.toList_some, delivered_of_empty]
    · exact nothing
    rw [commitUsed_payload]
    exact quiet.payload

def BuffersFit (mem : GuestLayout) (conn : VsockConnection) : List (RxBuffer × ReadAnswer × Nat) → Prop
  | [] => True
  | (buffer, env) :: buffers =>
    BufferFits mem conn buffer env.1 ∧
      match processRxBuffer (VsockConnection.recvWith mem) mem conn buffer env with
      | (none, _) => True
      | (some _, conn) => BuffersFit mem conn buffers

theorem processRx_moves (conn : VsockConnection) (buffers : List (RxBuffer × ReadAnswer × Nat)) :
  ∃ taken, (processRx (VsockConnection.recvWith mem) mem conn buffers).2.stream.received =
      conn.stream.received ++ taken ∧
    Moves (BuffersFit mem conn buffers) taken
      (delivered (processRx (VsockConnection.recvWith mem) mem conn buffers).1) := by
  induction buffers generalizing conn with
  | nil => exact ⟨[], by simp [processRx], Moves.nothing trivial⟩
  | cons first buffers ih =>
    obtain ⟨buffer, env⟩ := first
    obtain ⟨taken, received, moves⟩ := processRxBuffer_moves mem conn buffer env
    unfold processRx BuffersFit
    cases turn : processRxBuffer (VsockConnection.recvWith mem) mem conn buffer env with
    | mk used next =>
      rw [turn] at received moves
      cases used with
      | none =>
        refine ⟨taken, received, ?_⟩
        simpa using moves
      | some packet =>
        obtain ⟨taken', received', moves'⟩ := ih next
        refine ⟨taken ++ taken', ?_, ?_⟩
        · rw [← append_assoc, ← received]
          exact received'
        have together := moves.append moves'
        rw [← delivered_append] at together
        exact together

namespace Session

variable (session : Session)

def EventFits : Event → Prop
  | .rx buffers => BuffersFit mem session.conn buffers
  | _ => True

def RunFits (mem : GuestLayout) (session : Session) : List Event → Prop
  | [] => True
  | event :: events => session.EventFits mem event ∧ RunFits mem (session.apply mem event) events

theorem apply_moves (event : Event) : ∃ taken reached,
    (session.apply mem event).conn.stream.received = session.conn.stream.received ++ taken ∧
    delivered (session.apply mem event).used = delivered session.used ++ reached ∧
    Moves (session.EventFits mem event) taken reached := by
  have still {conn : VsockConnection} (same : conn.stream.received = session.conn.stream.received) :
      ∃ taken reached, conn.stream.received = session.conn.stream.received ++ taken ∧
        delivered session.used = delivered session.used ++ reached ∧
        Moves True taken reached :=
    ⟨[], [], by simp [same], by simp, Moves.nothing trivial⟩
  cases event with
  | rx buffers =>
    obtain ⟨taken, received, moves⟩ := processRx_moves mem session.conn buffers
    exact ⟨taken, _, received, delivered_append, moves⟩
  | tx buffer answer ack now =>
    unfold apply
    dsimp only
    split
    · exact still rfl
    rename_i pkt _
    refine still (Eq.trans ?_ (session.conn.sendPkt_received mem buffer.memory pkt answer now))
    exact VsockConnection.ackHost_received _ _ _
  | notify evset answers => exact still (session.conn.notify_received evset answers)
  | kill => exact still rfl

theorem run_moves (events : List Event) : ∃ taken reached,
    (session.run mem events).conn.stream.received = session.conn.stream.received ++ taken ∧
    delivered (session.run mem events).used = delivered session.used ++ reached ∧
    Moves (session.RunFits mem events) taken reached := by
  induction events generalizing session with
  | nil => exact ⟨[], [], by simp [run], by simp [run], Moves.nothing trivial⟩
  | cons event events ih =>
    obtain ⟨taken, reached, received, used, moves⟩ := session.apply_moves mem event
    obtain ⟨taken', reached', received', used', moves'⟩ := ih (session.apply mem event)
    refine ⟨taken ++ taken', reached ++ reached', ?_, ?_, moves.append moves'⟩
    · rw [← append_assoc, ← received]
      exact received'
    rw [← append_assoc, ← used]
    exact used'

/-- The guest gets what was read from the stream exactly if no read was longer than a packet
can be. -/
theorem delivered_iff (mem : GuestLayout) (opening : VsockConnection.Opening) (events : List Event) :
  let session := run mem (opened opening) events
  session.conn.stream.received = delivered session.used ↔ RunFits mem (opened opening) events := by
  have fresh : (opened opening).conn.stream.received = [] := by cases opening <;> rfl
  obtain ⟨taken, reached, received, used, moves⟩ :=
    run_moves mem (opened opening) events
  have none : delivered (opened opening).used = [] := rfl
  dsimp only at received used ⊢
  rw [fresh, nil_append] at received
  rw [received, used]
  rcases moves with ⟨fits, same⟩ | ⟨fails, fewer⟩
  · exact ⟨fun _ => fits, fun _ => same.symm⟩
  constructor
  · intro equal
    rw [equal] at fewer
    exact absurd fewer (Nat.lt_irrefl _)
  intro fits
  exact absurd fits fails

def longRead (bytes : List UInt8) : Event := .rx [(roomyBuffer 0x20000, .data bytes, 0)]

def greeted : Session := run roomyLayout (opened guestRequest) greeting

def longPacket : VsockPacket := ⟨0x2000, .default, some 0x10000, 0x20000⟩

theorem longPacket_accepted : VsockPacket.fromRxVirtqHead roomyLayout
  (roomyBuffer 0x20000).head (roomyBuffer 0x20000).next = .ok longPacket := by
  have header : checkRange roomyLayout 0x2000 vsockPktHdrSize = true := by decide
  have buffer : checkRange roomyLayout 0x10000 (0x20000 : UInt32).toNat = true :=
    decide_eq_true (roomyLayout_covered (by decide))
  simp only [VsockPacket.fromRxVirtqHead, VsockPacket.initBuf,
    roomyBuffer, buffer]
  rfl

theorem greeted_reads : greeted.conn.reads roomyLayout longPacket = true := by decide

variable {mem}

theorem EventFits.first {session : Session}
  (fits : session.EventFits mem (.rx ((buffer, env) :: buffers))) :
  BufferFits mem session.conn buffer env.1 := fits.1

theorem longRead_unfit (long : maxPktBufSize < bytes.length) :
  ¬BufferFits roomyLayout greeted.conn (roomyBuffer 0x20000) (.data bytes) := by
  intro fits
  rcases fits longPacket longPacket_accepted greeted_reads with small | poor | short
  · exact absurd small (by decide)
  · exact absurd poor (by decide)
  · exact absurd (short bytes rfl) (Nat.not_le.mpr long)

theorem longRead_state (nonempty : bytes ≠ []) :
  (greeted.apply roomyLayout (longRead bytes)).conn.state = .established := by
  have limit : greeted.conn.readLimit longPacket = 0x20000 := by decide
  rcases greeted.conn.recvPkt_spec roomyLayout longPacket (.data bytes) 0 with
    ⟨_, carries⟩ | ⟨empty, _⟩
  · have turn : processRxBuffer (VsockConnection.recvWith roomyLayout) roomyLayout greeted.conn
        (roomyBuffer 0x20000) (.data bytes, 0) =
        (some (commitUsed roomyLayout (roomyBuffer 0x20000).head.index
          (greeted.conn.recvPkt roomyLayout longPacket (.data bytes) 0)),
          (greeted.conn.recvPkt roomyLayout longPacket (.data bytes) 0).channel) := by
      rw [processRxBuffer, longPacket_accepted]
      dsimp only [VsockConnection.recvWith]
      rw [carries.result]
    rw [longRead, apply, processRx, turn]
    exact carries.state
  rw [VsockConnection.readBytes, if_pos greeted_reads, take_eq_nil_iff] at empty
  exact absurd (empty.resolve_left (by decide)) nonempty

theorem longRead_loses (long : maxPktBufSize < bytes.length) :
  (greeted.apply roomyLayout (longRead bytes)).conn.state = .established ∧
    (greeted.apply roomyLayout (longRead bytes)).conn.stream.received ≠
      delivered (greeted.apply roomyLayout (longRead bytes)).used := by
  have nonempty : bytes ≠ [] := by
    rintro rfl
    exact absurd long (Nat.not_lt_zero _)
  refine ⟨longRead_state nonempty, ?_⟩
  obtain ⟨taken, reached, received, used, moves⟩ :=
    greeted.apply_moves roomyLayout (longRead bytes)
  have fresh : greeted.conn.stream.received = [] := by decide
  have none : delivered greeted.used = [] := by decide
  rw [received, used, fresh, nil_append]
  rcases moves with ⟨fits, _⟩ | ⟨_, fewer⟩
  · exact absurd (EventFits.first fits) (longRead_unfit long)
  intro same
  rw [same] at fewer
  exact absurd fewer (Nat.lt_irrefl _)

/-- The host sends one byte more than a packet can hold in one go; the connection stays up and
the guest gets none of it. -/
theorem longRead_lost :
  let session := run roomyLayout (opened guestRequest) (greeting ++ [longRead (List.replicate 65537 0)])
  session.conn.state = .established ∧ session.conn.stream.received ≠ delivered session.used := by
  have split : run roomyLayout (opened guestRequest) (greeting ++ [longRead (List.replicate 65537 0)]) =
      greeted.apply roomyLayout (longRead (List.replicate 65537 0)) := by
    rfl
  rw [split]
  apply longRead_loses
  rw [length_replicate]
  decide

end Session

end Spacer.Vsock
