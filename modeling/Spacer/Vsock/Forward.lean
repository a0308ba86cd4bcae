import Spacer.Vsock.Steps

/-! What becomes of the data the guest sends. -/

namespace Spacer.Vsock

open Lib Virtio
open List (append_assoc append_nil nil_append)

variable {conn other : VsockConnection} {pkt : VsockPacket}

namespace VsockConnection

/-- The stream and the buffer take in `bytes`: some of what waits and of what is new goes to
the stream, from the first byte on, and the rest waits. -/
def Forwards (conn other : VsockConnection) (bytes : List UInt8) : Prop :=
  ∃ accepted, other.stream.written = conn.stream.written ++ accepted ∧
    conn.txBuf.contents ++ bytes = accepted ++ other.txBuf.contents ∧
    other.fwdCnt = conn.fwdCnt + UInt32.ofNat accepted.length

theorem SameData.forwards (same : conn.SameData other) : conn.Forwards other [] := by
  refine ⟨[], ?_, ?_, ?_⟩
  · rw [same.stream, append_nil]
  · rw [same.txBuf, append_nil, nil_append]
  rw [same.fwdCnt]
  simp

theorem Forwards.then_same (forwards : conn.Forwards middle bytes) (same : middle.SameData other) :
  conn.Forwards other bytes := by
  obtain ⟨accepted, written, waits, counted⟩ := forwards
  refine ⟨accepted, ?_, ?_, ?_⟩
  · rw [same.stream, written]
  · rw [same.txBuf, waits]
  · rw [same.fwdCnt, counted]

theorem SameData.then_forwards (same : conn.SameData middle)
  (forwards : middle.Forwards other bytes) : conn.Forwards other bytes := by
  obtain ⟨accepted, written, waits, counted⟩ := forwards
  refine ⟨accepted, ?_, ?_, ?_⟩
  · rw [written, same.stream]
  · rw [← waits, same.txBuf]
  · rw [counted, same.fwdCnt]

theorem bufRegionAddr_ok (found : pkt.bufRegionAddr mem offset count = .ok addr) :
  ∃ base, pkt.bufAddr = some base ∧ addr = base.toNat + offset := by
  unfold VsockPacket.bufRegionAddr at found
  split at found
  · cases found
  split at found
  · cases found
  rename_i base place
  split at found
  · cases found
    exact ⟨base, place, rfl⟩
  · cases found

theorem load_drop : load memory (addr + offset) (len - offset) = (load memory addr len).drop offset := by
  apply List.ext_getElem
  · simp
  intro index inside inside'
  simp [load, Nat.add_assoc]

section

theorem pushBytes_ok
  (done : conn.pushBytes mem memory pkt offset (pkt.hdr.len.toNat - offset) = (.ok (), other)) :
  ∃ txBuf, other = { conn with txBuf := txBuf } ∧
    txBuf.contents = conn.txBuf.contents ++ (pkt.data memory).drop offset := by
  unfold pushBytes VsockPacket.writeFromOffsetTo at done
  cases place : pkt.bufRegionAddr mem offset (pkt.hdr.len.toNat - offset) with
  | error err =>
    rw [place] at done
    cases done
  | ok addr =>
    obtain ⟨base, some, rfl⟩ := bufRegionAddr_ok place
    rw [place] at done
    have data : pkt.data memory = load memory base.toNat pkt.hdr.len.toNat := by
      rw [VsockPacket.data, some]
    unfold TxBuf.write at done
    cases pushed : conn.txBuf.push (load memory (base.toNat + offset) (pkt.hdr.len.toNat - offset)) with
    | error err =>
      simp only [pushed] at done
      cases done
    | ok txBuf =>
      simp only [pushed] at done
      cases done
      refine ⟨txBuf, rfl, ?_⟩
      rw [data, ← load_drop]
      exact TxBuf.push_contents pushed

theorem data_length_le : (pkt.data memory).length ≤ pkt.hdr.len.toNat := by
  unfold VsockPacket.data
  split
  · rw [load_length]
  · exact Nat.zero_le _

theorem pushRest_ok (empty : conn.txBuf.isEmpty = true)
  (done : conn.pushRest mem memory pkt written pkt.hdr.len.toNat = (.ok (), other)) :
  other.stream = conn.stream ∧ other.fwdCnt = conn.fwdCnt + UInt32.ofNat written ∧
    other.txBuf.contents = (pkt.data memory).drop written := by
  have none := TxBuf.contents_of_isEmpty empty
  unfold pushRest at done
  dsimp only at done
  split at done
  · obtain ⟨txBuf, rfl, contents⟩ := pushBytes_ok done
    refine ⟨rfl, rfl, ?_⟩
    rw [contents]
    change conn.txBuf.contents ++ _ = _
    rw [none, nil_append]
  rename_i whole
  cases done
  refine ⟨rfl, rfl, ?_⟩
  rw [List.drop_eq_nil_of_le]
  · exact none
  · exact Nat.le_trans data_length_le (Nat.not_lt.mp whole)

theorem writeStream_ok {stream stream' : Stream}
  (done : pkt.writeFromOffsetTo (Stream.write answer) mem memory 0 stream pkt.hdr.len.toNat =
    (.ok written, stream')) :
  stream'.written = stream.written ++ (pkt.data memory).take written ∧
    ((pkt.data memory).take written).length = written := by
  unfold VsockPacket.writeFromOffsetTo at done
  cases place : pkt.bufRegionAddr mem 0 pkt.hdr.len.toNat with
  | error err =>
    rw [place] at done
    cases done
  | ok addr =>
    obtain ⟨base, some, rfl⟩ := bufRegionAddr_ok place
    rw [place] at done
    have data : load memory (base.toNat + 0) pkt.hdr.len.toNat = pkt.data memory := by
      rw [VsockPacket.data, some, Nat.add_zero]
    dsimp only at done
    rw [data] at done
    cases answer with
    | fail err => cases done
    | accept count =>
      cases done
      have taken : (pkt.data memory).take ((pkt.data memory).take count).length =
          (pkt.data memory).take count := by
        rw [List.length_take, ← List.take_take, List.take_length]
      rw [taken]
      exact ⟨rfl, rfl⟩

theorem writeStream_error {stream stream' : Stream}
  (failed : pkt.writeFromOffsetTo (Stream.write answer) mem memory 0 stream pkt.hdr.len.toNat =
    (.error err, stream')) : stream' = stream := by
  unfold VsockPacket.writeFromOffsetTo at failed
  split at failed
  · cases failed
    rfl
  cases answer with
  | fail io =>
    cases failed
    rfl
  | accept count => cases failed

theorem sendBytes_ok (done : conn.sendBytes mem memory pkt answer = (.ok (), other)) :
  conn.Forwards other (pkt.data memory) := by
  unfold sendBytes at done
  dsimp only at done
  split at done
  · -- data is waiting, so the new data waits behind it
    obtain ⟨txBuf, rfl, contents⟩ := pushBytes_ok done
    refine ⟨[], ?_, ?_, ?_⟩
    · rw [append_nil]
    · rw [nil_append]
      exact contents.symm
    · simp
  rename_i notWaiting
  have empty : conn.txBuf.isEmpty = true := by simpa using notWaiting
  have none := TxBuf.contents_of_isEmpty empty
  cases wrote : pkt.writeFromOffsetTo (Stream.write answer) mem memory 0 conn.stream pkt.hdr.len.toNat with
  | mk result stream =>
    rw [wrote] at done
    dsimp only at done
    split at done
    · -- the stream would block: everything waits
      obtain ⟨same, counted, contents⟩ := pushRest_ok (by exact empty) done
      rw [writeStream_error wrote] at same
      refine ⟨[], ?_, ?_, ?_⟩
      · rw [same, append_nil]
      · rw [contents, none]
        rfl
      · exact counted
    · cases done
    rename_i written
    obtain ⟨same, counted, contents⟩ := pushRest_ok (by exact empty) done
    obtain ⟨writes, length⟩ := writeStream_ok wrote
    refine ⟨(pkt.data memory).take written, ?_, ?_, ?_⟩
    · rw [same]
      exact writes
    · rw [contents, none, nil_append, List.take_append_drop]
    rw [length]
    exact counted

theorem fromTxVirtqHead_data (accepted : VsockPacket.fromTxVirtqHead mem head hdr next = .ok pkt)
  (none : pkt.bufSize = 0) : pkt.data memory = [] := by
  obtain ⟨_, _, rest⟩ := ok_of_bind accepted
  split at rest
  · cases rest
  dsimp only at rest
  split at rest
  · cases rest
    rfl
  rename_i some
  obtain ⟨_, _, rest⟩ := ok_of_bind rest
  obtain ⟨filled, init, rest⟩ := ok_of_bind rest
  split at rest
  · cases rest
  rename_i large
  cases rest
  obtain ⟨addr, size, rfl⟩ := initBuf_ok init
  have zero : hdr.len.toNat = 0 := by
    dsimp only at none large
    omega
  exact absurd (UInt32.toNat_inj.mp zero) some

variable (conn) (answer)

theorem sendRw_forwards (sized : pkt.bufSize = 0 → pkt.data memory = []) :
  (conn.sendRw mem memory pkt answer).state = .killed ∨
    conn.Forwards (conn.sendRw mem memory pkt answer) (pkt.data memory) := by
  unfold sendRw
  split
  · rename_i none
    rw [sized none]
    exact .inr (SameData.refl conn).forwards
  split
  · exact .inl rfl
  rename_i other done
  exact .inr ((sendBytes_ok done).then_same (updateCredit_same other))

def accepts (memory : Nat → UInt8) (pkt : VsockPacket) : List UInt8 :=
  if conn.maySend && pkt.hdr.op = vsockOpRw then pkt.data memory else []

theorem sendPkt_forwards (now : Nat) (sized : pkt.bufSize = 0 → pkt.data memory = []) :
  (conn.sendPkt mem memory pkt answer now).state = .killed ∨
    conn.Forwards (conn.sendPkt mem memory pkt answer now) (conn.accepts memory pkt) := by
  have credit : conn.SameData (conn.updatePeerCredit pkt) := ⟨rfl, rfl, rfl, rfl, rfl⟩
  have allowed : (conn.updatePeerCredit pkt).maySend = conn.maySend := rfl
  unfold sendPkt accepts
  dsimp only
  rw [allowed]
  split
  · exact sendRw_forwards (conn.updatePeerCredit pkt) answer sized
  · exact .inr (credit.trans (sendControl_same _ pkt now)).forwards

variable {conn}

theorem afterFlush_forwards {txBuf : TxBuf} {stream : Stream}
  (flushed : conn.txBuf.Flushed conn.stream result txBuf stream sent) :
  ({ conn with txBuf := txBuf, stream := stream }.afterFlush result).state = .killed ∨
    conn.Forwards ({ conn with txBuf := txBuf, stream := stream }.afterFlush result) [] := by
  have waits : conn.txBuf.contents ++ [] = sent ++ txBuf.contents := by
    rw [append_nil]
    exact flushed.contents
  cases result with
  | ok count =>
    refine .inr ⟨sent, flushed.written, waits, ?_⟩
    rw [← flushed.counted count rfl]
    rfl
  | error err =>
    have none : sent = [] := flushed.failed err rfl
    cases err with
    | wouldBlock =>
      refine .inr ⟨sent, flushed.written, waits, ?_⟩
      rw [none]
      simp [afterFlush]
    | txBufFull | other => exact .inl rfl

variable (conn)

theorem notifyWritable_forwards (answers : List WriteAnswer) :
  (conn.notifyWritable answers).state = .killed ∨ conn.Forwards (conn.notifyWritable answers) [] := by
  obtain ⟨sent, flushed⟩ := conn.txBuf.flushTo_spec conn.stream answers
  have after := afterFlush_forwards flushed
  unfold notifyWritable
  dsimp only
  split
  · exact .inr (SameData.refl conn).forwards
  generalize VsockConnection.afterFlush _ _ = other at after ⊢
  rcases after with killed | forwards
  · rw [if_neg (by simp [killed])]
    exact .inl ((updateCredit_state other).trans killed)
  split
  · exact .inr (forwards.then_same (insertRx_same other .rst))
  · exact .inr (forwards.then_same (updateCredit_same other))

theorem notify_forwards (evset : EventSet) (answers : List WriteAnswer) :
  (conn.notify evset answers).state = .killed ∨ conn.Forwards (conn.notify evset answers) [] := by
  have readable : conn.SameData (if evset.readable then conn.insertRx .rw else conn) := by
    split
    · exact insertRx_same _ _
    · exact SameData.refl _
  unfold notify
  dsimp only
  generalize (if evset.readable then conn.insertRx .rw else conn) = told at readable
  split
  · rcases notifyWritable_forwards told answers with killed | forwards
    · exact .inl killed
    · exact .inr (readable.then_forwards forwards)
  · exact .inr readable.forwards

end

structure KeepsTx (conn other : VsockConnection) : Prop where
  written : other.stream.written = conn.stream.written
  txBuf : other.txBuf = conn.txBuf
  fwdCnt : other.fwdCnt = conn.fwdCnt
  localInit : other.state = .localInit → conn.state = .localInit

theorem Receives.keepsTx (receives : conn.Receives pkt now received) : conn.KeepsTx received.channel := by
  cases receives with
  | reset | request | refused | starved | data | failed | creditUpdate | noData => exact ⟨rfl, rfl, rfl, id⟩
  | response | eof => exact ⟨rfl, rfl, rfl, nofun⟩

theorem processRx_keepsTx (mem : GuestLayout) (conn : VsockConnection)
  (buffers : List (RxBuffer × ReadAnswer × Nat)) :
  conn.KeepsTx (processRx (recvWith mem) mem conn buffers).2 := by
  apply processRx_relates
  · intro conn
    exact ⟨rfl, rfl, rfl, id⟩
  · intro first second third before after
    exact ⟨after.written.trans before.written, after.txBuf.trans before.txBuf,
      after.fwdCnt.trans before.fwdCnt, fun init => before.localInit (after.localInit init)⟩
  intro conn pkt env
  exact (conn.recvPkt_receives mem pkt env.1 env.2).keepsTx

theorem Controls.localInit (controls : conn.Controls now other) (init : other.state = .localInit) :
  conn.state = .localInit := by
  cases controls with
  | ignored | creditUpdate => exact init
  | answered before => exact before
  | closing | drained | lingering => cases init

theorem Proceeds.localInit (proceeds : conn.Proceeds other) (init : other.state = .localInit) :
  conn.state = .localInit := by
  rcases proceeds.state with same | ⟨killed, _⟩
  · exact same.symm.trans init
  rw [killed] at init
  cases init

theorem sendPkt_localInit (init : (conn.sendPkt mem memory pkt answer now).state = .localInit) :
  conn.state = .localInit := by
  unfold sendPkt at init
  dsimp only at init
  split at init
  · exact (sendRw_proceeds (conn.updatePeerCredit pkt) mem memory pkt answer).localInit init
  · exact (sendControl_controls (conn.updatePeerCredit pkt) pkt now).localInit init

theorem ackHost_cases (conn : VsockConnection) (prevState : ConnState) (localPort : UInt32)
  (answer : WriteAnswer) :
  (conn.ackHost prevState localPort answer).state = .killed ∨
  conn.ackHost prevState localPort answer = conn ∨
  prevState = .localInit ∧ ∃ taken, conn.ackHost prevState localPort answer =
      { conn with stream := { conn.stream with written := conn.stream.written ++ taken } } := by
  unfold ackHost sendBytesRaw
  split
  · rename_i answered
    cases answer with
    | fail err => exact .inl rfl
    | accept count =>
      simp only [Stream.write]
      split
      · exact .inr (.inr ⟨answered.1, _, rfl⟩)
      · exact .inl rfl
  · exact .inr (.inl rfl)

theorem ackHost_of_killed (killed : conn.state = .killed) (prevState : ConnState) (localPort : UInt32)
  (answer : WriteAnswer) : conn.ackHost prevState localPort answer = conn := by
  unfold ackHost
  rw [killed, if_neg (by simp)]

end VsockConnection

variable {session : Session}

namespace Session

open VsockConnection

/-- The stream has the acknowledgement and then data of the guest, and together with what
waits in the buffer that is all the guest sent. -/
structure Lossless (session : Session) : Prop where
  data : ∃ forwarded, session.conn.stream.written = session.acked ++ forwarded ∧
    forwarded ++ session.conn.txBuf.contents = session.sent ∧
    session.conn.fwdCnt = UInt32.ofNat forwarded.length
  fresh : session.conn.state = .localInit → session.sent = []

theorem opened_lossless (opening : Opening) : (opened opening).Lossless := by
  cases opening with
  | peerInit | localInit => exact ⟨⟨[], rfl, (nil_append _).trans TxBuf.contents_new, rfl⟩, fun _ => rfl⟩

theorem ofNat_append (second : List UInt8) :
  UInt32.ofNat (first ++ second).length = UInt32.ofNat first.length + UInt32.ofNat second.length := by
  rw [List.length_append, UInt32.ofNat_add]

theorem Lossless.forwards (lossless : session.Lossless) (forwards : session.conn.Forwards other bytes) :
  ∃ forwarded, other.stream.written = session.acked ++ forwarded ∧
    forwarded ++ other.txBuf.contents = session.sent ++ bytes ∧
    other.fwdCnt = UInt32.ofNat forwarded.length := by
  obtain ⟨forwarded, written, whole, counted⟩ := lossless.data
  obtain ⟨accepted, more, waits, counts⟩ := forwards
  refine ⟨forwarded ++ accepted, ?_, ?_, ?_⟩
  · rw [more, written, append_assoc]
  · rw [append_assoc, ← waits, ← append_assoc, whole]
  · rw [counts, counted, ofNat_append]

theorem accepts_of_localInit (init : conn.state = .localInit) (memory : Nat → UInt8)
  (pkt : VsockPacket) : conn.accepts memory pkt = [] := by
  have closed : conn.maySend = false := by rw [maySend, init]
  rw [accepts, closed]
  rfl

theorem deliver_lossless (sized : pkt.bufSize = 0 → pkt.data memory = [])
  (lossless : session.Lossless) (answer ack : WriteAnswer) (now : Nat)
  (alive : (session.deliver mem memory pkt answer ack now).dead = false) :
  (session.deliver mem memory pkt answer ack now).Lossless := by
  have forwards : (session.conn.sendPkt mem memory pkt answer now).state = .killed ∨ _ :=
    sendPkt_forwards session.conn answer now sized
  have backwards : (session.conn.sendPkt mem memory pkt answer now).state = .localInit → _ :=
    sendPkt_localInit
  have acknowledged := ackHost_cases (session.conn.sendPkt mem memory pkt answer now)
    session.conn.state session.conn.localPort ack
  have dies : (session.conn.sendPkt mem memory pkt answer now).state = .killed → _ := fun killed =>
    ackHost_of_killed killed session.conn.state session.conn.localPort ack
  unfold deliver at alive ⊢
  dsimp only at alive ⊢
  generalize session.conn.sendPkt mem memory pkt answer now = conn at *
  have living : (conn.ackHost session.conn.state session.conn.localPort ack).state ≠ .killed :=
    of_decide_eq_false (Bool.or_eq_false_iff.mp alive).2
  have forwards := forwards.resolve_left fun killed => living (by rw [dies killed, killed])
  rcases acknowledged with killed | same | ⟨init, taken, same⟩
  · exact absurd killed living
  · rw [same]
    constructor
    · dsimp only
      rw [List.drop_length, append_nil]
      exact lossless.forwards forwards
    intro init
    have before := backwards init
    have nothing := accepts_of_localInit before memory pkt
    exact List.append_eq_nil_iff.mpr ⟨lossless.fresh before, nothing⟩
  -- nothing was forwarded before the acknowledgement, so it comes first
  rw [same]
  have fresh := lossless.fresh init
  have nothing := accepts_of_localInit init memory pkt
  obtain ⟨forwarded, written, whole, counted⟩ := lossless.forwards forwards
  rw [fresh, nothing, append_nil] at whole
  have none : forwarded = [] := (List.append_eq_nil_iff.mp whole).1
  refine ⟨⟨forwarded, ?_, ?_, counted⟩, ?_⟩
  · dsimp only
    rw [written, none, append_nil, append_nil, List.drop_left]
  · dsimp only
    rw [whole, fresh]
    exact nothing.symm
  intro init'
  exact List.append_eq_nil_iff.mpr ⟨fresh, nothing⟩

theorem apply_lossless (lossless : session.Lossless) (event : Event)
  (alive : (session.apply mem event).dead = false) : (session.apply mem event).Lossless := by
  cases event with
  | rx buffers =>
    have keeps := processRx_keepsTx mem session.conn buffers
    obtain ⟨forwarded, written, whole, counted⟩ := lossless.data
    refine ⟨⟨forwarded, ?_, ?_, ?_⟩, ?_⟩
    · exact keeps.written.trans written
    · exact (congrArg (forwarded ++ ·.contents) keeps.txBuf).trans whole
    · exact keeps.fwdCnt.trans counted
    intro init
    exact lossless.fresh (keeps.localInit init)
  | tx buffer answer ack now =>
    unfold apply at alive ⊢
    dsimp only at alive ⊢
    split at alive
    · exact lossless
    rename_i pkt accepted
    exact deliver_lossless (fromTxVirtqHead_data accepted) lossless answer ack now alive
  | notify evset answers =>
    have living : (session.conn.notify evset answers).state ≠ .killed := by
      intro killed
      simp [apply, killed] at alive
    have forwards := (notify_forwards session.conn evset answers).resolve_left living
    constructor
    · have data := lossless.forwards forwards
      rw [append_nil] at data
      exact data
    intro init
    exact lossless.fresh ((session.conn.notify_proceeds evset answers).localInit init)
  | kill => cases alive

theorem apply_dead (alive : (session.apply mem event).dead = false) : session.dead = false := by
  cases event with
  | rx buffers => exact alive
  | tx buffer answer ack now =>
    unfold apply at alive
    dsimp only at alive
    split at alive
    · exact alive
    · exact (Bool.or_eq_false_iff.mp alive).1
  | notify evset answers => exact (Bool.or_eq_false_iff.mp alive).1
  | kill => cases alive

theorem run_lossless (mem : GuestLayout) (session : Session) (events : List Event)
  (lossless : session.dead = false → session.Lossless)
  (alive : (run mem session events).dead = false) : (run mem session events).Lossless := by
  induction events generalizing session with
  | nil => exact lossless alive
  | cons event events ih =>
    refine ih (session.apply mem event) ?_ alive
    intro still
    exact apply_lossless (lossless (apply_dead still)) event still

/-- Until the connection is killed, what the stream took after the acknowledgement and what
waits in the buffer are the data that the guest sent, and the counter counts what the stream
took. -/
theorem forwards_all (mem : GuestLayout) (opening : Opening) (events : List Event)
  (alive : (run mem (opened opening) events).dead = false) :
  let session := run mem (opened opening) events
  ∃ forwarded, session.conn.stream.written = session.acked ++ forwarded ∧
    forwarded ++ session.conn.txBuf.contents = session.sent ∧
    session.conn.fwdCnt = UInt32.ofNat forwarded.length :=
  (run_lossless mem (opened opening) events (fun _ => opened_lossless opening) alive).data

def splitSend : List Event :=
  greeting ++ [.tx fourBytes (.accept 1) (.accept 0) 0, .notify ⟨false, true⟩ [.accept 2]]

theorem forwards_all_split : (run roomyLayout (opened guestRequest) splitSend).dead = false ∧
  let session := run roomyLayout (opened guestRequest) splitSend
  ∃ forwarded, session.conn.stream.written = session.acked ++ forwarded ∧
    forwarded ++ session.conn.txBuf.contents = session.sent ∧
    session.conn.fwdCnt = UInt32.ofNat forwarded.length :=
  ⟨by decide, forwards_all roomyLayout guestRequest splitSend (by decide)⟩

example : (run roomyLayout (opened guestRequest) splitSend).conn.stream.written = [0, 1, 2] := by
  decide

end Session

end Spacer.Vsock
