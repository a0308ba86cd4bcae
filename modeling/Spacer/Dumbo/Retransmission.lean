import Spacer.Dumbo.Delivery

/-! When an endpoint sends the first byte that was not acknowledged. -/

namespace Spacer.Dumbo

open Lib Lib.Serial Connection List

section

variable {first ack : UInt32} {acked sent edge : Nat} {conn : Connection} {bufLen : Nat}
  {mssReserved : UInt16} {readBuf : List UInt8}

theorem writeIncompleteSegment_data {maxPayloadBytes : Nat} (large : optionsOffset < bufLen)
  (remaining : 0 < mssRemaining.toNat) (nonempty : readBuf ≠ []) (more : 0 < maxPayloadBytes) :
  ∃ segment, writeIncompleteSegment bufLen seq ack flags windowSize none mssRemaining
    (some (readBuf, maxPayloadBytes)) = .ok segment := by
  have length := length_pos_of_ne_nil nonempty
  have room : min (min (bufLen - optionsOffset) mssRemaining.toNat)
      (min readBuf.length maxPayloadBytes) ≠ 0 := by omega
  have plain : optionsLen none = 0 := rfl
  rw [writeIncompleteSegment, plain, if_neg (Nat.not_lt_zero _), Nat.add_zero,
    if_neg (Nat.not_lt.mpr (Nat.le_of_lt large))]
  exact ⟨_, if_neg room⟩

theorem Connection.Serving.writeData_sends (serving : Serving first acked sent edge conn)
  (small : readBuf.length ≤ 1073725440) (nonempty : readBuf ≠ []) (window : sent < edge)
  (large : optionsOffset < bufLen) (reserved : mssReserved < conn.mss) (rtoTriggered : Bool)
  (now : UInt64) :
  ∃ segment, written (conn.writeData bufLen mssReserved readBuf (place first sent)
      (place first sent) rtoTriggered now).2 = some segment ∧ segment.payload ≠ [] := by
  have bounds := And.intro serving.acked_le serving.edge_le
  have length := length_pos_of_ne_nil nonempty
  have here : seqAtOrAfter (place first sent) (place first sent) = true := by
    rw [seqAtOrAfter_place (by omega) (by omega)]
  have ahead : seqAfter (place first (min edge (sent + readBuf.length))) (place first sent) =
      true := by
    rw [seqAfter_place (by omega) (by omega)]
    omega
  have noFin : conn.dataAfterFin (place first (min edge (sent + readBuf.length))) = false := by
    rw [dataAfterFin, serving.noFin]
  have remaining : 0 < (conn.mss - mssReserved).toNat := by
    rw [UInt16.toNat_sub_of_le _ _ (UInt16.le_of_lt reserved)]
    exact Nat.sub_pos_of_lt reserved
  have count : 0 < (place first (min edge (sent + readBuf.length)) - place first sent).toNat := by
    rw [place_sub (by omega) (by omega)]
    omega
  obtain ⟨segment, writes⟩ := @writeIncompleteSegment_data conn.ackToSend bufLen readBuf
    (place first sent) { ack := true } conn.localRwnd _ _ large remaining nonempty count
  have payload : segment.payload ≠ [] := by
    obtain ⟨-, -, count, payload, positive, -⟩ := writeIncompleteSegment_ok writes
    rw [payload]
    intro empty
    have := congrArg List.length empty
    rw [length_take, length_nil] at this
    omega
  have sends : conn.writeSegment bufLen mssReserved (place first sent) conn.ackToSend
      { ack := true } (some (readBuf,
        (place first (min edge (sent + readBuf.length)) - place first sent).toNat)) =
      .ok ({ conn with pendingAck := conn.pendingAck && !true }, segment) := by
    rw [writeSegment, if_neg (UInt16.not_lt.mpr (UInt16.le_of_lt reserved))]
    rw [if_neg (by decide)]
    rw [writes]
  unfold Connection.writeData
  dsimp only
  rw [serving.actualEnd small, here, noFin, ahead, sends]
  refine ⟨_, rfl, ?_⟩
  split <;> exact payload

theorem Connection.sendPlan_acked (acked : conn.highestAckReceived = conn.firstNotSent)
  (now : UInt64) : conn.sendPlan now = (conn, .data conn.firstNotSent false) := by
  simp [sendPlan, acked]

theorem Connection.Serving.writeNextSegment_eq (serving : Serving first acked sent edge conn)
  (alive : conn.isReset = false) (noRst : conn.rstPending = false) (payloadSeq : UInt32)
  (now : UInt64) :
  conn.writeNextSegment bufLen mssReserved (some (readBuf, payloadSeq)) now =
    conn.writePayload bufLen mssReserved readBuf payloadSeq now := by
  have shaken : conn.synackPending = false := by simp [synackPending, serving.shaken]
  have established : conn.isEstablished = true := serving.established
  simp [Connection.writeNextSegment, alive, noRst, shaken, established]

end

namespace Endpoint

variable {start endpoint : Endpoint} {first : UInt32} {stream sent : List UInt8}
  {base acked edge : Nat} {bufLen : Nat} {mssReserved : UInt16} {now : UInt64}

def unsent (endpoint : Endpoint) : Nat :=
  endpoint.responseBuf.length - (endpoint.responseSeq - endpoint.initialResponseSeq).toNat

theorem Serves.unsent_eq (serves : Serves first stream sent base acked edge endpoint) :
  endpoint.unsent = (stream.drop sent.length).length := by
  obtain ⟨total, acked_le, sent_le⟩ := serves.stream_length
  have base_le := serves.base_le
  have short := serves.short
  rw [unsent, serves.responseSeq, serves.initial, place_sub (by omega) (by omega),
    length_drop]
  omega

theorem Sound.run_sound (sound : Sound first stream sent start)
  (ran : start.run events = .ok (endpoint, outputs)) : ∃ stream sent, Sound first stream sent endpoint := by
  induction events generalizing start stream sent outputs with
  | nil =>
    cases ran
    exact ⟨stream, sent, sound⟩
  | cons event events ih =>
    obtain ⟨⟨next, begun⟩, stepped, rest⟩ := ok_of_bind ran
    obtain ⟨⟨last, more⟩, later, done⟩ := ok_of_bind rest
    cases done
    exact ih (sound.step stepped).1 later

theorem Sound.serves_of_busy (sound : Sound first stream sent endpoint) (busy : endpoint.responseBuf ≠ []) :
  ∃ base acked edge, Serves first stream sent base acked edge endpoint := by
  cases sound with
  | opens _ _ idle | closes _ _ _ idle => exact absurd idle busy
  | serves serves => exact ⟨_, _, _, serves⟩

theorem retransmits_iff {segment : TcpSegment} {evictionThreshold rtoPeriod : UInt64}
  {rtoCountMax : UInt16} {isn : UInt32} {opening : UInt64} {events : List Event}
  {outputs : List Output}
  (opened : new segment evictionThreshold rtoPeriod rtoCountMax isn opening = .ok (.ok start))
  (ran : start.run events = .ok (endpoint, outputs))
  (pending : endpoint.responseBuf ≠ [])
  (window : seqAfter endpoint.connection.remoteRwndEdge endpoint.connection.highestAckReceived = true)
  (alive : endpoint.connection.isReset = false)
  (noRst : endpoint.connection.rstPending = false)
  (large : optionsOffset < bufLen) (reserved : mssReserved < endpoint.connection.mss) :
  (∃ next sends, endpoint.writeNextSegment bufLen mssReserved now = .ok (next, some sends) ∧
      sends.payload ≠ [] ∧ sends.seq = endpoint.connection.highestAckReceived) ↔
    endpoint.connection.highestAckReceived = endpoint.connection.firstNotSent ∧
      0 < endpoint.unsent ∧ endpoint.unsent ≤ maxWindowSize.toNat := by
  obtain ⟨stream, sent, sound⟩ := (new_sound opened).run_sound ran
  obtain ⟨base, acked, edge, serves⟩ := sound.serves_of_busy pending
  have serving := serves.serving
  have bounds := And.intro serving.acked_le (And.intro serving.sent_le serving.edge_le)
  have wrote := @writeNextSegment_eq endpoint bufLen mssReserved now _ (serves.payloadSrc pending)
  obtain ⟨_, _, again, -, isNext⟩ :=
    @Serves.writeNextSegment _ _ _ _ _ _ _ bufLen mssReserved now serves pending
  rw [serving.writeNextSegment_eq alive noRst, Connection.writePayload] at wrote
  rw [serves.unsent_eq, serving.highest, serving.unsent]
  constructor
  · rintro ⟨next, sends, sending, payload, seq⟩
    rw [sending] at again wrote
    cases again
    obtain ⟨here, begun⟩ := isNext sends rfl payload
    refine ⟨seq.symm.trans here, ?_, ?_⟩
    · have length := begun.length_le
      have some := length_pos_of_ne_nil payload
      rw [length_append] at length
      rw [length_drop]
      omega
    by_contra long
    rw [if_pos (Nat.not_le.mp long)] at wrote
    cases wrote
  rintro ⟨same, nonempty, small⟩
  have caughtUp := (place_inj bounds.1 (by omega)).mp same.symm
  rw [serving.window, serving.highest, seqAfter_place (by omega) (by omega)] at window
  obtain ⟨segment, sends, payload⟩ := serving.writeData_sends small
    (ne_nil_of_length_pos nonempty) (by omega) large reserved false now
  have plan := sendPlan_acked (serving.highest.trans (same.trans serving.unsent.symm)) now
  rw [if_neg (Nat.not_lt.mpr small), plan, serving.unsent] at wrote
  dsimp only at wrote
  rw [sends] at wrote
  rw [wrote] at again
  cases again
  exact ⟨_, segment, wrote, payload, (isNext segment rfl payload).1.trans same.symm⟩

def askedEndpoint : Endpoint :=
  { clientEndpoint with
    responseBuf := [72, 105, 33]
    lastSegmentReceivedTimestamp := 1
    connection := { clientEndpoint.connection with
      ackToSend := 1004, highestAckReceived := 1, localRwndEdge := 3504, rtoStart := 1,
      pendingAck := true,
      statusFlags := { synReceived := true, synackSent := true, established := true } } }

theorem retransmits_iff_asked :
  ∃ next sends, askedEndpoint.writeNextSegment 21 0 2 = .ok (next, some sends) ∧
    sends.payload ≠ [] ∧ sends.seq = 1 :=
  (@retransmits_iff clientEndpoint askedEndpoint 21 0 2 _ _ _ _ _ _ (asks fun _ => greeting) _
    clientEndpoint_opened rfl (by decide) (by decide) rfl rfl (by decide) (by decide)).mpr
    (by decide)

def lossy : List Event :=
  asks (fun _ => greeting) ++
    [.write 1500 0 2, .receive (clientSegment { ack := true } 1004 1 []) (fun _ => greeting) 3]

def lossyEndpoint : Endpoint :=
  { askedEndpoint with
    responseSeq := 4
    lastSegmentReceivedTimestamp := 3
    connection := { askedEndpoint.connection with
      firstNotSent := 4, rtoStart := 2, pendingAck := false, dupAck := true } }

theorem lost_segment_never_sent_again :
  (∃ outputs, clientEndpoint.run lossy = .ok (lossyEndpoint, outputs)) ∧
    lossyEndpoint.connection.dupAck = true ∧
    lossyEndpoint.connection.highestAckReceived ≠ lossyEndpoint.connection.firstNotSent ∧
    seqAfter lossyEndpoint.connection.remoteRwndEdge lossyEndpoint.connection.highestAckReceived = true ∧
    lossyEndpoint.connection.isReset = false ∧ lossyEndpoint.connection.rstPending = false ∧
    (lossyEndpoint.writeNextSegment 1500 0 4).map (fun wrote => wrote.2.isSome) = .ok false ∧
    (lossyEndpoint.run (List.replicate 15 (.write 1500 0 2000000000))).map
      (fun done => (sentBytes done.2, done.1.connection.isReset)) = .ok ([], true) :=
  ⟨⟨_, rfl⟩, by decide⟩

end Endpoint

end Spacer.Dumbo
