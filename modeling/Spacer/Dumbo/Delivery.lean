import Spacer.Dumbo.Sending

/-!
The responses are delivered intact: what an endpoint sends is the stream of its responses, each
byte once and under its own sequence number.
-/

namespace Spacer.Dumbo.Endpoint

open Lib Lib.Serial Connection List

structure Serves (first : UInt32) (stream sent : List UInt8) (base acked edge : Nat)
  (endpoint : Endpoint) : Prop where
  serving : Serving first acked sent.length edge endpoint.connection
  room : endpoint.receiveBuf.length ≤ rcvBufMaxSize
  begun : sent <+: stream
  base_le : base ≤ acked
  pending : endpoint.responseBuf = stream.drop base
  short : endpoint.responseBuf.length < 2 ^ 32 - 1
  responseSeq : endpoint.responseSeq = place first sent.length
  initial : endpoint.initialResponseSeq = place first base

/-- `stream` is what was answered so far, and `sent` the part of it that was sent. -/
inductive Sound (first : UInt32) (stream sent : List UInt8) (endpoint : Endpoint) : Prop
  | opens (opening : Opening first endpoint.connection) (received : endpoint.receiveBuf = [])
      (idle : endpoint.responseBuf = []) (responseSeq : endpoint.responseSeq = first)
      (initial : endpoint.initialResponseSeq = first) (unanswered : stream = [])
      (unsent : sent = [])
  | serves {base acked edge : Nat} (serves : Serves first stream sent base acked edge endpoint)
  | closes (closing : Closing endpoint.connection)
      (room : endpoint.receiveBuf.length ≤ rcvBufMaxSize) (begun : sent <+: stream)
      (idle : endpoint.responseBuf = []) (rest : findRequest endpoint.receiveBuf = none)

variable {connection : Connection}

section

variable {first : UInt32} {stream sent : List UInt8} {base acked edge : Nat}
  {endpoint next : Endpoint} {segment : TcpSegment} {respond : List UInt8 → Response}
  {now : UInt64} {response : Option Response}

theorem Serves.of_same {stopReceiving : Bool} (serves : Serves first stream sent base acked edge endpoint)
  (same : SameStream endpoint.connection connection) :
  Serves first stream sent base acked edge { endpoint with connection, stopReceiving } :=
  { serves with serving := serves.serving.of_same same }

variable (serves : Serves first stream sent base acked edge endpoint)
include serves

theorem Serves.stream_length : base + endpoint.responseBuf.length = stream.length ∧ acked ≤ sent.length ∧
    sent.length ≤ stream.length := by
  have acked_le := serves.serving.acked_le
  have begun := serves.begun.length_le
  have base_le := serves.base_le
  rw [serves.pending, length_drop]
  omega

theorem Serves.dropAcked : ∃ base', Serves first stream sent base' acked edge endpoint.dropAcked := by
  obtain ⟨total, acked_le, sent_le⟩ := serves.stream_length
  have short := serves.short
  have base_le := serves.base_le
  unfold Endpoint.dropAcked
  split
  · rename_i ended
    rw [Bool.and_eq_true, decide_eq_true_iff, decide_eq_true_iff, serves.serving.highest,
      serves.initial, place_add] at ended
    have all := (place_inj (by omega) (by omega)).mp ended.2.symm
    have everything : sent.length = acked := by omega
    refine ⟨acked, { serves with
      base_le := Nat.le_refl _, pending := ?_, short := by simp, responseSeq := ?_,
      initial := serves.serving.highest }⟩
    · exact (drop_eq_nil_of_le (by omega)).symm
    rw [everything]
    exact serves.serving.highest
  · exact ⟨base, serves⟩

variable (rest : endpoint.responseBuf = [] → findRequest endpoint.receiveBuf = none)
include rest

theorem Serves.closeIfDone : Sound first stream sent endpoint.closeIfDone := by
  unfold Endpoint.closeIfDone
  split
  · rename_i done
    rw [Bool.and_eq_true, decide_eq_true_iff] at done
    obtain ⟨finSeq, seen⟩ := Option.isSome_iff_exists.mp done.1
    have noFin := serves.serving.noFin
    refine .closes ⟨?_, ?_, ?_, ?_⟩ serves.room serves.begun done.2 (rest done.2)
    · simp [close, noFin, serves.serving.established]
    · refine ⟨finSeq, ?_, ?_⟩
      · simp [close, noFin, seen]
      · simp [close, noFin, serves.serving.finSeen finSeq seen]
    · simp [close, noFin]
    · simp [close, noFin, serves.serving.roomy]
  · exact .serves serves

theorem Serves.resetIfFull : Sound first stream sent endpoint.resetIfFull := by
  unfold Endpoint.resetIfFull
  split
  · exact .serves (serves.of_same reset_same)
  · exact serves.closeIfDone rest

omit rest

theorem Serves.answer (done : endpoint.answer respond = .ok (next, response)) :
  Sound first (stream ++ (response.map Response.bytes).getD []) sent next := by
  obtain ⟨total, acked_le, sent_le⟩ := serves.stream_length
  unfold Endpoint.answer at done
  split at done
  · rename_i busy
    cases done
    simpa using serves.closeIfDone fun idle => absurd idle busy
  rename_i idle
  have idle : endpoint.responseBuf = [] := by simpa using idle
  rw [idle] at total
  split at done
  · rename_i rest
    cases done
    simpa using serves.resetIfFull fun _ => rest
  rename_i len _
  dsimp only at done
  split at done
  · rename_i short
    cases done
    generalize respond (endpoint.receiveBuf.take len) = answer at short
    have taken : Serves first (stream ++ answer.bytes) sent base acked edge
        (endpoint.takeRequest len answer) :=
      { serves with
        serving := serves.serving.of_same ⟨rfl, fun _ shaken => shaken⟩
        room := Nat.le_trans (drop_sublist _ _).length_le serves.room
        begun := serves.begun.trans (prefix_append _ _)
        pending := by simp [takeRequest, ← total]
        short }
    exact taken.resetIfFull fun empty => absurd empty answer.nonempty
  · cases done

omit serves

theorem receiveSegment_cases (done : endpoint.receiveSegment segment respond now = .ok (next, response)) :
  (next = endpoint ∧ response = none) ∨ ∃ connection result, endpoint.connection.receiveSegment segment
        (rcvBufMaxSize - endpoint.receiveBuf.length) now = .ok (connection, result) ∧
      ((response = none ∧ ∃ stopReceiving, next = { endpoint with
          connection, lastSegmentReceivedTimestamp := now, stopReceiving }) ∨
        answer (dropAcked { endpoint with
          connection, lastSegmentReceivedTimestamp := now,
          receiveBuf := endpoint.receiveBuf ++ heard result }) respond = .ok (next, response)) := by
  unfold Endpoint.receiveSegment at done
  split at done
  · cases done
    exact .inl ⟨rfl, rfl⟩
  split at done
  · cases done
  obtain ⟨⟨connection, result⟩, connected, done⟩ := ok_of_bind done
  refine .inr ⟨connection, result, connected, ?_⟩
  dsimp only at done
  split at done
  · cases done
    exact .inl ⟨rfl, endpoint.stopReceiving, rfl⟩
  split at done
  · cases done
    exact .inl ⟨rfl, true, rfl⟩
  · exact .inr done

theorem Serves.receives (serves : Serves first stream sent base acked edge
    { endpoint with connection, lastSegmentReceivedTimestamp := now })
  (fits : bytes.length ≤ rcvBufMaxSize - endpoint.receiveBuf.length)
  (outcome : (response = none ∧ ∃ stopReceiving, next = { endpoint with
      connection, lastSegmentReceivedTimestamp := now, stopReceiving }) ∨
    Endpoint.answer (Endpoint.dropAcked { endpoint with
      connection, lastSegmentReceivedTimestamp := now,
      receiveBuf := endpoint.receiveBuf ++ bytes }) respond = .ok (next, response)) :
  Sound first (stream ++ (response.map Response.bytes).getD []) sent next := by
  have room : endpoint.receiveBuf.length ≤ rcvBufMaxSize := serves.room
  rcases outcome with ⟨rfl, stopReceiving, rfl⟩ | answered
  · simpa using Sound.serves (serves.of_same (.refl connection))
  have stored : Serves first stream sent base acked edge { endpoint with
      connection, lastSegmentReceivedTimestamp := now,
      receiveBuf := endpoint.receiveBuf ++ bytes } :=
    { serves with room := by simp only [length_append]; omega }
  obtain ⟨base', dropped⟩ := stored.dropAcked
  exact dropped.answer answered

theorem answer_rest (idle : endpoint.responseBuf = []) (rest : findRequest endpoint.receiveBuf = none) :
  endpoint.dropAcked.answer respond = .ok (endpoint.resetIfFull, none) := by
  have kept : endpoint.dropAcked = endpoint := by simp [dropAcked, idle]
  simp [kept, Endpoint.answer, idle, rest]

theorem closing_resetIfFull (closing : Closing endpoint.connection)
  (room : endpoint.receiveBuf.length ≤ rcvBufMaxSize) (begun : sent <+: stream)
  (idle : endpoint.responseBuf = []) (rest : findRequest endpoint.receiveBuf = none) :
  Sound first stream sent endpoint.resetIfFull := by
  have closed : endpoint.connection.close = endpoint.connection := by
    obtain ⟨finSeq, fin⟩ := Option.isSome_iff_exists.mp closing.fin
    simp [close, fin]
  unfold Endpoint.resetIfFull
  split
  · exact .closes (closing.of_same reset_same) room begun idle rest
  unfold Endpoint.closeIfDone
  rw [closed]
  split <;> exact .closes closing room begun idle rest

theorem opening_resetIfFull (opening : Opening first endpoint.connection)
  (received : endpoint.receiveBuf = []) : endpoint.resetIfFull = endpoint := by
  simp [Endpoint.resetIfFull, Endpoint.closeIfDone, received, opening.noFinSeen, rcvBufMaxSize]

theorem Sound.receiveSegment (sound : Sound first stream sent endpoint)
  (done : endpoint.receiveSegment segment respond now = .ok (next, response)) :
  Sound first (stream ++ (response.map Response.bytes).getD []) sent next := by
  rcases receiveSegment_cases done with ⟨rfl, rfl⟩ | ⟨connection, result, connected, outcome⟩
  · simpa using sound
  have room := Nat.sub_le rcvBufMaxSize endpoint.receiveBuf.length
  cases sound with
  | opens opening received idle responseSeq initial unanswered unsent =>
    subst unanswered unsent
    rcases opening.receiveSegment room connected with ⟨still, silent⟩ | ⟨edge, serving, fits⟩
    · rcases outcome with ⟨rfl, stopReceiving, rfl⟩ | answered
      · exact .opens still received idle responseSeq initial rfl rfl
      rw [silent, received, answer_rest (by exact idle) (by exact rfl)] at answered
      cases answered
      rw [opening_resetIfFull (by exact still) (by exact rfl)]
      exact .opens still rfl idle responseSeq initial rfl rfl
    have begins : Serves first [] [] 0 0 edge
        { endpoint with connection, lastSegmentReceivedTimestamp := now } :=
      ⟨serving, by simp [received], prefix_rfl, Nat.le_refl 0, idle, by simp [idle],
        responseSeq.trans (place_zero first).symm, initial.trans (place_zero first).symm⟩
    exact begins.receives fits outcome
  | serves serves =>
    obtain ⟨acked', edge', later, moved, fits⟩ := serves.serving.receiveSegment room connected
    have heard : Serves first stream sent _ acked' edge'
        { endpoint with connection, lastSegmentReceivedTimestamp := now } :=
      { serves with serving := moved, base_le := Nat.le_trans serves.base_le later }
    exact heard.receives fits outcome
  | closes closing short begun idle rest =>
    obtain ⟨still, silent⟩ := closing.receiveSegment room connected
    rcases outcome with ⟨rfl, stopReceiving, rfl⟩ | answered
    · exact .closes still short (by simpa using begun) idle rest
    rw [silent, append_nil, answer_rest (by exact idle) (by exact rest)] at answered
    cases answered
    exact closing_resetIfFull still short (by simpa using begun) idle rest

end

section

variable {first : UInt32} {stream sent : List UInt8} {base acked edge : Nat}
  {endpoint : Endpoint} {bufLen : Nat} {mssReserved : UInt16} {now : UInt64}

def payloadOf (segment : Option Incomplete) : List UInt8 :=
  (segment.map Incomplete.payload).getD []

def SendsNext (first : UInt32) (stream sent : List UInt8) (segment : Incomplete) : Prop :=
  segment.payload ≠ [] → segment.seq = place first sent.length ∧ sent ++ segment.payload <+: stream

theorem sends_empty {segment : Option Incomplete}
  (empty : ∀ sends, segment = some sends → sends.payload = []) :
  payloadOf segment = [] ∧ ∀ sends, segment = some sends → SendsNext first stream sent sends := by
  refine ⟨?_, fun sends found payload => absurd (empty sends found) payload⟩
  cases segment with
  | none => rfl
  | some sends => exact empty sends rfl

theorem writeNextSegment_eq (left : endpoint.payloadSrc = .ok src) :
  endpoint.writeNextSegment bufLen mssReserved now =
    let outcome := endpoint.connection.writeNextSegment bufLen mssReserved src now
    .ok ({ endpoint with
            connection := outcome.1
            responseSeq := endpoint.responseSeq + UInt32.ofNat (payloadOf (written outcome.2)).length },
      written outcome.2) := by
  rw [Endpoint.writeNextSegment, bind_of_ok left]
  generalize endpoint.connection.writeNextSegment bufLen mssReserved src now = outcome
  obtain ⟨connection, result⟩ := outcome
  rcases result with error | segment | segment
  · simp [written, payloadOf]
  · simp [written, payloadOf]
  · rfl

theorem payloadSrc_idle (idle : endpoint.responseBuf = []) : endpoint.payloadSrc = .ok none := by
  simp [payloadSrc, idle]

theorem Serves.payloadSrc (serves : Serves first stream sent base acked edge endpoint)
  (busy : endpoint.responseBuf ≠ []) :
  endpoint.payloadSrc = .ok (some (stream.drop sent.length, place first sent.length)) := by
  obtain ⟨total, acked_le, sent_le⟩ := serves.stream_length
  have base_le := serves.base_le
  have short := serves.short
  unfold Endpoint.payloadSrc
  rw [if_pos busy, serves.responseSeq, serves.initial, place_sub (by omega) (by omega),
    if_pos (by omega), serves.pending, drop_drop, Nat.add_sub_cancel' (by omega)]

theorem Serves.writeNextSegment (serves : Serves first stream sent base acked edge endpoint)
  (busy : endpoint.responseBuf ≠ []) :
  ∃ next segment, endpoint.writeNextSegment bufLen mssReserved now = .ok (next, segment) ∧
    Sound first stream (sent ++ payloadOf segment) next ∧
    ∀ sends, segment = some sends → SendsNext first stream sent sends := by
  refine ⟨_, _, writeNextSegment_eq (serves.payloadSrc busy), ?_⟩
  have continues := @Serving.writeNextSegment _ _ _ _ _ bufLen mssReserved
    (stream.drop sent.length) serves.serving now
  cases continues with
  | quiet quiet =>
    refine ⟨?_, (sends_empty quiet.empty).2⟩
    simpa [(@sends_empty first stream sent _ quiet.empty).1] using Sound.serves (serves.of_same quiet.same)
  | data segment count sends seq payload some le serving =>
    obtain ⟨rest, rfl⟩ := serves.begun
    rw [drop_left] at payload le
    have more : sent ++ segment.payload <+: sent ++ rest := by
      rw [payload]
      exact (prefix_append_right_inj sent).mpr ( take_prefix count rest)
    have length : (sent ++ segment.payload).length = sent.length + count := by
      rw [payload, length_append, length_take, Nat.min_eq_left le]
    rw [← length] at serving
    rw [sends]
    refine ⟨.serves { serves with serving, begun := more, responseSeq := ?_ }, ?_⟩
    · simp only [serves.responseSeq, place_add, length_append]
    intro other same _
    cases same
    exact ⟨seq, more⟩

theorem Sound.writeNextSegment (sound : Sound first stream sent endpoint) :
  ∃ next segment, endpoint.writeNextSegment bufLen mssReserved now = .ok (next, segment) ∧
    Sound first stream (sent ++ payloadOf segment) next ∧
    ∀ sends, segment = some sends → SendsNext first stream sent sends := by
  cases sound with
  | opens opening received idle responseSeq initial unanswered unsent =>
    have quiet := @writeNextSegment_quiet endpoint.connection bufLen mssReserved opening.noFin now
    obtain ⟨silent, isNext⟩ := sends_empty quiet.empty
    refine ⟨_, _, writeNextSegment_eq (payloadSrc_idle idle), ?_, isNext⟩
    rw [silent]
    refine .opens (opening.of_same quiet.same) received idle ?_ initial unanswered ?_
    · simpa using responseSeq
    · simpa using unsent
  | serves serves =>
    by_cases idle : endpoint.responseBuf = []
    · have quiet := @writeNextSegment_quiet endpoint.connection bufLen mssReserved serves.serving.noFin now
      obtain ⟨silent, isNext⟩ := sends_empty quiet.empty
      refine ⟨_, _, writeNextSegment_eq (payloadSrc_idle idle), ?_, isNext⟩
      rw [silent]
      simpa using Sound.serves (serves.of_same quiet.same)
    · exact serves.writeNextSegment idle
  | closes closing room begun idle rest =>
    obtain ⟨still, empty⟩ := @Closing.writeNextSegment _ bufLen mssReserved closing now
    obtain ⟨silent, isNext⟩ := sends_empty empty
    refine ⟨_, _, writeNextSegment_eq (payloadSrc_idle idle), .closes still room ?_ idle rest, isNext⟩
    simpa [silent] using begun

end

variable {segment : TcpSegment}

section

variable {first : UInt32} {stream sent : List UInt8} {endpoint next : Endpoint}

theorem passiveOpen_opening {rtoPeriod : UInt64} {rtoCountMax : UInt16}
  (opened : passiveOpen segment localRwndSize rtoPeriod rtoCountMax isn = .ok (.ok connection)) :
  Opening (isn + 1) connection ∧ connection.firstNotSent = isn + 1 := by
  unfold passiveOpen at opened
  split at opened
  · cases opened
  obtain ⟨mss, parsed, opened⟩ := ok_of_bind opened
  cases mss with
  | error error => cases opened
  | ok mss =>
    cases opened
    have size := segment.windowSize.toNat_lt
    refine ⟨⟨rfl, rfl, rfl, ⟨segment.windowSize.toNat, by omega, ?_⟩, rfl, rfl,
      parseMssOption_ge parsed⟩, rfl⟩
    have edge := @window_place (isn + 1) 0 segment.windowSize
    rwa [place_zero, Nat.zero_add] at edge

theorem new_sound {evictionThreshold rtoPeriod : UInt64} {rtoCountMax : UInt16}
  (opened : new segment evictionThreshold rtoPeriod rtoCountMax isn now = .ok (.ok endpoint)) :
  Sound (isn + 1) [] [] endpoint := by
  obtain ⟨result, passive, opened⟩ := ok_of_bind opened
  cases result with
  | error error => cases opened
  | ok connection =>
    cases opened
    obtain ⟨opening, unsent⟩ := passiveOpen_opening passive
    exact .opens opening rfl rfl unsent unsent rfl rfl

def responseBytes : List Output → List UInt8
  | [] => []
  | .response response :: rest => response.bytes ++ responseBytes rest
  | .segment _ :: rest => responseBytes rest

def sentBytes : List Output → List UInt8
  | [] => []
  | .response _ :: rest => sentBytes rest
  | .segment segment :: rest => segment.payload ++ sentBytes rest

variable (sound : Sound first stream sent endpoint)
include sound

theorem Sound.step (done : endpoint.step event = .ok (next, outputs)) :
  Sound first (stream ++ responseBytes outputs) (sent ++ sentBytes outputs) next ∧
    (outputs = [] ∨ ∃ output, outputs = [output] ∧
      ∀ segment, output = .segment segment → SendsNext first stream sent segment) := by
  cases event with
  | receive segment respond now =>
    obtain ⟨⟨later, response⟩, received, done⟩ := ok_of_bind done
    cases done
    have kept := sound.receiveSegment received
    cases response with
    | none => exact ⟨by simpa [responseBytes, sentBytes] using kept, .inl rfl⟩
    | some response =>
      exact ⟨by simpa [responseBytes, sentBytes] using kept, .inr ⟨_, rfl, nofun⟩⟩
  | write bufLen mssReserved now =>
    obtain ⟨later, segment, wrote, kept, next⟩ :=
      @Sound.writeNextSegment _ _ _ _ bufLen mssReserved now sound
    rw [Endpoint.step, bind_of_ok wrote] at done
    cases done
    cases segment with
    | none => exact ⟨by simpa [responseBytes, sentBytes, payloadOf] using kept, .inl rfl⟩
    | some segment =>
      exact ⟨by simpa [responseBytes, sentBytes, payloadOf] using kept,
        .inr ⟨_, rfl, fun sends same => next sends (by cases same; rfl)⟩⟩

theorem Sound.run (done : endpoint.run events = .ok (final, outputs)) :
  ∀ before segment after, outputs = before ++ .segment segment :: after →
    SendsNext first (stream ++ responseBytes before) (sent ++ sentBytes before) segment := by
  induction events generalizing endpoint stream sent outputs with
  | nil =>
    cases done
    intro before segment after split
    simp at split
  | cons event events ih =>
    obtain ⟨⟨next, begun⟩, stepped, done⟩ := ok_of_bind done
    obtain ⟨⟨last, rest⟩, ran, done⟩ := ok_of_bind done
    cases done
    obtain ⟨kept, shape⟩ := sound.step stepped
    have later := ih kept ran
    intro before segment after split
    rcases shape with rfl | ⟨output, rfl, isNext⟩
    · simpa [responseBytes, sentBytes] using later before segment after split
    cases before with
    | nil =>
      obtain ⟨same, -⟩ := List.cons.inj split
      simpa [responseBytes, sentBytes] using isNext segment same
    | cons head before =>
      obtain ⟨rfl, tail⟩ := List.cons.inj split
      have sends := later before segment after tail
      cases output <;> simpa [responseBytes, sentBytes] using sends

theorem Sound.room : endpoint.receiveBuf.length ≤ rcvBufMaxSize := by
  cases sound with
  | opens opening received => simp [received]
  | serves serves => exact serves.room
  | closes closing room => exact room

theorem Sound.step_panic (panics : endpoint.step event = .error .panic) :
  ∃ segment respond now request, event = .receive segment respond now ∧
    2 ^ 32 - 1 ≤ (respond request).bytes.length := by
  cases event with
  | receive segment respond now =>
    refine ⟨segment, respond, now, ?_⟩
    rcases error_of_bind panics with received | ⟨_, -, rest⟩
    · unfold Endpoint.receiveSegment at received
      rw [if_neg (Nat.not_lt.mpr sound.room)] at received
      split at received
      · cases received
      rcases error_of_bind received with connected | ⟨⟨connection, result⟩, -, answered⟩
      · exact absurd connected (Connection.receiveSegment_total _ _)
      dsimp only at answered
      split at answered
      · cases answered
      split at answered
      · cases answered
      unfold Endpoint.answer at answered
      split at answered
      · cases answered
      split at answered
      · cases answered
      dsimp only at answered
      split at answered
      · cases answered
      rename_i long
      exact ⟨_, rfl, Nat.not_lt.mp long⟩
    · cases rest
  | write bufLen mssReserved now =>
    obtain ⟨next, segment, wrote, -⟩ :=
      @Sound.writeNextSegment _ _ _ _ bufLen mssReserved now sound
    rw [Endpoint.step, bind_of_ok wrote] at panics
    cases panics

theorem Sound.run_panic (panics : endpoint.run events = .error .panic) :
  ∃ segment respond now request, Event.receive segment respond now ∈ events ∧
    2 ^ 32 - 1 ≤ (respond request).bytes.length := by
  induction events generalizing endpoint stream sent with
  | nil => cases panics
  | cons event events ih =>
    rcases error_of_bind panics with stepped | ⟨⟨next, begun⟩, stepped, rest⟩
    · obtain ⟨segment, respond, now, request, rfl, long⟩ := sound.step_panic stepped
      exact ⟨segment, respond, now, request, mem_cons_self, long⟩
    rcases error_of_bind rest with later | ⟨_, -, done⟩
    · obtain ⟨segment, respond, now, request, member, long⟩ :=
        ih (sound.step stepped).1 later
      exact ⟨segment, respond, now, request, mem_cons_of_mem _ member, long⟩
    · cases done

omit sound

theorem responseBytes_append (after : List Output) :
  responseBytes (before ++ after) = responseBytes before ++ responseBytes after := by
  induction before with
  | nil => rfl
  | cons output before ih => cases output <;> simp [responseBytes, ih]

theorem SendsNext.byte {segment : Incomplete} (after : List Output)
  (isNext : SendsNext first (responseBytes before) (sentBytes before) segment)
  (inside : index < segment.payload.length) :
  ∃ position < (responseBytes (before ++ .segment segment :: after)).length,
    segment.seq + UInt32.ofNat index = place first position ∧
    segment.payload[index]? = (responseBytes (before ++ .segment segment :: after))[position]? := by
  have some : segment.payload ≠ [] := ne_nil_of_length_pos (by omega)
  obtain ⟨seq, rest, stream⟩ := isNext some
  refine ⟨(sentBytes before).length + index, ?_, ?_, ?_⟩
  · rw [responseBytes_append, ← stream]
    simp only [length_append]
    omega
  · rw [seq, place_add]
  rw [responseBytes_append, ← stream, append_assoc, append_assoc,
    getElem?_append_right (by omega), Nat.add_sub_cancel_left,
    getElem?_append_left inside]

def clientSegment (flags : TcpFlags) (seq ack : UInt32) (payload : List UInt8) : TcpSegment :=
  { sourcePort := 1025, destinationPort := 80, sequenceNumber := seq, ackNumber := ack, flags,
    windowSize := 10000, options := [], payload }

def clientSyn : TcpSegment := clientSegment { syn := true } 1000 0 []

def asks (respond : List UInt8 → Response) : List Event :=
  [.write 1500 0 0, .receive (clientSegment { ack := true } 1001 1 [71, 10, 10]) respond 1]

def greeting : Response := ⟨[72, 105, 33], by decide⟩

def clientEndpoint : Endpoint where
  receiveBuf := []
  responseBuf := []
  initialResponseSeq := 1
  responseSeq := 1
  connection :=
    { ackToSend := 1001, highestAckReceived := 0, firstNotSent := 1, localRwndEdge := 3501,
      remoteRwndEdge := 10001, rtoStart := 0, rtoPeriod := connectionRtoPeriod, rtoCount := 0,
      rtoCountMax := connectionRtoCountMax, finReceived := none, sendFin := none,
      sendRst := none, mss := mssDefault, pendingAck := false, dupAck := false,
      statusFlags := { synReceived := true } }
  lastSegmentReceivedTimestamp := 0
  evictionThreshold := evictionThresholdDefault
  stopReceiving := false

theorem clientEndpoint_opened : newWithDefaults clientSyn 0 0 = .ok (.ok clientEndpoint) := rfl

def greets : List Event := asks (fun _ => greeting) ++ [.write 22 0 2, .write 1500 0 3]

theorem receiveSegment_long (listens : endpoint.stopReceiving = false)
  (room : endpoint.receiveBuf.length ≤ rcvBufMaxSize)
  (connected : endpoint.connection.receiveSegment segment
    (rcvBufMaxSize - endpoint.receiveBuf.length) now = .ok (connection, .ok received))
  (going : received.status.connResetting = false) (idle : endpoint.responseBuf = [])
  (request : findRequest (endpoint.receiveBuf ++ received.bytes.getD []) = some len)
  (long : ¬response.bytes.length < 2 ^ 32 - 1) :
  endpoint.receiveSegment segment (fun _ => response) now = .error .panic := by
  rw [Endpoint.receiveSegment, listens,
    if_neg (Nat.not_lt.mpr room), bind_of_ok connected]
  dsimp only
  rw [going]
  simp only [answer, dropAcked, idle, request, long, ne_eq, not_true_eq_false, decide_false,
    Bool.false_and, Bool.false_eq_true, if_false]

def filled (size : Nat) : Response := ⟨List.replicate (size + 1) 0, cons_ne_nil _ _⟩

theorem asks_long (long : ¬response.bytes.length < 2 ^ 32 - 1) :
  clientEndpoint.run (asks fun _ => response) = .error .panic := by
  have wrote : ∃ outputs, clientEndpoint.step (.write 1500 0 0) = .ok ({ clientEndpoint with
      connection.statusFlags.synackSent := true }, outputs) := ⟨_, rfl⟩
  obtain ⟨outputs, wrote⟩ := wrote
  rw [asks, run, bind_of_ok wrote]
  dsimp only [run, step]
  rw [receiveSegment_long rfl (Nat.zero_le _) rfl rfl rfl rfl long]
  rfl

end

end Spacer.Dumbo.Endpoint
