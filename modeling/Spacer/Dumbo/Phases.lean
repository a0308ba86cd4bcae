import Spacer.Dumbo.Endpoint
import Spacer.Lib.Lists

/-!
The phases of a connection.  While it opens nothing can be sent; while it serves, its sequence
numbers are positions of one stream; once it closes no more data is accepted.
-/

namespace Spacer.Dumbo.Connection

open Lib Lib.Serial

def stream (conn : Connection) :=
  (conn.ackToSend, conn.highestAckReceived, conn.firstNotSent, conn.remoteRwndEdge,
    conn.finReceived, conn.sendFin, conn.statusFlags.established, conn.mss)

structure SameStream (conn next : Connection) : Prop where
  stream : next.stream = conn.stream
  shaken : conn.statusFlags.established = true → conn.statusFlags.synackSent = true →
    next.statusFlags.synackSent = true

structure Opening (first : UInt32) (conn : Connection) : Prop where
  unestablished : conn.statusFlags.established = false
  highest : conn.highestAckReceived + 1 = first
  unsent : conn.firstNotSent = first
  window : ∃ edge ≤ 65535, conn.remoteRwndEdge = place first edge
  noFinSeen : conn.finReceived = none
  noFin : conn.sendFin = none
  roomy : mssMin ≤ conn.mss

structure Serving (first : UInt32) (acked sent edge : Nat) (conn : Connection) : Prop where
  established : conn.statusFlags.established = true
  shaken : conn.statusFlags.synackSent = true
  highest : conn.highestAckReceived = place first acked
  unsent : conn.firstNotSent = place first sent
  window : conn.remoteRwndEdge = place first edge
  acked_le : acked ≤ sent
  sent_le : sent ≤ edge
  edge_le : edge ≤ acked + 65535
  finSeen : ∀ finSeq, conn.finReceived = some finSeq → conn.ackToSend = finSeq + 1
  noFin : conn.sendFin = none
  roomy : mssMin ≤ conn.mss

structure Closing (conn : Connection) : Prop where
  established : conn.statusFlags.established = true
  finSeen : ∃ finSeq, conn.finReceived = some finSeq ∧ conn.ackToSend = finSeq + 1
  fin : conn.sendFin.isSome = true
  roomy : mssMin ≤ conn.mss

theorem Opening.of_same (opening : Opening first conn) (same : SameStream conn next) :
  Opening first next := by
  obtain ⟨fields, -⟩ := same
  simp only [stream, Prod.mk.injEq] at fields
  obtain ⟨-, highest, unsent, window, finReceived, sendFin, established, mss⟩ := fields
  exact ⟨established.trans opening.unestablished, highest ▸ opening.highest,
    unsent.trans opening.unsent, window ▸ opening.window, finReceived.trans opening.noFinSeen,
    sendFin.trans opening.noFin, mss ▸ opening.roomy⟩

theorem Serving.of_same (serving : Serving first acked sent edge conn)
  (same : SameStream conn next) : Serving first acked sent edge next := by
  obtain ⟨fields, shaken⟩ := same
  simp only [stream, Prod.mk.injEq] at fields
  obtain ⟨ackToSend, highest, unsent, window, finReceived, sendFin, established, mss⟩ := fields
  refine ⟨established.trans serving.established, shaken serving.established serving.shaken,
    highest.trans serving.highest, unsent.trans serving.unsent, window.trans serving.window,
    serving.acked_le, serving.sent_le, serving.edge_le, ?_, sendFin.trans serving.noFin,
    mss ▸ serving.roomy⟩
  rw [finReceived, ackToSend]
  exact serving.finSeen

theorem Closing.of_same (closing : Closing conn) (same : SameStream conn next) : Closing next := by
  obtain ⟨fields, -⟩ := same
  simp only [stream, Prod.mk.injEq] at fields
  obtain ⟨ackToSend, -, -, -, finReceived, sendFin, established, mss⟩ := fields
  refine ⟨established.trans closing.established, ?_, sendFin ▸ closing.fin, mss ▸ closing.roomy⟩
  rw [finReceived, ackToSend]
  exact closing.finSeen

section

variable {conn next : Connection} {segment : TcpSegment}

theorem resetForSegment_same : SameStream conn (conn.resetForSegment segment) := by
  unfold resetForSegment
  split <;> exact ⟨rfl, fun _ shaken => shaken⟩

theorem reset_same : SameStream conn conn.reset := by
  unfold reset
  split <;> exact ⟨rfl, fun _ shaken => shaken⟩

theorem receiveRst_same :
  SameStream conn (conn.receiveRst segment).1 ∧ (conn.receiveRst segment).2.bytes = none := by
  unfold receiveRst
  split <;> exact ⟨⟨rfl, fun _ shaken => shaken⟩, rfl⟩

theorem receiveHandshake_same (ended : conn.receiveHandshake segment = .ok (some (next, received))) :
  SameStream conn next ∧ received.bytes = none := by
  have resets := @resetForSegment_same conn segment
  unfold receiveHandshake at ended
  split at ended
  · obtain ⟨same, -, ended⟩ := ok_of_bind ended
    split at ended
    · cases ended
      exact ⟨⟨rfl, fun _ shaken => shaken⟩, rfl⟩
    cases ended
    exact ⟨resets, rfl⟩
  split at ended
  · rename_i unestablished
    obtain ⟨same, -, ended⟩ := ok_of_bind ended
    split at ended
    · cases ended
      have never (established : conn.statusFlags.established = true) : False := by
        simp [isEstablished, established] at unestablished
      exact ⟨⟨rfl, fun shaken => (never shaken).elim⟩, rfl⟩
    split at ended
    · cases ended
      exact ⟨resets, rfl⟩
    · cases ended
  split at ended
  · cases ended
    exact ⟨resets, rfl⟩
  · cases ended

theorem receiveHandshake_none (passed : conn.receiveHandshake segment = .ok none) :
  conn.statusFlags.synackSent = true := by
  unfold receiveHandshake at passed
  split at passed
  · obtain ⟨same, -, passed⟩ := ok_of_bind passed
    split at passed <;> cases passed
  rename_i sent
  simpa using sent

theorem window_place (ack : Nat) (size : UInt16) :
  place first ack + size.toUInt32 = place first (ack + size.toNat) := by
  rw [← place_add, UInt32.ofNat_uInt16ToNat]

variable (serving : Serving first acked sent edge conn)
include serving

theorem Serving.updateRemoteRwnd (number : segment.ackNumber = place first acked) (flags : RecvStatusFlags) :
  ∃ edge', Serving first acked sent edge' (conn.updateRemoteRwnd segment flags).1 := by
  have size := segment.windowSize.toNat_lt
  have bounds := And.intro serving.acked_le (And.intro serving.sent_le serving.edge_le)
  unfold Connection.updateRemoteRwnd
  dsimp only
  rw [number, window_place]
  split
  · exact ⟨edge, serving⟩
  split
  · rename_i moved
    rw [serving.window, seqAfter_place (by omega) (by omega)] at moved
    exact ⟨acked + segment.windowSize.toNat,
      { serving with window := rfl, sent_le := by omega, edge_le := by omega }⟩
  split <;> exact ⟨edge, serving⟩

theorem Serving.advanceAck (later : acked ≤ acked') (acked_le : acked' ≤ sent) (now : UInt64) :
  Serving first acked' sent edge (conn.advanceAck (place first acked') now) :=
  { serving with
    established := by simp [Connection.advanceAck, isEstablished, serving.established]
    highest := rfl
    acked_le
    edge_le := Nat.le_trans serving.edge_le (by omega) }

theorem Serving.receiveAck (now : UInt64) :
  ∃ acked' edge', acked ≤ acked' ∧ Serving first acked' sent edge' (conn.receiveAck segment now).1 := by
  have bounds := And.intro serving.acked_le (And.intro serving.sent_le serving.edge_le)
  have established : conn.isEstablished = true := serving.established
  unfold Connection.receiveAck
  dsimp only
  split
  · exact ⟨acked, edge, Nat.le_refl _, serving⟩
  split
  · rename_i valid
    rw [Bool.and_eq_true, serving.highest, serving.unsent] at valid
    obtain ⟨acked', number, later, acked_le⟩ :=
      seq_between (by omega) (by omega) valid.1 valid.2
    have alive : Serving first acked sent edge { conn with rtoCount := 0 } :=
      serving.of_same ⟨rfl, fun _ shaken => shaken⟩
    split
    · rename_i repeated
      rw [Bool.and_eq_true, decide_eq_true_iff, serving.highest] at repeated
      rw [established]
      have again : Serving first acked sent edge { conn with rtoCount := 0, dupAck := true } :=
        serving.of_same ⟨rfl, fun _ shaken => shaken⟩
      obtain ⟨edge', moved⟩ := again.updateRemoteRwnd repeated.1 { dupAck := true }
      exact ⟨acked, edge', Nat.le_refl _, moved⟩
    have advanced := alive.advanceAck later acked_le now
    obtain ⟨edge', moved⟩ := advanced.updateRemoteRwnd number {}
    rw [← number] at moved
    exact ⟨acked', edge', later, moved⟩
  rw [established]
  exact ⟨acked, edge, Nat.le_refl _, serving⟩

omit serving

variable (opening : Opening first conn)
include opening

theorem Opening.advanceAck (synack : conn.statusFlags.synackSent = true) (now : UInt64) :
  ∃ edge, Serving first 0 0 edge (conn.advanceAck first now) := by
  obtain ⟨edge, small, window⟩ := opening.window
  refine ⟨edge, ?_, synack, (place_zero first).symm, ?_, window, Nat.le_refl _, Nat.zero_le _,
    by omega, ?_, opening.noFin, opening.roomy⟩
  · simp [Connection.advanceAck, synack]
  · rw [place_zero]
    exact opening.unsent
  intro finSeq seen
  have none := opening.noFinSeen
  rw [show conn.finReceived = some finSeq from seen] at none
  cases none

theorem Opening.ackNumber_eq (valid : (seqAtOrAfter segment.ackNumber conn.highestAckReceived &&
    seqAtOrAfter conn.firstNotSent segment.ackNumber) = true)
  (progress : ¬(segment.ackNumber = conn.highestAckReceived &&
    segment.ackNumber ≠ conn.firstNotSent) = true) : segment.ackNumber = first := by
  have unsent : conn.firstNotSent = place conn.highestAckReceived 1 :=
    opening.unsent.trans opening.highest.symm
  rw [Bool.and_eq_true, unsent] at valid
  obtain ⟨index, located, -, le⟩ := @seq_between 0 1 segment.ackNumber conn.highestAckReceived
    (Nat.zero_le 1) (by omega) (by rw [place_zero]; exact valid.1) valid.2
  rcases Nat.lt_or_eq_of_le le with zero | one
  · rw [Nat.lt_one_iff.mp zero, place_zero] at located
    have ahead : conn.highestAckReceived ≠ conn.firstNotSent := by
      rw [opening.unsent, ← opening.highest]
      grind
    exact absurd (by simp [located, ahead]) progress
  · rw [located, one, ← unsent, opening.unsent]

theorem Opening.receiveAck (synack : conn.statusFlags.synackSent = true) (now : UInt64) :
  Opening first (conn.receiveAck segment now).1 ∨
    ∃ edge, Serving first 0 0 edge (conn.receiveAck segment now).1 := by
  have unestablished : conn.isEstablished = false := opening.unestablished
  have alive : Opening first { conn with rtoCount := 0 } :=
    opening.of_same ⟨rfl, fun _ shaken => shaken⟩
  unfold Connection.receiveAck
  dsimp only
  rw [unestablished]
  split
  · exact .inl opening
  split
  · rename_i valid
    split
    · exact .inl (alive.of_same resetForSegment_same)
    rename_i progress
    have number := opening.ackNumber_eq valid progress
    obtain ⟨edge, serving⟩ := alive.advanceAck synack now
    rw [number]
    exact .inr (serving.updateRemoteRwnd (number.trans (place_zero first).symm) {})
  · exact .inl (opening.of_same resetForSegment_same)

omit opening

theorem Closing.receiveAck (closing : Closing conn) (now : UInt64) :
  Closing (conn.receiveAck segment now).1 := by
  have established : conn.isEstablished = true := closing.established
  have moves (other : Connection) (flags : RecvStatusFlags) (closing : Closing other) :
      Closing (other.updateRemoteRwnd segment flags).1 := by
    unfold updateRemoteRwnd
    dsimp only
    split
    · exact closing
    split
    · exact { closing with }
    split <;> exact closing
  unfold Connection.receiveAck
  dsimp only
  rw [established]
  split
  · exact closing
  split
  · split
    · exact moves _ _ { closing with }
    refine moves _ _ { closing with established := ?_ }
    simp [advanceAck, isEstablished, closing.established]
  · exact closing

theorem Serving.receiveFin (serving : Serving first acked sent edge conn)
  (flags : RecvStatusFlags) (bytes : Option (List UInt8)) :
  Serving first acked sent edge (conn.receiveFin segment flags bytes).1 ∧
    (conn.receiveFin segment flags bytes).2.bytes = bytes := by
  have enqueued : Serving first acked sent edge (conn.enqueueAckIf bytes.isSome) :=
    serving.of_same ⟨rfl, fun _ shaken => shaken⟩
  unfold Connection.receiveFin
  dsimp only
  split
  · split
    · rename_i inOrder
      refine ⟨{ serving with finSeen := ?_ }, rfl⟩
      intro finSeq seen
      rw [← Option.some.inj seen, inOrder]
    · exact ⟨enqueued, rfl⟩
  · exact ⟨enqueued, rfl⟩

theorem Closing.receiveFin (closing : Closing conn) (flags : RecvStatusFlags)
  (bytes : Option (List UInt8)) :
  Closing (conn.receiveFin segment flags bytes).1 ∧
    (conn.receiveFin segment flags bytes).2.bytes = bytes := by
  obtain ⟨finSeq, seen, -⟩ := closing.finSeen
  unfold Connection.receiveFin
  dsimp only
  rw [seen, Option.isNone_some, Bool.and_false, if_neg Bool.false_ne_true]
  exact ⟨closing.of_same ⟨rfl, fun _ shaken => shaken⟩, rfl⟩

theorem beyondFin_of_next (seen : conn.finReceived = some finSeq) (acked : conn.ackToSend = finSeq + 1)
  (small : segment.payload.length ≤ rcvBufMaxSize) (next : segment.sequenceNumber = conn.ackToSend) :
  conn.beyondFin (segment.sequenceNumber + UInt32.ofNat segment.payload.length) = true := by
  have bound : segment.payload.length ≤ 2500 := small
  have behind := @seqAtOrAfter_place 0 (1 + segment.payload.length) finSeq (by omega) (by omega)
  rw [place_zero, ← place_add] at behind
  rw [beyondFin, seen, next, acked, Bool.not_eq_true', ← Bool.not_eq_true]
  intro before
  have := behind.mp before
  omega

def heard : Except RecvError Received → List UInt8
  | .ok received => received.bytes.getD []
  | .error _ => []

theorem Serving.receivePayload (serving : Serving first acked sent edge conn) {bufLen : Nat}
  (room : bufLen ≤ rcvBufMaxSize) (flags : RecvStatusFlags) :
  Serving first acked sent edge (conn.receivePayload segment bufLen flags).1 ∧
    (heard (conn.receivePayload segment bufLen flags).2).length ≤ bufLen := by
  have established : conn.isEstablished = true := serving.established
  unfold Connection.receivePayload
  dsimp only
  rw [established]
  split
  · exact ⟨serving, Nat.zero_le _⟩
  split
  · exact ⟨serving, Nat.zero_le _⟩
  rename_i fits
  split
  · obtain ⟨kept, bytes⟩ := @Serving.receiveFin _ _ _ _ _ segment serving flags none
    exact ⟨kept, by simp [heard, bytes]⟩
  split
  · exact ⟨serving, Nat.zero_le _⟩
  rename_i before
  split
  · exact ⟨serving, Nat.zero_le _⟩
  split
  · exact ⟨serving.of_same ⟨rfl, fun _ shaken => shaken⟩, Nat.zero_le _⟩
  rename_i next
  have advanced : Serving first acked sent edge { conn with
      ackToSend := segment.sequenceNumber + UInt32.ofNat segment.payload.length } := by
    refine { serving with finSeen := ?_ }
    intro finSeq seen
    exact absurd (@beyondFin_of_next conn segment finSeq seen (serving.finSeen finSeq seen)
      (by omega) (by simpa using next)) before
  obtain ⟨kept, bytes⟩ := @Serving.receiveFin _ _ _ _ _ segment advanced flags (some segment.payload)
  exact ⟨kept, by rw [heard, bytes]; simpa using fits⟩

theorem Closing.receivePayload (closing : Closing conn) {bufLen : Nat}
  (room : bufLen ≤ rcvBufMaxSize) (flags : RecvStatusFlags) :
  Closing (conn.receivePayload segment bufLen flags).1 ∧
    heard (conn.receivePayload segment bufLen flags).2 = [] := by
  unfold Connection.receivePayload
  dsimp only
  split
  · exact ⟨closing, rfl⟩
  split
  · exact ⟨closing, rfl⟩
  rename_i fits
  split
  · obtain ⟨kept, bytes⟩ := @Closing.receiveFin _ segment closing flags none
    exact ⟨kept, by simp [heard, bytes]⟩
  split
  · exact ⟨closing, rfl⟩
  rename_i before
  split
  · exact ⟨closing, rfl⟩
  split
  · exact ⟨closing.of_same ⟨rfl, fun _ shaken => shaken⟩, rfl⟩
  rename_i next
  obtain ⟨finSeq, seen, acked⟩ := closing.finSeen
  exact absurd (beyondFin_of_next seen acked (by omega) (by simpa using next)) before

variable (room : bufLen ≤ rcvBufMaxSize)
  (done : conn.receiveSegment segment bufLen now = .ok (next, result))
include done

theorem receiveSegment_cases :
  (SameStream conn next ∧ heard result = []) ∨ conn.statusFlags.synackSent = true ∧
      ((next = (conn.receiveAck segment now).1 ∧ heard result = []) ∨ ∃ flags, (next, result) =
          (conn.receiveAck segment now).1.receivePayload segment bufLen flags) := by
  unfold receiveSegment at done
  split at done
  · cases done
    exact .inl ⟨⟨rfl, fun _ shaken => shaken⟩, rfl⟩
  split at done
  · obtain ⟨same, bytes⟩ := @receiveRst_same conn segment
    generalize conn.receiveRst segment = outcome at same bytes done
    cases done
    exact .inl ⟨same, by rw [heard, bytes]; rfl⟩
  obtain ⟨handshake, shaken, done⟩ := ok_of_bind done
  cases handshake with
  | some ended =>
    obtain ⟨same, bytes⟩ := receiveHandshake_same shaken
    cases done
    exact .inl ⟨same, by simp [heard, bytes]⟩
  | none =>
    refine .inr ⟨receiveHandshake_none shaken, ?_⟩
    dsimp only at done
    split at done
    · rename_i acked
      cases done
      exact .inl ⟨by rw [acked], rfl⟩
    rename_i other flags acked
    refine .inr ⟨flags, ?_⟩
    rw [acked]
    exact (Except.ok.inj done).symm

include room

theorem Opening.receiveSegment (opening : Opening first conn) :
  (Opening first next ∧ heard result = []) ∨
    ∃ edge, Serving first 0 0 edge next ∧ (heard result).length ≤ bufLen := by
  rcases receiveSegment_cases done with ⟨same, silent⟩ | ⟨synack, ⟨rfl, silent⟩ | ⟨flags, ended⟩⟩
  · exact .inl ⟨opening.of_same same, silent⟩
  · rcases @Opening.receiveAck _ _ segment opening synack now with still | ⟨edge, serving⟩
    · exact .inl ⟨still, silent⟩
    · exact .inr ⟨edge, serving, by simp [silent]⟩
  rcases @Opening.receiveAck _ _ segment opening synack now with still | ⟨edge, serving⟩
  · have unestablished : (conn.receiveAck segment now).1.isEstablished = false :=
      still.unestablished
    rw [receivePayload, unestablished] at ended
    cases ended
    exact .inl ⟨still, rfl⟩
  have kept := @Serving.receivePayload _ _ _ _ _ segment serving _ room flags
  rw [← ended] at kept
  exact .inr ⟨edge, kept⟩

theorem Serving.receiveSegment (serving : Serving first acked sent edge conn) :
  ∃ acked' edge', acked ≤ acked' ∧ Serving first acked' sent edge' next ∧
    (heard result).length ≤ bufLen := by
  obtain ⟨acked', edge', later, moved⟩ := @Serving.receiveAck _ _ _ _ _ segment serving now
  rcases receiveSegment_cases done with ⟨same, silent⟩ | ⟨-, ⟨rfl, silent⟩ | ⟨flags, ended⟩⟩
  · exact ⟨acked, edge, Nat.le_refl _, serving.of_same same, by simp [silent]⟩
  · exact ⟨acked', edge', later, moved, by simp [silent]⟩
  have kept := @Serving.receivePayload _ _ _ _ _ segment moved _ room flags
  rw [← ended] at kept
  exact ⟨acked', edge', later, kept⟩

theorem Closing.receiveSegment (closing : Closing conn) :
  Closing next ∧ heard result = [] := by
  have moved := @Closing.receiveAck _ segment closing now
  rcases receiveSegment_cases done with ⟨same, silent⟩ | ⟨-, ⟨rfl, silent⟩ | ⟨flags, ended⟩⟩
  · exact ⟨closing.of_same same, silent⟩
  · exact ⟨moved, silent⟩
  have kept := @Closing.receivePayload _ segment moved _ room flags
  rwa [← ended] at kept

omit room done

theorem findMssOption_ge {mss : UInt16} (found : findMssOption skip options = .ok (.ok (some mss))) :
  mssMin ≤ mss := by
  fun_induction findMssOption skip options with
  | case1 | case3 | case6 | case8 => cases found
  | case2 skip head rest ih | case4 kind len high low rest ih
  | case7 kind len high low rest _ _ _ _ ih => exact ih found
  | case5 len high low rest =>
    have found := Except.ok.inj found
    split at found
    · cases found
    rename_i large
    rw [← Option.some.inj (Except.ok.inj found)]
    exact UInt16.not_lt.mp large

theorem parseMssOption_ge {mss : UInt16} (parsed : parseMssOption segment = .ok (.ok mss)) :
  mssMin ≤ mss := by
  obtain ⟨result, found, parsed⟩ := ok_of_bind parsed
  rcases result with error | value | value
  · cases parsed
  · cases parsed
    decide
  cases parsed
  exact findMssOption_ge found

theorem findMssOption_total (skip : Nat) (options : List UInt8) :
  findMssOption skip options ≠ .error .panic := by
  fun_induction findMssOption skip options <;> simp_all

variable (segment)

theorem parseMssOption_total : parseMssOption segment ≠ .error .panic := by
  intro panics
  rcases error_of_bind panics with parse | ⟨result, -, rest⟩
  · exact findMssOption_total 0 segment.options parse
  · rcases result with error | value | value <;> cases rest

variable (conn)

theorem isSameSyn_total : conn.isSameSyn segment ≠ .error .panic := by
  intro panics
  unfold isSameSyn at panics
  split at panics
  · cases panics
  rcases error_of_bind panics with parse | ⟨result, -, rest⟩
  · exact parseMssOption_total segment parse
  · cases result <;> cases rest

theorem receiveHandshake_total : conn.receiveHandshake segment ≠ .error .panic := by
  intro panics
  unfold receiveHandshake at panics
  split at panics
  · rcases error_of_bind panics with same | ⟨result, -, rest⟩
    · exact isSameSyn_total conn segment same
    · split at rest <;> cases rest
  split at panics
  · rcases error_of_bind panics with same | ⟨result, -, rest⟩
    · exact isSameSyn_total conn segment same
    split at rest
    · cases rest
    · split at rest <;> cases rest
  · split at panics <;> cases panics

theorem receiveSegment_total : conn.receiveSegment segment bufLen now ≠ .error .panic := by
  intro panics
  unfold receiveSegment at panics
  split at panics
  · cases panics
  split at panics
  · cases panics
  rcases error_of_bind panics with handshake | ⟨result, -, rest⟩
  · exact receiveHandshake_total conn segment handshake
  cases result with
  | some ended => cases rest
  | none =>
    dsimp only at rest
    split at rest <;> cases rest

end

end Spacer.Dumbo.Connection
