import Spacer.Dumbo.Phases

/-!
What a connection sends in each phase.  Only a connection that serves sends data, and then it
sends the bytes that follow those it has sent.
-/

namespace Spacer.Dumbo.Connection

open Lib Lib.Serial

def written : Except WriteNextError (Option Incomplete) → Option Incomplete
  | .ok segment => segment
  | .error _ => none

structure Quiet (conn : Connection)
  (outcome : Connection × Except WriteNextError (Option Incomplete)) : Prop where
  same : SameStream conn outcome.1
  empty : ∀ segment, written outcome.2 = some segment → segment.payload = []

section

variable {conn other : Connection} {bufLen : Nat} {mssReserved : UInt16} {ack : UInt32}
  {segment : Incomplete} {outcome : Connection × Except WriteNextError (Option Incomplete)}

theorem SameStream.refl (conn : Connection) : SameStream conn conn :=
  ⟨rfl, fun _ shaken => shaken⟩

theorem SameStream.trans (earlier : SameStream conn other) (later : SameStream other last) :
  SameStream conn last := by
  refine ⟨later.stream.trans earlier.stream, ?_⟩
  intro established shaken
  have fields := earlier.stream
  simp only [Connection.stream, Prod.mk.injEq] at fields
  exact later.shaken (fields.2.2.2.2.2.2.1.trans established) (earlier.shaken established shaken)

theorem Quiet.of_same (quiet : Quiet other outcome) (same : SameStream conn other) : Quiet conn outcome :=
  ⟨same.trans quiet.same, quiet.empty⟩

theorem quiet_error (conn : Connection) (error : WriteNextError) : Quiet conn (conn, .error error) :=
  ⟨.refl conn, fun _ sent => by cases sent⟩

theorem quiet_none (conn : Connection) : Quiet conn (conn, .ok none) :=
  ⟨.refl conn, fun _ sent => by cases sent⟩

theorem writeSegment_ok
  (done : conn.writeSegment bufLen mssReserved seq ack flags payload = .ok (next, segment)) :
  next = { conn with pendingAck := conn.pendingAck && !flags.ack } ∧
    ∃ mssOption mssRemaining, writeIncompleteSegment bufLen seq ack flags conn.localRwnd
      mssOption mssRemaining payload = .ok segment := by
  unfold writeSegment at done
  dsimp only at done
  split at done
  · cases done
  split at done
  · cases done
  rename_i writes
  cases done
  exact ⟨rfl, _, _, writes⟩

theorem writeControlSegment_ok (done : conn.writeControlSegment bufLen mssReserved = .ok (next, segment)) :
  (∃ pendingAck, next = { conn with pendingAck }) ∧ segment.payload = [] := by
  unfold writeControlSegment at done
  obtain ⟨changed, _, _, writes⟩ := writeSegment_ok done
  exact ⟨⟨_, changed⟩, (writeIncompleteSegment_ok writes).2.2⟩

theorem finish_control
  (keeps : ∀ next segment, SameStream next (record next segment).1 ∧ (record next segment).2 = segment) :
  Quiet conn (conn.finish (conn.writeControlSegment bufLen mssReserved) record) := by
  cases done : conn.writeControlSegment bufLen mssReserved with
  | error error => exact quiet_error conn error
  | ok pair =>
    obtain ⟨next, segment⟩ := pair
    obtain ⟨⟨pendingAck, rfl⟩, empty⟩ := writeControlSegment_ok done
    obtain ⟨same, kept⟩ := keeps { conn with pendingAck } segment
    have pending : SameStream conn { conn with pendingAck } := ⟨rfl, fun _ shaken => shaken⟩
    refine ⟨pending.trans same, ?_⟩
    intro sent found
    rw [← Option.some.inj found, kept]
    exact empty

theorem writeRst_quiet : Quiet conn (conn.writeRst bufLen mssReserved) :=
  finish_control fun _ _ => ⟨⟨rfl, fun _ shaken => shaken⟩, rfl⟩

variable (now : UInt64)

theorem writeSynack_quiet : Quiet conn (conn.writeSynack bufLen mssReserved now) :=
  finish_control fun _ _ => ⟨⟨rfl, fun _ _ => rfl⟩, rfl⟩

theorem rewriteControl_quiet : Quiet conn (conn.rewriteControl bufLen mssReserved now) :=
  finish_control fun _ _ => ⟨⟨rfl, fun _ shaken => shaken⟩, rfl⟩

theorem countRto_same : SameStream conn conn.countRto := ⟨rfl, fun _ shaken => shaken⟩

theorem awaitEstablished_quiet : Quiet conn (conn.awaitEstablished bufLen mssReserved now) := by
  unfold awaitEstablished
  split
  · split
    · exact writeRst_quiet.of_same (countRto_same.trans reset_same)
    · exact (rewriteControl_quiet now).of_same countRto_same
  · exact quiet_none conn

theorem writeAckOrFin_quiet (noFin : conn.sendFin = none) :
  Quiet conn (conn.writeAckOrFin bufLen mssReserved) := by
  have first : conn.canSendFirstFin = false := by simp [canSendFirstFin, noFin]
  unfold writeAckOrFin
  dsimp only
  rw [first]
  split
  · exact finish_control fun next _ => ⟨.refl next, rfl⟩
  · exact quiet_none conn

theorem writeNextSegment_quiet (noFin : conn.sendFin = none) (now : UInt64) :
  Quiet conn (conn.writeNextSegment bufLen mssReserved none now) := by
  unfold writeNextSegment
  split
  · exact quiet_error conn _
  split
  · exact writeRst_quiet
  split
  · exact writeSynack_quiet now
  split
  · exact awaitEstablished_quiet now
  · exact writeAckOrFin_quiet noFin

theorem Closing.writeAckOrFin (closing : Closing conn) : Closing (conn.writeAckOrFin bufLen mssReserved).1 ∧
    ∀ segment, written (conn.writeAckOrFin bufLen mssReserved).2 = some segment → segment.payload = [] := by
  unfold Connection.writeAckOrFin
  dsimp only
  split
  · cases done : conn.writeControlSegment bufLen mssReserved with
    | error error => exact ⟨closing, (quiet_error conn error).empty⟩
    | ok pair =>
      obtain ⟨next, segment⟩ := pair
      obtain ⟨⟨pendingAck, rfl⟩, empty⟩ := writeControlSegment_ok done
      constructor
      · dsimp only [finish]
        split <;> exact { closing with }
      intro sent found
      rw [← Option.some.inj found]
      exact empty
  · exact ⟨closing, (quiet_none conn).empty⟩

theorem Closing.writeNextSegment (closing : Closing conn) (now : UInt64) :
  Closing (conn.writeNextSegment bufLen mssReserved none now).1 ∧
    ∀ segment, written (conn.writeNextSegment bufLen mssReserved none now).2 = some segment →
      segment.payload = [] := by
  have quietly {outcome} (quiet : Quiet conn outcome) : Closing outcome.1 ∧
      ∀ segment, written outcome.2 = some segment → segment.payload = [] :=
    ⟨closing.of_same quiet.same, quiet.empty⟩
  unfold Connection.writeNextSegment
  split
  · exact quietly (quiet_error conn _)
  split
  · exact quietly writeRst_quiet
  split
  · exact quietly (writeSynack_quiet now)
  split
  · exact quietly (awaitEstablished_quiet now)
  · exact closing.writeAckOrFin

end

section

variable {first : UInt32} {acked sent edge : Nat} {conn : Connection} {bufLen : Nat}
  {mssReserved : UInt16} {readBuf : List UInt8}

inductive Continues (first : UInt32) (acked sent edge : Nat) (readBuf : List UInt8)
  (conn : Connection) (outcome : Connection × Except WriteNextError (Option Incomplete)) : Prop
  | quiet (quiet : Quiet conn outcome)
  | data (segment : Incomplete) (count : Nat) (sends : written outcome.2 = some segment)
      (seq : segment.seq = place first sent) (payload : segment.payload = readBuf.take count)
      (some : 0 < count) (le : count ≤ readBuf.length)
      (serving : Serving first acked (sent + count) edge outcome.1)

theorem sendPlan_cases (conn : Connection) (now : UInt64) : SameStream conn (conn.sendPlan now).1 ∧
    ∀ seqToSend rtoTriggered, (conn.sendPlan now).2 = .data seqToSend rtoTriggered →
      seqToSend = conn.highestAckReceived ∨ seqToSend = conn.firstNotSent := by
  unfold sendPlan
  split
  · split
    · exact ⟨countRto_same, fun _ _ plan => by cases plan⟩
    split
    · exact ⟨countRto_same, fun _ _ plan => by cases plan⟩
    · exact ⟨countRto_same, fun _ _ plan => by cases plan; exact .inl rfl⟩
  split
  · exact ⟨.refl conn, fun _ _ plan => by cases plan; exact .inl rfl⟩
  · exact ⟨.refl conn, fun _ _ plan => by cases plan; exact .inr rfl⟩

theorem Continues.of_same (continues : Continues first acked sent edge readBuf other outcome)
  (same : SameStream conn other) : Continues first acked sent edge readBuf conn outcome := by
  cases continues with
  | quiet quiet => exact .quiet (quiet.of_same same)
  | data segment count sends seq payload some le serving =>
    exact .data segment count sends seq payload some le serving

variable (serving : Serving first acked sent edge conn)
include serving

theorem Serving.actualEnd (small : readBuf.length ≤ 1073725440) :
  conn.actualEnd readBuf (place first sent) = place first (min edge (sent + readBuf.length)) := by
  have bounds := And.intro serving.acked_le (And.intro serving.sent_le serving.edge_le)
  have order := @seqAtOrAfter_place edge (sent + readBuf.length) first (by omega) (by omega)
  unfold Connection.actualEnd
  dsimp only
  rw [place_add, serving.window]
  split
  · rename_i late
    rw [Nat.min_eq_right (order.mp late)]
  rename_i early
  rw [order] at early
  rw [Nat.min_eq_left (by omega)]

theorem Serving.recordData {segment : Incomplete}
  (some : 0 < segment.payload.length) (fits : sent + segment.payload.length ≤ edge)
  (rtoTriggered : Bool) (now : UInt64) :
  Serving first acked (sent + segment.payload.length) edge
      (conn.recordData (place first sent) rtoTriggered now segment).1 ∧
    (conn.recordData (place first sent) rtoTriggered now segment).2 = segment := by
  have bounds := And.intro serving.acked_le serving.edge_le
  have ahead : seqAfter (place first (sent + segment.payload.length)) conn.firstNotSent = true := by
    rw [serving.unsent, seqAfter_place (by omega) (by omega)]
    omega
  have last : (conn.sendFin = Option.some (place first (sent + segment.payload.length))) = False := by
    simp [serving.noFin]
  refine ⟨{ serving with
    established := ?_, unsent := ?_, acked_le := by omega, sent_le := fits }, ?_⟩
  · exact serving.established
  · simp [Connection.recordData, place_add, last, ahead]
  · simp [Connection.recordData, place_add, last]

theorem Serving.writeData (small : readBuf.length ≤ 1073725440)
  (choice : seqToSend = place first acked ∨ seqToSend = place first sent) (rtoTriggered : Bool)
  (now : UInt64) :
  Continues first acked sent edge readBuf conn (conn.writeData bufLen mssReserved readBuf
    (place first sent) seqToSend rtoTriggered now) := by
  have bounds := And.intro serving.acked_le (And.intro serving.sent_le serving.edge_le)
  unfold Connection.writeData
  dsimp only
  split
  · exact .quiet (quiet_error conn _)
  rename_i known
  have here : seqToSend = place first sent := by
    rcases choice with rfl | here
    · rw [Bool.not_eq_true', Bool.not_eq_false, seqAtOrAfter_place (by omega) (by omega)] at known
      rw [Nat.le_antisymm serving.acked_le known]
    · exact here
  subst here
  split
  · exact .quiet (quiet_error conn _)
  split
  · rename_i more
    rw [serving.actualEnd small, seqAfter_place (by omega) (by omega)] at more
    cases done : conn.writeSegment bufLen mssReserved (place first sent) conn.ackToSend
        { ack := true } (some (readBuf,
          (conn.actualEnd readBuf (place first sent) - place first sent).toNat)) with
    | error error => exact .quiet (quiet_error conn error)
    | ok pair =>
      obtain ⟨next, segment⟩ := pair
      obtain ⟨rfl, _, _, writes⟩ := writeSegment_ok done
      obtain ⟨seq, -, count, payload, positive, le, room⟩ := writeIncompleteSegment_ok writes
      rw [serving.actualEnd small, place_sub (by omega) (by omega)] at room
      have length : segment.payload.length = count := by
        rw [payload, List.length_take, Nat.min_eq_left le]
      have kept : Serving first acked sent edge { conn with
          pendingAck := conn.pendingAck && !true } :=
        serving.of_same ⟨rfl, fun _ shaken => shaken⟩
      obtain ⟨recorded, unchanged⟩ := @Serving.recordData _ _ _ _ _ kept segment
        (by omega) (by omega) rtoTriggered now
      rw [length] at recorded
      exact .data segment count (congrArg some unchanged) seq payload positive le recorded
  · exact .quiet (writeAckOrFin_quiet serving.noFin)

theorem Serving.writePayload (now : UInt64) :
  Continues first acked sent edge readBuf conn
    (conn.writePayload bufLen mssReserved readBuf (place first sent) now) := by
  obtain ⟨same, choice⟩ := sendPlan_cases conn now
  rw [serving.highest, serving.unsent] at choice
  unfold Connection.writePayload
  split
  · exact .quiet (quiet_error conn _)
  rename_i small
  have small : readBuf.length ≤ 1073725440 := Nat.not_lt.mp small
  generalize conn.sendPlan now = plan at same choice
  obtain ⟨next, plan⟩ := plan
  cases plan with
  | reset => exact .quiet (writeRst_quiet.of_same (same.trans reset_same))
  | fin => exact .quiet ((rewriteControl_quiet now).of_same same)
  | data seqToSend rtoTriggered =>
    have counted := serving.of_same same
    exact (counted.writeData small (choice _ _ rfl) rtoTriggered now).of_same same

theorem Serving.writeNextSegment (now : UInt64) :
  Continues first acked sent edge readBuf conn (conn.writeNextSegment bufLen mssReserved
    (some (readBuf, place first sent)) now) := by
  unfold Connection.writeNextSegment
  split
  · exact .quiet (quiet_error conn _)
  split
  · exact .quiet writeRst_quiet
  split
  · exact .quiet (writeSynack_quiet now)
  split
  · exact .quiet (awaitEstablished_quiet now)
  · exact serving.writePayload now

omit serving

end

section

variable {conn : Connection} {bufLen : Nat}
  {outcome : Connection × Except WriteNextError (Option Incomplete)}

def Silent (conn : Connection) (outcome : Connection × Except WriteNextError (Option Incomplete)) : Prop :=
  written outcome.2 = none → ∃ rtoCount, outcome.1 = { conn with rtoCount }

theorem silent_error (conn : Connection) (error : WriteNextError) : Silent conn (conn, .error error) :=
  fun _ => ⟨conn.rtoCount, rfl⟩

theorem silent_none (conn : Connection) : Silent conn (conn, .ok none) :=
  fun _ => ⟨conn.rtoCount, rfl⟩

theorem Silent.of_count {rtoCount : UInt16} (silent : Silent { conn with rtoCount } outcome) :
  Silent conn outcome := by
  intro nothing
  obtain ⟨count, same⟩ := silent nothing
  exact ⟨count, same⟩

theorem reset_mss : conn.reset.mss = conn.mss := by
  unfold reset
  split <;> rfl

variable (large : 24 ≤ bufLen) (roomy : mssMin ≤ conn.mss)
include large roomy

theorem silent_finish_control
  (record : Connection → Incomplete → Connection × Incomplete) (other : Connection) :
  Silent other (conn.finish (conn.writeControlSegment bufLen 0) record) := by
  have mss : 100 ≤ conn.mss.toNat := UInt16.le_iff_toNat_le.mp roomy
  have wrote : ∃ pair, conn.writeControlSegment bufLen 0 = .ok pair := by
    unfold writeControlSegment writeSegment
    obtain ⟨seq, ack, flags⟩ := conn.controlFields
    dsimp only
    rw [if_neg (UInt16.not_lt.mpr UInt16.zero_le), UInt16.sub_zero]
    generalize (if flags = { syn := true, ack := true } then some conn.mss else none) = mssOption
    have small := optionsLen_le mssOption
    rw [writeIncompleteSegment_control (by omega) (by rw [optionsOffset]; omega)]
    exact ⟨_, rfl⟩
  obtain ⟨pair, wrote⟩ := wrote
  rw [wrote]
  intro nothing
  cases nothing

theorem writeAckOrFin_silent :
  Silent conn (conn.writeAckOrFin bufLen 0) := by
  unfold writeAckOrFin
  dsimp only
  split
  · exact silent_finish_control large roomy _ conn
  · exact silent_none conn

theorem awaitEstablished_silent (now : UInt64) : Silent conn (conn.awaitEstablished bufLen 0 now) := by
  unfold awaitEstablished
  split
  · split
    · refine silent_finish_control large ?_ _ conn
      rw [reset_mss]
      exact roomy
    · exact @silent_finish_control conn.countRto bufLen large roomy _ conn
  · exact silent_none conn

theorem writeData_silent (readBuf : List UInt8) (payloadSeq seqToSend : UInt32) (rtoTriggered : Bool) (now : UInt64) :
  Silent conn (conn.writeData bufLen 0 readBuf payloadSeq seqToSend rtoTriggered now) := by
  unfold writeData
  dsimp only
  split
  · exact silent_error conn _
  split
  · exact silent_error conn _
  split
  · cases conn.writeSegment bufLen 0 seqToSend conn.ackToSend { ack := true } (some (readBuf,
        (conn.actualEnd readBuf payloadSeq - seqToSend).toNat)) with
    | error error => exact silent_error conn error
    | ok pair =>
      intro nothing
      cases nothing
  · exact writeAckOrFin_silent large roomy

theorem writePayload_silent (now : UInt64) :
  Silent conn (conn.writePayload bufLen 0 readBuf payloadSeq now) := by
  have plan : ∃ rtoCount, (conn.sendPlan now).1 = { conn with rtoCount } := by
    unfold sendPlan
    split
    · split
      · exact ⟨conn.rtoCount + 1, rfl⟩
      split <;> exact ⟨conn.rtoCount + 1, rfl⟩
    split <;> exact ⟨conn.rtoCount, rfl⟩
  obtain ⟨rtoCount, counted⟩ := plan
  unfold writePayload
  split
  · exact silent_error conn _
  generalize conn.sendPlan now = plan at counted
  obtain ⟨next, plan⟩ := plan
  subst counted
  cases plan with
  | reset =>
    refine silent_finish_control large ?_ _ conn
    rw [reset_mss]
    exact roomy
  | fin => exact @silent_finish_control { conn with rtoCount } bufLen large roomy _ conn
  | data seqToSend rtoTriggered =>
    exact (@writeData_silent { conn with rtoCount } bufLen large roomy readBuf payloadSeq
      seqToSend rtoTriggered now).of_count

theorem writeNextSegment_silent (src : PayloadSource) (now : UInt64) :
  Silent conn (conn.writeNextSegment bufLen 0 src now) := by
  unfold writeNextSegment
  split
  · exact silent_error conn _
  split
  · exact silent_finish_control large roomy _ conn
  split
  · exact silent_finish_control large roomy _ conn
  split
  · exact awaitEstablished_silent large roomy now
  split
  · exact writePayload_silent large roomy now
  · exact writeAckOrFin_silent large roomy

omit large roomy

end

end Spacer.Dumbo.Connection
