import Spacer.Lib.Ring
import Spacer.Vsock.Packet

/-!
The ring buffer that holds guest data the host stream did not take yet, and the host
stream, of which the model keeps what was read from it and what it accepted.
-/

namespace Spacer.Vsock

open Lib

def connTxBufSize : UInt32 := 64 * 1024

inductive ReadAnswer
  | data (bytes : List UInt8)
  | fail (err : IoError)

inductive WriteAnswer
  | accept (count : Nat)
  | fail (err : IoError)

structure Stream where
  fd : Nat
  received : List UInt8
  written : List UInt8

namespace Stream

def new (fd : Nat) : Stream := ⟨fd, [], []⟩

def read (answer : ReadAnswer) (stream : Stream) (count : Nat) : Except IoError (List UInt8) × Stream :=
  match answer with
  | .data bytes =>
    (.ok (bytes.take count), { stream with received := stream.received ++ bytes.take count })
  | .fail err => (.error err, stream)

def write (answer : WriteAnswer) (stream : Stream) (bytes : List UInt8) : Except IoError Nat × Stream :=
  match answer with
  | .accept count =>
    (.ok (bytes.take count).length, { stream with written := stream.written ++ bytes.take count })
  | .fail err => (.error err, stream)

end Stream

structure TxBuf where
  data : Option (Nat → UInt8)
  head : UInt32
  tail : UInt32
  bounded : (head - tail).toNat ≤ connTxBufSize.toNat
  allocated : data = none → head = tail

theorem empty_bounded : ((0 : UInt32) - 0).toNat ≤ connTxBufSize.toNat := by decide

theorem distance_push (fits : (head - tail).toNat + count ≤ connTxBufSize.toNat) :
  (head + UInt32.ofNat count - tail).toNat = (head - tail).toNat + count := by
  have size : connTxBufSize.toNat = 65536 := rfl
  simp only [UInt32.toNat_sub, UInt32.toNat_add, UInt32.toNat_ofNat'] at fits ⊢
  omega

theorem distance_advance (fits : count ≤ (head - tail).toNat) :
  (head - (tail + UInt32.ofNat count)).toNat = (head - tail).toNat - count := by
  simp only [UInt32.toNat_sub, UInt32.toNat_add, UInt32.toNat_ofNat'] at fits ⊢
  have := tail.toNat_lt
  omega

namespace TxBuf

def size : Nat := connTxBufSize.toNat

def new : TxBuf := ⟨none, 0, 0, empty_bounded, fun _ => rfl⟩

variable (buf : TxBuf)

def len : Nat := (buf.head - buf.tail).toNat

def isEmpty : Bool := buf.len = 0

theorem len_new : new.len = 0 := rfl

theorem push_bounded {head tail : UInt32} (fits : (head - tail).toNat + count ≤ connTxBufSize.toNat) :
  (head + UInt32.ofNat count - tail).toNat ≤ connTxBufSize.toNat := by
  rw [distance_push fits]
  exact fits

theorem advance_bounded (fits : count ≤ buf.len) :
  (buf.head - (buf.tail + UInt32.ofNat count)).toNat ≤ connTxBufSize.toNat := by
  rw [distance_advance fits]
  exact Nat.le_trans (Nat.sub_le _ _) buf.bounded

theorem advance_allocated (fits : count ≤ buf.len) (none : buf.data = none) :
  buf.head = buf.tail + UInt32.ofNat count := by
  have same := buf.allocated none
  rw [len, same, UInt32.sub_self] at fits
  have zero : count = 0 := Nat.le_zero.mp fits
  rw [zero, same]
  simp

/-- All of the slice is pushed or, if there is no room for it, nothing. -/
def push (src : List UInt8) : Except IoError TxBuf :=
  if room : buf.len + src.length > size then .error .txBufFull
  else .ok {
    data := some (ringStore size (buf.data.getD fun _ => 0) buf.head.toNat src)
    head := buf.head + UInt32.ofNat src.length
    tail := buf.tail
    bounded := push_bounded (Nat.not_lt.mp room)
    allocated := fun none => absurd none (Option.some_ne_none _) }

def advance (count : Nat) : TxBuf :=
  if fits : count ≤ buf.len then
    { buf with
      tail := buf.tail + UInt32.ofNat count
      bounded := advance_bounded buf fits
      allocated := fun none => advance_allocated buf fits none }
  else buf

/-- Flushes in at most two pieces, one `write` each; `answers` are what the stream says to
the writes, and it would block once they are used up. -/
def flushTo (buf : TxBuf) (sink : Stream) : List WriteAnswer → Except IoError Nat × TxBuf × Stream
  | [] => if buf.isEmpty then (.ok 0, buf, sink) else (.error .wouldBlock, buf, sink)
  | answer :: answers =>
    if buf.isEmpty then (.ok 0, buf, sink)
    else
      let tailOfs := buf.tail.toNat % size
      let lenToWrite := ringRoom size tailOfs buf.len
      match sink.write answer (load (buf.data.getD fun _ => 0) tailOfs lenToWrite) with
      | (.error err, sink) => (.error err, buf, sink)
      | (.ok written, sink) =>
        let buf := buf.advance written
        if written < lenToWrite then (.ok written, buf, sink)
        else
          -- a failure of the second write is not one of the flush
          match buf.flushTo sink answers with
          | (.ok more, buf, sink) => (.ok (written + more), buf, sink)
          | (.error _, buf, sink) => (.ok written, buf, sink)

def write (bytes : List UInt8) : Except IoError Nat × TxBuf :=
  match buf.push bytes with
  | .ok buf => (.ok bytes.length, buf)
  | .error err => (.error err, buf)

def contents : List UInt8 :=
  ringContents size (buf.data.getD fun _ => 0) buf.tail.toNat buf.len

@[simp] theorem contents_length : buf.contents.length = buf.len :=
  ringContents_length

theorem contents_new : new.contents = [] := rfl

theorem contents_of_isEmpty {buf : TxBuf} (empty : buf.isEmpty = true) : buf.contents = [] := by
  have zero : buf.len = 0 := of_decide_eq_true empty
  exact List.length_eq_zero_iff.mp (by rw [contents_length, zero])

theorem head_place : buf.head.toNat % size = (buf.tail.toNat + buf.len) % size := by
  have whole : (2 ^ 32) % size = 0 := by decide
  have head := buf.head.toNat_lt
  have tail := buf.tail.toNat_lt
  have divides : size ∣ 2 ^ 32 := Nat.dvd_of_mod_eq_zero whole
  have wraps : buf.head.toNat = (buf.tail.toNat + buf.len) % 2 ^ 32 := by
    rw [len, UInt32.toNat_sub]
    omega
  rw [wraps, Nat.mod_mod_of_dvd _ divides]

theorem push_contents {buf pushed : TxBuf} (done : buf.push src = .ok pushed) :
  pushed.contents = buf.contents ++ src := by
  unfold push at done
  split at done
  · cases done
  rename_i room
  cases done
  have fits : buf.len + src.length ≤ size := Nat.not_lt.mp room
  have grown : (buf.head + UInt32.ofNat src.length - buf.tail).toNat = buf.len + src.length :=
    distance_push fits
  simp only [contents, len, Option.getD_some]
  rw [grown]
  exact ringContents_ringStore buf.head_place fits

theorem push_error {buf : TxBuf} (full : buf.push src = .error err) : size < buf.len + src.length := by
  unfold push at full
  split at full
  · assumption
  · cases full

theorem advance_contents {buf : TxBuf} (fits : count ≤ buf.len) :
  (buf.advance count).contents = buf.contents.drop count := by
  have whole : (2 ^ 32) % size = 0 := by decide
  have divides : size ∣ 2 ^ 32 := Nat.dvd_of_mod_eq_zero whole
  have shrunk : (buf.head - (buf.tail + UInt32.ofNat count)).toNat = buf.len - count :=
    distance_advance fits
  have tail : (buf.tail + UInt32.ofNat count).toNat % size = (buf.tail.toNat + count) % size := by
    rw [UInt32.toNat_add, UInt32.toNat_ofNat', Nat.mod_mod_of_dvd _ divides, Nat.add_mod,
      Nat.mod_mod_of_dvd _ divides, ← Nat.add_mod]
  unfold advance
  rw [dif_pos fits]
  simp only [contents, len]
  rw [shrunk, ringContents_drop]
  exact ringContents_congr tail

variable {buf}

structure Flushed (buf : TxBuf) (sink : Stream) (result : Except IoError Nat) (after : TxBuf)
  (sink' : Stream) (sent : List UInt8) : Prop where
  written : sink'.written = sink.written ++ sent
  contents : buf.contents = sent ++ after.contents
  counted : ∀ count, result = .ok count → count = sent.length
  failed : ∀ err, result = .error err → sent = []

variable (buf)

theorem Flushed.nothing (sink : Stream)
  (zero : ∀ count, result = .ok count → count = 0) : Flushed buf sink result buf sink [] :=
  ⟨by simp, rfl, zero, fun _ _ => rfl⟩

theorem first_write {buf : TxBuf} {sink sink' : Stream}
  (wrote : sink.write answer (load (buf.data.getD fun _ => 0) (buf.tail.toNat % size)
    (ringRoom size (buf.tail.toNat % size) buf.len)) = (.ok written, sink')) :
  written ≤ ringRoom size (buf.tail.toNat % size) buf.len ∧
    sink'.written = sink.written ++ buf.contents.take written := by
  have piece : load (buf.data.getD fun _ => 0) (buf.tail.toNat % size)
      (ringRoom size (buf.tail.toNat % size) buf.len) =
      buf.contents.take (ringRoom size (buf.tail.toNat % size) buf.len) :=
    load_eq_take (by decide) (Nat.le_refl _)
  cases answer with
  | fail err => cases wrote
  | accept count =>
    rw [Stream.write, piece, List.take_take] at wrote
    cases wrote
    have room : ringRoom size (buf.tail.toNat % size) buf.len ≤ buf.len := ringRoom_le
    have short : (buf.contents.take (min count (ringRoom size (buf.tail.toNat % size)
        buf.len))).length = min count (ringRoom size (buf.tail.toNat % size) buf.len) := by
      rw [List.length_take, contents_length]
      omega
    rw [short]
    exact ⟨Nat.min_le_right _ _, rfl⟩

theorem write_error {sink sink' : Stream} (failed : sink.write answer bytes = (.error err, sink')) :
  sink' = sink := by
  cases answer with
  | accept count => cases failed
  | fail io =>
    cases failed
    rfl

theorem flushTo_spec (sink : Stream) (answers : List WriteAnswer) :
  ∃ sent, Flushed buf sink (buf.flushTo sink answers).1 (buf.flushTo sink answers).2.1
    (buf.flushTo sink answers).2.2 sent := by
  induction answers generalizing buf sink with
  | nil =>
    unfold flushTo
    split
    · exact ⟨[], Flushed.nothing buf sink (by rintro _ ⟨⟩; rfl)⟩
    · exact ⟨[], Flushed.nothing buf sink nofun⟩
  | cons answer answers ih =>
    unfold flushTo
    split
    · exact ⟨[], Flushed.nothing buf sink (by rintro _ ⟨⟩; rfl)⟩
    dsimp only
    split
    · rename_i err sink' wrote
      rw [write_error wrote]
      exact ⟨[], Flushed.nothing buf sink nofun⟩
    rename_i written sink' wrote
    obtain ⟨fits, writes⟩ := first_write wrote
    have small : written ≤ buf.len := Nat.le_trans fits (ringRoom_le)
    have rest := advance_contents small
    have counted : (buf.contents.take written).length = written := by
      rw [List.length_take, contents_length]
      omega
    have whole : buf.contents = buf.contents.take written ++ (buf.advance written).contents := by
      rw [rest, List.take_append_drop]
    split
    · refine ⟨buf.contents.take written, writes, whole, ?_, nofun⟩
      rintro _ ⟨⟩
      exact counted.symm
    obtain ⟨sent, flushed⟩ := ih (buf.advance written) sink'
    split
    · rename_i more buf' sink'' again
      rw [again] at flushed
      refine ⟨buf.contents.take written ++ sent, ?_, ?_, ?_, nofun⟩
      · rw [flushed.written, writes, List.append_assoc]
      · rw [List.append_assoc, ← flushed.contents]
        exact whole
      rintro _ ⟨⟩
      rw [List.length_append, counted, flushed.counted more rfl]
    rename_i err buf' sink'' again
    rw [again] at flushed
    have none : sent = [] := flushed.failed err rfl
    refine ⟨buf.contents.take written, ?_, ?_, ?_, nofun⟩
    · rw [flushed.written, writes, none, List.append_nil]
    · have same := flushed.contents
      rw [none, List.nil_append] at same
      rw [← same]
      exact whole
    rintro _ ⟨⟩
    exact counted.symm

inductive Call
  | push (src : List UInt8)
  | flushTo (sink : Stream) (answers : List WriteAnswer)

inductive Outcome
  | pushed (result : Except IoError Unit)
  | flushed (result : Except IoError Nat) (sink : Stream)

def call : Call → Outcome × TxBuf
  | .push src =>
    match buf.push src with
    | .ok buf => (.pushed (.ok ()), buf)
    | .error err => (.pushed (.error err), buf)
  | .flushTo sink answers =>
    match buf.flushTo sink answers with
    | (result, buf, sink) => (.flushed result sink, buf)

def run (buf : TxBuf) : List Call → List Outcome × TxBuf
  | [] => ([], buf)
  | next :: calls =>
    let (outcome, buf) := buf.call next
    let (outcomes, buf) := buf.run calls
    (outcome :: outcomes, buf)

/-- A queue of bytes with room for 65536 of them. -/
inductive Fifo : List UInt8 → Call → Outcome → List UInt8 → Prop
  | pushed (fits : held.length + src.length ≤ 65536) :
    Fifo held (.push src) (.pushed (.ok ())) (held ++ src)
  | full (exceeds : 65536 < held.length + src.length) :
    Fifo held (.push src) (.pushed (.error .txBufFull)) held
  | flushed (accepted : sink'.written = sink.written ++ sent) :
    Fifo (sent ++ held) (.flushTo sink answers) (.flushed (.ok sent.length) sink') held
  | failed (refused : sink'.written = sink.written) :
    Fifo held (.flushTo sink answers) (.flushed (.error err) sink') held

inductive FifoRun : List UInt8 → List Call → List Outcome → List UInt8 → Prop
  | nil : FifoRun held [] [] held
  | cons (first : Fifo held next outcome between) (rest : FifoRun between calls outcomes last) :
    FifoRun held (next :: calls) (outcome :: outcomes) last

theorem call_fifo (next : Call) : Fifo buf.contents next (buf.call next).1 (buf.call next).2.contents := by
  cases next with
  | push src =>
    have length := buf.contents_length
    unfold call
    dsimp only
    cases done : buf.push src with
    | ok pushed =>
      rw [push_contents done]
      apply Fifo.pushed
      by_contra exceeds
      rw [push, dif_pos (by rw [← length]; exact Nat.lt_of_not_le exceeds)] at done
      cases done
    | error err =>
      have exceeds := push_error done
      rw [push, dif_pos exceeds] at done
      cases done
      rw [← length] at exceeds
      exact .full exceeds
  | flushTo sink answers =>
    obtain ⟨sent, flushed⟩ := buf.flushTo_spec sink answers
    unfold call
    dsimp only
    rw [flushed.contents]
    cases result : (buf.flushTo sink answers).1 with
    | ok count =>
      rw [flushed.counted count result]
      exact .flushed flushed.written
    | error err =>
      have none := flushed.failed err result
      subst none
      exact .failed (by rw [flushed.written, List.append_nil])

theorem run_refines_fifo (calls : List Call) :
  FifoRun [] calls (new.run calls).1 (new.run calls).2.contents := by
  have anyStart : ∀ buf : TxBuf, FifoRun buf.contents calls (buf.run calls).1
      (buf.run calls).2.contents := by
    induction calls with
    | nil => exact fun _ => .nil
    | cons next calls ih => exact fun buf => .cons (buf.call_fifo next) (ih _)
  exact anyStart new

end TxBuf

end Spacer.Vsock
