import Spacer.Lib.Serial

/-!
TCP segments as the MMDS sees them: what is read from an incoming one, and how an outgoing one is
written to a buffer.
-/

namespace Spacer.Dumbo

open Lib

/-- Why a call does not come back: it panics, or it never ends. -/
inductive Stop
  | panic
  | hang
  deriving DecidableEq

abbrev Exec := Except Stop

def maxWindowSize : UInt32 := 1073725440

def mssDefault : UInt16 := 536

def mssMin : UInt16 := 100

def optionsOffset : Nat := 20

def optionLenMss : Nat := 4

def seqAfter (a b : UInt32) : Bool := Serial.after maxWindowSize a b

def seqAtOrAfter (a b : UInt32) : Bool := Serial.atOrAfter maxWindowSize a b

theorem window_half : 2 * maxWindowSize.toNat ≤ 2 ^ 32 := by decide

theorem seqAfter_place (ahead : a < b + 1073725440) (behind : b ≤ a + 1073725440) :
  seqAfter (Serial.place first a) (Serial.place first b) = true ↔ b < a :=
  Serial.after_place window_half ahead behind

theorem seqAtOrAfter_place (ahead : a < b + 1073725440) (behind : b ≤ a + 1073725440) :
  seqAtOrAfter (Serial.place first a) (Serial.place first b) = true ↔ b ≤ a :=
  Serial.atOrAfter_place window_half ahead behind

theorem seq_between (order : low ≤ high) (near : high < low + 1073725440)
  (late : seqAtOrAfter number (Serial.place first low) = true)
  (early : seqAtOrAfter (Serial.place first high) number = true) :
  ∃ index, number = Serial.place first index ∧ low ≤ index ∧ index ≤ high :=
  Serial.between window_half order near late early

structure TcpFlags where
  cwr : Bool := false
  ece : Bool := false
  urg : Bool := false
  ack : Bool := false
  psh : Bool := false
  rst : Bool := false
  syn : Bool := false
  fin : Bool := false
  deriving DecidableEq

inductive TcpSegmentError
  | checksum
  | emptyPayload
  | headerLen
  | mssOption
  | mssRemaining
  | sliceTooShort
  deriving DecidableEq

structure TcpSegment where
  sourcePort : UInt16
  destinationPort : UInt16
  sequenceNumber : UInt32
  ackNumber : UInt32
  flags : TcpFlags
  windowSize : UInt16
  options : List UInt8
  payload : List UInt8

variable (bytes : List UInt8) (offset : Nat)

def ntohs : UInt16 :=
  (bytes.getD offset 0).toUInt16 * 256 + (bytes.getD (offset + 1) 0).toUInt16

def ntohl : UInt32 :=
  (ntohs bytes offset).toUInt32 * 65536 + (ntohs bytes (offset + 2)).toUInt32

def TcpFlags.fromBits (bits : UInt8) : TcpFlags where
  cwr := bits &&& 128 ≠ 0
  ece := bits &&& 64 ≠ 0
  urg := bits &&& 32 ≠ 0
  ack := bits &&& 16 ≠ 0
  psh := bits &&& 8 ≠ 0
  rst := bits &&& 4 ≠ 0
  syn := bits &&& 2 ≠ 0
  fin := bits &&& 1 ≠ 0

def maxHeaderLen : Nat := 60

def TcpSegment.fromBytes : Except TcpSegmentError TcpSegment :=
  if bytes.length < optionsOffset then .error .sliceTooShort
  else
    let headerLen := (bytes.getD 12 0 >>> 4).toNat * 4
    if headerLen < optionsOffset || headerLen > min maxHeaderLen bytes.length then
      .error .headerLen
    else
      .ok {
        sourcePort := ntohs bytes 0
        destinationPort := ntohs bytes 2
        sequenceNumber := ntohl bytes 4
        ackNumber := ntohl bytes 8
        flags := .fromBits (bytes.getD 13 0)
        windowSize := ntohs bytes 14
        options := (bytes.take headerLen).drop optionsOffset
        payload := bytes.drop headerLen }

/-- Walks over the options, of which the first `skip` bytes are passed.  An unknown option of
length 0 is never passed. -/
def findMssOption : Nat → List UInt8 → Exec (Except TcpSegmentError (Option UInt16))
  | _, [] => .ok (.ok none)
  | skip + 1, _ :: rest => findMssOption skip rest
  | 0, kind :: rest =>
    match rest with
    | len :: high :: low :: _ =>
      if kind = 0 then .ok (.ok none)
      else if kind = 1 then findMssOption 0 rest
      else if kind = 2 then
        let mss := high.toUInt16 * 256 + low.toUInt16
        .ok (if mss < mssMin then .error .mssOption else .ok (some mss))
      else if len = 0 then .error .hang
      else findMssOption (len.toNat - 1) rest
    | _ => .ok (.ok none)

def TcpSegment.parseMssOption (segment : TcpSegment) : Exec (Except TcpSegmentError (Option UInt16)) :=
  findMssOption 0 segment.options

inductive RstConfig
  | seq (number : UInt32)
  | ack (number : UInt32)

namespace RstConfig

def new (segment : TcpSegment) : RstConfig :=
  if segment.flags.ack then .seq segment.ackNumber
  else .ack (segment.sequenceNumber + UInt32.ofNat segment.payload.length)

def seqAckTcpFlags : RstConfig → UInt32 × UInt32 × TcpFlags
  | .seq number => (number, 0, { rst := true })
  | .ack number => (0, number, { rst := true, ack := true })

end RstConfig

structure Incomplete where
  seq : UInt32
  ack : UInt32
  flags : TcpFlags
  windowSize : UInt16
  mssOption : Option UInt16
  payload : List UInt8

def optionsLen (mssOption : Option UInt16) : Nat :=
  if mssOption.isSome then optionLenMss else 0

def Incomplete.len (segment : Incomplete) : Nat :=
  optionsOffset + optionsLen segment.mssOption + segment.payload.length

def writeIncompleteSegment (bufLen : Nat) (seq ack : UInt32) (flags : TcpFlags)
  (windowSize : UInt16) (mssOption : Option UInt16) (mssRemaining : UInt16)
  (payload : Option (List UInt8 × Nat)) : Except TcpSegmentError Incomplete :=
  if mssRemaining.toNat < optionsLen mssOption then .error .mssRemaining
  else if bufLen < optionsOffset + optionsLen mssOption then .error .sliceTooShort
  else match payload with
    | none => .ok ⟨seq, ack, flags, windowSize, mssOption, []⟩
    | some (payloadBuf, maxPayloadBytes) =>
      let leftToRead := min payloadBuf.length maxPayloadBytes
      let room := min (min (bufLen - (optionsOffset + optionsLen mssOption))
        (mssRemaining.toNat - optionsLen mssOption)) leftToRead
      if room = 0 then .error .emptyPayload
      else .ok ⟨seq, ack, flags, windowSize, mssOption, payloadBuf.take room⟩

variable {ack : UInt32} {segment : Incomplete}

theorem writeIncompleteSegment_ok
  (written : writeIncompleteSegment bufLen seq ack flags windowSize mssOption mssRemaining
    payload = .ok segment) :
  segment.seq = seq ∧ segment.flags = flags ∧
    match payload with
    | none => segment.payload = []
    | some (payloadBuf, maxPayloadBytes) =>
      ∃ count, segment.payload = payloadBuf.take count ∧ 0 < count ∧
        count ≤ payloadBuf.length ∧ count ≤ maxPayloadBytes := by
  unfold writeIncompleteSegment at written
  dsimp only at written
  split at written
  · cases written
  split at written
  · cases written
  split at written
  · cases written
    exact ⟨rfl, rfl, rfl⟩
  split at written
  · cases written
  rename_i room
  cases written
  exact ⟨rfl, rfl, _, rfl, by omega, by omega, by omega⟩

theorem writeIncompleteSegment_control (fits : optionsLen mssOption ≤ mssRemaining.toNat)
  (large : optionsOffset + optionsLen mssOption ≤ bufLen) :
  writeIncompleteSegment bufLen seq ack flags windowSize mssOption mssRemaining none =
    .ok ⟨seq, ack, flags, windowSize, mssOption, []⟩ := by
  rw [writeIncompleteSegment, if_neg (Nat.not_lt.mpr fits), if_neg (Nat.not_lt.mpr large)]

theorem optionsLen_le (mssOption : Option UInt16) : optionsLen mssOption ≤ 4 := by
  unfold optionsLen
  split <;> decide

end Spacer.Dumbo
