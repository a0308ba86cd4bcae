import Spacer.Seccomp.Core

/-! What a condition of a rule means for a system call, and that its code decides it. -/

namespace Spacer.Seccomp

open Lib Lib.Bpf

structure SeccompData where
  nr : UInt32
  arch : UInt32
  instructionPointer : UInt64
  args : Fin 6 → UInt64

namespace SeccompData

def size : Nat := 64

variable (data : SeccompData)

def words : List UInt32 :=
  [data.nr, data.arch] ++ (data.instructionPointer :: List.ofFn data.args).flatMap fun word =>
      [SeccompCondition.lsb word, SeccompCondition.msb word]

def load (offset : UInt32) : UInt32 :=
  data.words.getD (offset.toNat / 4) 0

def arg (number : UInt8) : UInt64 :=
  if inside : number.toNat < 6 then data.args ⟨number.toNat, inside⟩ else 0

theorem load_nr : data.load seccompDataNrOffset.toUInt32 = data.nr := rfl

theorem load_arch : data.load 4 = data.arch := rfl

end SeccompData

def SeccompCmpOp.compare : SeccompCmpOp → Nat → Nat → Bool
  | .eq, argument, value => argument = value
  | .ge, argument, value => argument ≥ value
  | .gt, argument, value => argument > value
  | .le, argument, value => argument ≤ value
  | .lt, argument, value => argument < value
  | .maskedEq mask, argument, value => argument &&& mask.toNat = value &&& mask.toNat
  | .ne, argument, value => argument ≠ value

def SeccompCmpArgLen.bits : SeccompCmpArgLen → Nat
  | .dword => 32
  | .qword => 64

namespace SeccompCondition

variable (condition : SeccompCondition) (data : SeccompData)

def holds : Bool :=
  condition.operator.compare ((data.arg condition.argNumber).toNat % 2 ^ condition.argLen.bits)
    (condition.value.toNat % 2 ^ condition.argLen.bits)

def Valid : Prop := condition.argNumber ≤ argNumberMax

theorem validate_ok_iff : condition.validate = .ok () ↔ condition.Valid := by
  unfold validate Valid
  split
  · rename_i large
    simpa using large
  rename_i small
  simpa using small

variable (value : UInt64)

theorem msb_toNat : (msb value).toNat = value.toNat / 2 ^ 32 := by
  have bound := value.toNat_lt
  rw [msb, UInt64.toNat_toUInt32, UInt64.toNat_shiftRight, Nat.shiftRight_eq_div_pow]
  change value.toNat / 2 ^ 32 % 2 ^ 32 = value.toNat / 2 ^ 32
  omega

theorem lsb_toNat : (lsb value).toNat = value.toNat % 2 ^ 32 := by
  simp only [lsb, UInt64.toNat_toUInt32]

variable {condition : SeccompCondition}

variable (valid : condition.Valid)
include valid

theorem argNumber_cases : condition.argNumber = 0 ∨
  condition.argNumber = 1 ∨ condition.argNumber = 2 ∨ condition.argNumber = 3 ∨
  condition.argNumber = 4 ∨ condition.argNumber = 5 := by
  have bound : condition.argNumber.toNat ≤ 5 := UInt8.le_iff_toNat_le.mp valid
  simp only [← UInt8.toNat_inj]
  change _ = 0 ∨ _ = 1 ∨ _ = 2 ∨ _ = 3 ∨ _ = 4 ∨ _ = 5
  omega

theorem load_lsbOffset (data : SeccompData) :
  data.load condition.lsbOffset.toUInt32 = lsb (data.arg condition.argNumber) := by
  unfold lsbOffset argOffset
  rcases argNumber_cases valid with number | number | number | number | number | number <;>
  · rw [number]
    rfl

theorem load_msbOffset (data : SeccompData) :
  data.load condition.msbOffset.toUInt32 = msb (data.arg condition.argNumber) := by
  unfold msbOffset argOffset
  rcases argNumber_cases valid with number | number | number | number | number | number <;>
  · rw [number]
    rfl

theorem offsets_loadable :
  (condition.lsbOffset.toNat < SeccompData.size ∧ condition.lsbOffset.toNat % 4 = 0) ∧
  condition.msbOffset.toNat < SeccompData.size ∧ condition.msbOffset.toNat % 4 = 0 := by
  unfold msbOffset lsbOffset argOffset
  rcases argNumber_cases valid with number | number | number | number | number | number <;>
  · rw [number]
    decide

omit valid

section

/-! Sixty-four bits are compared by their most significant halves first. -/

variable {α : Type} (next fail : α) (left right : UInt64)

theorem ladder_eq : (if msb left = msb right then if lsb left = lsb right then next else fail else fail) =
    if left.toNat = right.toNat then next else fail := by
  simp only [← UInt32.toNat_inj, msb_toNat, lsb_toNat]
  split_ifs <;> first | rfl | omega

theorem ladder_ge : (if msb right < msb left then next
    else if msb left = msb right then if lsb right ≤ lsb left then next else fail else fail) =
    if right.toNat ≤ left.toNat then next else fail := by
  simp only [← UInt32.toNat_inj, UInt32.lt_iff_toNat_lt, UInt32.le_iff_toNat_le, msb_toNat, lsb_toNat]
  split_ifs <;> first | rfl | omega

theorem ladder_gt : (if msb right < msb left then next
    else if msb left = msb right then if lsb right < lsb left then next else fail else fail) =
    if right.toNat < left.toNat then next else fail := by
  simp only [← UInt32.toNat_inj, UInt32.lt_iff_toNat_lt, msb_toNat, lsb_toNat]
  split_ifs <;> first | rfl | omega

theorem flip_lt (second : Nat) :
  (if first < second then fail else next) = if second ≤ first then next else fail := by
  split_ifs <;> first | rfl | omega

theorem flip_le (second : Nat) :
  (if first ≤ second then fail else next) = if second < first then next else fail := by
  split_ifs <;> first | rfl | omega

end

variable (mask : UInt64)

theorem msb_and : msb (value &&& mask) = msb value &&& msb mask := by
  rw [← UInt32.toNat_inj, UInt32.toNat_and, msb_toNat, msb_toNat, msb_toNat, UInt64.toNat_and,
    Nat.and_div_two_pow]

theorem lsb_and : lsb (value &&& mask) = lsb value &&& lsb mask := by
  rw [← UInt32.toNat_inj, UInt32.toNat_and, lsb_toNat, lsb_toNat, lsb_toNat, UInt64.toNat_and,
    Nat.and_mod_two_pow]

/-- The code goes on behind itself or `offset` instructions further, as `verdict` says,
wherever nothing behind it depends on the accumulator. -/
def Decides (code : List SockFilter) (offset : UInt8) (verdict : Bool) : Prop :=
  ∀ (rest : List SockFilter) (next fail : Option UInt32) (acc : UInt32),
    (∀ acc, exec data.load 0 acc rest = next) →
    (∀ acc, exec data.load offset.toNat acc rest = fail) →
    exec data.load 0 acc (code ++ rest) = if verdict = true then next else fail

theorem holds_dword (short : condition.argLen = .dword) (data : SeccompData) :
  condition.holds data = condition.operator.compare
    (lsb (data.arg condition.argNumber)).toNat (lsb condition.value).toNat := by
  rw [holds, short, lsb_toNat, lsb_toNat]
  rfl

theorem holds_qword (long : condition.argLen = .qword) (data : SeccompData) :
  condition.holds data = condition.operator.compare
    (data.arg condition.argNumber).toNat condition.value.toNat := by
  rw [holds, long]
  simp only [SeccompCmpArgLen.bits]
  rw [Nat.mod_eq_of_lt (UInt64.toNat_lt _), Nat.mod_eq_of_lt (UInt64.toNat_lt _)]

theorem toNat_add_of_room {offset extra : UInt8} (room : offset.toNat + extra.toNat < 256) :
  (offset + extra).toNat = offset.toNat + extra.toNat := by
  rw [UInt8.toNat_add, Nat.mod_eq_of_lt room]

theorem lsb_masked : (lsb value).toNat &&& mask.toNat = (lsb (value &&& mask)).toNat := by
  have small : (lsb value).toNat &&& mask.toNat < 2 ^ 32 :=
    Nat.lt_of_le_of_lt Nat.and_le_left (lsb value).toNat_lt
  rw [← Nat.mod_eq_of_lt small, Nat.and_mod_two_pow, Nat.mod_eq_of_lt (lsb value).toNat_lt, lsb_and,
    UInt32.toNat_and, lsb_toNat mask]

section

variable {offset : UInt8} (valid : condition.Valid) (room : offset.toNat + 3 < 256) (data : SeccompData)

include valid

theorem exec_segments_dword (short : condition.argLen = .dword) (acc : UInt32)
  (high low rest : List SockFilter) :
  exec data.load 0 acc (condition.segmentsBpf high low ++ rest) =
    exec data.load 0 (lsb (data.arg condition.argNumber)) (low ++ rest) := by
  simp [segmentsBpf, short, load_lsbOffset valid]

theorem exec_segments_qword (long : condition.argLen = .qword) (acc : UInt32)
  (high low rest : List SockFilter) :
  exec data.load 0 acc (condition.segmentsBpf high low ++ rest) =
    exec data.load 0 (msb (data.arg condition.argNumber))
      (high ++ stmt .ldAbs condition.lsbOffset.toUInt32 :: (low ++ rest)) := by
  simp [segmentsBpf, long, load_msbOffset valid]

theorem decides_dword (short : condition.argLen = .dword) :
  Decides data (condition.intoBpf offset) offset (condition.holds data) := by
  intro rest next fail acc matched failed
  have start := exec_segments_dword valid data short acc
  rw [holds_dword short]
  unfold intoBpf
  cases condition.operator with
  | eq => simp [intoEqBpf, start, matched, failed, SeccompCmpOp.compare, UInt32.toNat_inj]
  | ge => simp [intoGeBpf, start, matched, failed, SeccompCmpOp.compare, UInt32.le_iff_toNat_le]
  | gt => simp [intoGtBpf, start, matched, failed, SeccompCmpOp.compare, UInt32.lt_iff_toNat_lt]
  | le =>
    simp [intoLeBpf, start, matched, failed, SeccompCmpOp.compare, UInt32.lt_iff_toNat_lt, flip_lt]
  | lt =>
    simp [intoLtBpf, start, matched, failed, SeccompCmpOp.compare, UInt32.le_iff_toNat_le, flip_le]
  | maskedEq mask =>
    simp [intoMaskedEqBpf, start, matched, failed, SeccompCmpOp.compare, lsb_masked, ← lsb_and,
      UInt32.toNat_inj]
  | ne => simp [intoNeBpf, start, matched, failed, SeccompCmpOp.compare, UInt32.toNat_inj]

include room

theorem decides_qword (long : condition.argLen = .qword) :
  Decides data (condition.intoBpf offset) offset (condition.holds data) := by
  intro rest next fail acc matched failed
  have start := exec_segments_qword valid data long acc
  have low := load_lsbOffset valid data
  have two : (offset + 2).toNat = offset.toNat + 2 := toNat_add_of_room (by simpa using by omega)
  have three : (offset + 3).toNat = offset.toNat + 3 := toNat_add_of_room (by simpa using by omega)
  rw [holds_qword long]
  unfold intoBpf
  cases condition.operator with
  | eq => simp [intoEqBpf, start, low, two, matched, failed, SeccompCmpOp.compare, ladder_eq]
  | ge => simp [intoGeBpf, start, low, two, matched, failed, SeccompCmpOp.compare, ladder_ge]
  | gt => simp [intoGtBpf, start, low, two, matched, failed, SeccompCmpOp.compare, ladder_gt]
  | le =>
    simp [intoLeBpf, start, low, three, matched, failed, SeccompCmpOp.compare, ladder_gt, flip_lt]
  | lt =>
    simp [intoLtBpf, start, low, three, matched, failed, SeccompCmpOp.compare, ladder_ge, flip_le]
  | maskedEq mask =>
    simp [intoMaskedEqBpf, start, low, three, matched, failed, SeccompCmpOp.compare, ← msb_and,
      ← lsb_and, ← UInt64.toNat_and, ladder_eq]
  | ne => simp [intoNeBpf, start, low, matched, failed, SeccompCmpOp.compare, ladder_eq]

theorem decides_intoBpf : Decides data (condition.intoBpf offset) offset (condition.holds data) := by
  cases length : condition.argLen with
  | dword => exact decides_dword valid data length
  | qword => exact decides_qword valid room data length

omit data room in
theorem insnsOk_segmentsBpf (highOk : insnsOk SeccompData.size (low.length + 1 + after) high = true)
  (lowOk : insnsOk SeccompData.size after low = true) :
  insnsOk SeccompData.size after (condition.segmentsBpf high low) = true := by
  have loads := offsets_loadable valid
  unfold segmentsBpf
  cases condition.argLen with
  | dword => simp [insnsOk, lowOk, loads]
  | qword => simp [insnsOk, insnsOk_append, highOk, lowOk, loads]

omit data in
theorem insnsOk_intoBpf {after : Nat} (inside : offset.toNat < after) :
  insnsOk SeccompData.size after (condition.intoBpf offset) = true := by
  have two : (offset + 2).toNat = offset.toNat + 2 := toNat_add_of_room (by simpa using by omega)
  have three : (offset + 3).toNat = offset.toNat + 3 := toNat_add_of_room (by simpa using by omega)
  unfold intoBpf
  cases condition.operator <;>
  · refine insnsOk_segmentsBpf valid ?_ ?_ <;>
    simpa [insnsOk, two, three] using by omega

end

variable (condition)

theorem length_segmentsBpf : (condition.segmentsBpf high low).length ≤ high.length + low.length + 2 := by
  unfold segmentsBpf
  cases condition.argLen with
  | dword | qword => simpa using by omega

/-- The constant `conditionMaxLen` was properly updated. -/
theorem length_intoBpf (offset : UInt8) : (condition.intoBpf offset).length ≤ conditionMaxLen.toNat := by
  unfold intoBpf
  cases condition.operator <;>
  · refine (length_segmentsBpf _).trans ?_
    simp [conditionMaxLen]

end SeccompCondition

end Spacer.Seccomp
