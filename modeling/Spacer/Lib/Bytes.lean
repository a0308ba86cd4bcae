import Mathlib.Algebra.GroupWithZero.Nat
import Mathlib.Algebra.Ring.Int.Defs
import Mathlib.Data.List.Basic

/-! Fixed-width little-endian words and UTF-8 text as byte lists. -/

namespace Spacer.Lib

def littleEndian : Nat → Nat → List UInt8
  | 0, _ => []
  | width + 1, value => UInt8.ofNat (value % 256) :: littleEndian width (value / 256)

def ofLittleEndian : List UInt8 → Nat
  | [] => 0
  | byte :: rest => byte.toNat + 256 * ofLittleEndian rest

@[simp] theorem littleEndian_length (width : Nat) : (littleEndian width value).length = width := by
  induction width generalizing value with
  | zero => rfl
  | succ width ih => simp [littleEndian, ih]

theorem ofLittleEndian_littleEndian (width : Nat) : ∀ value, value < 256 ^ width →
  ofLittleEndian (littleEndian width value) = value := by
  induction width with
  | zero =>
    intro value bound
    simp only [Nat.pow_zero, Nat.lt_one_iff] at bound
    simp [littleEndian, ofLittleEndian, bound]
  | succ width ih =>
    intro value bound
    have small : value / 256 < 256 ^ width := by
      rw [Nat.pow_succ, Nat.mul_comm] at bound
      exact Nat.div_lt_of_lt_mul bound
    have low : (UInt8.ofNat (value % 256)).toNat = value % 256 := by
      rw [UInt8.toNat_ofNat']
      exact Nat.mod_eq_of_lt (Nat.mod_lt _ (by omega))
    rw [littleEndian, ofLittleEndian, ih _ small, low]
    omega

variable (bytes : List UInt8)

theorem ofLittleEndian_lt : ofLittleEndian bytes < 256 ^ bytes.length := by
  induction bytes with
  | nil => simp [ofLittleEndian]
  | cons byte rest ih =>
    have small := byte.toNat_lt
    rw [ofLittleEndian, List.length_cons, Nat.pow_succ]
    omega

theorem littleEndian_ofLittleEndian : littleEndian bytes.length (ofLittleEndian bytes) = bytes := by
  induction bytes with
  | nil => rfl
  | cons byte rest ih =>
    have small := byte.toNat_lt
    have low : (byte.toNat + 256 * ofLittleEndian rest) % 256 = byte.toNat := by omega
    have high : (byte.toNat + 256 * ofLittleEndian rest) / 256 = ofLittleEndian rest := by omega
    rw [List.length_cons, ofLittleEndian, littleEndian, low, high, ih, UInt8.ofNat_toNat]

theorem littleEndian_injective (leftFits : left < 256 ^ width) (rightFits : right < 256 ^ width)
  (same : littleEndian width left = littleEndian width right) : left = right := by
  have values := congrArg ofLittleEndian same
  rwa [ofLittleEndian_littleEndian _ _ leftFits, ofLittleEndian_littleEndian _ _ rightFits] at values

theorem littleEndian_zero (width : Nat) : littleEndian width 0 = List.replicate width 0 := by
  induction width with
  | zero => rfl
  | succ width ih =>
    rw [littleEndian, Nat.zero_div, ih]
    rfl

theorem littleEndian_padded (padding : Nat) (fits : value < 256 ^ width) :
  littleEndian width value ++ List.replicate padding 0 = littleEndian (width + padding) value := by
  induction width generalizing value with
  | zero =>
    have zero : value = 0 := by simpa using fits
    rw [zero, Nat.zero_add, littleEndian_zero padding]
    rfl
  | succ width ih =>
    have small : value / 256 < 256 ^ width := by
      rw [Nat.pow_succ, Nat.mul_comm] at fits
      exact Nat.div_lt_of_lt_mul fits
    rw [Nat.add_right_comm, littleEndian, littleEndian, List.cons_append, ih small]

def Fits32 (value : Int) : Prop := -2 ^ 31 ≤ value ∧ value < 2 ^ 31

instance (value : Int) : Decidable (Fits32 value) := inferInstanceAs (Decidable (_ ∧ _))

def signedBytes (value : Int) : List UInt8 := littleEndian 4 (value % 2 ^ 32).toNat

def ofSignedBytes : Int :=
  if ofLittleEndian bytes < 2 ^ 31 then (ofLittleEndian bytes : Int)
  else (ofLittleEndian bytes : Int) - 2 ^ 32

@[simp] theorem signedBytes_length (value : Int) : (signedBytes value).length = 4 :=
  littleEndian_length 4

theorem ofSignedBytes_signedBytes (fits : Fits32 value) : ofSignedBytes (signedBytes value) = value := by
  obtain ⟨lower, upper⟩ := fits
  have bound : (value % 2 ^ 32).toNat < 256 ^ 4 := by omega
  rw [ofSignedBytes, signedBytes, ofLittleEndian_littleEndian 4 _ bound]
  split <;> omega

theorem signedBytes_injective (leftFits : Fits32 left) (rightFits : Fits32 right)
  (same : signedBytes left = signedBytes right) : left = right := by
  have values := congrArg ofSignedBytes same
  rwa [ofSignedBytes_signedBytes leftFits, ofSignedBytes_signedBytes rightFits] at values

def encodeUtf8 (text : String) : List UInt8 :=
  text.toList.flatMap String.utf8EncodeChar

end Spacer.Lib
