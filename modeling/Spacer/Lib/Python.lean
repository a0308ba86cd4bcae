import Mathlib.Data.List.Infix
import Spacer.Lib.Bytes
import Spacer.Lib.Lists

/-!
Python built-ins: the exceptions a script can end with, `needle in text`,
`str.startswith`, `str.replace`, hexadecimal literals and `int.to_bytes`.
-/

namespace Spacer.Lib

open List

inductive PyError
  | attributeError
  | fileNotFoundError
  | indexError
  | keyError
  | nameError
  | overflowError
  | unboundLocalError
  | valueError
  deriving DecidableEq

def startsWith (text start : String) : Bool :=
  start.toList.isPrefixOf text.toList

def occursIn (needle text : String) : Bool :=
  text.toList.tails.any fun rest => needle.toList.isPrefixOf rest

theorem occursIn_iff : occursIn needle text = true ↔ needle.toList <:+: text.toList := by
  simp only [occursIn, any_eq_true, mem_tails, isPrefixOf_iff_prefix]
  rw [infix_iff_prefix_suffix]
  constructor
  · rintro ⟨rest, suffix, start⟩
    exact ⟨rest, start, suffix⟩
  rintro ⟨rest, start, suffix⟩
  exact ⟨rest, suffix, start⟩

theorem occursIn_trans {inner : String} (first : occursIn inner needle = true) (second : occursIn needle text = true) :
  occursIn inner text = true := by
  rw [occursIn_iff] at *
  exact first.trans second

/-- `text.replace(needle, new)` on characters, for a non-empty needle; `skip`
characters of the last match are still to be dropped. -/
def replaceChars (needle new : List Char) (skip : Nat) : List Char → List Char
  | [] => []
  | first :: rest =>
    if 0 < skip then replaceChars needle new (skip - 1) rest
    else if needle.isPrefixOf (first :: rest) then
      new ++ replaceChars needle new (needle.length - 1) rest
    else first :: replaceChars needle new 0 rest

def replaceText (text needle new : String) : String :=
  String.ofList (replaceChars needle.toList new.toList 0 text.toList)

example : replaceText ".text.libukalloc" ".text" ".rodata" = ".rodata.libukalloc" := by decide

def hexDigit (digit : Char) : Option Nat :=
  if '0' ≤ digit ∧ digit ≤ '9' then some (digit.toNat - '0'.toNat)
  else if 'a' ≤ digit ∧ digit ≤ 'f' then some (digit.toNat - 'a'.toNat + 10)
  else if 'A' ≤ digit ∧ digit ≤ 'F' then some (digit.toNat - 'A'.toNat + 10)
  else none

/-- The digits of `0x[A-Fa-f0-9]{count,}` at the start of a text. -/
def hexLiteral (count : Nat) (text : List Char) : Option (List Char) :=
  match text with
  | '0' :: 'x' :: rest =>
    let digits := rest.takeWhile fun digit => (hexDigit digit).isSome
    if count ≤ digits.length then some digits else none
  | _ => none

def searchHex (count : Nat) : List Char → Option (List Char)
  | [] => none
  | first :: rest => (hexLiteral count (first :: rest)).orElse fun _ => searchHex count rest

def ofHex (digits : List Char) : Nat :=
  digits.foldl (fun value digit => value * 16 + (hexDigit digit).getD 0) 0

/-- `value.to_bytes(4, byteorder='little', signed=True)`. -/
def toSignedBytes (value : Int) : Except PyError (List UInt8) :=
  if Fits32 value then .ok (signedBytes value) else .error .overflowError

theorem toSignedBytes_eq_ok (written : toSignedBytes value = .ok bytes) :
  Fits32 value ∧ bytes = signedBytes value := by
  unfold toSignedBytes at written
  split at written
  · rename_i fits
    cases written
    exact ⟨fits, rfl⟩
  · cases written

/-- `bytes.find(needle)` for a non-empty needle. -/
def findBytes (needle : List UInt8) : List UInt8 → Option Nat
  | [] => none
  | first :: rest =>
    if needle.isPrefixOf (first :: rest) then some 0
    else (findBytes needle rest).map (· + 1)

theorem findBytes_eq_some (found : findBytes needle bytes = some index) :
  ∃ front back, bytes = front ++ needle ++ back ∧ front.length = index := by
  induction bytes generalizing index with
  | nil => cases found
  | cons first rest ih =>
    rw [findBytes] at found
    split at found
    · rename_i here
      obtain ⟨back, equal⟩ := isPrefixOf_iff_prefix.mp here
      cases found
      exact ⟨[], back, equal.symm, rfl⟩
    obtain ⟨later, atLater, rfl⟩ := Option.map_eq_some_iff.mp found
    obtain ⟨front, back, equal, length⟩ := ih atLater
    exact ⟨first :: front, back, by rw [equal]; rfl, by rw [length_cons, length]⟩

theorem findBytes_isSome (nonempty : needle ≠ []) (inside : needle <:+: bytes) :
  ∃ index, findBytes needle bytes = some index := by
  induction bytes with
  | nil => exact absurd (infix_nil.mp inside) nonempty
  | cons first rest ih =>
    rw [findBytes]
    split
    · exact ⟨0, rfl⟩
    rename_i elsewhere
    rw [ isPrefixOf_iff_prefix] at elsewhere
    obtain ⟨index, found⟩ := ih ((infix_cons_iff.mp inside).resolve_left elsewhere)
    exact ⟨index + 1, by rw [found]; rfl⟩

/-- `value.to_bytes(width, byteorder='little')`. -/
def toBytes (value width : Nat) : Except PyError (List UInt8) :=
  if value < 256 ^ width then .ok (littleEndian width value) else .error .overflowError

theorem toBytes_eq (fits : value < 256 ^ width) : toBytes value width = .ok (littleEndian width value) := by
  simp [toBytes, fits]

theorem toBytes_ok_iff (value width : Nat) :
  (∃ bytes, toBytes value width = .ok bytes) ↔ value < 256 ^ width := by
  simp only [toBytes]
  by_cases fits : value < 256 ^ width <;> simp [fits]

end Spacer.Lib
