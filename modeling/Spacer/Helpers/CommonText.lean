import Spacer.Lib.Dict
import Spacer.Lib.Python

/-! `uk_elf_sharing.process_common_text`: the grouped common section is cut into text and
read-only data. -/

namespace Spacer.Helpers

open Lib List

/-- `Section` of `uk_sharing_class.py`. -/
structure UkSection where
  name : String
  start : Nat
  offset : Int
  size : Nat
  alignment : Nat
  ukName : String
  data : List UInt8

/-- The map that `get_rodata_text_size.py` has written. -/
structure MapSize where
  common : Option String
  sizes : Dict String Nat

def MapSize.lookup (maps : MapSize) (label : String) : Except PyError Nat :=
  match maps.sizes.get? label with
  | some size => .ok size
  | none => .error .keyError

variable (maps : MapSize) (oldData : List UInt8)

/-- `old_data[first:last]`. -/
def slice (first last : Nat) : List UInt8 := (oldData.take last).drop first

def splitLib (bts : List UInt8 × List UInt8) (label : String) :
  Except PyError (List UInt8 × List UInt8) := do
  let textSize ← maps.lookup (label ++ ".o(.text)")
  let rodataSize ← maps.lookup (label ++ ".o(.rodata)")
  -- `old_text_offset` is 0 for every library
  pure (bts.1 ++ slice oldData 0 textSize, bts.2 ++ slice oldData textSize (textSize + rodataSize))

def processCommonText (s : UkSection) : Except PyError (UkSection × UkSection) := do
  let allLibs ← maps.common.elim (.error .keyError) .ok
  let (textBt, rodataBt) ← ((allLibs.toList.splitOn ';').map String.ofList).foldlM
    (splitLib maps oldData) ([], [])
  pure (⟨".text.common", s.start + textBt.length, -1, textBt.length, s.alignment, s.ukName, textBt⟩,
    ⟨".rodata.common", s.start + textBt.length + rodataBt.length, -1, rodataBt.length, s.alignment,
      s.ukName, rodataBt⟩)

structure CommonLib where
  name : String
  text : List UInt8
  rodata : List UInt8

namespace CommonLib

def block (lib : CommonLib) : List UInt8 := lib.text ++ lib.rodata

def Sized (lib : CommonLib) : Prop :=
  maps.lookup (lib.name ++ ".o(.text)") = .ok lib.text.length ∧
    maps.lookup (lib.name ++ ".o(.rodata)") = .ok lib.rodata.length

/-- What the script takes for the library. -/
def cut (lib : CommonLib) : List UInt8 × List UInt8 :=
  (slice oldData 0 lib.text.length, slice oldData lib.text.length (lib.text.length + lib.rodata.length))

end CommonLib

open CommonLib

structure Describes (libs : List CommonLib) : Prop where
  common : maps.common = some (";".intercalate (libs.map name))
  clean : ∀ lib ∈ libs, ';' ∉ lib.name.toList
  sized : ∀ lib ∈ libs, lib.Sized maps
  others : libs = [] → maps.lookup ("" ++ ".o(.text)") = .error .keyError

variable {maps} {libs : List CommonLib}

theorem splitLibs_ok (sized : ∀ lib ∈ libs, lib.Sized maps) (bts : List UInt8 × List UInt8) :
  (libs.map name).foldlM (splitLib maps oldData) bts =
    .ok (bts.1 ++ libs.flatMap (·.cut oldData |>.1), bts.2 ++ libs.flatMap (·.cut oldData |>.2)) := by
  induction libs generalizing bts with
  | nil =>
    simp only [map_nil, foldlM_nil, flatMap_nil, append_nil]
    rfl
  | cons lib rest ih =>
    rw [forall_mem_cons] at sized
    have step : splitLib maps oldData bts lib.name =
        .ok (bts.1 ++ (lib.cut oldData).1, bts.2 ++ (lib.cut oldData).2) := by
      rw [splitLib, bind_of_ok sized.1.1, bind_of_ok sized.1.2]
      rfl
    rw [map_cons, foldlM_cons, bind_of_ok step, ih sized.2]
    simp only [flatMap_cons, append_assoc]

theorem labels_eq (clean : ∀ lib ∈ libs, ';' ∉ lib.name.toList) (nonempty : libs ≠ []) :
  ((";".intercalate (libs.map name)).toList.splitOn ';').map String.ofList = libs.map name := by
  have apart : ∀ label ∈ (libs.map name).map String.toList, ';' ∉ label := by simpa using clean
  have split := splitOn_intercalate ';' apart (by simpa using nonempty)
  rw [String.toList_intercalate]
  exact (congrArg (map String.ofList) split).trans (by simp)

theorem flatMap_inj {items : List α} {first second : α → List β}
  (same : items.flatMap first = items.flatMap second)
  (lengths : ∀ item ∈ items, (first item).length = (second item).length) :
  ∀ item ∈ items, first item = second item := by
  induction items with
  | nil => nofun
  | cons item rest ih =>
    rw [forall_mem_cons] at lengths ⊢
    obtain ⟨here, later⟩ := append_inj same lengths.1
    exact ⟨here, ih later lengths.2⟩

theorem cut_length (member : lib ∈ libs) :
  (lib.cut (libs.flatMap block)).1.length = lib.text.length ∧
    (lib.cut (libs.flatMap block)).2.length = lib.rodata.length := by
  have fits : lib.block.length ≤ (libs.flatMap block).length :=
    (sublist_flatten_of_mem (mem_map_of_mem member)).length_le
  simp only [block, cut, slice, length_append, length_drop, length_take] at fits ⊢
  omega

theorem cut_eq_iff (member : lib ∈ libs) :
  lib.cut (libs.flatMap block) = (lib.text, lib.rodata) ↔ lib.block <+: libs.flatMap block := by
  obtain ⟨textLength, _⟩ := cut_length member
  have whole : (lib.cut (libs.flatMap block)).1 ++ (lib.cut (libs.flatMap block)).2 =
      (libs.flatMap block).take lib.block.length := by
    rw [block, length_append, take_add, cut, slice, slice, drop_zero, drop_take, Nat.add_sub_cancel_left]
  rw [prefix_iff_eq_take, ← whole, block]
  constructor
  · intro same
    rw [same]
  intro same
  obtain ⟨left, right⟩ := append_inj same textLength.symm
  exact Prod.ext left.symm right.symm

def mapSizeOf (libs : List CommonLib) : MapSize where
  common := some (";".intercalate (libs.map name))
  sizes := libs.foldl (fun sizes lib => (sizes.set (lib.name ++ ".o(.text)") lib.text.length).set
    (lib.name ++ ".o(.rodata)") lib.rodata.length) .empty

def groupedSection : UkSection := ⟨".text.rodata.common", 0x110000, 0x1000, 4, 16, "uk", []⟩

end Spacer.Helpers
