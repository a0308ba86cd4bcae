import Spacer.Lib.Blocks
import Spacer.Loader.Run

/-!
The image a loader spells in a region: its mappings and copies as blocks, in
both modes.
-/

namespace Spacer.Loader

open Lib List

variable (host : Host)

def entryBlock (aslr : Bool) (s : Sections) : Block UInt8 :=
  ⟨s.vma, (host.shm (shmName aslr s.name)).getD [], true⟩

def updateBlock (s : Sections) : Block UInt8 :=
  ⟨s.vma, s.bytes.getD [], false⟩

variable (loader : LoaderInfo) (filename : String)

def dataBlock : Block UInt8 :=
  ⟨dataStartFrom loader.sectionsLoader 0, (host.file filename).getD [], true⟩

def mappedBlocks : List (Block UInt8) :=
  (loader.sectionsLoader.filter mapsEntry).map (entryBlock host loader.aslr) ++
    if loader.aslr then [] else [dataBlock host loader filename]

def copiedBlocks : List (Block UInt8) :=
  if loader.aslr then loader.bin.map updateBlock else []

def loaderBlocks : List (Block UInt8) :=
  mappedBlocks host loader filename ++ copiedBlocks loader

variable {host} {loader} {filename}

/-- A unikernel whose sections have the recorded sizes, fit below `size` and do
not overlap. -/
structure Image (host : Host) (loader : LoaderInfo) (filename : String) (size : Nat) : Prop where
  loadable : Loadable host loader filename
  entrySized : ∀ s ∈ loader.sectionsLoader, mapsEntry s = true →
    ((host.shm (shmName loader.aslr s.name)).getD []).length = s.size
  updateSized : loader.aslr = true → ∀ s ∈ loader.bin, (s.bytes.getD []).length = s.size
  inside : ∀ block ∈ loaderBlocks host loader filename, block.start + block.content.length ≤ size
  apart : (loaderBlocks host loader filename).Pairwise Block.Apart

theorem usizeAdd_of_lt (small : left + right < 2 ^ 64) : usizeAdd left right = left + right :=
  Nat.mod_eq_of_lt small

theorem mmap_overlay : (Effect.mmap (regionAddr + start) content.length content).overlay =
    (Block.mk start content true).overlay 0 pageSize regionAddr := rfl

theorem memcpy_overlay : (Effect.memcpy (regionAddr + start) content).overlay =
    (Block.mk start content false).overlay 0 pageSize regionAddr := by
  simp only [Effect.overlay, Block.overlay, Block.span, Bool.false_eq_true, if_false,
    Overlay.mk.injEq, true_and]
  funext offset
  by_cases inside : offset < content.length
  · simp [inside]
  · simp [inside]

section

variable (image : Image host loader filename size)
include image

theorem Image.placed : Placed pageSize (mappedBlocks host loader filename) (copiedBlocks loader) := by
  refine ⟨?_, ?_, ?_, image.apart⟩
  · intro block member
    simp only [mappedBlocks, mem_append, mem_map] at member
    rcases member with ⟨s, _, rfl⟩ | data
    · rfl
    split at data
    · simp at data
    rw [mem_singleton.mp data]
    rfl
  · intro block member
    simp only [copiedBlocks] at member
    split at member
    · obtain ⟨s, _, rfl⟩ := mem_map.mp member
      rfl
    · simp at member
  intro block member
  simp only [mappedBlocks, mem_append, mem_map, mem_filter] at member
  rcases member with ⟨s, ⟨_, taken⟩, rfl⟩ | data
  · exact Nat.dvd_of_mod_eq_zero ((mapsEntry_iff s).mp taken).1
  split at data
  · simp at data
  rw [mem_singleton.mp data]
  exact Nat.dvd_of_mod_eq_zero (dataStartFrom_aligned loader.sectionsLoader (Nat.zero_mod pageSize))

theorem Image.regionEffects_overlays (reachable : ∀ block ∈ loaderBlocks host loader filename, regionAddr + block.start < 2 ^ 64) :
  (regionEffects host loader regionAddr filename).map Effect.overlay =
    (loaderBlocks host loader filename).map (Block.overlay 0 pageSize regionAddr) := by
  have entries : ((loader.sectionsLoader.filter mapsEntry).map
        (entryEffect host loader.aslr regionAddr)).map Effect.overlay =
      ((loader.sectionsLoader.filter mapsEntry).map (entryBlock host loader.aslr)).map
        (Block.overlay 0 pageSize regionAddr) := by
    rw [map_map, map_map]
    apply map_congr_left
    intro s member
    obtain ⟨listed, taken⟩ := mem_filter.mp member
    have small : regionAddr + s.vma < 2 ^ 64 :=
      reachable (entryBlock host loader.aslr s) (mem_append_left _
        (mem_append_left _ (mem_map_of_mem member)))
    have sized := image.entrySized s listed taken
    simp only [Function.comp_apply, entryEffect]
    rw [usizeAdd_of_lt small, ← sized, mmap_overlay]
    rfl
  rw [regionEffects, loaderBlocks, mappedBlocks, map_append, map_append, map_append, entries, append_assoc]
  congr 1
  cases mode : loader.aslr with
  | true =>
    simp only [moveEffects, copiedBlocks, mode, if_true, map_nil, nil_append, map_map]
    apply map_congr_left
    intro s member
    have small : regionAddr + s.vma < 2 ^ 64 :=
      reachable (updateBlock s) (mem_append_right _ (by
        simpa only [copiedBlocks, mode, if_true] using mem_map_of_mem member))
    have sized := image.updateSized mode s member
    simp only [Function.comp_apply, updateEffect]
    rw [usizeAdd_of_lt small, take_of_length_le (Nat.le_of_eq sized), memcpy_overlay]
    rfl
  | false =>
    have small : regionAddr + dataStartFrom loader.sectionsLoader 0 < 2 ^ 64 :=
      reachable (dataBlock host loader filename) (mem_append_left _ (mem_append_right _ (by simp [mode])))
    simp only [moveEffects, copiedBlocks, mode, Bool.false_eq_true, if_false, map_cons,
      map_nil, append_nil, List.cons.injEq, and_true, dataEffect]
    rw [usizeAdd_of_lt small, mmap_overlay]
    rfl

theorem Image.applyEffects_cell (reachable : ∀ block ∈ loaderBlocks host loader filename, regionAddr + block.start < 2 ^ 64)
  (memory : Memory) (guest : Nat) :
  applyEffects memory (regionEffects host loader regionAddr filename) (regionAddr + guest) =
    if ∃ block ∈ loaderBlocks host loader filename, block.Covers pageSize guest then
      some (imageAt 0 (loaderBlocks host loader filename) guest)
    else memory (regionAddr + guest) := by
  rw [applyEffects, image.regionEffects_overlays reachable]
  exact image.placed.applyAll_cell (by decide) memory regionAddr guest

omit image

end

end Spacer.Loader
