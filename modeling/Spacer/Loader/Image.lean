import Spacer.Loader.Layout

/-!
The guest image after `move_sec_aslr` and `move_all` in ASLR mode, section by
section.
-/

namespace Spacer.Loader

open Lib List

def Sections.Contains (s : Sections) (guest : Nat) : Prop :=
  s.vma ≤ guest ∧ guest < s.vma + s.size

def Sections.Apart (left right : Sections) : Prop :=
  left.vma + left.size ≤ right.vma ∨ right.vma + right.size ≤ left.vma

def poolBytes (host : Host) (s : Sections) : List UInt8 :=
  (host.shm (shmName true s.name)).getD []

def updateBytes (s : Sections) : List UInt8 :=
  s.bytes.getD []

def mappedSections (loader : LoaderInfo) : List Sections :=
  loader.sectionsLoader.filter fun s => s.name ≠ ".data"

structure ImageInput (host : Host) (loader : LoaderInfo) (regionAddr regionSize : Nat) :
  Prop where
  aslr : loader.aslr = true
  regionAligned : regionAddr % pageSize = 0
  regionFits : regionAddr + regionSize ≤ 2 ^ 64
  positive : ∀ s ∈ loader.sectionsLoader ++ loader.bin, 0 < s.size
  inside : ∀ s ∈ loader.sectionsLoader ++ loader.bin, s.vma + s.size ≤ regionSize
  apart : (loader.sectionsLoader ++ loader.bin).Pairwise Sections.Apart
  aligned : ∀ s ∈ loader.sectionsLoader, s.vma % 0x1000 = 0
  backed : ∀ s ∈ loader.sectionsLoader, ∃ content,
    host.shm (shmName true s.name) = some content ∧ content.length = s.size
  carried : ∀ s ∈ loader.bin, ∃ content, s.bytes = some content ∧ content.length = s.size

section

variable (input : ImageInput host loader regionAddr regionSize)
include input

theorem ImageInput.mapsEntry (listed : s ∈ loader.sectionsLoader) : mapsEntry s = true ↔ s.name ≠ ".data" := by
  simp [mapsEntry_iff, input.aligned s listed]

theorem ImageInput.poolBytes_length (member : s ∈ loader.sectionsLoader) : (poolBytes host s).length = s.size := by
  obtain ⟨content, stored, length⟩ := input.backed s member
  simpa [poolBytes, stored] using length

theorem ImageInput.updateBytes_length (member : s ∈ loader.bin) : (updateBytes s).length = s.size := by
  obtain ⟨content, stored, length⟩ := input.carried s member
  simpa [updateBytes, stored] using length

variable (filename : String)

theorem ImageInput.loadable : Loadable host loader filename := by
  refine ⟨?_, ?_, ?_⟩
  · intro s listed _
    obtain ⟨content, stored, _⟩ := input.backed s listed
    rw [input.aslr, stored]
    exact ⟨rfl, input.positive s (mem_append_left _ listed)⟩
  · intro _ s listed
    obtain ⟨content, stored, length⟩ := input.carried s listed
    exact ⟨content, stored, Nat.le_of_eq length.symm⟩
  intro plain
  rw [input.aslr] at plain
  cases plain

theorem ImageInput.loaderBlocks_eq : loaderBlocks host loader filename =
    (mappedSections loader).map (entryBlock host true) ++ loader.bin.map updateBlock := by
  have kept : loader.sectionsLoader.filter Loader.mapsEntry = mappedSections loader := by
    apply filter_congr
    intro s listed
    rw [Bool.eq_iff_iff, input.mapsEntry listed, decide_eq_true_iff]
  simp only [loaderBlocks, mappedBlocks, copiedBlocks, input.aslr, if_true, append_nil, kept]

theorem ImageInput.forall_blocks (holds : Block UInt8 → Prop) :
  (∀ block ∈ loaderBlocks host loader filename, holds block) ↔
    (∀ s ∈ mappedSections loader, holds (entryBlock host true s)) ∧
      ∀ s ∈ loader.bin, holds (updateBlock s) := by
  rw [input.loaderBlocks_eq, forall_mem_append, forall_mem_map, forall_mem_map]

theorem ImageInput.image : Image host loader filename regionSize := by
  have entrySized : ∀ s ∈ loader.sectionsLoader, (entryBlock host true s).content.length = s.size :=
    fun s listed => input.poolBytes_length listed
  have updateSized : ∀ s ∈ loader.bin, (updateBlock s).content.length = s.size :=
    fun s listed => input.updateBytes_length listed
  refine ⟨input.loadable filename, ?_, fun _ => updateSized, ?_, ?_⟩
  · intro s listed _
    rw [input.aslr]
    exact entrySized s listed
  · rw [input.forall_blocks]
    constructor
    · intro s listed
      have member := mem_of_mem_filter listed
      rw [entrySized s member]
      exact input.inside s (mem_append_left _ member)
    intro s listed
    rw [updateSized s listed]
    exact input.inside s (mem_append_right _ listed)
  obtain ⟨mapped, updates, across⟩ := pairwise_append.mp input.apart
  rw [input.loaderBlocks_eq, pairwise_append, pairwise_map, pairwise_map]
  simp only [forall_mem_map, Block.Apart]
  refine ⟨?_, ?_, ?_⟩
  · apply (mapped.filter _).imp_of_mem
    intro left right leftMem rightMem apart
    rwa [entrySized left (mem_of_mem_filter leftMem), entrySized right (mem_of_mem_filter rightMem)]
  · apply updates.imp_of_mem
    intro left right leftMem rightMem apart
    rwa [updateSized left leftMem, updateSized right rightMem]
  intro left leftMem right rightMem
  have leftListed := mem_of_mem_filter leftMem
  rw [entrySized left leftListed, updateSized right rightMem]
  exact across left leftListed right rightMem

theorem ImageInput.reachable :
  ∀ block ∈ loaderBlocks host loader filename, regionAddr + block.start < 2 ^ 64 := by
  have below : ∀ s ∈ loader.sectionsLoader ++ loader.bin, regionAddr + s.vma < 2 ^ 64 := by
    intro s listed
    have positive := input.positive s listed
    have inside := input.inside s listed
    have fits := input.regionFits
    omega
  rw [input.forall_blocks]
  exact ⟨fun s listed => below s (mem_append_left _ (mem_of_mem_filter listed)),
    fun s listed => below s (mem_append_right _ listed)⟩

theorem ImageInput.block_byte (memory : Memory) (filename : String) (member : block ∈ loaderBlocks host loader filename)
  (bound : i < block.content.length) :
  applyEffects memory (regionEffects host loader regionAddr filename)
    (regionAddr + (block.start + i)) = block.content[i]? := by
  have image := input.image filename
  have contains : block.Contains (block.start + i) := ⟨by omega, by omega⟩
  rw [image.applyEffects_cell (input.reachable filename), if_pos ⟨block, member,
    covers_of_contains (by decide) contains⟩, loaderBlocks, image.placed.imageAt_eq member contains,
    Nat.add_sub_cancel_left, getElem?_eq_getElem bound, getD_eq_getElem _ _ bound]

omit input

end

/-- `final` holds byte `i` of every section of `mapped` (from the pool) and of
`updates` (from the `_update` file) at `vma + i`, and zero everywhere else in the
region. -/
def ImageOf (host : Host) (mapped updates : List Sections) (regionAddr regionSize : Nat)
  (final : Memory) : Prop :=
  (∀ s ∈ mapped, ∀ i < s.size, final (regionAddr + (s.vma + i)) = (poolBytes host s)[i]?) ∧
  (∀ s ∈ updates, ∀ i < s.size, final (regionAddr + (s.vma + i)) = (updateBytes s)[i]?) ∧
  ∀ guest < regionSize, (∀ s ∈ mapped ++ updates, ¬s.Contains guest) → final (regionAddr + guest) = some 0

/-- Loading a zero-filled region in ASLR mode never panics and leaves exactly the
listed sections in it, for every order of the two lists; a `.sec` entry named
`.data` is skipped and its bytes stay zero. -/
theorem loadRegion_image (host : Host) (loader : LoaderInfo) (regionAddr regionSize : Nat)
  (ukName : String) (memory : Memory)
  (input : ImageInput host loader regionAddr regionSize)
  (zeroed : ∀ guest < regionSize, memory (regionAddr + guest) = some 0) :
  ∃ effects, loadRegion host loader regionAddr ukName = .ok effects ∧
    ImageOf host (mappedSections loader) loader.bin regionAddr regionSize
      (applyEffects memory effects) := by
  have image := input.image (ukName ++ "_update")
  refine ⟨_, (loadRegion_ok_iff host loader input.regionAligned ukName _).mpr
    ⟨image.loadable, rfl⟩, ?_, ?_, ?_⟩
  · intro s listed i bound
    have member : entryBlock host true s ∈ loaderBlocks host loader (ukName ++ "_update") := by
      rw [input.loaderBlocks_eq]
      exact mem_append_left _ (mem_map_of_mem listed)
    have sized := input.poolBytes_length (mem_of_mem_filter listed)
    exact input.block_byte memory _ member (Nat.lt_of_lt_of_eq bound sized.symm)
  · intro s listed i bound
    have member : updateBlock s ∈ loaderBlocks host loader (ukName ++ "_update") := by
      rw [input.loaderBlocks_eq]
      exact mem_append_right _ (mem_map_of_mem listed)
    have sized := input.updateBytes_length listed
    exact input.block_byte memory _ member (Nat.lt_of_lt_of_eq bound sized.symm)
  intro guest bound outside
  have empty : ∀ block ∈ loaderBlocks host loader (ukName ++ "_update"), ¬block.Contains guest := by
    rw [input.forall_blocks]
    constructor
    · intro s listed
      rw [Block.Contains, show (entryBlock host true s).content.length = s.size from
        input.poolBytes_length (mem_of_mem_filter listed)]
      exact outside s (mem_append_left _ listed)
    intro s listed
    rw [Block.Contains, show (updateBlock s).content.length = s.size from input.updateBytes_length listed]
    exact outside s (mem_append_right _ listed)
  rw [image.applyEffects_cell (input.reachable _), imageAt_of_not_contains empty]
  split
  · rfl
  · exact zeroed guest bound

def sampleHost : Host := {
  shm := fun name =>
    if name = "aslr_lib.text" then some [0xc3, 0x90]
    else if name = "aslr_lib.data" then some [7]
    else none
  file := fun _ => none
}

def sampleText : Sections := ⟨".text", 0x1000, 2, none⟩

def sampleInd : Sections := ⟨".ind.text", 0x1002, 1, some [5]⟩

def sampleData : Sections := ⟨".data", 0x2000, 1, none⟩

theorem sampleText_input : ImageInput sampleHost ⟨[sampleInd], [sampleText], true⟩ 0x10000 0x3000 := by
  refine ⟨rfl, by decide, by decide, ?_, ?_, ?_, ?_, ?_, ?_⟩
  · simp [sampleText, sampleInd]
  · simp [sampleText, sampleInd]
  · simp [sampleText, sampleInd, Sections.Apart]
  · simp [sampleText]
  · simp [sampleText, sampleHost, shmName]
  · simp [sampleInd]

theorem loadRegion_image_sample :
  ∃ effects, loadRegion sampleHost ⟨[sampleInd], [sampleText], true⟩ 0x10000 "uk" = .ok effects ∧
    ImageOf sampleHost (mappedSections ⟨[sampleInd], [sampleText], true⟩) [sampleInd] 0x10000
      0x3000 (applyEffects (fun _ => some 0) effects) :=
  loadRegion_image sampleHost ⟨[sampleInd], [sampleText], true⟩ 0x10000 0x3000 "uk"
    (fun _ => some 0) sampleText_input fun _ _ => rfl

theorem loadRegion_skips_data : ImageInput sampleHost ⟨[], [sampleData], true⟩ 0x10000 0x3000 ∧
    ∃ effects, loadRegion sampleHost ⟨[], [sampleData], true⟩ 0x10000 "uk" = .ok effects ∧
      ¬ImageOf sampleHost [sampleData] [] 0x10000 0x3000 (applyEffects (fun _ => some 0) effects) := by
  refine ⟨⟨rfl, by decide, by decide, ?_, ?_, ?_, ?_, ?_, ?_⟩, [], rfl, ?_⟩
  · simp [sampleData]
  · simp [sampleData]
  · simp
  · simp [sampleData]
  · simp [sampleData, sampleHost, shmName]
  · simp
  rintro ⟨mapped, _, _⟩
  have byte := mapped sampleData (by simp) 0 (by decide)
  simp [applyEffects, poolBytes, sampleData, sampleHost, shmName] at byte

end Spacer.Loader
