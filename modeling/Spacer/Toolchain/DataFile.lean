import Spacer.Loader.Layout
import Spacer.Toolchain.Loadable

/-! The data file without ASLR, which `move_all` maps at the address of `.data`. -/

namespace Spacer.Toolchain

open Lib Helpers Loader

variable (elf : ElfFile)

def dataFile : List UInt8 :=
  (plainSections minimizerIncluded elf).flatMap Section.data

def dataStart : Nat :=
  dataStartFrom ((secSections false [] elf).map secEntry) 0

def plainLoader : LoaderInfo :=
  ⟨[], (secSections false [] elf).map secEntry, false⟩

def beforeData (host : Host) (elf : ElfFile) (regionAddr : Nat) (memory : Memory) : Memory :=
  applyEffects memory (((plainLoader elf).sectionsLoader.filter mapsEntry).map
    (entryEffect host false regionAddr))

def DataPlaced (regionAddr : Nat) (memory : Memory) : Prop :=
  ∀ s ∈ plainSections minimizerIncluded elf, ∀ i < s.data.length,
    memory (regionAddr + (s.shAddr + i)) = s.data[i]?

/-- The pages of the data file spell the byte wherever they reach, and elsewhere
it was there before. -/
def DataSpelled (regionAddr : Nat) (before : Memory) : Prop :=
  ∀ s ∈ plainSections minimizerIncluded elf, ∀ i < s.data.length,
    if dataStart elf ≤ s.shAddr + i ∧
        s.shAddr + i < dataStart elf + roundUp (dataFile elf).length pageSize then
      some ((dataFile elf).getD (s.shAddr + i - dataStart elf) 0) = s.data[i]?
    else before (regionAddr + (s.shAddr + i)) = s.data[i]?

def Contiguous : Nat → List Section → Prop
  | _, [] => True
  | start, s :: rest => s.shAddr = start ∧ Contiguous (start + s.data.length) rest

instance decidableContiguous : (start : Nat) → (sections : List Section) →
  Decidable (Contiguous start sections)
  | _, [] => inferInstanceAs (Decidable True)
  | start, s :: rest =>
    have := decidableContiguous (start + s.data.length) rest
    inferInstanceAs (Decidable (_ ∧ _))

theorem Contiguous.spells (contiguous : Contiguous start sections) (member : s ∈ sections)
  (bound : i < s.data.length) :
  start ≤ s.shAddr + i ∧ s.shAddr + i < start + (sections.flatMap Section.data).length ∧
    (sections.flatMap Section.data)[s.shAddr + i - start]? = s.data[i]? := by
  induction sections generalizing start with
  | nil => simp at member
  | cons first rest ih =>
    obtain ⟨here, later⟩ := contiguous
    rw [List.flatMap_cons, List.length_append]
    rcases List.mem_cons.mp member with same | deeper
    · subst s
      refine ⟨by omega, by omega, ?_⟩
      rw [here, Nat.add_sub_cancel_left, List.getElem?_append_left bound]
    obtain ⟨lower, upper, byte⟩ := ih later deeper
    refine ⟨by omega, by omega, ?_⟩
    rw [List.getElem?_append_right (by omega), ← byte]
    congr 1
    omega

variable {elf}

theorem dataSpelled_of_contiguous
  (contiguous : Contiguous (dataStart elf) (plainSections minimizerIncluded elf)) : DataSpelled elf regionAddr before := by
  intro s member i bound
  obtain ⟨lower, upper, byte⟩ := contiguous.spells member bound
  have grows := le_roundUp (show 0 < pageSize by decide) (dataFile elf).length
  change s.shAddr + i < dataStart elf + (dataFile elf).length at upper
  rw [if_pos ⟨lower, by omega⟩, ← byte, List.getElem?_eq_getElem (by
    change s.shAddr + i - dataStart elf < (dataFile elf).length
    omega)]
  rw [List.getD_eq_getElem _ _ (by omega)]
  rfl

theorem dataStart_cases (elf : ElfFile) :
  dataStart elf = 0 ∨ ∃ s ∈ elf.iterSections, dataStart elf = s.shAddr := by
  have general : ∀ (sections : List Section) (start : Nat),
      dataStartFrom (sections.map secEntry) start = start ∨
        ∃ s ∈ sections, dataStartFrom (sections.map secEntry) start = s.shAddr := by
    intro sections
    induction sections with
    | nil => exact fun start => .inl rfl
    | cons first rest ih =>
      intro start
      rw [List.map_cons, dataStartFrom]
      rcases ih (if (secEntry first).vma % 0x1000 = 0 ∧ (secEntry first).name = ".data" then
        (secEntry first).vma else start) with kept | ⟨s, member, found⟩
      · rw [kept]
        split
        · exact .inr ⟨first, by simp, rfl⟩
        · exact .inl rfl
      · exact .inr ⟨s, List.mem_cons_of_mem _ member, found⟩
  rcases general (secSections false [] elf) 0 with zero | ⟨s, member, found⟩
  · exact .inl zero
  · exact .inr ⟨s, mem_iterSections_of_dumpSelect _ _ member, found⟩

section

variable {host : Host}

variable (written : host.file (kernelImagePath ++ "_update") = some (dataFile elf))
include written

variable (reach : regionAddr + dataStart elf < 2 ^ 64)
include reach

theorem dataEffect_eq : dataEffect host (plainLoader elf) regionAddr (kernelImagePath ++ "_update") =
    .mmap (regionAddr + dataStart elf) (dataFile elf).length (dataFile elf) := by
  have exact : usizeAdd regionAddr (dataStart elf) = regionAddr + dataStart elf :=
    Nat.mod_eq_of_lt reach
  simp only [dataEffect, written, Option.getD_some]
  rw [← exact]
  rfl

theorem plainEffects_cell (memory : Memory) : applyEffects memory
      (regionEffects host (plainLoader elf) regionAddr (kernelImagePath ++ "_update"))
      (regionAddr + guest) =
    if dataStart elf ≤ guest ∧ guest < dataStart elf + roundUp (dataFile elf).length pageSize then
      some ((dataFile elf).getD (guest - dataStart elf) 0)
    else beforeData host elf regionAddr memory (regionAddr + guest) := by
  have phases : regionEffects host (plainLoader elf) regionAddr (kernelImagePath ++ "_update") =
      ((plainLoader elf).sectionsLoader.filter mapsEntry).map (entryEffect host false regionAddr) ++
        [.mmap (regionAddr + dataStart elf) (dataFile elf).length (dataFile elf)] := by
    rw [← dataEffect_eq written reach]
    rfl
  rw [phases, applyEffects, List.map_append, applyAll_append]
  change Overlay.apply (beforeData host elf regionAddr memory)
    (Effect.mmap (regionAddr + dataStart elf) (dataFile elf).length (dataFile elf)).overlay _ = _
  rw [mmap_overlay, Overlay.apply]
  simp only [overlay_covers_iff]
  split
  · rename_i covered
    have reached : dataStart elf ≤ guest ∧
        guest < dataStart elf + roundUp (dataFile elf).length pageSize := covered
    rw [overlay_value covered, if_pos reached]
  rename_i uncovered
  have missed : ¬(dataStart elf ≤ guest ∧
      guest < dataStart elf + roundUp (dataFile elf).length pageSize) := uncovered
  rw [if_neg missed]

theorem plainEffects_placed_iff (memory : Memory) : DataPlaced elf regionAddr (applyEffects memory
      (regionEffects host (plainLoader elf) regionAddr (kernelImagePath ++ "_update"))) ↔
    DataSpelled elf regionAddr (beforeData host elf regionAddr memory) := by
  refine forall_congr' fun s => forall_congr' fun member => forall_congr' fun i =>
    forall_congr' fun bound => ?_
  rw [plainEffects_cell written reach]
  split
  · rfl
  · rfl

omit reach

omit written

theorem plain_loaded (aligned : regionAddr % pageSize = 0)
  (written : host.file (kernelImagePath ++ "_update") = processFile minimizerIncluded elf)
  (loaded : loadRegion host (plainLoader elf) regionAddr kernelImagePath = .ok effects) :
  effects = regionEffects host (plainLoader elf) regionAddr (kernelImagePath ++ "_update") ∧
    host.file (kernelImagePath ++ "_update") = some (dataFile elf) := by
  obtain ⟨loadable, rfl⟩ := (loadRegion_ok_iff host (plainLoader elf) aligned _ effects).mp loaded
  refine ⟨rfl, ?_⟩
  obtain ⟨content, stored, _⟩ := loadable.dataFile rfl
  rw [processFile_eq] at written
  split at written
  · rw [stored] at written
    cases written
  · exact written

end

def sampleElf : ElfFile := ⟨[textSection, dataSection]⟩

/-- A section of its own after `.data`, with an alignment gap in between. -/
def dataTail : Section := byteSection ".data.tail" 0x2010 9

def gapElf : ElfFile := ⟨[textSection, dataSection, dataTail]⟩

variable (elf)

def plainHost : Host :=
  installedHost "uk" ⟨[], processFile minimizerIncluded elf⟩ (fillPool poolExcluded [elf])

theorem plainHost_update : (plainHost elf).file ("uk" ++ "_update") = processFile minimizerIncluded elf :=
  (installedHost_installed "uk" ⟨[], processFile minimizerIncluded elf⟩ _).update

theorem plainHost_loads (fits : SecFits secExcluded [] elf)
  (mappable : ∀ s ∈ secSections false [] elf, Mappable s)
  (written : plainSections minimizerIncluded elf ≠ []) :
  ∃ effects, loadRegion (plainHost elf) (plainLoader elf) 0x10000 "uk" = .ok effects := by
  obtain ⟨sec, produced⟩ := runToolchain_plain elf fits
  have pooled : ∀ name, (plainHost elf).shm (shmName false name) =
      (fillPool poolExcluded [elf]).get? name :=
    (installedHost_installed "uk" ⟨[], processFile minimizerIncluded elf⟩ _).pool
  have stored : (plainHost elf).file ("uk" ++ "_update") =
      (Artifacts.mk sec (processFile minimizerIncluded elf)).update := plainHost_update elf
  have loadable := (loader_loadable_iff produced (List.mem_singleton_self elf) pooled stored
    []).mpr ⟨mappable, fun _ => written⟩
  exact ⟨_, (loadRegion_ok_iff _ _ (by decide) "uk" _).mpr ⟨loadable, rfl⟩⟩

end Spacer.Toolchain
