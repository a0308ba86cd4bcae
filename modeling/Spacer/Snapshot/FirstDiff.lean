import Spacer.Guest.Copies
import Spacer.Snapshot.Writes

/-!
The first differential snapshot of a microVM.  The loader writes to host addresses, before
the region has its bitmap.
-/

namespace Spacer.Snapshot

open Lib Loader Guest
open List hiding count

theorem trackedRegion_marks (size : Nat) :
  ∀ map ∈ some (replicate (size / pageSize) false), map.length = size / pageSize := by
  intro map member
  cases member
  rw [length_replicate]

def trackedRegion (guest : GuestRegion) (paged : guest.mapping.size % pageSize = 0) : GuestRegionMmap where
  start := guest.start
  len := guest.mapping.size
  bitmap := some (replicate (guest.mapping.size / pageSize) false)
  paged := paged
  marks := trackedRegion_marks guest.mapping.size

variable (guests : List GuestRegion)

abbrev Paged : Prop :=
  ∀ guest ∈ guests, guest.mapping.size % pageSize = 0

def loadedContents (space : Memory) : Contents :=
  fun addr => (guestByte guests space addr).getD 0

def createdVm (paged : Paged guests) (space : Memory) : Vm where
  regions := guests.pmap trackedRegion paged
  contents := loadedContents guests space
  dirtyLog := fun _ _ => false

/-- The memory the vCPUs find: boot parameters, page tables, command line and the like are
written through the guest memory. -/
def bootedVm (paged : Paged guests) (space : Memory) (bootWrites : List (Nat × List UInt8)) : Vm :=
  (createdVm guests paged space).writes (bootWrites.map fun write => .device write.1 write.2)

def guestLayout : Layout :=
  guests.map fun guest => (guest.start, guest.mapping.size)

def Touched (layout : Layout) (bootWrites : List (Nat × List UInt8)) (start page : Nat) : Prop :=
  ∃ write ∈ bootWrites, meets start write.1 (reach layout write.1 write.2.length) page = true

instance (layout : Layout) (bootWrites : List (Nat × List UInt8)) (start page : Nat) :
  Decidable (Touched layout bootWrites start page) :=
  inferInstanceAs (Decidable (∃ write ∈ bootWrites, _))

section

theorem buildGuardedRegion_paged
  (built : buildGuardedRegion host kernel call fileOffset size ukName lopt memory = .ok result) :
  result.1.size % pageSize = 0 := by
  unfold buildGuardedRegion at built
  split at built
  · cases built
  obtain ⟨_, _, built⟩ := ok_of_bind built
  obtain ⟨mapped, _, built⟩ := ok_of_bind built
  obtain ⟨effects, _, built⟩ := ok_of_bind built
  obtain ⟨region, raw, built⟩ := ok_of_bind built
  cases built
  rw [buildRaw] at raw
  split at raw
  · cases raw
  rename_i valid
  cases raw
  exact not_not.mp fun bad => valid (.inr bad)

theorem createRegions_paged (specs : List RegionSpec)
  (created : createRegions host kernel ukName lopt specs call memory = .ok result) : Paged result.1 := by
  induction specs generalizing call memory result with
  | nil =>
    cases created
    intro guest member
    cases member
  | cons spec rest ih =>
    obtain ⟨⟨mapping, mapped⟩, built, created⟩ := ok_of_bind created
    obtain ⟨region, placed, created⟩ := ok_of_bind created
    obtain ⟨later, laterOk, created⟩ := ok_of_bind created
    cases created
    intro guest member
    rcases mem_cons.mp member with rfl | member
    · rw [guestRegion] at placed
      split at placed
      · cases placed
      cases placed
      exact buildGuardedRegion_paged built
    · exact ih laterOk guest member

variable {guests}

theorem createGuestMemory_paged
  (created : createGuestMemory host kernel ukName lopt specs memory = .ok (guests, space)) :
  Paged guests := by
  obtain ⟨mapped, regionsOk, created⟩ := ok_of_bind created
  obtain ⟨sorted, checked, created⟩ := ok_of_bind created
  cases created
  rw [fromRegions] at checked
  split at checked
  · cases checked
  obtain ⟨_, _, checked⟩ := ok_of_bind checked
  cases checked
  exact createRegions_paged specs regionsOk

end

theorem createdVm_tracking (guests : List GuestRegion) (paged : Paged guests) (space : Memory) :
  (createdVm guests paged space).Tracking := by
  intro region member
  obtain ⟨guest, guestMem, rfl⟩ := mem_pmap.mp member
  rfl

theorem createdVm_clean : (trackedRegion guest paged).dirtyAt offset = false := by
  simp only [trackedRegion, GuestRegionMmap.dirtyAt, getD_eq_getElem?_getD, getElem?_replicate]
  split <;> rfl

theorem layout_createdVm (guests : List GuestRegion) (paged : Paged guests) :
  layout (createdVm guests paged space).regions = guestLayout guests := by
  rw [layout, createdVm, map_pmap]
  exact @List.pmap_eq_map _ _ _ (fun guest : GuestRegion => (guest.start, guest.mapping.size)) guests paged

theorem reach_le (layout : Layout) : reach layout addr count ≤ count := by
  have bound := (takeWhile_sublist (l := range count) fun index =>
    layout.any fun region => region.1 ≤ addr + index ∧ addr + index < region.1 + region.2).length_le
  rw [length_range] at bound
  exact bound

structure Booted (vm : Vm) (bootWrites : List (Nat × List UInt8)) (final : Vm)
  (region later : GuestRegionMmap) : Prop where
  start : later.start = region.start
  len : later.len = region.len
  marks : ∀ offset < region.len, later.dirtyAt offset = true ↔ region.dirtyAt offset = true ∨
    Touched (layout vm.regions) bootWrites region.start (offset / pageSize)
  kept : ∀ offset, ¬Touched (layout vm.regions) bootWrites region.start (offset / pageSize) →
    final.contents (region.start + offset) = vm.contents (region.start + offset)

theorem deviceWrite_booted (tracking : vm.Tracking) (addr : Nat) (bytes : List UInt8) {slot : Nat}
  (found : vm.regions[slot]? = some region) :
  ∃ later, (vm.deviceWrite addr bytes).regions[slot]? = some later ∧
    Booted vm [(addr, bytes)] (vm.deviceWrite addr bytes) region later := by
  have count : (bytes.take (reach (layout vm.regions) addr bytes.length)).length =
      reach (layout vm.regions) addr bytes.length := by
    rw [length_take, Nat.min_eq_left (reach_le _)]
  refine ⟨region.markDirty addr (reach (layout vm.regions) addr bytes.length), ?_, rfl, rfl,
    fun offset inside => ?_, fun offset untouched => ?_⟩
  · rw [Vm.deviceWrite]
    dsimp only
    rw [getElem?_map, found, count]
    rfl
  · rw [GuestRegionMmap.dirtyAt_markDirty (tracking region (mem_of_getElem? found)) inside,
      Bool.or_eq_true]
    simp only [Touched, mem_singleton, exists_eq_left]
  rw [Vm.deviceWrite]
  dsimp only
  rw [count, if_neg]
  rintro ⟨lower, upper⟩
  exact untouched ⟨_, mem_singleton_self _, Vm.meets_of_cell lower upper⟩

theorem writes_booted (tracking : vm.Tracking) (bootWrites : List (Nat × List UInt8)) {slot : Nat}
  (found : vm.regions[slot]? = some region) :
  ∃ later, (vm.writes (bootWrites.map fun write => .device write.1 write.2)).regions[slot]? =
      some later ∧
    Booted vm bootWrites (vm.writes (bootWrites.map fun write => .device write.1 write.2))
      region later := by
  induction bootWrites generalizing vm region with
  | nil =>
    refine ⟨region, found, rfl, rfl, fun offset _ => ?_, fun _ _ => rfl⟩
    simp [Touched]
  | cons write rest ih =>
    obtain ⟨middle, middleFound, first⟩ := deviceWrite_booted tracking write.1 write.2 found
    obtain ⟨later, laterFound, others⟩ :=
      ih (tracking.write (.device write.1 write.2)) middleFound
    have same := vm.layout_write (.device write.1 write.2)
    have touched : ∀ page, Touched (layout vm.regions) (write :: rest) region.start page ↔
        Touched (layout vm.regions) [(write.1, write.2)] region.start page ∨
          Touched (layout (vm.deviceWrite write.1 write.2).regions) rest middle.start page := by
      intro page
      rw [first.start]
      simp only [Vm.write] at same
      rw [same]
      simp only [Touched, mem_cons, not_mem_nil, or_false, exists_eq_or_imp, exists_eq_left]
    refine ⟨later, laterFound, others.start.trans first.start, others.len.trans first.len,
      fun offset inside => ?_, fun offset untouched => ?_⟩
    · rw [others.marks offset (first.len ▸ inside), first.marks offset inside, touched, or_assoc]
      exact Iff.rfl
    rw [touched, not_or] at untouched
    have kept := others.kept offset untouched.2
    rw [first.start] at kept
    exact kept.trans (first.kept offset untouched.1)

section

variable {guests : List GuestRegion} (paged : Paged guests) (space : Memory)
  (bootWrites : List (Nat × List UInt8))

theorem bootedVm_region {slot : Nat} (found : guests[slot]? = some guest) :
  ∃ later, (bootedVm guests paged space bootWrites).regions[slot]? = some later ∧
    later.start = guest.start ∧ later.len = guest.mapping.size ∧
    ∀ offset < guest.mapping.size, (later.dirtyAt offset = true ↔
        Touched (guestLayout guests) bootWrites guest.start (offset / pageSize)) ∧
      (¬Touched (guestLayout guests) bootWrites guest.start (offset / pageSize) →
        (bootedVm guests paged space bootWrites).contents (guest.start + offset) =
          loadedContents guests space (guest.start + offset)) := by
  have shaped := paged guest (mem_of_getElem? found)
  have here : (createdVm guests paged space).regions[slot]? = some (trackedRegion guest shaped) := by
    rw [createdVm]
    dsimp only
    rw [getElem?_pmap, Option.pmap_eq_some_iff]
    exact ⟨guest, shaped, found, rfl⟩
  obtain ⟨later, laterFound, booted⟩ := writes_booted (createdVm_tracking guests paged space)
    bootWrites here
  refine ⟨later, laterFound, booted.start, booted.len, fun offset inside => ⟨?_, ?_⟩⟩
  · rw [booted.marks offset inside, createdVm_clean, layout_createdVm]
    simp only [Bool.false_eq_true, false_or]
    exact Iff.rfl
  have kept := booted.kept offset
  rw [layout_createdVm] at kept
  exact kept

theorem bootedVm_guest {slot : Nat}
  (found : (bootedVm guests paged space bootWrites).regions[slot]? = some later) :
  ∃ guest, guests[slot]? = some guest := by
  have same := congrArg List.length ((createdVm guests paged space).layout_writes
    (bootWrites.map fun write => .device write.1 write.2))
  rw [layout_createdVm, layout, List.length_map, guestLayout, List.length_map] at same
  have bound := (List.getElem?_eq_some_iff.mp found).1
  exact ⟨_, List.getElem?_eq_getElem (same ▸ bound)⟩

end

namespace Vm

def Marked (vm : Vm) : Prop :=
  ∀ region ∈ vm.regions, ∀ offset < region.len, vm.contents (region.start + offset) ≠ 0 →
    region.dirtyAt offset = true

def DiffComplete (vm : Vm) : Prop :=
  ∃ diffFile fullFile, snapshotMemoryToFile vm.getDirtyLog vm.regions vm.contents .diff =
      .ok (vm.regions.map GuestRegionMmap.reset, diffFile) ∧
    snapshotMemoryToFile vm.getDirtyLog vm.regions vm.contents .full = .ok (vm.regions, fullFile) ∧
    ∀ offset, (diffFile.data offset).getD 0 = (fullFile.data offset).getD 0

theorem Marked.records {vm : Vm} (marked : vm.Marked) : vm.Records fun _ => 0 := by
  intro slot region found offset inside differ
  exact .inr (marked region (mem_of_getElem? found) offset inside fun zero =>
    differ zero.symm)

theorem memoryBytes_zero (regions : List GuestRegionMmap) (offset : Nat) :
  ((memoryBytes (fun _ => 0) regions)[offset]?).getD 0 = 0 := by
  cases found : (memoryBytes (fun _ => 0) regions)[offset]? with
  | none => rfl
  | some byte =>
    have member := mem_of_getElem? found
    simp only [memoryBytes, GuestRegionMmap.bytes, mem_flatMap, mem_map] at member
    obtain ⟨_, _, _, _, rfl⟩ := member
    rfl

theorem Records.diffComplete {vm : Vm} (records : vm.Records fun _ => 0) : vm.DiffComplete := by
  obtain ⟨diffFile, taken, completes, _⟩ := snapshotMemoryToFile_diff records.tracked
  refine ⟨diffFile, _, taken, snapshotMemoryToFile_full _ _ _, fun offset => ?_⟩
  rw [SparseFile.data_full, ← completes offset]
  cases diffFile.data offset with
  | some byte => rfl
  | none => exact (memoryBytes_zero vm.regions offset).symm

end Vm

/-- Every page that is not zero is marked when the vCPUs first run, and a first differential
snapshot is complete at every later moment, exactly when the boot writes meet every page on
which the loader has left something. -/
theorem first_diff_complete_iff (host : Host) (kernel : Kernel) (ukName : String)
  (loader : LoaderInfo) (specs : List RegionSpec) (memory space : Memory)
  (guests : List GuestRegion)
  (created : createGuestMemory host kernel ukName (some loader) specs memory =
    .ok (guests, space)) (bootWrites : List (Nat × List UInt8)) :
  ((bootedVm guests (createGuestMemory_paged created) space bootWrites).Marked ∧
      ∀ later, ((bootedVm guests (createGuestMemory_paged created) space bootWrites).writes
        later).DiffComplete) ↔
    ∀ guest ∈ guests, ∀ offset < guest.mapping.size,
      loadedContents guests space (guest.start + offset) ≠ 0 →
        Touched (guestLayout guests) bootWrites guest.start (offset / pageSize) := by
  have paged := createGuestMemory_paged created
  constructor
  · rintro ⟨marked, _⟩ guest member offset inside loaded
    obtain ⟨slot, found⟩ := mem_iff_getElem?.mp member
    obtain ⟨region, regionFound, start, len, state⟩ :=
      bootedVm_region paged space bootWrites found
    obtain ⟨dirty, kept⟩ := state offset inside
    by_contra untouched
    have nonzero := kept untouched ▸ loaded
    rw [← start] at nonzero
    exact untouched (dirty.mp (marked region (mem_of_getElem? regionFound) offset
      (len ▸ inside) nonzero))
  intro covered
  have marked : (bootedVm guests paged space bootWrites).Marked := by
    intro region member offset inside nonzero
    obtain ⟨slot, regionFound⟩ := mem_iff_getElem?.mp member
    obtain ⟨guest, found⟩ := bootedVm_guest paged space bootWrites regionFound
    obtain ⟨_, again, start, len, state⟩ := bootedVm_region paged space bootWrites found
    cases regionFound.symm.trans again
    rw [len] at inside
    rw [start] at nonzero
    obtain ⟨dirty, kept⟩ := state offset inside
    refine dirty.mpr (by_contra fun untouched => untouched ?_)
    exact covered guest (mem_of_getElem? found) offset inside (kept untouched ▸ nonzero)
  have tracking : (bootedVm guests paged space bootWrites).Tracking :=
    (createdVm_tracking guests paged space).writes _
  exact ⟨marked, fun later => (marked.records.writes tracking later).diffComplete⟩

/-! A `.text` of two bytes in a guest of 2 MiB. -/

theorem textLoader_created (aligned : vma % 0x1000 = 0) (fits : vma + 2 ≤ 0x200000) :
  ∃ guest space, createGuestMemory sampleHost sampleKernel "uk" (some (textLoader vma))
      (builderRegions 2) (fun _ => none) = .ok ([guest], space) ∧
    guestLayout [guest] = [(0, 0x200000)] ∧
    LoadedOnce (loaderBlocks sampleHost (textLoader vma) "uk_update") [guest] space := by
  have size : memSize 2 = 0x200000 := by decide
  have image := textLoader_image aligned fits ("uk" ++ "_update")
  obtain ⟨guardAddr, reserved, built⟩ := builder_single (fun _ => none) (by decide)
    (@sampleKernel_granted 2 (by decide) (by decide)) image.loadable
  rw [size] at reserved built
  have room := sampleKernel.inside reserved
  refine ⟨_, _, built, rfl, loadedOnce_single image ?_⟩
  simp only [regionStartAddr, guardPageCount, guardedSize, pageSize] at *
  omega

theorem textLoader_blocks (aligned : vma % 0x1000 = 0) :
  loaderBlocks sampleHost (textLoader vma) "uk_update" = [⟨vma, [0xc3, 0x90], true⟩] := by
  have taken : mapsEntry ⟨".text", vma, 2, none⟩ = true :=
    (mapsEntry_iff _).mpr ⟨aligned, by simp⟩
  simp [loaderBlocks, mappedBlocks, copiedBlocks, textLoader, taken, entryBlock, sampleHost, shmName]

/-- The section lies on the page of the boot parameters. -/
theorem first_diff_complete_boot_page :
  ∃ guest space, ∃ created : createGuestMemory sampleHost sampleKernel "uk"
      (some (textLoader 0x7000)) (builderRegions 2) (fun _ => none) = .ok ([guest], space),
    (bootedVm [guest] (createGuestMemory_paged created) space [(0x7000, [1])]).Marked ∧
    ∀ later, ((bootedVm [guest] (createGuestMemory_paged created) space
      [(0x7000, [1])]).writes later).DiffComplete := by
  obtain ⟨guest, space, created, shape, once⟩ := @textLoader_created 0x7000 (by decide) (by decide)
  refine ⟨guest, space, created, (first_diff_complete_iff _ _ _ _ _ _ _ _ created _).mpr ?_⟩
  rintro other member offset inside loaded
  cases mem_singleton.mp member
  obtain ⟨start, size⟩ : guest.start = 0 ∧ guest.mapping.size = 0x200000 := by
    simpa [guestLayout] using shape
  rw [start, Nat.zero_add] at loaded
  have place : offset / pageSize = 7 := by
    by_contra elsewhere
    have zero := once.zero guest member offset (by
      rw [GuestRegion.Contains, start, Nat.zero_add]
      exact ⟨Nat.zero_le _, inside⟩) (by
      rw [textLoader_blocks (by decide)]
      intro block listed
      cases mem_singleton.mp listed
      simp only [Block.Contains, length_cons, length_nil]
      simp only [pageSize] at elsewhere
      omega)
    rw [loadedContents, zero] at loaded
    exact loaded rfl
  rw [place, start, shape]
  decide

/-- The places the boot writes: segment tables, boot parameters, page tables, command line
and processor table. -/
def sampleBoot : List (Nat × List UInt8) :=
  [(0x500, [0, 0, 0, 0, 0, 0, 0, 0, 0xff, 0xff, 0, 0, 0, 0x9b, 0xaf, 0]), (0x520, [0, 0, 0, 0]),
    (0x9000, [3, 0xa0]), (0xa000, [3, 0xb0]), (0xb000, [0x83, 0]), (0x20000, [0x72, 0x6f]),
    (0x9fc00, [0x5f, 0x4d, 0x50, 0x5f]), (0x7000, [0, 0, 1])]

/-- The page of a unikernel at 0x109000 is not marked, and the first differential snapshot
has a hole there. -/
theorem first_diff_loses_unikernel :
  ∃ guest space, ∃ created : createGuestMemory sampleHost sampleKernel "uk"
      (some (textLoader 0x109000)) (builderRegions 2) (fun _ => none) = .ok ([guest], space),
    ¬(bootedVm [guest] (createGuestMemory_paged created) space sampleBoot).Marked ∧
    ¬(bootedVm [guest] (createGuestMemory_paged created) space sampleBoot).DiffComplete := by
  obtain ⟨guest, space, created, shape, once⟩ :=
    @textLoader_created 0x109000 (by decide) (by decide)
  obtain ⟨start, size⟩ : guest.start = 0 ∧ guest.mapping.size = 0x200000 := by
    simpa [guestLayout] using shape
  have paged := createGuestMemory_paged created
  obtain ⟨region, found, placed, len, state⟩ := bootedVm_region paged space sampleBoot
    (show [guest][0]? = some guest from rfl)
  rw [size] at len
  obtain ⟨dirty, kept⟩ := state 0x109000 (by rw [size]; decide)
  have untouched : ¬Touched (guestLayout [guest]) sampleBoot guest.start (0x109000 / pageSize) := by
    rw [shape, start]
    decide
  have byte : guestByte [guest] space 0x109000 = some 0xc3 := by
    have content := once.content
    rw [textLoader_blocks (by decide)] at content
    exact content _ (mem_singleton_self _) 0 (by decide)
  have loaded : (bootedVm [guest] paged space sampleBoot).contents (region.start + 0x109000) =
      0xc3 := by
    rw [placed, kept untouched, start, loadedContents, Nat.zero_add, byte]
    rfl
  have unmarked : region.dirtyAt 0x109000 = false :=
    Bool.eq_false_iff.mpr fun marked => untouched (dirty.mp marked)
  refine ⟨guest, space, created, fun marked => ?_, fun complete => ?_⟩
  · have mark := marked region (mem_of_getElem? found) 0x109000 (by rw [len]; decide)
      (by rw [loaded]; decide)
    exact untouched (dirty.mp mark)
  obtain ⟨diffFile, fullFile, taken, full, same⟩ := complete
  have single : (bootedVm [guest] paged space sampleBoot).regions = [region] := by
    have one := congrArg length ((createdVm [guest] paged space).layout_writes
      (sampleBoot.map fun write => .device write.1 write.2))
    rw [layout_createdVm, layout, length_map, guestLayout, length_map] at one
    obtain ⟨only, alone⟩ := length_eq_one_iff.mp one
    rw [bootedVm, alone] at found ⊢
    cases found
    rfl
  have inside : 0x109000 < region.len := by
    rw [len]
    decide
  have hole := snapshotMemoryToFile_hole single taken inside rfl unmarked
  rw [snapshotMemoryToFile_full] at full
  cases full
  have differ := same 0x109000
  rw [hole, SparseFile.data_full, single, memoryBytes_head _ inside, loaded] at differ
  exact absurd differ (by decide)

end Spacer.Snapshot
