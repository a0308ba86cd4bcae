import Spacer.Guest.Copies
import Spacer.Snapshot.Dump
import Spacer.Snapshot.Rebase

/-!
A differential snapshot rebased onto a full one restores the memory of the moment it
was taken.
-/

namespace Spacer.Snapshot

open Lib Loader Guest List

/-! `restore`: the regions mapped from the file. -/

section

variable (host : Host) (ukName : String)

theorem buildGuardedRegion_file (reserved : kernel.reserve call (guardedSize size) = some guardAddr)
  (positive : 0 < size) (paged : size % pageSize = 0) (fileOffset : FileOffset)
  (aligned : fileOffset.start % pageSize = 0)
  (inside : fileOffset.start + size ≤ fileOffset.file.length) (memory : Memory) :
  buildGuardedRegion host kernel call (some fileOffset) size ukName none memory =
    .ok (⟨regionStartAddr guardAddr, size, []⟩, mappedRegion (some fileOffset) guardAddr size memory) := by
  have checked : checkFileOffset (some fileOffset) size = .ok () :=
    if_neg (Nat.not_lt_of_le inside)
  have mapped : ∀ before, mapRegion (some fileOffset) (regionStartAddr guardAddr) size before =
      .ok ((regionOverlay (some fileOffset) (regionStartAddr guardAddr) size).apply before) := by
    intro before
    simp [mapRegion, aligned, Nat.ne_of_gt positive]
  have raw : buildRaw (regionStartAddr guardAddr) size [] = .ok ⟨regionStartAddr guardAddr, size, []⟩ := by
    simp [buildRaw, kernel.regionAddr_aligned reserved, paged]
  rw [buildGuardedRegion, reserved]
  dsimp only
  rw [bind_of_ok checked, bind_of_ok (mapped _), runLoader, bind_of_ok rfl, bind_of_ok raw]
  rfl

structure Shows (contents : Contents) (memory : Memory) (region : GuestRegionMmap)
  (guest : GuestRegion) : Prop where
  start : guest.start = region.start
  size : guest.mapping.size = region.len
  bytes : ∀ offset < region.len,
    memory (guest.mapping.addr + offset) = some (contents (region.start + offset))

def fileSpecs (bytes : List UInt8) (offset : Nat) (regions : List GuestRegionMmap) : List RegionSpec :=
  (describeFrom offset regions).map fun region =>
    ⟨some ⟨bytes, region.offset⟩, region.baseAddress, region.size⟩

theorem createRegions_files (regions : List GuestRegionMmap) (offset call : Nat) (memory : Memory)
  (aligned : offset % pageSize = 0) (stored : bytes.drop offset = memoryBytes contents regions)
  (mapped : ∀ region ∈ regions, 0 < region.len ∧ region.start + region.len < 2 ^ 64)
  (granted : ∀ index region, regions[index]? = some region →
    (kernel.reserve (call + index) (guardedSize region.len)).isSome) :
  ∃ guests final, createRegions host kernel ukName none (fileSpecs bytes offset regions) call
      memory = .ok (guests, final) ∧
    List.Forall₂ (Shows contents final) regions guests ∧
    ∀ cell, (∀ later length guardAddr, call ≤ later → kernel.reserve later length = some guardAddr →
          cell < guardAddr ∨ guardAddr + length ≤ cell) → final cell = memory cell := by
  induction regions generalizing offset call memory with
  | nil => exact ⟨[], memory, rfl, List.Forall₂.nil, fun _ _ => rfl⟩
  | cons region rest ih =>
    obtain ⟨positive, representable⟩ := mapped region mem_cons_self
    obtain ⟨guardAddr, reserved⟩ := Option.isSome_iff_exists.mp (granted 0 region rfl)
    rw [Nat.add_zero] at reserved
    rw [memoryBytes_cons] at stored
    have total := congrArg List.length stored
    rw [length_drop, length_append, bytes_length] at total
    have built := buildGuardedRegion_file host ukName reserved positive region.paged
      ⟨bytes, offset⟩ aligned (by dsimp only; omega) memory
    have tail : bytes.drop (offset + region.len) = memoryBytes contents rest := by
      rw [← drop_drop, stored, drop_left' (bytes_length _ _)]
    have nextAligned : (offset + region.len) % pageSize = 0 := by
      have paged := region.paged
      simp only [pageSize] at *
      omega
    obtain ⟨guests, final, ran, shows, kept⟩ := ih (offset + region.len) (call + 1)
      (mappedRegion (some ⟨bytes, offset⟩) guardAddr region.len memory) nextAligned tail
      (fun other member => mapped other (mem_cons_of_mem _ member))
      (fun index other found => by
        rw [Nat.add_assoc, Nat.add_comm 1 index]
        exact granted (index + 1) other found)
    refine ⟨⟨region.start, ⟨regionStartAddr guardAddr, region.len, []⟩⟩ :: guests, final, ?_,
      List.Forall₂.cons ⟨rfl, rfl, fun place inside => ?_⟩ shows, fun cell apart => ?_⟩
    · have placed : guestRegion region.start ⟨regionStartAddr guardAddr, region.len, []⟩ =
          .ok ⟨region.start, ⟨regionStartAddr guardAddr, region.len, []⟩⟩ :=
        if_neg (Nat.not_le_of_lt representable)
      rw [fileSpecs, describeFrom, map_cons, createRegions, bind_of_ok built]
      dsimp only
      rw [bind_of_ok placed, ← fileSpecs, bind_of_ok ran]
      rfl
    · have elsewhere : final (regionStartAddr guardAddr + place) =
          mappedRegion (some ⟨bytes, offset⟩) guardAddr region.len memory
            (regionStartAddr guardAddr + place) := by
        refine kept _ fun later length other behind held => ?_
        have apart := kernel.apart (by omega : call ≠ later) reserved held
        simp only [guardedSize, regionStartAddr, guardPageCount, pageSize] at *
        omega
      have byte : bytes[offset + place]? = some (contents (region.start + place)) := by
        rw [← getElem?_drop, stored, getElem?_append_left (by rw [bytes_length]; exact inside),
          bytes_getElem? _ _ inside, Nat.add_zero]
      rw [elsewhere, mappedRegion_inside _ _ inside]
      exact byte
    rw [kept cell fun later length other behind held => apart later length other (by omega) held]
    exact mappedRegion_outside _ _ (apart call _ _ (Nat.le_refl _) reserved)

variable (shows : List.Forall₂ (Shows contents memory) regions guests)
include shows

theorem checkOrder_ok (ordered : regions.Pairwise fun first second => first.start + first.len ≤ second.start) :
  checkOrder guests = .ok () := by
  induction shows with
  | nil => rfl
  | @cons region guest regions guests first rest ih =>
    obtain ⟨before, later⟩ := pairwise_cons.mp ordered
    cases rest with
    | nil => rfl
    | @cons next other regions guests second rest =>
      have behind := before next mem_cons_self
      rw [checkOrder, first.start, first.size, second.start, if_neg (by omega),
        if_neg (by omega)]
      exact ih later

theorem guestByte_shows (addr : Nat) : guestByte guests memory addr =
    if ∃ region ∈ regions, region.start ≤ addr ∧ addr < region.start + region.len
    then some (contents addr) else none := by
  unfold guestByte
  cases found : guests.find? fun guest => decide (guest.Contains addr) with
  | none =>
    rw [if_neg]
    rintro ⟨region, member, inside⟩
    obtain ⟨guest, guestMem, shown⟩ := forall₂_mem_left shows member
    have outside := find?_eq_none.mp found guest guestMem
    rw [← shown.start, ← shown.size] at inside
    exact outside (decide_eq_true inside)
  | some guest =>
    have contains : guest.Contains addr := by simpa using find?_some found
    obtain ⟨region, member, shown⟩ :=
      forall₂_mem_right shows (mem_of_find?_eq_some found)
    obtain ⟨above, below⟩ := contains
    rw [shown.start] at above
    rw [shown.start, shown.size] at below
    rw [if_pos ⟨region, member, above, below⟩]
    dsimp only
    rw [shown.start, shown.bytes _ (by omega), Nat.add_sub_cancel' above]

omit shows

end

def Grants (kernel : Kernel) (memory : GuestMemoryMmap) : Prop :=
  ∀ slot region, memory.regions[slot]? = some region → (kernel.reserve slot (guardedSize region.len)).isSome

theorem restore_shows (host : Host) (ukName : String) (memory : GuestMemoryMmap)
  (contents : Contents) (granted : Grants kernel memory) (space : Memory) :
  ∃ guests final, restore host kernel (some (.full (memoryBytes contents memory.regions)))
      (describe memory) ukName space = .ok (guests, final) ∧
    List.Forall₂ (Shows contents final) memory.regions guests := by
  have stored : (memoryBytes contents memory.regions).drop 0 =
      memoryBytes contents memory.regions := drop_zero
  obtain ⟨guests, final, ran, shows, _⟩ := createRegions_files host ukName memory.regions 0 0 space
    rfl stored memory.mapped
    (fun index region found => by rw [Nat.zero_add]; exact granted index region found)
  have some : guests ≠ [] := by
    rintro rfl
    exact memory.nonempty (forall₂_nil_right_iff.mp shows)
  refine ⟨guests, final, ?_, shows⟩
  rw [restore, createGuestMemory, describe]
  simp only [SparseFile.content_full, Option.map_some]
  rw [← fileSpecs, bind_of_ok ran]
  dsimp only
  rw [fromRegions, if_neg some, bind_of_ok (checkOrder_ok shows memory.ordered)]
  rfl

/-- KVM answers for every slot, and its bitmaps and Firecracker's mark every page on
which the two memories differ. -/
def Tracked (getDirtyLog : Nat → Nat → Option (List UInt64)) (memory : GuestMemoryMmap)
  (before after : Contents) : Prop :=
  ∀ slot region, memory.regions[slot]? = some region → ∃ kvmBitmap,
    getDirtyLog slot region.len = some kvmBitmap ∧ Tracks before after region kvmBitmap

/-- The differential snapshot rebased onto the full one is the full snapshot of the
later memory, and restores it. -/
theorem differential_snapshots_compose (host : Host) (kernel : Kernel) (ukName : String)
  (space : Memory) (getDirtyLog : Nat → Nat → Option (List UInt64))
  (sendfile : Nat → Nat → Int) (memory : GuestMemoryMmap) (before after : Contents)
  (tracked : Tracked getDirtyLog memory before after) (progresses : Progresses sendfile)
  (granted : Grants kernel memory) :
  ∃ baseFile diffFile target, snapshotMemoryToFile getDirtyLog memory.regions before .full =
      .ok (memory.regions, baseFile) ∧
    snapshotMemoryToFile getDirtyLog memory.regions after .diff =
      .ok (memory.regions.map GuestRegionMmap.reset, diffFile) ∧
    snapshotMemoryToFile getDirtyLog memory.regions after .full = .ok (memory.regions, target) ∧
    (∀ steps, diffFile.length ≤ steps → rebase sendfile steps baseFile diffFile = .ok target) ∧
    ∃ guests final, restore host kernel (some target) (describe memory) ukName space = .ok (guests, final) ∧
      ∀ addr, guestByte guests final addr =
        if ∃ region ∈ memory.regions, region.start ≤ addr ∧ addr < region.start + region.len
        then some (after addr) else none := by
  obtain ⟨diffFile, taken, completes, size⟩ := snapshotMemoryToFile_diff tracked
  obtain ⟨guests, final, restored, shows⟩ := restore_shows host ukName memory after granted space
  refine ⟨_, diffFile, _, snapshotMemoryToFile_full getDirtyLog memory.regions before, taken,
    snapshotMemoryToFile_full getDirtyLog memory.regions after, fun steps enough => ?_, guests,
    final, restored, guestByte_shows shows⟩
  have room : diffFile.length ≤ (SparseFile.full (memoryBytes before memory.regions)).length := by
    rw [SparseFile.length_full, memoryBytes_length]
    exact size
  obtain ⟨result, ran, bounds, cells⟩ := rebase_ok progresses enough _
  rw [ran]
  refine congrArg Except.ok (SparseFile.ext_data ?_ fun offset => ?_)
  · rw [Nat.max_eq_left room] at bounds
    rw [Nat.le_antisymm bounds.2 bounds.1, SparseFile.length_full, SparseFile.length_full,
      memoryBytes_length, memoryBytes_length]
  · rw [cells, SparseFile.data_full, SparseFile.data_full, completes]

/-! Two regions with a gap; KVM has seen a write to the second page of the first one, and
Firecracker has made one to the other region. -/

def sampleMemory : GuestMemoryMmap where
  regions := [⟨0, 0x2000, none, by decide, by simp⟩,
    ⟨0x4000, 0x1000, some [true], by decide, by simp [pageSize]⟩]
  nonempty := by simp
  mapped := by simp
  ordered := by simp

def sampleDirtyLog (slot _size : Nat) : Option (List UInt64) :=
  if slot = 0 then some [2] else if slot = 1 then some [0] else none

def sampleAfter (addr : Nat) : UInt8 := if addr = 0x1800 ∨ addr = 0x4000 then 1 else 0

theorem kvmMarked_single (marked : kvmMarked [v] page = true) : page < 64 := by
  by_contra outside
  have beyond : ([v] : List UInt64)[page / 64]? = none :=
    getElem?_eq_none (by simp only [length_singleton]; omega)
  rw [kvmMarked, beyond] at marked
  cases marked

theorem sampleMemory_tracked : Tracked sampleDirtyLog sampleMemory (fun _ => 0) sampleAfter := by
  intro slot region found
  match slot with
  | 0 =>
    cases found
    refine ⟨[2], rfl, ⟨by decide, fun page marked => ?_⟩, fun offset inside differ => ?_⟩
    · have small : ∀ page < 64, kvmMarked [2] page = true → page < 2 := by decide
      exact small page (kvmMarked_single marked) marked
    have place : offset = 0x1800 := by
      simp only [sampleAfter] at differ inside
      by_contra other
      rw [if_neg (by omega)] at differ
      exact differ rfl
    subst place
    decide
  | 1 =>
    cases found
    refine ⟨[0], rfl, ⟨by decide, fun page marked => ?_⟩, fun offset inside differ => ?_⟩
    · have small : ∀ page < 64, kvmMarked [0] page = true → page < 1 := by decide
      exact small page (kvmMarked_single marked) marked
    have page : offset / pageSize = 0 := Nat.div_eq_of_lt inside
    rw [page]
    decide

theorem differential_snapshots_compose_sample : ∃ baseFile diffFile target,
    snapshotMemoryToFile sampleDirtyLog sampleMemory.regions (fun _ => 0) .full =
      .ok (sampleMemory.regions, baseFile) ∧
    snapshotMemoryToFile sampleDirtyLog sampleMemory.regions sampleAfter .diff =
      .ok (sampleMemory.regions.map GuestRegionMmap.reset, diffFile) ∧
    snapshotMemoryToFile sampleDirtyLog sampleMemory.regions sampleAfter .full =
      .ok (sampleMemory.regions, target) ∧
    (∀ steps, diffFile.length ≤ steps →
      rebase (fun _ count => min count 0x7ffff000) steps baseFile diffFile = .ok target) ∧
    ∃ guests final, restore sampleHost sampleKernel (some target) (describe sampleMemory) "uk"
        (fun _ => none) = .ok (guests, final) ∧
      ∀ addr, guestByte guests final addr =
        if ∃ region ∈ sampleMemory.regions, region.start ≤ addr ∧ addr < region.start + region.len
        then some (sampleAfter addr) else none := by
  refine differential_snapshots_compose sampleHost sampleKernel "uk" (fun _ => none) sampleDirtyLog
    (fun _ count => min count 0x7ffff000) sampleMemory (fun _ => 0) sampleAfter
    sampleMemory_tracked ?_ ?_
  · intro cursor count positive
    dsimp only
    omega
  intro slot region found
  match slot with
  | 0 =>
    cases found
    exact sampleKernel_reserve (by decide) (by decide)
  | 1 =>
    cases found
    exact sampleKernel_reserve (by decide) (by decide)

end Spacer.Snapshot
