import Spacer.Snapshot.Dump

/-!
A running microVM: the guest writes its memory and KVM logs the page, the devices write
it through `GuestMemoryMmap` and the bitmap of the region is marked.
-/

namespace Spacer.Snapshot

open Lib Loader
open List hiding count

abbrev Layout := List (Nat × Nat)

def layout (regions : List GuestRegionMmap) : Layout :=
  regions.map fun region => (region.start, region.len)

/-- The bytes from `addr` on that `try_access` reaches before it leaves the regions. -/
def reach (layout : Layout) (addr count : Nat) : Nat :=
  ((range count).takeWhile fun index =>
    layout.any fun region => region.1 ≤ addr + index ∧ addr + index < region.1 + region.2).length

def meets (start addr count page : Nat) : Bool :=
  0 < count ∧ addr < start + (page + 1) * pageSize ∧ start + page * pageSize < addr + count

variable {region : GuestRegionMmap}

namespace GuestRegionMmap

variable (region)

theorem markDirty_marks (addr count : Nat) : ∀ map ∈ region.bitmap.map (·.mapIdx fun page mark =>
    mark || meets region.start addr count page), map.length = region.len / pageSize := by
  intro map member
  obtain ⟨old, oldMem, rfl⟩ := Option.map_eq_some_iff.mp member
  rw [length_mapIdx]
  exact region.marks old oldMem

def markDirty (addr count : Nat) : GuestRegionMmap where
  start := region.start
  len := region.len
  bitmap := region.bitmap.map (·.mapIdx fun page mark => mark || meets region.start addr count page)
  paged := region.paged
  marks := region.markDirty_marks addr count

def Tracking : Prop := region.bitmap.isSome = true

variable {region}

theorem dirtyAt_markDirty (tracking : region.Tracking) (inside : offset < region.len) :
  (region.markDirty addr count).dirtyAt offset =
    (region.dirtyAt offset || meets region.start addr count (offset / pageSize)) := by
  obtain ⟨map, present⟩ := Option.isSome_iff_exists.mp tracking
  have size := region.marks map present
  have page : offset / pageSize < map.length := by
    have whole := Nat.div_add_mod region.len pageSize
    rw [region.paged, Nat.add_zero] at whole
    rw [size, Nat.div_lt_iff_lt_mul (by decide), Nat.mul_comm, whole]
    exact inside
  simp only [dirtyAt, markDirty, present, Option.map_some, getD_eq_getElem?_getD,
    getElem?_mapIdx, getElem?_eq_getElem page, Option.map_some, Option.getD_some]

theorem dirtyAt_page (region : GuestRegionMmap) (offset : Nat) :
  region.dirtyAt (offset / pageSize * pageSize) = region.dirtyAt offset := by
  rw [dirtyAt, dirtyAt, Nat.mul_div_cancel _ (by decide)]

theorem tracking_markDirty (tracking : region.Tracking) : (region.markDirty addr count).Tracking := by
  rw [Tracking, markDirty, Option.isSome_map]
  exact tracking

theorem tracking_reset (tracking : region.Tracking) : region.reset.Tracking := by
  rw [Tracking, reset, Option.isSome_map]
  exact tracking

end GuestRegionMmap

/-- The guest memory with its two records of dirty pages; `dirtyLog` is KVM's, by slot
and page. -/
structure Vm where
  regions : List GuestRegionMmap
  contents : Contents
  dirtyLog : Nat → Nat → Bool

namespace Vm

variable (vm : Vm)

/-- A byte the guest writes; a longer store is several of them. -/
def guestWrite (addr : Nat) (byte : UInt8) : Vm :=
  { vm with
    contents := fun cell => if cell = addr then byte else vm.contents cell
    dirtyLog := fun slot page => vm.dirtyLog slot page ||
      vm.regions[slot]?.any fun region => meets region.start addr 1 page }

def deviceWrite (addr : Nat) (bytes : List UInt8) : Vm :=
  let written := bytes.take (reach (layout vm.regions) addr bytes.length)
  { vm with
    regions := vm.regions.map (·.markDirty addr written.length)
    contents := fun cell => if addr ≤ cell ∧ cell < addr + written.length
      then written.getD (cell - addr) 0 else vm.contents cell }

inductive Write
  | guest (addr : Nat) (byte : UInt8)
  | device (addr : Nat) (bytes : List UInt8)

def write : Write → Vm
  | .guest addr byte => vm.guestWrite addr byte
  | .device addr bytes => vm.deviceWrite addr bytes

def writes (all : List Write) : Vm := all.foldl write vm

def Tracking (vm : Vm) : Prop := ∀ region ∈ vm.regions, region.Tracking

def logWords (pages : Nat) (dirty : Nat → Bool) : List UInt64 :=
  (range ((pages + 63) / 64)).map fun word => UInt64.ofNat (Nat.ofBits fun bit : Fin 64 =>
    decide (word * 64 + bit < pages) && dirty (word * 64 + bit))

def getDirtyLog (slot size : Nat) : Option (List UInt64) :=
  some (logWords (size / pageSize) (vm.dirtyLog slot))

end Vm

/-! The words of a slot hold the pages KVM has logged. -/

theorem isKvmPageDirty_eq_testBit (inside : bit < 64) : isKvmPageDirty v bit = v.toNat.testBit bit := by
  have low : (v >>> UInt64.ofNat bit &&& 1).toNat = 1 &&& v.toNat >>> bit := by
    rw [UInt64.toNat_and, UInt64.toNat_shiftRight, Nat.and_comm]
    simp [Nat.mod_eq_of_lt (by omega : bit < 18446744073709551616), Nat.mod_eq_of_lt inside]
  rw [isKvmPageDirty, Nat.testBit, ← low, Bool.eq_iff_iff, bne_iff_ne, bne_iff_ne, ne_eq, ne_eq,
    ← UInt64.toNat_inj]
  rfl

theorem isKvmPageDirty_ofBits (inside : bit < 64) :
  isKvmPageDirty (UInt64.ofNat (Nat.ofBits bits)) bit = bits ⟨bit, inside⟩ := by
  rw [isKvmPageDirty_eq_testBit inside, UInt64.toNat_ofNat',
    Nat.mod_eq_of_lt (Nat.ofBits_lt_two_pow bits), Nat.testBit_ofBits_lt]

theorem kvmMarked_logWords :
  kvmMarked (Vm.logWords pages dirty) page = (decide (page < pages) && dirty page) := by
  have place : page / 64 * 64 + page % 64 = page := by omega
  by_cases inside : page / 64 < (pages + 63) / 64
  · rw [kvmMarked, Vm.logWords, getElem?_map, getElem?_range inside, Option.map_some,
      Option.any_some, isKvmPageDirty_ofBits (Nat.mod_lt _ (by decide))]
    dsimp only
    rw [place]
  have outside : ¬page < pages := by omega
  rw [kvmMarked, Vm.logWords, getElem?_map, getElem?_eq_none (by
    rw [length_range]; omega), decide_eq_false outside]
  rfl

theorem slotBitmap_logWords (region : GuestRegionMmap) (dirty : Nat → Bool) :
  SlotBitmap region (Vm.logWords (region.len / pageSize) dirty) := by
  refine ⟨?_, fun page marked => ?_⟩
  · rw [Vm.logWords, length_map, length_range]
    omega
  rw [kvmMarked_logWords, Bool.and_eq_true, decide_eq_true_eq] at marked
  exact marked.1

/-! What the records say about an earlier memory. -/

namespace Vm

def Records (before : Contents) (vm : Vm) : Prop :=
  ∀ slot region, vm.regions[slot]? = some region → ∀ offset < region.len,
    before (region.start + offset) ≠ vm.contents (region.start + offset) →
      vm.dirtyLog slot (offset / pageSize) = true ∨ region.dirtyAt offset = true

theorem Records.refl (vm : Vm) : vm.Records vm.contents := by
  intro slot region _ offset _ differ
  exact absurd rfl differ

theorem Records.tracked {vm : Vm} (records : vm.Records before) :
  ∀ slot region, vm.regions[slot]? = some region → ∃ kvmBitmap,
    vm.getDirtyLog slot region.len = some kvmBitmap ∧ Tracks before vm.contents region kvmBitmap := by
  intro slot region found
  refine ⟨_, rfl, slotBitmap_logWords region _, fun offset inside differ => ?_⟩
  have page : offset / pageSize < region.len / pageSize := by
    have whole := Nat.div_add_mod region.len pageSize
    rw [region.paged, Nat.add_zero] at whole
    rw [Nat.div_lt_iff_lt_mul (by decide), Nat.mul_comm, whole]
    exact inside
  rw [dirtyPage, kvmMarked_logWords, decide_eq_true page, Bool.true_and, region.dirtyAt_page,
    Bool.or_eq_true]
  exact records slot region found offset inside differ

theorem meets_of_cell (lower : addr ≤ start + offset) (upper : start + offset < addr + count) :
  meets start addr count (offset / pageSize) = true := by
  have split := Nat.div_add_mod offset pageSize
  have small := Nat.mod_lt offset (by decide : 0 < pageSize)
  rw [meets, decide_eq_true_eq, Nat.add_mul, Nat.one_mul, Nat.mul_comm _ pageSize]
  omega

theorem Records.guestWrite {vm : Vm} (records : vm.Records before) (addr : Nat) (byte : UInt8) :
  (vm.guestWrite addr byte).Records before := by
  intro slot region found offset inside differ
  simp only [Vm.guestWrite] at found differ ⊢
  by_cases here : region.start + offset = addr
  · refine .inl (Bool.or_eq_true_iff.mpr (.inr ?_))
    rw [found, Option.any_some]
    exact meets_of_cell (Nat.le_of_eq here.symm) (by omega)
  rw [if_neg here] at differ
  rcases records slot region found offset inside differ with logged | marked
  · exact .inl (Bool.or_eq_true_iff.mpr (.inl logged))
  · exact .inr marked

theorem Records.deviceWrite {vm : Vm} (records : vm.Records before) (tracking : vm.Tracking)
  (addr : Nat) (bytes : List UInt8) : (vm.deviceWrite addr bytes).Records before := by
  intro slot region found offset inside differ
  simp only [Vm.deviceWrite, getElem?_map, Option.map_eq_some_iff] at found differ ⊢
  obtain ⟨old, oldFound, rfl⟩ := found
  rw [GuestRegionMmap.dirtyAt_markDirty (tracking old (mem_of_getElem? oldFound)) inside,
    Bool.or_eq_true]
  by_cases here : addr ≤ old.start + offset ∧ old.start + offset <
      addr + (bytes.take (reach (layout vm.regions) addr bytes.length)).length
  · exact .inr (.inr (meets_of_cell here.1 here.2))
  rw [GuestRegionMmap.markDirty, if_neg here] at differ
  rcases records slot old oldFound offset inside differ with logged | marked
  · exact .inl logged
  · exact .inr (.inl marked)

theorem Tracking.write {vm : Vm} (tracking : vm.Tracking) (write : Write) : (vm.write write).Tracking := by
  cases write with
  | guest addr byte => exact tracking
  | device addr bytes =>
    intro region member
    obtain ⟨old, oldMem, rfl⟩ := mem_map.mp member
    exact GuestRegionMmap.tracking_markDirty (tracking old oldMem)

theorem Tracking.writes {vm : Vm} (tracking : vm.Tracking) (all : List Write) :
  (vm.writes all).Tracking := by
  induction all generalizing vm with
  | nil => exact tracking
  | cons write rest ih => exact ih (tracking.write write)

theorem Records.write {vm : Vm} (records : vm.Records before) (tracking : vm.Tracking)
  (write : Write) : (vm.write write).Records before := by
  cases write with
  | guest addr byte => exact records.guestWrite addr byte
  | device addr bytes => exact records.deviceWrite tracking addr bytes

theorem Records.writes {vm : Vm} (records : vm.Records before) (tracking : vm.Tracking)
  (all : List Write) : (vm.writes all).Records before := by
  induction all generalizing vm with
  | nil => exact records
  | cons write rest ih => exact ih (records.write tracking write) (tracking.write write)

theorem layout_write (vm : Vm) (write : Write) : layout (vm.write write).regions = layout vm.regions := by
  cases write with
  | guest addr byte => rfl
  | device addr bytes =>
    simp only [Vm.write, Vm.deviceWrite, layout, map_map]
    rfl

theorem layout_writes (vm : Vm) (all : List Write) :
  layout (vm.writes all).regions = layout vm.regions := by
  induction all generalizing vm with
  | nil => rfl
  | cons write rest ih => exact (ih (vm.write write)).trans (vm.layout_write write)

end Vm

theorem memoryBytes_head (region : GuestRegionMmap) (inside : offset < region.len) :
  (memoryBytes contents (region :: rest))[offset]? = some (contents (region.start + offset)) := by
  rw [memoryBytes_cons, getElem?_append_left (by rw [bytes_length]; exact inside),
    bytes_getElem? _ _ inside, Nat.add_zero]

theorem snapshotMemoryToFile_hole {vm : Vm} (single : vm.regions = [region])
  (taken : snapshotMemoryToFile vm.getDirtyLog vm.regions vm.contents .diff = .ok (later, file))
  (inside : offset < region.len) (unlogged : vm.dirtyLog 0 (offset / pageSize) = false)
  (unmarked : region.dirtyAt offset = false) : file.data offset = none := by
  have slot := slotBitmap_logWords region (vm.dirtyLog 0)
  obtain ⟨dirtyBitmap, gathered, maps⟩ := @getDirtyBitmap_ok [region] vm.getDirtyLog (fun _ _ _ => rfl)
  have known := maps 0 region rfl
  obtain ⟨final, dumped, flushed⟩ := dumpDirtyRegion_flushed vm.contents 0 slot
    ⟨SparseFile.empty.setLen (memSizeMib [region] * 1024 * 1024), 0⟩
  rw [single, snapshotMemoryToFile] at taken
  dsimp only at taken
  rw [bind_of_ok gathered, dumpDirty, dumpDirtyFrom, known] at taken
  simp only [Vm.getDirtyLog] at taken
  rw [bind_of_ok dumped] at taken
  cases taken
  have clean : dirtyPage region (Vm.logWords (region.len / pageSize) (vm.dirtyLog 0))
      (offset / pageSize) = false := by
    rw [dirtyPage, kvmMarked_logWords, unlogged, Bool.and_false, Bool.false_or,
      region.dirtyAt_page, unmarked]
  have covered : offset < (Vm.logWords (region.len / pageSize) (vm.dirtyLog 0)).length * 64 * pageSize := by
    have covers := slot.covers
    have whole := Nat.div_add_mod region.len pageSize
    rw [region.paged, Nat.add_zero] at whole
    have enough := Nat.mul_le_mul_left pageSize covers
    rw [whole, Nat.mul_comm pageSize, Nat.mul_comm 64] at enough
    omega
  have hole := flushed.clean offset covered clean
  rw [Nat.zero_add] at hole
  rw [hole, SparseFile.data_setLen]
  split <;> rfl

end Spacer.Snapshot
