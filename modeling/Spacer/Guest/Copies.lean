import Spacer.Guest.Containment

/-!
What a guest reads after `create_guest_memory` with a loader, which runs once per region
with nothing but the region's host address.
-/

namespace Spacer.Guest

open Lib Loader List

def GuestRegion.Contains (region : GuestRegion) (addr : Nat) : Prop :=
  region.start ≤ addr ∧ addr < region.start + region.mapping.size

instance (region : GuestRegion) (addr : Nat) : Decidable (region.Contains addr) :=
  inferInstanceAs (Decidable (_ ∧ _))

def guestByte (regions : List GuestRegion) (memory : Memory) (addr : Nat) : Option UInt8 :=
  match regions.find? fun region => decide (region.Contains addr) with
  | some region => memory (region.mapping.addr + (addr - region.start))
  | none => none

structure LoadedOnce (blocks : List (Block UInt8)) (regions : List GuestRegion)
  (memory : Memory) : Prop where
  content : ∀ block ∈ blocks, ∀ i < block.content.length,
    guestByte regions memory (block.start + i) = block.content[i]?
  zero : ∀ region ∈ regions, ∀ addr, region.Contains addr →
    (∀ block ∈ blocks, ¬block.Contains addr) → guestByte regions memory addr = some 0

def Covered (blocks : List (Block UInt8)) (guest : Nat) : Prop :=
  ∃ block ∈ blocks, block.Covers pageSize guest

/-- The second run of the loader writes nothing but zeros into the high region,
and where it reaches the low region it finds the bytes it writes. -/
def SecondRunHarmless (blocks : List (Block UInt8)) (lowAddr highAddr highSize : Nat) : Prop :=
  (∀ guest < highSize, imageAt 0 blocks guest = 0) ∧
  ∀ guest, Covered blocks guest → ∀ target < mmioMemStart,
    highAddr + guest = lowAddr + target → imageAt 0 blocks guest = imageAt 0 blocks target

theorem zeroedRegion_inside (bound : offset < size) :
  zeroedRegion guardAddr size memory (regionStartAddr guardAddr + offset) = some 0 :=
  mappedRegion_inside none memory bound

theorem zeroedRegion_outside (outside : cell < guardAddr ∨ guardAddr + guardedSize size ≤ cell) :
  zeroedRegion guardAddr size memory cell = memory cell :=
  mappedRegion_outside none memory outside

theorem imageAt_of_not_covered (uncovered : ¬Covered blocks guest) : imageAt 0 blocks guest = 0 :=
  imageAt_of_not_contains fun block member contains =>
    uncovered ⟨block, member, covers_of_contains (by decide) contains⟩

section

abbrev ukBlocks (host : Host) (loader : LoaderInfo) (ukName : String) : List (Block UInt8) :=
  loaderBlocks host loader (ukName ++ "_update")

variable (image : Image host loader (ukName ++ "_update") imageSize)
include image

theorem reachable_blocks (room : addr + imageSize < 2 ^ 64) :
  ∀ block ∈ ukBlocks host loader ukName, addr + block.start < 2 ^ 64 := by
  intro block member
  have inside := image.inside block member
  omega

theorem loadedMemory_inside (memory : Memory)
  (room : regionStartAddr guardAddr + imageSize < 2 ^ 64) (bound : guest < size) :
  loadedMemory host loader ukName guardAddr size memory (regionStartAddr guardAddr + guest) =
    some (imageAt 0 (ukBlocks host loader ukName) guest) := by
  rw [loadedMemory, image.applyEffects_cell (reachable_blocks image room)]
  split
  · rfl
  rename_i uncovered
  rw [zeroedRegion_inside bound, imageAt_of_not_covered uncovered]

theorem loadedMemory_outside (room : regionStartAddr guardAddr + imageSize < 2 ^ 64)
  (outside : cell < guardAddr ∨ guardAddr + guardedSize size ≤ cell)
  (before : memory cell = some value) :
  loadedMemory host loader ukName guardAddr size memory cell = some value ↔
    ∀ guest, Covered (ukBlocks host loader ukName) guest → regionStartAddr guardAddr + guest = cell →
      imageAt 0 (ukBlocks host loader ukName) guest = value := by
  have reachable := reachable_blocks image room
  rw [loadedMemory]
  by_cases above : regionStartAddr guardAddr ≤ cell
  · obtain ⟨guest, rfl⟩ := Nat.exists_eq_add_of_le above
    rw [image.applyEffects_cell reachable, zeroedRegion_outside outside, before]
    constructor
    · intro kept other covered same
      have equal : other = guest := by omega
      subst other
      unfold Covered at covered
      rw [if_pos covered] at kept
      exact Option.some.inj kept
    intro agrees
    split
    · rename_i covered
      rw [agrees guest covered rfl]
    · rfl
  rw [applyEffects, image.regionEffects_overlays reachable, applyAll_below _ (by omega),
    zeroedRegion_outside outside, before]
  simp only [true_iff]
  intro guest _ same
  omega

theorem image_content_iff {read : Nat → Option UInt8} :
  ((∀ block ∈ ukBlocks host loader ukName, ∀ i < block.content.length,
      read (block.start + i) = block.content[i]?) ∧
    ∀ addr < imageSize, (∀ block ∈ ukBlocks host loader ukName, ¬block.Contains addr) →
      read addr = some 0) ↔
    ∀ addr < imageSize, read addr = some (imageAt 0 (ukBlocks host loader ukName) addr) := by
  have byte : ∀ block ∈ ukBlocks host loader ukName, ∀ i < block.content.length,
      block.content[i]? = some (imageAt 0 (ukBlocks host loader ukName) (block.start + i)) := by
    intro block member i bound
    have contains : block.Contains (block.start + i) := ⟨by omega, by omega⟩
    rw [ukBlocks, loaderBlocks, image.placed.imageAt_eq member contains, Nat.add_sub_cancel_left,
      getElem?_eq_getElem bound, getD_eq_getElem _ _ bound]
  constructor
  · rintro ⟨content, zero⟩ addr bound
    by_cases held : ∃ block ∈ ukBlocks host loader ukName, block.Contains addr
    · obtain ⟨block, member, lower, upper⟩ := held
      obtain ⟨i, rfl⟩ := Nat.exists_eq_add_of_le lower
      rw [content block member i (by omega), byte block member i (by omega)]
    push Not at held
    rw [zero addr bound held, imageAt_of_not_contains held]
  intro whole
  constructor
  · intro block member i bound
    have inside := image.inside block member
    rw [whole _ (by omega), byte block member i bound]
  intro addr bound empty
  rw [whole addr bound, imageAt_of_not_contains empty]

theorem loadedOnce_single (room : regionStartAddr guardAddr + imageSize < 2 ^ 64) :
  LoadedOnce (ukBlocks host loader ukName) [⟨0, loadedMapping host loader ukName guardAddr imageSize⟩]
    (loadedMemory host loader ukName guardAddr imageSize memory) := by
  have low : ∀ addr < imageSize, guestByte [⟨0, loadedMapping host loader ukName guardAddr imageSize⟩]
      (loadedMemory host loader ukName guardAddr imageSize memory) addr =
      some (imageAt 0 (ukBlocks host loader ukName) addr) := by
    intro addr bound
    rw [← loadedMemory_inside image memory room bound]
    simp [guestByte, GuestRegion.Contains, loadedMapping, bound]
  obtain ⟨content, zero⟩ := (image_content_iff image).mpr low
  refine ⟨content, ?_⟩
  intro region member addr contains
  rw [mem_singleton.mp member] at contains
  exact zero addr (by simpa [GuestRegion.Contains, loadedMapping] using contains)

omit image

/-- With a second region the guest is right exactly when the loader's second run
is harmless. -/
theorem loadedOnce_pair_iff (image : Image host loader (ukName ++ "_update") mmioMemStart)
  (memory : Memory) (lowRoom : regionStartAddr lowGuard + mmioMemStart < 2 ^ 64)
  (highRoom : regionStartAddr highGuard + mmioMemStart < 2 ^ 64)
  (apart : lowGuard + guardedSize mmioMemStart ≤ highGuard ∨ highGuard + guardedSize highSize ≤ lowGuard) :
  LoadedOnce (ukBlocks host loader ukName) [⟨0, loadedMapping host loader ukName lowGuard mmioMemStart⟩,
        ⟨firstAddrPast32Bits, loadedMapping host loader ukName highGuard highSize⟩]
      (loadedMemory host loader ukName highGuard highSize
        (loadedMemory host loader ukName lowGuard mmioMemStart memory)) ↔
    SecondRunHarmless (ukBlocks host loader ukName) (regionStartAddr lowGuard)
      (regionStartAddr highGuard) highSize := by
  generalize regionsEq : ([⟨0, loadedMapping host loader ukName lowGuard mmioMemStart⟩,
    ⟨firstAddrPast32Bits, loadedMapping host loader ukName highGuard highSize⟩] :
      List GuestRegion) = regions
  generalize finalEq : loadedMemory host loader ukName highGuard highSize
    (loadedMemory host loader ukName lowGuard mmioMemStart memory) = final
  have gap : mmioMemStart ≤ firstAddrPast32Bits := by decide
  have readLow : ∀ addr < mmioMemStart,
      guestByte regions final addr = final (regionStartAddr lowGuard + addr) := by
    intro addr bound
    rw [← regionsEq]
    simp [guestByte, GuestRegion.Contains, loadedMapping, bound]
  have readHigh : ∀ offset < highSize, guestByte regions final (firstAddrPast32Bits + offset) =
      final (regionStartAddr highGuard + offset) := by
    intro offset bound
    have notLow : ¬firstAddrPast32Bits + offset < mmioMemStart := by omega
    rw [← regionsEq]
    simp [guestByte, GuestRegion.Contains, loadedMapping, bound, notLow]
  have highByte : ∀ offset < highSize, final (regionStartAddr highGuard + offset) =
      some (imageAt 0 (ukBlocks host loader ukName) offset) := by
    intro offset bound
    rw [← finalEq]
    exact loadedMemory_inside image _ highRoom bound
  have lowByte : ∀ addr < mmioMemStart, (final (regionStartAddr lowGuard + addr) =
      some (imageAt 0 (ukBlocks host loader ukName) addr) ↔
      ∀ guest, Covered (ukBlocks host loader ukName) guest →
        regionStartAddr highGuard + guest = regionStartAddr lowGuard + addr →
        imageAt 0 (ukBlocks host loader ukName) guest = imageAt 0 (ukBlocks host loader ukName) addr) := by
    intro addr bound
    rw [← finalEq]
    apply loadedMemory_outside image highRoom
    · simp only [regionStartAddr, guardedSize, guardPageCount, pageSize] at *
      omega
    · exact loadedMemory_inside image memory lowRoom bound
  have aboveBlocks : ∀ offset, ∀ block ∈ ukBlocks host loader ukName,
      ¬block.Contains (firstAddrPast32Bits + offset) := by
    intro offset block member contains
    have inside := image.inside block member
    obtain ⟨lower, upper⟩ := contains
    omega
  constructor
  · rintro ⟨content, zero⟩
    constructor
    · intro guest bound
      have high := zero ⟨firstAddrPast32Bits, loadedMapping host loader ukName highGuard highSize⟩
        (by simp [← regionsEq]) (firstAddrPast32Bits + guest)
        ⟨Nat.le_add_right _ _, Nat.add_lt_add_left bound _⟩ (aboveBlocks guest)
      rw [readHigh guest bound, highByte guest bound] at high
      exact Option.some.inj high
    have lowZero : ∀ addr < mmioMemStart, (∀ block ∈ ukBlocks host loader ukName, ¬block.Contains addr) →
        guestByte regions final addr = some 0 := by
      intro addr bound
      exact zero ⟨0, loadedMapping host loader ukName lowGuard mmioMemStart⟩
        (by simp [← regionsEq]) addr ⟨Nat.zero_le _, by simpa [loadedMapping] using bound⟩
    have whole := (image_content_iff image).mp ⟨content, lowZero⟩
    intro guest covered target bound lands
    have read := whole target bound
    rw [readLow target bound] at read
    exact (lowByte target bound).mp read guest covered lands
  rintro ⟨highZero, lowKept⟩
  have whole : ∀ addr < mmioMemStart, guestByte regions final addr =
      some (imageAt 0 (ukBlocks host loader ukName) addr) := by
    intro addr bound
    rw [readLow addr bound]
    exact (lowByte addr bound).mpr fun guest covered lands => lowKept guest covered addr bound lands
  obtain ⟨content, lowZero⟩ := (image_content_iff image).mpr whole
  refine ⟨content, ?_⟩
  intro region member addr contains empty
  simp only [← regionsEq, mem_cons, not_mem_nil, or_false] at member
  rcases member with rfl | rfl
  · exact lowZero addr (by simpa [GuestRegion.Contains, loadedMapping] using contains) empty
  obtain ⟨lower, upper⟩ := contains
  obtain ⟨offset, rfl⟩ := Nat.exists_eq_add_of_le lower
  have bound : offset < highSize := Nat.lt_of_add_lt_add_left upper
  rw [readHigh offset bound, highByte offset bound, highZero offset bound]

end

section

variable (memory : Memory)

theorem builder_single (low : memSize memSizeMib ≤ mmioMemStart)
  (granted : Granted kernel memSizeMib) (loadable : Loadable host loader (ukName ++ "_update")) :
  ∃ guardAddr, kernel.reserve 0 (guardedSize (memSize memSizeMib)) = some guardAddr ∧
    Builder.createGuestMemory host kernel memSizeMib ukName (some loader) memory =
      .ok ([⟨0, loadedMapping host loader ukName guardAddr (memSize memSizeMib)⟩],
        loadedMemory host loader ukName guardAddr (memSize memSizeMib) memory) := by
  have regions : archMemoryRegions (memSize memSizeMib) = [(0, memSize memSizeMib)] := if_pos low
  obtain ⟨positive, present⟩ := granted 0 (0, memSize memSizeMib) (by rw [regions]; rfl)
  obtain ⟨guardAddr, reserved⟩ := Option.isSome_iff_exists.mp present
  have shaped := archMemoryRegions_shaped memSizeMib (0, memSize memSizeMib) (by simp [regions])
  refine ⟨guardAddr, reserved, ?_⟩
  rw [builder_ok_iff, builderRegions, regions, map_cons, createRegions_cons_ok_iff]
  refine ⟨guardAddr, reserved, ⟨positive, shaped.1, ?_⟩, loadable, _, rfl, rfl⟩
  rw [Nat.zero_add]
  exact Nat.mod_lt _ (by decide)

theorem builder_pair (high : ¬memSize memSizeMib ≤ mmioMemStart)
  (granted : Granted kernel memSizeMib) (loadable : Loadable host loader (ukName ++ "_update")) :
  ∃ lowGuard highGuard, kernel.reserve 0 (guardedSize mmioMemStart) = some lowGuard ∧
    kernel.reserve 1 (guardedSize (memSize memSizeMib - mmioMemStart)) = some highGuard ∧
    Builder.createGuestMemory host kernel memSizeMib ukName (some loader) memory =
      .ok ([⟨0, loadedMapping host loader ukName lowGuard mmioMemStart⟩,
          ⟨firstAddrPast32Bits, loadedMapping host loader ukName highGuard
            (memSize memSizeMib - mmioMemStart)⟩],
        loadedMemory host loader ukName highGuard (memSize memSizeMib - mmioMemStart)
          (loadedMemory host loader ukName lowGuard mmioMemStart memory)) := by
  have regions : archMemoryRegions (memSize memSizeMib) =
      [(0, mmioMemStart), (firstAddrPast32Bits, memSize memSizeMib - mmioMemStart)] := if_neg high
  have shaped := archMemoryRegions_shaped memSizeMib
  rw [regions] at shaped
  obtain ⟨lowPositive, lowPresent⟩ := granted 0 (0, mmioMemStart) (by rw [regions]; rfl)
  obtain ⟨highPositive, highPresent⟩ := granted 1
    (firstAddrPast32Bits, memSize memSizeMib - mmioMemStart) (by rw [regions]; rfl)
  obtain ⟨lowGuard, lowReserved⟩ := Option.isSome_iff_exists.mp lowPresent
  obtain ⟨highGuard, highReserved⟩ := Option.isSome_iff_exists.mp highPresent
  have room := kernel.inside highReserved
  refine ⟨lowGuard, highGuard, lowReserved, highReserved, ?_⟩
  rw [builder_ok_iff, builderRegions, regions, map_cons, createRegions_cons_ok_iff]
  refine ⟨lowGuard, lowReserved, ⟨lowPositive, (shaped (0, mmioMemStart) (by simp)).1, by decide⟩,
    loadable, ([_], _), ?_, rfl⟩
  rw [map_cons, createRegions_cons_ok_iff]
  refine ⟨highGuard, highReserved, ⟨highPositive,
    (shaped (firstAddrPast32Bits, memSize memSizeMib - mmioMemStart) (by simp)).1, ?_⟩, loadable, _,
    rfl, rfl⟩
  simp only [guardedSize, firstAddrPast32Bits] at *
  omega

end

theorem textLoader_image (aligned : vma % 0x1000 = 0) (fits : vma + 2 ≤ size) (filename : String) :
  Image sampleHost (textLoader vma) filename size := by
  have taken : mapsEntry ⟨".text", vma, 2, none⟩ = true :=
    (mapsEntry_iff _).mpr ⟨aligned, by simp⟩
  refine ⟨textLoader_loadable vma filename, ?_, ?_, ?_, ?_⟩
  · simp [textLoader, sampleHost, shmName]
  · simp [textLoader]
  · simpa [loaderBlocks, mappedBlocks, copiedBlocks, textLoader, taken, entryBlock, sampleHost,
      shmName] using fits
  · simp [loaderBlocks, mappedBlocks, copiedBlocks, textLoader, taken]

end Spacer.Guest
