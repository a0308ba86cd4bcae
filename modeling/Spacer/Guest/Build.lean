import Mathlib.Data.List.Forall2
import Spacer.Guest.Core
import Spacer.Loader.Run

/-!
When the regions of a guest are built, and with what result, when a loader is
given and no region is backed by a file.
-/

namespace Spacer.Guest

open Lib Loader

def mappedRegion (maybeFileOffset : Option FileOffset) (guardAddr size : Nat) (memory : Memory) :
  Memory :=
  (regionOverlay maybeFileOffset (regionStartAddr guardAddr) size).apply
    ((guardOverlay guardAddr (guardedSize size)).apply memory)

section

variable (maybeFileOffset : Option FileOffset) {guardAddr size : Nat} (memory : Memory)

theorem mappedRegion_inside (bound : offset < size) :
  mappedRegion maybeFileOffset guardAddr size memory (regionStartAddr guardAddr + offset) =
    (regionOverlay maybeFileOffset (regionStartAddr guardAddr) size).value offset := by
  have covered : (regionOverlay maybeFileOffset (regionStartAddr guardAddr) size).Covers
      (regionStartAddr guardAddr + offset) := by
    simp only [regionOverlay, Overlay.Covers]
    omega
  rw [mappedRegion, Overlay.apply, if_pos covered]
  simp only [regionOverlay, Nat.add_sub_cancel_left]

theorem mappedRegion_outside (outside : cell < guardAddr ∨ guardAddr + guardedSize size ≤ cell) :
  mappedRegion maybeFileOffset guardAddr size memory cell = memory cell := by
  have region : ¬(regionOverlay maybeFileOffset (regionStartAddr guardAddr) size).Covers cell := by
    simp only [regionOverlay, Overlay.Covers, regionStartAddr, guardedSize, guardPageCount, pageSize] at *
    omega
  have guard : ¬(guardOverlay guardAddr (guardedSize size)).Covers cell := by
    simp only [guardOverlay, Overlay.Covers]
    omega
  rw [mappedRegion, Overlay.apply, if_neg region, Overlay.apply, if_neg guard]

end

def zeroedRegion (guardAddr size : Nat) (memory : Memory) : Memory :=
  (regionOverlay none (regionStartAddr guardAddr) size).apply
    ((guardOverlay guardAddr (guardedSize size)).apply memory)

def loadedMapping (host : Host) (loader : LoaderInfo) (ukName : String) (guardAddr size : Nat) :
  GuardedRegion :=
  ⟨regionStartAddr guardAddr, size,
    regionEffects host loader (regionStartAddr guardAddr) (ukName ++ "_update")⟩

def loadedMemory (host : Host) (loader : LoaderInfo) (ukName : String) (guardAddr size : Nat)
  (memory : Memory) : Memory :=
  applyEffects (zeroedRegion guardAddr size memory)
    (regionEffects host loader (regionStartAddr guardAddr) (ukName ++ "_update"))

section

variable {kernel : Kernel}

theorem Kernel.regionAddr_aligned (reserved : kernel.reserve call length = some guardAddr) :
  regionStartAddr guardAddr % pageSize = 0 := by
  have aligned := kernel.aligned reserved
  simp only [regionStartAddr, guardPageCount, pageSize] at *
  omega

theorem mapError_ok_iff {action : Except Panic (List Effect)} :
  action.mapError BuildError.panic = .ok effects ↔ action = .ok effects := by
  cases action with
  | error | ok => simp [Except.mapError]

theorem buildGuardedRegion_ok_iff (host : Host) (kernel : Kernel) (loader : LoaderInfo)
  (ukName : String) (call size : Nat) (memory : Memory) (result : GuardedRegion × Memory) :
  buildGuardedRegion host kernel call none size ukName (some loader) memory = .ok result ↔
    ∃ guardAddr, kernel.reserve call (guardedSize size) = some guardAddr ∧
      0 < size ∧ size % pageSize = 0 ∧ Loadable host loader (ukName ++ "_update") ∧
      result = (loadedMapping host loader ukName guardAddr size,
        loadedMemory host loader ukName guardAddr size memory) := by
  cases reserved : kernel.reserve call (guardedSize size) with
  | none => simp [buildGuardedRegion, reserved]
  | some guardAddr =>
    have aligned := kernel.regionAddr_aligned reserved
    have load := loadRegion_ok_iff host loader aligned ukName
    simp only [Option.some.injEq, exists_eq_left', buildGuardedRegion, reserved]
    constructor
    · intro built
      obtain ⟨_, _, built⟩ := ok_of_bind built
      obtain ⟨mapped, mappedOk, built⟩ := ok_of_bind built
      obtain ⟨effects, loaded, built⟩ := ok_of_bind built
      obtain ⟨region, raw, built⟩ := ok_of_bind built
      obtain ⟨loadable, rfl⟩ := (load effects).mp (mapError_ok_iff.mp loaded)
      simp only [mapRegion, Option.map_none, Option.getD_none, Nat.zero_mod, ne_eq,
        not_true_eq_false, or_false] at mappedOk
      simp only [buildRaw] at raw
      split at mappedOk
      · cases mappedOk
      rename_i nonzero
      split at raw
      · cases raw
      rename_i valid
      cases mappedOk
      cases raw
      cases built
      exact ⟨Nat.pos_of_ne_zero nonzero, not_not.mp fun bad => valid (.inr bad), loadable,
        rfl⟩
    rintro ⟨positive, paged, loadable, rfl⟩
    have loaded : runLoader host (some loader) (regionStartAddr guardAddr) ukName = .ok _ :=
      mapError_ok_iff.mpr ((load _).mpr ⟨loadable, rfl⟩)
    have mapped : ∀ before : Memory, mapRegion none (regionStartAddr guardAddr) size before =
        .ok ((regionOverlay none (regionStartAddr guardAddr) size).apply before) := by
      intro before
      simp [mapRegion, Nat.ne_of_gt positive]
    have raw : ∀ effects, buildRaw (regionStartAddr guardAddr) size effects =
        .ok ⟨regionStartAddr guardAddr, size, effects⟩ := by
      intro effects
      simp [buildRaw, aligned, paged]
    rw [bind_of_ok (show checkFileOffset none size = .ok () from rfl), bind_of_ok (mapped _),
      bind_of_ok loaded, bind_of_ok (raw _)]
    rfl

theorem createRegions_cons_ok_iff (memory : Memory) :
  createRegions host kernel ukName (some loader) (⟨none, guestAddr, size⟩ :: rest) call memory =
      .ok result ↔
    ∃ guardAddr, kernel.reserve call (guardedSize size) = some guardAddr ∧
      (0 < size ∧ size % pageSize = 0 ∧ guestAddr + size < 2 ^ 64) ∧
      Loadable host loader (ukName ++ "_update") ∧
      ∃ later, createRegions host kernel ukName (some loader) rest (call + 1)
          (loadedMemory host loader ukName guardAddr size memory) = .ok later ∧
        result = (⟨guestAddr, loadedMapping host loader ukName guardAddr size⟩ :: later.1,
          later.2) := by
  have build := buildGuardedRegion_ok_iff host kernel loader ukName call size memory
  constructor
  · intro created
    obtain ⟨⟨mapping, mapped⟩, built, created⟩ := ok_of_bind created
    obtain ⟨guardAddr, reserved, positive, paged, loadable, same⟩ := (build _).mp built
    cases same
    obtain ⟨region, placed, created⟩ := ok_of_bind created
    obtain ⟨later, laterOk, created⟩ := ok_of_bind created
    simp only [guestRegion] at placed
    split at placed
    · cases placed
    rename_i representable
    cases placed
    cases created
    exact ⟨guardAddr, reserved, ⟨positive, paged, Nat.lt_of_not_le representable⟩, loadable,
      later, laterOk, rfl⟩
  rintro ⟨guardAddr, reserved, ⟨positive, paged, representable⟩, loadable, later, laterOk, rfl⟩
  have built := (build _).mpr ⟨guardAddr, reserved, positive, paged, loadable, rfl⟩
  have placed : guestRegion guestAddr (loadedMapping host loader ukName guardAddr size) =
      .ok ⟨guestAddr, loadedMapping host loader ukName guardAddr size⟩ :=
    if_neg (Nat.not_le_of_lt representable)
  rw [createRegions, bind_of_ok built]
  dsimp only
  rw [bind_of_ok placed, bind_of_ok laterOk]
  rfl

theorem createRegions_ordered
  (created : createRegions host kernel ukName (some loader) (builderRegions memSizeMib) 0 memory =
    .ok result) : fromRegions result.1 = .ok result.1 := by
  by_cases low : memSize memSizeMib ≤ mmioMemStart
  · simp only [builderRegions, archMemoryRegions, low, if_true, List.map_cons, List.map_nil,
      createRegions_cons_ok_iff] at created
    obtain ⟨guardAddr, _, _, _, later, laterOk, rfl⟩ := created
    cases laterOk
    rfl
  simp only [builderRegions, archMemoryRegions, low, if_false, List.map_cons, List.map_nil,
    createRegions_cons_ok_iff] at created
  obtain ⟨guardAddr, _, _, _, later, ⟨highGuard, _, _, _, final, finalOk, rfl⟩, rfl⟩ := created
  cases finalOk
  have sorted : ¬firstAddrPast32Bits < 0 := by decide
  have apart : ¬firstAddrPast32Bits < 0 + mmioMemStart := by decide
  simp only [fromRegions, List.cons_ne_nil, if_false, checkOrder, sorted, loadedMapping, apart]
  rfl

theorem builder_ok_iff (memory : Memory) :
  Builder.createGuestMemory host kernel memSizeMib ukName (some loader) memory = .ok result ↔
    createRegions host kernel ukName (some loader) (builderRegions memSizeMib) 0 memory = .ok result := by
  constructor
  · intro built
    obtain ⟨mapped, created, built⟩ := ok_of_bind built
    dsimp only at built
    rw [bind_of_ok (createRegions_ordered created)] at built
    cases built
    exact created
  intro created
  rw [Builder.createGuestMemory, createGuestMemory, bind_of_ok created]
  dsimp only
  rw [bind_of_ok (createRegions_ordered created)]
  rfl

theorem archMemoryRegions_ne_nil : archMemoryRegions size ≠ [] := by
  unfold archMemoryRegions
  split
  · simp
  · simp

theorem archMemoryRegions_shaped (memSizeMib : Nat) :
  ∀ region ∈ archMemoryRegions (memSize memSizeMib), region.2 % pageSize = 0 ∧ region.1 ≤ 2 ^ 32 := by
  have paged : memSize memSizeMib % pageSize = 0 := by
    have multiple : pageSize ∣ 2 ^ 64 := ⟨2 ^ 52, by decide⟩
    rw [memSize, Nat.mod_mod_of_dvd _ multiple, Nat.shiftLeft_eq, Nat.mul_mod]
    simp [pageSize]
  have gap : mmioMemStart % pageSize = 0 := by decide
  intro region member
  unfold archMemoryRegions at member
  split at member
  · simp only [List.mem_singleton] at member
    subst region
    exact ⟨paged, Nat.zero_le _⟩
  simp only [List.mem_cons, List.not_mem_nil, or_false] at member
  rcases member with rfl | rfl
  · exact ⟨gap, by decide⟩
  have start : firstAddrPast32Bits ≤ 2 ^ 32 := by decide
  refine ⟨?_, start⟩
  simp only [pageSize] at *
  omega

end

end Spacer.Guest
