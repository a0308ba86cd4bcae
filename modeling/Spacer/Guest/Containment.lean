import Spacer.Guest.Build
import Spacer.Loader.Image

/-! Where the loader writes while the guest memory is built. -/

namespace Spacer.Guest

open Lib Loader

def Inside (addr size : Nat) (effect : Effect) : Prop :=
  ∀ cell, effect.overlay.Covers cell → addr ≤ cell ∧ cell < addr + size

def Contained (regions : List GuestRegion) : Prop :=
  ∀ region ∈ regions, ∀ effect ∈ region.mapping.effects,
    Inside region.mapping.addr region.mapping.size effect

structure FitsRegion (host : Host) (loader : LoaderInfo) (filename : String) (size : Nat) :
  Prop where
  mapped : ∀ s ∈ loader.sectionsLoader, mapsEntry s = true → s.vma + s.size ≤ size
  copied : loader.aslr = true → ∀ s ∈ loader.bin, s.size ≠ 0 → s.vma + s.size ≤ size
  dataFile : loader.aslr = false → ∀ content, host.file filename = some content →
    dataStartFrom loader.sectionsLoader 0 + content.length ≤ size

def Granted (kernel : Kernel) (memSizeMib : Nat) : Prop :=
  ∀ call region, (archMemoryRegions (memSize memSizeMib))[call]? = some region →
    0 < region.2 ∧ (kernel.reserve call (guardedSize region.2)).isSome = true

variable (fits : addr + size ≤ 2 ^ 64)
include fits

theorem range_inside_iff (bounded : vma < 2 ^ 64) (positive : 0 < length) :
  (∀ cell, usizeAdd addr vma ≤ cell ∧ cell < usizeAdd addr vma + length →
      addr ≤ cell ∧ cell < addr + size) ↔ vma + length ≤ size := by
  constructor
  · intro inside
    have first := inside (usizeAdd addr vma) ⟨Nat.le_refl _, by omega⟩
    have last := inside (usizeAdd addr vma + (length - 1)) ⟨by omega, by omega⟩
    -- A wrapped sum lies below the region, so the sum did not wrap.
    have exact : usizeAdd addr vma = addr + vma := by
      by_cases wraps : addr + vma < 2 ^ 64
      · exact Nat.mod_eq_of_lt wraps
      rw [usizeAdd, Nat.mod_eq_sub_mod (by omega), Nat.mod_eq_of_lt (by omega)] at first
      omega
    rw [exact] at last
    omega
  intro short cell covered
  have exact : usizeAdd addr vma = addr + vma := Nat.mod_eq_of_lt (by omega)
  rw [exact] at covered
  omega

theorem mapping_inside_iff (bounded : vma < 2 ^ 64) (positive : 0 < length) (aligned : vma % pageSize = 0)
  (paged : size % pageSize = 0) (content : List UInt8) :
  Inside addr size (.mmap (usizeAdd addr vma) length content) ↔ vma + length ≤ size := by
  have wide : 0 < roundUp length pageSize :=
    Nat.lt_of_lt_of_le positive (le_roundUp (by decide) length)
  have whole : vma + roundUp length pageSize ≤ size ↔ vma + length ≤ size := by
    rw [← roundUp_add_of_dvd (by decide) (Nat.dvd_of_mod_eq_zero aligned)]
    constructor
    · intro short
      exact Nat.le_trans (le_roundUp (by decide) _) short
    · exact roundUp_le_of_dvd (by decide) (Nat.dvd_of_mod_eq_zero paged)
  rw [← whole]
  exact range_inside_iff fits bounded wide

theorem copy_inside_iff (bounded : vma < 2 ^ 64) : Inside addr size (.memcpy (usizeAdd addr vma) content) ↔
    (content.length ≠ 0 → vma + content.length ≤ size) := by
  by_cases empty : content.length = 0
  · simp only [Inside, Effect.overlay, Overlay.Covers, empty, ne_eq, not_true_eq_false,
      false_implies, iff_true]
    omega
  simp only [ne_eq, empty, not_false_eq_true, true_implies]
  exact range_inside_iff fits bounded (Nat.pos_of_ne_zero empty)

omit fits

theorem dataStartFrom_lt (start : dataStartAddr < limit)
  (bounded : ∀ s ∈ sections, s.vma < limit) : dataStartFrom sections dataStartAddr < limit := by
  induction sections generalizing dataStartAddr with
  | nil => exact start
  | cons s rest ih =>
    apply ih
    · split
      · exact bounded s (by simp)
      · exact start
    intro other later
    exact bounded other (List.mem_cons_of_mem _ later)

section

variable {loader : LoaderInfo} (fits : addr + size ≤ 2 ^ 64) (paged : size % pageSize = 0)
  (typed : ∀ s ∈ loader.sectionsLoader ++ loader.bin, s.vma < 2 ^ 64)
include fits typed

theorem updateEffects_inside_iff
  (carried : ∀ s ∈ loader.bin, ∃ content, s.bytes = some content ∧ s.size ≤ content.length) :
  (∀ effect ∈ loader.bin.map (updateEffect addr), Inside addr size effect) ↔
    ∀ s ∈ loader.bin, s.size ≠ 0 → s.vma + s.size ≤ size := by
  rw [List.forall_mem_map]
  refine forall_congr' fun s => forall_congr' fun member => ?_
  obtain ⟨content, stored, enough⟩ := carried s member
  have taken : ((s.bytes.getD []).take s.size).length = s.size := by
    rw [stored, Option.getD_some, List.length_take, Nat.min_eq_left enough]
  rw [updateEffect, copy_inside_iff fits (typed s (List.mem_append_right _ member)), taken]

include paged

theorem entryEffects_inside_iff (loadable : Loadable host loader filename) :
  (∀ effect ∈ (loader.sectionsLoader.filter mapsEntry).map
      (entryEffect host loader.aslr addr), Inside addr size effect) ↔
    ∀ s ∈ loader.sectionsLoader, mapsEntry s = true → s.vma + s.size ≤ size := by
  simp only [List.forall_mem_map, List.mem_filter, and_imp]
  refine forall_congr' fun s => forall_congr' fun member => forall_congr' fun taken => ?_
  exact mapping_inside_iff fits (typed s (List.mem_append_left _ member))
    (loadable.mapped s member taken).2 ((mapsEntry_iff s).mp taken).1 paged _

theorem dataEffect_inside_iff
  (present : ∃ content, host.file filename = some content ∧ content ≠ []) :
  Inside addr size (dataEffect host loader addr filename) ↔ ∀ content, host.file filename = some content →
      dataStartFrom loader.sectionsLoader 0 + content.length ≤ size := by
  obtain ⟨content, stored, filled⟩ := present
  have bounded : dataStartFrom loader.sectionsLoader 0 < 2 ^ 64 :=
    dataStartFrom_lt (by decide) fun s member => typed s (List.mem_append_left _ member)
  have aligned := dataStartFrom_aligned loader.sectionsLoader (Nat.zero_mod pageSize)
  have placed := mapping_inside_iff fits bounded (List.length_pos_of_ne_nil filled) aligned paged content
  simp only [dataEffect, stored, Option.getD_some, placed, Option.some.injEq, forall_eq']

theorem regionEffects_inside_iff (loadable : Loadable host loader filename) :
  (∀ effect ∈ regionEffects host loader addr filename, Inside addr size effect) ↔
    FitsRegion host loader filename size := by
  have entries := entryEffects_inside_iff fits paged typed loadable
  have moves : (∀ effect ∈ moveEffects host loader addr filename, Inside addr size effect) ↔
      (loader.aslr = true → ∀ s ∈ loader.bin, s.size ≠ 0 → s.vma + s.size ≤ size) ∧
      (loader.aslr = false → ∀ content, host.file filename = some content →
        dataStartFrom loader.sectionsLoader 0 + content.length ≤ size) := by
    cases mode : loader.aslr with
    | true =>
      have copies := updateEffects_inside_iff fits typed (loadable.copied mode)
      simpa only [moveEffects, mode, if_true, true_implies, Bool.true_eq_false, false_implies,
        and_true] using copies
    | false =>
      have file := dataEffect_inside_iff fits paged typed (loadable.dataFile mode)
      simpa only [moveEffects, mode, Bool.false_eq_true, if_false, List.forall_mem_singleton,
        true_implies, false_implies, true_and] using file
  rw [regionEffects, List.forall_mem_append, entries, moves]
  constructor
  · rintro ⟨mapped, copied, data⟩
    exact ⟨mapped, copied, data⟩
  rintro ⟨mapped, copied, data⟩
  exact ⟨mapped, copied, data⟩

omit fits paged typed

end

variable {result : List GuestRegion × Memory}

section

variable {host : Host} {kernel : Kernel} {loader : LoaderInfo} {ukName : String}

theorem createRegions_contained_iff (typed : ∀ s ∈ loader.sectionsLoader ++ loader.bin, s.vma < 2 ^ 64)
  (specs : List (Nat × Nat)) (call : Nat) (memory : Memory)
  (created : createRegions host kernel ukName (some loader)
    (specs.map fun (addr, size) => ⟨none, addr, size⟩) call memory = .ok result) :
  Contained result.1 ↔ ∀ spec ∈ specs, FitsRegion host loader (ukName ++ "_update") spec.2 := by
  induction specs generalizing call memory result with
  | nil =>
    cases created
    simp [Contained]
  | cons spec rest ih =>
    obtain ⟨guestAddr, size⟩ := spec
    rw [List.map_cons, createRegions_cons_ok_iff] at created
    obtain ⟨guardAddr, reserved, ⟨_, paged, _⟩, loadable, later, laterOk, rfl⟩ := created
    have room := kernel.inside reserved
    have fits : regionStartAddr guardAddr + size ≤ 2 ^ 64 := by
      simp only [regionStartAddr, guardedSize, guardPageCount, pageSize] at room ⊢
      omega
    have first := regionEffects_inside_iff fits paged typed loadable
    have remaining := ih (call + 1) _ laterOk
    simp only [Contained, List.forall_mem_cons] at remaining ⊢
    rw [remaining]
    exact and_congr_left' first

theorem createRegions_granted (specs : List (Nat × Nat)) (call : Nat) (memory : Memory)
  (created : createRegions host kernel ukName (some loader)
    (specs.map fun (addr, size) => ⟨none, addr, size⟩) call memory = .ok result) :
  (∀ index spec, specs[index]? = some spec → 0 < spec.2 ∧
    (kernel.reserve (call + index) (guardedSize spec.2)).isSome = true) ∧
  (specs ≠ [] → Loadable host loader (ukName ++ "_update")) := by
  induction specs generalizing call memory result with
  | nil => exact ⟨by simp, by simp⟩
  | cons spec rest ih =>
    rw [List.map_cons, createRegions_cons_ok_iff] at created
    obtain ⟨guardAddr, reserved, ⟨positive, _, _⟩, loadable, later, laterOk, rfl⟩ := created
    obtain ⟨granted, _⟩ := ih (call + 1) _ laterOk
    refine ⟨?_, fun _ => loadable⟩
    intro index other found
    cases index with
    | zero =>
      cases found
      exact ⟨positive, Option.isSome_iff_exists.mpr ⟨guardAddr, reserved⟩⟩
    | succ index =>
      have next := granted index other found
      rwa [Nat.add_right_comm, Nat.add_assoc] at next

theorem createRegions_total (loadable : Loadable host loader (ukName ++ "_update"))
  (specs : List (Nat × Nat)) (call : Nat) (memory : Memory)
  (granted : ∀ index spec, specs[index]? = some spec → 0 < spec.2 ∧
    (kernel.reserve (call + index) (guardedSize spec.2)).isSome = true)
  (shaped : ∀ spec ∈ specs, spec.2 % pageSize = 0 ∧ spec.1 ≤ 2 ^ 32) :
  ∃ result, createRegions host kernel ukName (some loader)
    (specs.map fun (addr, size) => ⟨none, addr, size⟩) call memory = .ok result := by
  induction specs generalizing call memory with
  | nil => exact ⟨_, rfl⟩
  | cons spec rest ih =>
    obtain ⟨guestAddr, size⟩ := spec
    obtain ⟨positive, present⟩ := granted 0 _ rfl
    obtain ⟨guardAddr, reserved⟩ := Option.isSome_iff_exists.mp present
    obtain ⟨paged, low⟩ := shaped (guestAddr, size) (by simp)
    obtain ⟨later, laterOk⟩ := ih (call + 1) (loadedMemory host loader ukName guardAddr size memory)
      (fun index other found => by
        have next := granted (index + 1) other found
        rwa [← Nat.add_assoc, Nat.add_right_comm] at next)
      (fun other member => shaped other (List.mem_cons_of_mem _ member))
    refine ⟨_, (createRegions_cons_ok_iff _).mpr ⟨guardAddr, reserved,
      ⟨positive, paged, ?_⟩, loadable, later, laterOk, rfl⟩⟩
    have room := kernel.inside reserved
    simp only [guardedSize, guardPageCount, pageSize] at room
    dsimp only at low
    omega

end

def terabyte (call length : Nat) : Option Nat :=
  if call < 2 ∧ length ≤ 2 ^ 40 then some ((call + 1) * 2 ^ 40) else none

variable (reserved : terabyte call length = some addr)
include reserved

theorem terabyte_some : (call < 2 ∧ length ≤ 2 ^ 40) ∧ addr = (call + 1) * 2 ^ 40 := by
  unfold terabyte at reserved
  split at reserved
  · rename_i early
    cases reserved
    exact ⟨early, rfl⟩
  · cases reserved

theorem terabyte_aligned : addr % pageSize = 0 := by
  obtain ⟨_, rfl⟩ := terabyte_some reserved
  simp only [pageSize]
  omega

theorem terabyte_inside : addr + length ≤ 2 ^ 47 := by
  obtain ⟨early, rfl⟩ := terabyte_some reserved
  omega

omit reserved

theorem terabyte_apart (different : first ≠ second) (left : terabyte first firstLength = some firstAddr)
  (right : terabyte second secondLength = some secondAddr) :
  firstAddr + firstLength ≤ secondAddr ∨ secondAddr + secondLength ≤ firstAddr := by
  obtain ⟨leftEarly, rfl⟩ := terabyte_some left
  obtain ⟨rightEarly, rfl⟩ := terabyte_some right
  omega

def sampleKernel : Kernel := ⟨terabyte, terabyte_aligned, terabyte_inside, terabyte_apart⟩

def textLoader (vma : Nat) : LoaderInfo := ⟨[], [⟨".text", vma, 2, none⟩], true⟩

theorem textLoader_loadable (vma : Nat) (filename : String) :
  Loadable sampleHost (textLoader vma) filename := by
  refine ⟨?_, ?_, ?_⟩
  · simp [textLoader, sampleHost, shmName]
  · simp [textLoader]
  · simp [textLoader]

theorem sampleKernel_reserve (early : call < 2) (small : length ≤ 2 ^ 40) :
  (sampleKernel.reserve call length).isSome = true := by
  simp only [sampleKernel, terabyte, early, small, and_self, if_true, Option.isSome_some]

theorem sampleKernel_granted (positive : 0 < memSize memSizeMib)
  (small : memSize memSizeMib ≤ 2 ^ 39) : Granted sampleKernel memSizeMib := by
  intro call region found
  have start : 0 < mmioMemStart := by decide
  have low : mmioMemStart ≤ 2 ^ 39 := by decide
  have size : 0 < region.2 ∧ region.2 ≤ 2 ^ 39 ∧ call < 2 := by
    unfold archMemoryRegions at found
    split at found
    · match call with
      | 0 =>
        cases found
        exact ⟨positive, small, by decide⟩
    match call with
    | 0 =>
      cases found
      exact ⟨start, low, by decide⟩
    | 1 =>
      cases found
      dsimp only
      omega
  refine ⟨size.1, sampleKernel_reserve size.2.2 ?_⟩
  simp only [guardedSize, guardPageCount, pageSize]
  omega

end Spacer.Guest
