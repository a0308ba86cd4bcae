import Spacer.Lib.Lists
import Spacer.Loader.Core

/-!
What one run of the loader does to a region, in both modes: exactly when
`move_sec_aslr` and `move_all` get through, and the list of effects they then
have.
-/

namespace Spacer.Loader

open Lib List

def mapsEntry (s : Sections) : Bool :=
  s.vma % 0x1000 == 0 && s.name != ".data"

def dataStartFrom : List Sections → Nat → Nat
  | [], dataStartAddr => dataStartAddr
  | s :: rest, dataStartAddr =>
    dataStartFrom rest (if s.vma % 0x1000 = 0 ∧ s.name = ".data" then s.vma else dataStartAddr)

variable (host : Host)

def entryEffect (aslr : Bool) (regionAddr : Nat) (s : Sections) : Effect :=
  .mmap (usizeAdd regionAddr s.vma) s.size ((host.shm (shmName aslr s.name)).getD [])

def updateEffect (regionAddr : Nat) (s : Sections) : Effect :=
  .memcpy (usizeAdd regionAddr s.vma) ((s.bytes.getD []).take s.size)

variable (loader : LoaderInfo) (regionAddr : Nat) (filename : String)

def dataEffect :
  Effect :=
  let content := (host.file filename).getD []
  .mmap (usizeAdd regionAddr (dataStartFrom loader.sectionsLoader 0)) content.length content

def moveEffects : List Effect :=
  if loader.aslr then loader.bin.map (updateEffect regionAddr)
  else [dataEffect host loader regionAddr filename]

def regionEffects : List Effect :=
  (loader.sectionsLoader.filter mapsEntry).map (entryEffect host loader.aslr regionAddr) ++
    moveEffects host loader regionAddr filename

variable {host} {loader} {filename}

/-- What the loader needs from its environment; the addresses play no part. -/
structure Loadable (host : Host) (loader : LoaderInfo) (filename : String) : Prop where
  mapped : ∀ s ∈ loader.sectionsLoader, mapsEntry s = true →
    (host.shm (shmName loader.aslr s.name)).isSome = true ∧ 0 < s.size
  copied : loader.aslr = true → ∀ s ∈ loader.bin,
    ∃ content, s.bytes = some content ∧ s.size ≤ content.length
  dataFile : loader.aslr = false → ∃ content, host.file filename = some content ∧ content ≠ []

theorem usizeAdd_aligned (leftAligned : left % pageSize = 0) (rightAligned : right % pageSize = 0) :
  usizeAdd left right % pageSize = 0 := by
  have multiple : pageSize ∣ 2 ^ 64 := ⟨2 ^ 52, by decide⟩
  rw [usizeAdd, Nat.mod_mod_of_dvd _ multiple]
  simp only [pageSize] at *
  omega

theorem dataStartFrom_aligned (sections : List Sections) (aligned : dataStartAddr % pageSize = 0) :
  dataStartFrom sections dataStartAddr % pageSize = 0 := by
  induction sections generalizing dataStartAddr with
  | nil => exact aligned
  | cons s rest ih =>
    apply ih
    split
    · rename_i data
      exact data.1
    · exact aligned

theorem mapsEntry_iff (s : Sections) : mapsEntry s = true ↔ s.vma % 0x1000 = 0 ∧ s.name ≠ ".data" := by
  simp [mapsEntry]

section

variable {regionAddr : Nat}

theorem mmapFixed_ok_iff (aligned : addr % pageSize = 0) (length : Nat) :
  mmapFixed failed addr length content = .ok effect ↔ 0 < length ∧ effect = .mmap addr length content := by
  by_cases empty : length = 0
  · simp [mmapFixed, empty]
  have positive : 0 < length := Nat.pos_of_ne_zero empty
  simp [mmapFixed, empty, aligned, positive, eq_comm]

variable (host : Host)

theorem shmMmap_ok_iff (aslr : Bool) (regionAligned : regionAddr % pageSize = 0)
  (aligned : s.vma % 0x1000 = 0) (effect : Effect) :
  shmMmap host (usizeAdd regionAddr s.vma) (shmName aslr s.name) s.size = .ok effect ↔
    ((host.shm (shmName aslr s.name)).isSome = true ∧ 0 < s.size) ∧
      effect = entryEffect host aslr regionAddr s := by
  have placed := usizeAdd_aligned regionAligned aligned
  cases stored : host.shm (shmName aslr s.name) with
  | none => simp [shmMmap, stored]
  | some content =>
    simp only [shmMmap, stored, mmapFixed_ok_iff placed, entryEffect, Option.getD_some,
      Option.isSome_some, true_and]

theorem moveSecFrom_ok_iff (aslr : Bool) (regionAligned : regionAddr % pageSize = 0)
  (sections : List Sections) (dataStartAddr : Nat) (result : List Effect × Nat) :
  moveSecFrom host aslr regionAddr sections dataStartAddr = .ok result ↔
    (∀ s ∈ sections, mapsEntry s = true → (host.shm (shmName aslr s.name)).isSome = true ∧ 0 < s.size) ∧
    result = ((sections.filter mapsEntry).map (entryEffect host aslr regionAddr),
      dataStartFrom sections dataStartAddr) := by
  induction sections generalizing dataStartAddr result with
  | nil =>
    simp only [moveSecFrom, Except.ok.injEq, not_mem_nil, false_implies, implies_true,
      filter_nil, map_nil, dataStartFrom, true_and]
    exact eq_comm
  | cons s rest ih =>
    rw [forall_mem_cons]
    by_cases aligned : s.vma % 0x1000 = 0
    · by_cases data : s.name = ".data"
      · have skipped : ¬mapsEntry s = true := fun taken => ((mapsEntry_iff s).mp taken).2 data
        rw [filter_cons_of_neg skipped, dataStartFrom, if_pos ⟨aligned, data⟩]
        simp only [moveSecFrom, aligned, ne_eq, not_true_eq_false, if_false, if_pos data, ih,
          skipped, Bool.false_eq_true, false_implies, true_and]
      have taken : mapsEntry s = true := (mapsEntry_iff s).mpr ⟨aligned, data⟩
      have head := shmMmap_ok_iff host aslr regionAligned aligned
      rw [filter_cons_of_pos taken, dataStartFrom, if_neg fun both => data both.2, map_cons]
      simp only [moveSecFrom, aligned, ne_eq, not_true_eq_false, if_false, if_neg data, taken, true_implies]
      constructor
      · intro moved
        obtain ⟨mapping, mapped, moved⟩ := ok_of_bind moved
        obtain ⟨later, movedLater, moved⟩ := ok_of_bind moved
        obtain ⟨present, rfl⟩ := (head mapping).mp mapped
        obtain ⟨restPresent, rfl⟩ := (ih _ _).mp movedLater
        cases moved
        exact ⟨⟨present, restPresent⟩, rfl⟩
      rintro ⟨⟨present, restPresent⟩, rfl⟩
      rw [(head _).mpr ⟨present, rfl⟩, (ih _ _).mpr ⟨restPresent, rfl⟩]
      rfl
    have skipped : ¬mapsEntry s = true := fun taken => aligned ((mapsEntry_iff s).mp taken).1
    rw [filter_cons_of_neg skipped, dataStartFrom, if_neg fun both => aligned both.1]
    simp only [moveSecFrom, aligned, ne_eq, not_false_eq_true, if_true, ih, skipped,
      Bool.false_eq_true, false_implies, true_and]

theorem memcpySection_ok_iff (regionAddr : Nat) (s : Sections) (effect : Effect) :
  memcpySection regionAddr s = .ok effect ↔ (∃ content, s.bytes = some content ∧ s.size ≤ content.length) ∧
      effect = updateEffect regionAddr s := by
  cases stored : s.bytes with
  | none => simp [memcpySection, stored]
  | some content =>
    by_cases short : content.length < s.size
    · simp only [memcpySection, stored, short, if_true, reduceCtorEq, Option.some.injEq, false_iff, not_and]
      rintro ⟨_, rfl, enough⟩
      omega
    simp only [memcpySection, stored, short, if_false, Except.ok.injEq, updateEffect,
      Option.getD_some, Option.some.injEq, exists_eq_left', Nat.le_of_not_lt short, true_and]
    exact eq_comm

theorem moveAll_ok_iff (loader : LoaderInfo)
  (regionAligned : regionAddr % pageSize = 0) (filename : String) (effects : List Effect) :
  moveAll host loader regionAddr filename (dataStartFrom loader.sectionsLoader 0) = .ok effects ↔
    ((loader.aslr = true → ∀ s ∈ loader.bin, ∃ content, s.bytes = some content ∧ s.size ≤ content.length) ∧
    (loader.aslr = false → ∃ content, host.file filename = some content ∧ content ≠ [])) ∧
    effects = moveEffects host loader regionAddr filename := by
  cases mode : loader.aslr with
  | true =>
    simp only [moveAll, mode, if_true, true_implies, Bool.true_eq_false, false_implies, and_true,
      moveEffects]
    exact mapM_eq_ok_iff (memcpySection_ok_iff regionAddr) loader.bin effects
  | false =>
    have placed := usizeAdd_aligned regionAligned
      (dataStartFrom_aligned loader.sectionsLoader (Nat.zero_mod pageSize))
    simp only [moveAll, mode, Bool.false_eq_true, if_false, true_implies, false_implies,
      true_and, moveEffects, dataEffect]
    cases stored : host.file filename with
    | none => simp
    | some content =>
      simp only [Option.some.injEq, exists_eq_left', Option.getD_some]
      constructor
      · intro moved
        obtain ⟨mapping, mapped, moved⟩ := ok_of_bind moved
        obtain ⟨positive, rfl⟩ := (mmapFixed_ok_iff placed _).mp mapped
        cases moved
        exact ⟨ne_nil_of_length_pos positive, rfl⟩
      rintro ⟨filled, rfl⟩
      rw [(mmapFixed_ok_iff placed _).mpr ⟨length_pos_of_ne_nil filled, rfl⟩]
      rfl

theorem loadRegion_ok_iff (loader : LoaderInfo)
  (regionAligned : regionAddr % pageSize = 0) (ukName : String) (effects : List Effect) :
  loadRegion host loader regionAddr ukName = .ok effects ↔ Loadable host loader (ukName ++ "_update") ∧
      effects = regionEffects host loader regionAddr (ukName ++ "_update") := by
  have moved := moveSecFrom_ok_iff host loader.aslr regionAligned loader.sectionsLoader 0
  have finished := moveAll_ok_iff host loader regionAligned (ukName ++ "_update")
  constructor
  · intro loaded
    obtain ⟨⟨mapped, dataStart⟩, mappedOk, loaded⟩ := ok_of_bind loaded
    obtain ⟨copied, copiedOk, loaded⟩ := ok_of_bind loaded
    obtain ⟨present, same⟩ := (moved _).mp mappedOk
    cases same
    obtain ⟨⟨carried, file⟩, rfl⟩ := (finished _).mp copiedOk
    cases loaded
    exact ⟨⟨present, carried, file⟩, rfl⟩
  rintro ⟨⟨present, carried, file⟩, rfl⟩
  rw [loadRegion, moveSecAslr, (moved _).mpr ⟨present, rfl⟩]
  change (moveAll host loader regionAddr (ukName ++ "_update")
    (dataStartFrom loader.sectionsLoader 0) >>= _) = _
  rw [(finished _).mpr ⟨⟨carried, file⟩, rfl⟩]
  rfl

end

end Spacer.Loader
