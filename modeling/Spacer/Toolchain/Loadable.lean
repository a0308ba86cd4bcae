import Spacer.Helpers.Pool
import Spacer.Loader.Files

/-!
From the section scripts to a booting guest: what the readers of the VMM make of
the files the scripts write, and when the loader gets through with them and the
pool.
-/

namespace Spacer.Toolchain

open Lib Helpers Loader List

structure Artifacts where
  sec : List UInt8
  update : Option (List UInt8)

variable (aslr : Bool) (notCommon : List String) (elf : ElfFile)

def minimize : Except PyError (Option (List UInt8)) :=
  if aslr then processFileAslr minimizerIncluded notCommon elf
  else .ok (processFile minimizerIncluded elf)

def runToolchain : Except PyError Artifacts := do
  let sec ← dumpSections secExcluded (if aslr then notCommon else []) elf
  let update ← minimize aslr notCommon elf
  return ⟨sec, update⟩

structure Installed (host : Host) (kernelImagePath : String) (artifacts : Artifacts)
  (pool : Pool) : Prop where
  sec : host.file (kernelImagePath ++ ".sec") = some artifacts.sec
  update : host.file (kernelImagePath ++ "_update") = artifacts.update
  pool : ∀ name, host.shm (shmName (useAslr kernelImagePath) name) = pool.get? name

def secSections : List Section :=
  dumpSelect secExcluded (if aslr then notCommon else []) elf

def updatedSections : List Section :=
  if aslr then updateSections minimizerIncluded notCommon elf
  else plainSections minimizerIncluded elf

/-- One byte per character, as the name lengths in the files assume. -/
def Ascii (name : String) : Prop :=
  (encodeUtf8 name).length = name.length

instance (name : String) : Decidable (Ascii name) :=
  inferInstanceAs (Decidable (_ = _))

def secEntry (s : Section) : Sections :=
  ⟨s.name, s.shAddr, s.shSize, none⟩

def updateEntry (s : Section) : Sections :=
  ⟨s.name, s.shAddr, s.shSize, some s.data⟩

section

theorem Section.addr_lt (s : Section) : s.shAddr < 256 ^ 8 := by
  have fits := s.addrFits
  omega

theorem Section.size_lt (s : Section) : s.shSize < 256 ^ 8 := by
  have fits := s.sizeFits
  simp only [Section.shSize]
  omega

theorem reads_secRecord (ascii : Ascii s.name) (short : s.name.length < 65536) :
  Reads deserializeEntry (secRecord s) (secEntry s) := by
  have length : s.name.length < 256 ^ 8 := by omega
  simp only [secRecord, append_assoc]
  apply (reads_readWord _ length).bind
  apply Reads.bind (by rw [← ascii]; exact reads_readText _ s.name)
  apply (reads_readWord _ (Section.addr_lt s)).bind
  apply (reads_readWord _ (Section.size_lt s)).bind
  have tag : Reads deserializeBytes [0] none :=
    (reads_readWord _ (show 0 < 256 ^ 1 by decide)).last (Reads.pure none)
  exact tag.last (Reads.pure _)

theorem reads_updateRecord (ascii : Ascii s.name) (short : s.name.length < 65536) :
  Reads readUkEntry (updateRecord s) (updateEntry s) := by
  have length : s.name.length < 256 ^ 2 := by omega
  simp only [updateRecord, append_assoc]
  apply (reads_readWord _ length).bind
  apply Reads.bind (by rw [← ascii]; exact reads_readText _ s.name)
  apply (reads_readWord _ (Section.size_lt s)).bind
  apply (reads_readWord _ (Section.addr_lt s)).bind
  exact (reads_takeBytes _ s.data).last (Reads.pure _)

variable {notCommon} {elf}

theorem reads_secFile (fits : SecFits excluded notCommon elf)
  (ascii : ∀ s ∈ dumpSelect excluded notCommon elf, Ascii s.name) :
  Reads deserialize (littleEndian 8 (dumpSelect excluded notCommon elf).length ++
      ((dumpSelect excluded notCommon elf).map secRecord).flatten)
    ((dumpSelect excluded notCommon elf).map secEntry) := by
  have count : (dumpSelect excluded notCommon elf).length < 256 ^ 8 := by
    have small := fits.1
    omega
  exact (reads_readWord _ count).bind (reads_readMany _ fun s member =>
    reads_secRecord (ascii s member) (fits.2 s member))

theorem reads_updateFile (fits : UpdateFits included notCommon elf)
  (ascii : ∀ s ∈ updateSections included notCommon elf, Ascii s.name) :
  Reads readUkEntries (littleEndian 1 (updateSections included notCommon elf).length ++
      ((updateSections included notCommon elf).map updateRecord).flatten)
    ((updateSections included notCommon elf).map updateEntry) := by
  have count : (updateSections included notCommon elf).length < 256 ^ 1 := by
    have small := fits.1
    omega
  exact (reads_readWord _ count).bind (reads_readMany _ fun s member =>
    reads_updateRecord (ascii s member) (fits.2 s member))

def Mappable (s : Section) : Prop :=
  s.name ≠ ".data" → s.data ≠ [] ∧ occursIn ".data" s.name = false

theorem flatMap_data_ne_nil (written : plainSections minimizerIncluded elf ≠ []) :
  (plainSections minimizerIncluded elf).flatMap Section.data ≠ [] := by
  obtain ⟨s, member⟩ := exists_mem_of_ne_nil _ written
  have kept := (mem_filter.mp member).2
  intro empty
  have none := flatMap_eq_nil_iff.mp empty s member
  simp [none] at kept

variable (installed : Installed host kernelImagePath artifacts pool)
include installed

theorem readUkFile_eq (produced : runToolchain true notCommon elf = .ok artifacts)
  (ascii : ∀ s ∈ updatedSections true notCommon elf, Ascii s.name)
  (written : updatedSections true notCommon elf ≠ []) :
  readUkFile host (kernelImagePath ++ "_update") =
    .ok ((updatedSections true notCommon elf).map updateEntry) := by
  obtain ⟨sec, _, produced⟩ := ok_of_bind produced
  obtain ⟨update, minimized, produced⟩ := ok_of_bind produced
  cases produced
  have content : update = some (littleEndian 1 (updatedSections true notCommon elf).length ++
      ((updatedSections true notCommon elf).map updateRecord).flatten) :=
    (processFileAslr_eq _ _ elf minimized).trans (if_neg written)
  have fits := ((processFileAslr_written_iff _ _ elf).mp ⟨_, minimized.trans (by rw [content])⟩).2
  have read : Reads readUkEntries (littleEndian 1 (updatedSections true notCommon elf).length ++
      ((updatedSections true notCommon elf).map updateRecord).flatten)
      ((updatedSections true notCommon elf).map updateEntry) := reads_updateFile fits ascii
  have whole := read []
  rw [append_nil] at whole
  have stored := installed.update
  rw [content] at stored
  simp only [readUkFile, stored]
  rw [bind_of_ok whole]
  rfl

variable {aslr} (produced : runToolchain aslr notCommon elf = .ok artifacts)
include produced

theorem newSectionsLoader_eq (ascii : ∀ s ∈ secSections aslr notCommon elf, Ascii s.name) :
  newSectionsLoader host (kernelImagePath ++ ".sec") =
    .ok ((secSections aslr notCommon elf).map secEntry) := by
  obtain ⟨sec, dumped, produced⟩ := ok_of_bind produced
  obtain ⟨update, _, produced⟩ := ok_of_bind produced
  cases produced
  have fits := (dumpSections_ok_iff _ _ elf).mp ⟨sec, dumped⟩
  have read : Reads deserialize sec
      ((secSections aslr notCommon elf).map secEntry) := by
    rw [dumpSections_eq _ _ dumped]
    exact reads_secFile fits ascii
  have whole := read []
  rw [append_nil] at whole
  simp only [newSectionsLoader, installed.sec]
  rw [bind_of_ok whole]
  rfl

theorem bootLoader_eq (mode : useAslr kernelImagePath = aslr)
  (ascii : ∀ s ∈ secSections aslr notCommon elf, Ascii s.name)
  (read : readUpdates host kernelImagePath = .ok updates) :
  bootLoader host kernelImagePath = .ok ⟨updates, (secSections aslr notCommon elf).map secEntry, aslr⟩ := by
  subst mode
  rw [bootLoader, bind_of_ok read, bind_of_ok (newSectionsLoader_eq installed produced ascii)]
  rfl

omit installed

theorem update_written_iff :
  artifacts.update.isSome = true ↔ updatedSections aslr notCommon elf ≠ [] := by
  obtain ⟨sec, _, produced⟩ := ok_of_bind produced
  obtain ⟨update, minimized, produced⟩ := ok_of_bind produced
  cases produced
  cases aslr with
  | true =>
    rw [processFileAslr_eq _ _ elf minimized]
    simp only [updatedSections]
    split
    · rename_i none
      simp [none]
    rename_i some
    simp [some]
  | false =>
    cases minimized
    simp only [processFile_eq, updatedSections]
    split
    · rename_i none
      simp [none]
    rename_i some
    simp [some]

theorem pool_isSome_iff (extracted : elf ∈ order) (listed : s ∈ secSections aslr notCommon elf) :
  ((fillPool poolExcluded order).get? s.name).isSome = true ↔ occursIn ".data" s.name = false := by
  obtain ⟨sec, dumped, _⟩ := ok_of_bind produced
  have takes := poolTakes_of_listed (s := s) ⟨⟨sec, dumped⟩, listed⟩
  rw [get?_fillPool]
  constructor
  · intro held
    rw [Option.isSome_map, Option.isSome_iff_exists] at held
    obtain ⟨first, found⟩ := held
    obtain ⟨other, _, offer⟩ := exists_of_findSome?_eq_some found
    obtain ⟨_, taken, named⟩ := firstOffered_some offer
    rw [← named]
    simp only [poolTakes, Bool.and_eq_true, Bool.not_eq_eq_eq_not, Bool.not_true,
      Bool.or_eq_false_iff] at taken
    exact taken.1.2
  intro plain
  obtain ⟨first, offer⟩ := firstOffered_isSome (mem_iterSections_of_dumpSelect _ _ listed) (takes.mpr plain)
  obtain ⟨_, _, found, _, same⟩ := findSome_of_mem extracted offer
  rw [same]
  rfl

theorem mapped_iff (extracted : elf ∈ order)
  (pooled : ∀ name, host.shm (shmName aslr name) = (fillPool poolExcluded order).get? name) :
  (∀ s ∈ (secSections aslr notCommon elf).map secEntry, mapsEntry s = true →
      (host.shm (shmName aslr s.name)).isSome = true ∧ 0 < s.size) ↔
    ∀ s ∈ secSections aslr notCommon elf, Mappable s := by
  rw [forall_mem_map]
  refine forall_congr' fun s => forall_congr' fun listed => ?_
  have kept := ((mem_dumpSelect_iff _ _ elf s).mp listed).1
  have aligned := ((dumpSkips_eq_false_iff _ _ s).mp kept).2.2.2.2.2.2
  have held := pool_isSome_iff produced extracted listed
  rw [mapsEntry_iff, pooled]
  simp only [secEntry, aligned, true_and, held, Section.shSize, length_pos_iff]
  exact imp_congr_right fun _ => And.comm

theorem loader_loadable_iff (extracted : elf ∈ order)
  (pooled : ∀ name, host.shm (shmName aslr name) = (fillPool poolExcluded order).get? name)
  (stored : host.file filename = artifacts.update) (updates : List Section) :
  Loadable host ⟨updates.map updateEntry, (secSections aslr notCommon elf).map secEntry, aslr⟩ filename ↔
    (∀ s ∈ secSections aslr notCommon elf, Mappable s) ∧
      (aslr = false → updatedSections aslr notCommon elf ≠ []) := by
  have written := update_written_iff produced
  rw [← mapped_iff produced extracted pooled]
  constructor
  · rintro ⟨mapped, _, file⟩
    refine ⟨mapped, fun plain => ?_⟩
    obtain ⟨content, found, _⟩ := file plain
    rw [stored] at found
    exact written.mp (Option.isSome_iff_exists.mpr ⟨content, found⟩)
  rintro ⟨mapped, filled⟩
  refine ⟨mapped, ?_, ?_⟩
  · intro _ s member
    obtain ⟨source, _, rfl⟩ := mem_map.mp member
    exact ⟨source.data, rfl, Nat.le_refl _⟩
  rintro rfl
  have kept : plainSections minimizerIncluded elf ≠ [] := filled rfl
  obtain ⟨_, _, produced⟩ := ok_of_bind produced
  obtain ⟨update, minimized, produced⟩ := ok_of_bind produced
  cases produced
  cases minimized
  refine ⟨_, stored.trans ?_, flatMap_data_ne_nil kept⟩
  rw [processFile_eq, if_neg kept]

theorem boot_of_loader (mode : useAslr kernelImagePath = aslr) (extracted : elf ∈ order)
  (installed : Installed host kernelImagePath artifacts (fillPool poolExcluded order))
  (aligned : regionAddr % pageSize = 0) (updates : List Section)
  (booted : bootLoader host kernelImagePath = .ok ⟨updates.map updateEntry,
    (secSections aslr notCommon elf).map secEntry, aslr⟩) :
  (∃ effects, bootRegion host kernelImagePath regionAddr = .ok effects) ↔
    (∀ s ∈ secSections aslr notCommon elf, Mappable s) ∧
      (aslr = false → updatedSections aslr notCommon elf ≠ []) := by
  subst mode
  simp only [bootRegion_ok_iff aligned booted, exists_and_left, exists_eq, and_true]
  exact loader_loadable_iff produced extracted installed.pool installed.update updates

omit produced

end

variable (kernelImagePath : String) (artifacts : Artifacts)

def installedHost (pool : Pool) : Host where
  file := fun filename =>
    if filename = kernelImagePath ++ ".sec" then some artifacts.sec
    else if filename = kernelImagePath ++ "_update" then artifacts.update
    else none
  shm := fun name =>
    pool.get? (String.ofList (name.toList.drop (shmName (useAslr kernelImagePath) "").length))

theorem installedHost_installed (pool : Pool) :
  Installed (installedHost kernelImagePath artifacts pool) kernelImagePath artifacts pool := by
  refine ⟨?_, ?_, ?_⟩
  · simp [installedHost]
  · have different : kernelImagePath ++ "_update" ≠ kernelImagePath ++ ".sec" := by
      intro same
      have suffixes := congrArg String.toList same
      simp at suffixes
    simp [installedHost]
  intro name
  cases mode : useAslr kernelImagePath with
  | false => simp [installedHost, shmName, mode, show "lib".length = 3 by decide]
  | true => simp [installedHost, shmName, mode, show "aslr_lib".length = 8 by decide]

def textSection : Section := byteSection ".text" 0x1000 0xc3

def dataSection : Section := byteSection ".data" 0x2000 7

theorem runToolchain_plain (elf : ElfFile) (fits : SecFits secExcluded [] elf) :
  ∃ sec, runToolchain false [] elf = .ok ⟨sec, processFile minimizerIncluded elf⟩ := by
  obtain ⟨sec, dumped⟩ := (dumpSections_ok_iff secExcluded [] elf).mpr fits
  exact ⟨sec, by simp [runToolchain, dumped, minimize, bind, Except.bind, pure, Except.pure]⟩

end Spacer.Toolchain
