import Spacer.Helpers.Selection

/-! Delivery of the sections of an ASLR unikernel, through its `.sec` or its `_update` file. -/

namespace Spacer.Helpers

open Lib List

variable (notCommon : List String) (elf : ElfFile) (s : Section)

def ListedInSec : Prop :=
  (∃ bytes, dumpSections secExcluded notCommon elf = .ok bytes) ∧ s ∈ dumpSelect secExcluded notCommon elf

def EncodedInUpdate : Prop :=
  (∃ bytes, processFileAslr minimizerIncluded notCommon elf = .ok (some bytes)) ∧
    s ∈ updateSections minimizerIncluded notCommon elf

def Section.Loaded : Prop :=
  s.shAddr ≠ 0 ∧ ∃ byte ∈ s.data, byte ≠ 0

/-- The condition on a section list under which `s` reaches the loader: either
the minimizer takes its name, or it is a named, page-aligned section outside
`.rodata.lib*` that no zero-address entry kept by the dump loop precedes; and the
counts of the file it goes to fit their fields. -/
def Deliverable : Prop :=
  if minimizerTakes minimizerIncluded notCommon s.name = true then
    UpdateFits minimizerIncluded notCommon elf
  else
    SecFits secExcluded notCommon elf ∧ s.name ≠ "" ∧
      startsWith s.name ".rodata.lib" = false ∧ s.shAddr % 0x1000 = 0 ∧
      ∃ before after, elf.named = before ++ s :: after ∧
        ∀ earlier ∈ before, dumpSkips secExcluded notCommon earlier = false → earlier.shAddr ≠ 0

variable {elf} {s}

theorem encodedInUpdate_iff (member : s ∈ elf.iterSections) (loaded : s.Loaded) :
  EncodedInUpdate notCommon elf s ↔ minimizerTakes minimizerIncluded notCommon s.name = true ∧
      UpdateFits minimizerIncluded notCommon elf := by
  have nonzero : s.data.all (· == 0) = false := by
    obtain ⟨byte, present, different⟩ := loaded.2
    simp only [all_eq_false, beq_iff_eq]
    exact ⟨byte, present, different⟩
  have selected : s ∈ updateSections minimizerIncluded notCommon elf ↔
      minimizerTakes minimizerIncluded notCommon s.name = true := by
    simp [updateSections, minimizerKeeps, member, nonzero]
  rw [EncodedInUpdate, processFileAslr_written_iff, selected]
  constructor
  · rintro ⟨⟨_, fits⟩, taken⟩
    exact ⟨taken, fits⟩
  rintro ⟨taken, fits⟩
  exact ⟨⟨ne_nil_of_mem (selected.mpr taken), fits⟩, taken⟩

section

variable {Digest : Type} [DecidableEq Digest] (sha224 : List UInt8 → Digest)
  {unikernels : List ElfFile}

variable (listed : uk ∈ unikernels)
include listed

theorem dumpSkips_of_minimizerTakes (member : s ∈ uk.iterSections)
  (taken : minimizerTakes minimizerIncluded (processSpacerAslr sha224 unikernels).notCommon s.name = true) :
  dumpSkips secExcluded (processSpacerAslr sha224 unikernels).notCommon s = true := by
  rw [← Bool.not_eq_false, dumpSkips_eq_false_iff]
  rintro ⟨noInd, _, notExcluded, common, _⟩
  have noData : occursIn ".data" s.name = false := by
    rw [← Bool.not_eq_true]
    exact fun inName => common (data_mem_notCommon sha224 listed member inName)
  have notIncluded : s.name ∉ minimizerIncluded := by
    intro included
    simp only [minimizerIncluded, mem_cons, not_mem_nil, or_false] at included
    rcases included with name | name | name | name
    · rw [name] at noData
      revert noData
      decide
    · exact notExcluded (by simp [secExcluded, name])
    · exact notExcluded (by simp [secExcluded, name])
    · exact notExcluded (by simp [secExcluded, name])
  simp [minimizerTakes, noData, notIncluded, noInd, common] at taken

theorem listedInSec_iff (member : s ∈ uk.iterSections) (loaded : s.Loaded) :
  ListedInSec (processSpacerAslr sha224 unikernels).notCommon uk s ↔
    minimizerTakes minimizerIncluded (processSpacerAslr sha224 unikernels).notCommon s.name = false ∧
      Deliverable (processSpacerAslr sha224 unikernels).notCommon uk s := by
  rw [ListedInSec, dumpSections_ok_iff, mem_dumpSelect_iff]
  cases taken : minimizerTakes minimizerIncluded (processSpacerAslr sha224 unikernels).notCommon s.name with
  | true =>
    have skipped := dumpSkips_of_minimizerTakes sha224 listed member taken
    simp [skipped]
  | false =>
    simp only [minimizerTakes, Bool.or_eq_false_iff, contains_eq_mem, decide_eq_false_iff_not] at taken
    obtain ⟨⟨⟨noData, notIncluded⟩, noInd⟩, common⟩ := taken
    have notExcluded : s.name ∉ secExcluded :=
      fun excluded => notIncluded (mem_cons_of_mem _ excluded)
    have noDataBss : occursIn ".data.bss." s.name = false := by
      rw [← Bool.not_eq_true]
      intro inName
      rw [occursIn_trans (by decide : occursIn ".data" ".data.bss." = true) inName] at noData
      contradiction
    have notTaken : ¬minimizerTakes minimizerIncluded
        (processSpacerAslr sha224 unikernels).notCommon s.name = true := by
      simp [minimizerTakes, noData, notIncluded, noInd, common]
    rw [dumpSkips_eq_false_iff, Deliverable, if_neg notTaken]
    constructor
    · rintro ⟨fits, ⟨_, named, _, _, library, _, aligned⟩, _, reached⟩
      exact ⟨rfl, fits, named, library, aligned, reached⟩
    rintro ⟨_, fits, named, library, aligned, reached⟩
    exact ⟨fits, ⟨noInd, named, notExcluded, common, library, noDataBss, aligned⟩, loaded.1, reached⟩

theorem delivered_once_iff (member : s ∈ uk.iterSections) (loaded : s.Loaded) :
  Xor (ListedInSec (processSpacerAslr sha224 unikernels).notCommon uk s)
      (EncodedInUpdate (processSpacerAslr sha224 unikernels).notCommon uk s) ↔
    Deliverable (processSpacerAslr sha224 unikernels).notCommon uk s := by
  rw [listedInSec_iff sha224 listed member loaded, encodedInUpdate_iff _ member loaded]
  cases taken : minimizerTakes minimizerIncluded (processSpacerAslr sha224 unikernels).notCommon s.name with
  | true => simp [Deliverable, taken, Xor]
  | false => simp [Xor]

omit listed

end

/-- Every loaded section of every unikernel is delivered by exactly one route
exactly when every one of them meets `Deliverable`. -/
theorem sections_delivered_once_iff {Digest : Type} [DecidableEq Digest]
  (sha224 : List UInt8 → Digest) (unikernels : List ElfFile) :
  (∀ uk ∈ unikernels, ∀ s ∈ uk.iterSections, s.Loaded →
    Xor (ListedInSec (processSpacerAslr sha224 unikernels).notCommon uk s)
      (EncodedInUpdate (processSpacerAslr sha224 unikernels).notCommon uk s)) ↔
  ∀ uk ∈ unikernels, ∀ s ∈ uk.iterSections, s.Loaded →
    Deliverable (processSpacerAslr sha224 unikernels).notCommon uk s := by
  constructor
  · intro delivered uk listed s member loaded
    exact (delivered_once_iff sha224 listed member loaded).mp (delivered uk listed s member loaded)
  intro deliverable uk listed s member loaded
  exact (delivered_once_iff sha224 listed member loaded).mpr (deliverable uk listed s member loaded)

def libraryRodata : Section := byteSection ".rodata.libnewlibc" 0x1000 1

theorem libraryRodata_lost :
  libraryRodata.Loaded ∧ libraryRodata ∈ (ElfFile.mk [libraryRodata]).iterSections ∧ ¬Xor
      (ListedInSec (processSpacerAslr id [ElfFile.mk [libraryRodata]]).notCommon
        ⟨[libraryRodata]⟩ libraryRodata)
      (EncodedInUpdate (processSpacerAslr id [ElfFile.mk [libraryRodata]]).notCommon
        ⟨[libraryRodata]⟩ libraryRodata) := by
  have loaded : libraryRodata.Loaded := ⟨by decide, 1, by decide, by decide⟩
  have member : libraryRodata ∈ (ElfFile.mk [libraryRodata]).iterSections := by
    simp [ElfFile.iterSections]
  refine ⟨loaded, member, ?_⟩
  rw [delivered_once_iff id (by simp) member loaded, Deliverable, if_neg (by decide)]
  rintro ⟨_, _, library, _⟩
  revert library
  decide

end Spacer.Helpers
