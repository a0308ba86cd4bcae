import Spacer.Helpers.Core

/-! What each script selects, read off its loop, and when the two writers run to completion. -/

namespace Spacer.Helpers

open Lib List

variable {s : Section}

section

variable {Digest : Type} (sha224 : List UInt8 → Digest)

def sectionsNamed (unikernels : List ElfFile) (name : String) : List Section :=
  (unikernels.flatMap ElfFile.iterSections).filter fun s => s.name = name

theorem mem_sectionsNamed (listed : uk ∈ unikernels) (member : s ∈ uk.iterSections) :
  s ∈ sectionsNamed unikernels s.name := by
  simp only [sectionsNamed, mem_filter, mem_flatMap, decide_true, and_true]
  exact ⟨uk, listed, member⟩

theorem getD_mapHexSection (unikernels : List ElfFile) (name : String) :
  ((mapHexSection sha224 unikernels).get? name).getD [] =
    (sectionsNamed unikernels name).map fun s => sha224 s.data := by
  rw [mapHexSection, Dict.getD_group, sectionsNamed, filter_map, map_map]
  rfl

theorem mem_keys_mapHexSection (unikernels : List ElfFile) :
  name ∈ (mapHexSection sha224 unikernels).keys ↔ sectionsNamed unikernels name ≠ [] := by
  rw [mapHexSection, Dict.mem_keys_group]
  simp only [sectionsNamed, map_map, mem_map, Function.comp_apply, ne_eq,
    filter_eq_nil_iff, decide_eq_true_eq, not_forall, not_not, exists_prop]

theorem mem_entries_mapHexSection :
  (name, digests) ∈ (mapHexSection sha224 unikernels).entries ↔ sectionsNamed unikernels name ≠ [] ∧
      digests = (sectionsNamed unikernels name).map fun s => sha224 s.data := by
  have values := getD_mapHexSection sha224 unikernels name
  rw [← mem_keys_mapHexSection sha224, Dict.mem_keys_iff, ← Dict.get?_eq_some_iff]
  constructor
  · intro stored
    rw [stored, Option.getD_some] at values
    exact ⟨⟨digests, stored⟩, values⟩
  rintro ⟨⟨stored, found⟩, equal⟩
  rw [found, Option.getD_some] at values
  rw [found, values, equal]

variable [DecidableEq Digest]

theorem mem_notCommon_iff : name ∈ (processSpacerAslr sha224 unikernels).notCommon ↔
    name ∉ unclassified ∧ sectionsNamed unikernels name ≠ [] ∧
      isCommon name ((sectionsNamed unikernels name).map fun s => sha224 s.data) = false := by
  simp only [processSpacerAslr, sortedLower, mem_insertionSort, mem_map,
    mem_filter, Prod.exists, exists_and_right, exists_eq_right, mem_entries_mapHexSection,
    Bool.not_eq_eq_eq_not, Bool.not_true, contains_eq_mem, decide_eq_false_iff_not]
  constructor
  · rintro ⟨digests, ⟨⟨present, rfl⟩, classified⟩, differs⟩
    exact ⟨classified, present, differs⟩
  rintro ⟨classified, present, differs⟩
  exact ⟨_, ⟨⟨present, rfl⟩, classified⟩, differs⟩

theorem isCommon_of_data (inName : occursIn ".data" name = true) (digests : List Digest) :
  isCommon name digests = false := by
  simp [isCommon, inName]

theorem data_mem_notCommon (listed : uk ∈ unikernels) (member : s ∈ uk.iterSections)
  (inName : occursIn ".data" s.name = true) : s.name ∈ (processSpacerAslr sha224 unikernels).notCommon := by
  rw [mem_notCommon_iff]
  refine ⟨?_, ne_nil_of_mem (mem_sectionsNamed listed member), isCommon_of_data inName _⟩
  intro skipped
  simp only [unclassified, mem_cons, not_mem_nil, or_false] at skipped
  rcases skipped with name | name | name | name <;> rw [name] at inName <;> revert inName <;>
    decide

end

section

variable (excluded notCommon : List String)

theorem dumpLoop_eq (index : Nat) (positive : 0 < index) (sections : List Section) :
  dumpLoop excluded notCommon index sections =
    (sections.filter fun s => !dumpSkips excluded notCommon s).takeWhile fun s => s.shAddr != 0 := by
  induction sections generalizing index with
  | nil => rfl
  | cons s rest ih =>
    have later := ih (index + 1) (by omega)
    by_cases skipped : dumpSkips excluded notCommon s = true
    · simp [dumpLoop, skipped, later]
    by_cases zero : s.shAddr = 0
    · simp [dumpLoop, skipped, zero, positive]
    · simp [dumpLoop, skipped, zero, later]

theorem dumpSelect_eq : dumpSelect excluded notCommon elf =
    (elf.named.filter fun s => !dumpSkips excluded notCommon s).takeWhile fun s => s.shAddr != 0 := by
  have skipped : dumpSkips excluded notCommon nullSection = true := by simp [dumpSkips, nullSection]
  simp only [dumpSelect, ElfFile.iterSections, dumpLoop, skipped, ↓reduceIte]
  exact dumpLoop_eq excluded notCommon 1 (by omega) elf.named

theorem mem_dumpSelect_iff (elf : ElfFile) (s : Section) : s ∈ dumpSelect excluded notCommon elf ↔
    dumpSkips excluded notCommon s = false ∧ s.shAddr ≠ 0 ∧ ∃ before after,
      elf.named = before ++ s :: after ∧
      ∀ earlier ∈ before, dumpSkips excluded notCommon earlier = false → earlier.shAddr ≠ 0 := by
  rw [dumpSelect_eq, mem_takeWhile_filter_iff]
  simp only [Bool.not_eq_eq_eq_not, Bool.not_true, bne_iff_ne, ne_eq]

theorem mem_iterSections_of_dumpSelect (selected : s ∈ dumpSelect excluded notCommon elf) :
  s ∈ elf.iterSections := by
  obtain ⟨_, _, before, after, split, _⟩ := (mem_dumpSelect_iff excluded notCommon elf s).mp selected
  simp [ElfFile.iterSections, split]

theorem dumpSkips_eq_false_iff (s : Section) : dumpSkips excluded notCommon s = false ↔
    occursIn ".ind" s.name = false ∧ s.name ≠ "" ∧ s.name ∉ excluded ∧ s.name ∉ notCommon ∧
      startsWith s.name ".rodata.lib" = false ∧ occursIn ".data.bss." s.name = false ∧
      s.shAddr % 0x1000 = 0 := by
  simp only [dumpSkips]
  split
  · rename_i skipped
    simp only [Bool.or_eq_true, beq_iff_eq, String.length_eq_zero_iff, contains_eq_mem,
      decide_eq_true_eq] at skipped
    simp only [Bool.true_eq_false, false_iff]
    rintro ⟨noInd, named, notExcluded, common, _⟩
    simp_all
  rename_i kept
  simp only [Bool.or_eq_true, beq_iff_eq, String.length_eq_zero_iff, contains_eq_mem,
    decide_eq_true_eq, not_or, Bool.not_eq_true] at kept
  split
  · rename_i library
    simp [library]
  rename_i library
  split
  · rename_i dataBss
    simp [dataBss]
  rename_i dataBss
  simp_all

theorem toBytes_addr : toBytes s.shAddr 8 = .ok (littleEndian 8 s.shAddr) :=
  toBytes_eq (by have fits := s.addrFits; omega)

theorem toBytes_size : toBytes s.shSize 8 = .ok (littleEndian 8 s.shSize) :=
  toBytes_eq (by have fits := s.sizeFits; simp only [Section.shSize]; omega)

theorem dumpEntry_ok_iff (s : Section) : (∃ bytes, dumpEntry s = .ok bytes) ↔ s.name.length < 65536 := by
  rw [← show 256 ^ 2 = 65536 by decide, ← toBytes_ok_iff]
  simp only [dumpEntry, toBytes_addr, toBytes_size]
  cases toBytes s.name.length 2 <;> simp [bind, Except.bind, pure, Except.pure]

def SecFits (elf : ElfFile) : Prop :=
  (dumpSelect excluded notCommon elf).length < 65536 ∧
    ∀ s ∈ dumpSelect excluded notCommon elf, s.name.length < 65536

theorem dumpSections_ok_iff (elf : ElfFile) :
  (∃ bytes, dumpSections excluded notCommon elf = .ok bytes) ↔ SecFits excluded notCommon elf := by
  have count := toBytes_ok_iff (dumpSelect excluded notCommon elf).length 2
  have entries := mapM_ok_iff dumpEntry (dumpSelect excluded notCommon elf)
  simp only [dumpEntry_ok_iff] at entries
  rw [show 256 ^ 2 = 65536 by decide] at count
  rw [SecFits, ← count, ← entries]
  simp only [dumpSections]
  cases toBytes (dumpSelect excluded notCommon elf).length 2 <;>
    cases (dumpSelect excluded notCommon elf).mapM dumpEntry <;>
    simp [bind, Except.bind, pure, Except.pure]

def secRecord (s : Section) : List UInt8 :=
  littleEndian 8 s.name.length ++ encodeUtf8 s.name ++ littleEndian 8 s.shAddr ++
    littleEndian 8 s.shSize ++ [0]

theorem dumpEntry_eq (dumped : dumpEntry s = .ok bytes) : bytes = secRecord s := by
  have short := (dumpEntry_ok_iff s).mp ⟨bytes, dumped⟩
  rw [dumpEntry, toBytes_eq (show s.name.length < 256 ^ 2 by omega), toBytes_addr,
    toBytes_size] at dumped
  cases dumped
  rw [secRecord, littleEndian_padded 6 (by omega)]

theorem dumpSections_eq (dumped : dumpSections excluded notCommon elf = .ok bytes) :
  bytes = littleEndian 8 (dumpSelect excluded notCommon elf).length ++
    ((dumpSelect excluded notCommon elf).map secRecord).flatten := by
  have fits := (dumpSections_ok_iff excluded notCommon elf).mp ⟨bytes, dumped⟩
  have entries : (dumpSelect excluded notCommon elf).mapM dumpEntry =
      .ok ((dumpSelect excluded notCommon elf).map secRecord) := by
    apply mapM_ok
    intro s member
    obtain ⟨record, recorded⟩ := (dumpEntry_ok_iff s).mpr (fits.2 s member)
    rw [recorded, dumpEntry_eq recorded]
  have count : (dumpSelect excluded notCommon elf).length < 256 ^ 2 := by
    have small := fits.1
    omega
  rw [dumpSections, toBytes_eq count, entries] at dumped
  cases dumped
  rw [littleEndian_padded 6 count]

end

section

theorem extract_of_zero (zero : s.data.all (· == 0) = true) : extract s = .ok none := by
  simp [extract, zero]

theorem extract_of_nonzero (nonzero : s.data.all (· == 0) = false) (short : s.name.length < 65536) :
  ∃ bytes, extract s = .ok (some bytes) := by
  simp only [extract, nonzero, Bool.false_eq_true, ↓reduceIte, toBytes_addr, toBytes_size,
    toBytes_eq (show s.name.length < 256 ^ 2 by omega)]
  exact ⟨_, rfl⟩

theorem extract_of_long (nonzero : s.data.all (· == 0) = false) (long : ¬s.name.length < 65536) :
  extract s = .error .overflowError := by
  have overflow : toBytes s.name.length 2 = .error .overflowError := by
    simp only [toBytes, show ¬s.name.length < 256 ^ 2 by omega, ↓reduceIte]
  simp only [extract, nonzero, Bool.false_eq_true, ↓reduceIte, overflow]
  rfl

def updateRecord (s : Section) : List UInt8 :=
  littleEndian 2 s.name.length ++ encodeUtf8 s.name ++ littleEndian 8 s.shSize ++
    littleEndian 8 s.shAddr ++ s.data

theorem extract_eq (extracted : extract s = .ok (some bytes)) : bytes = updateRecord s := by
  unfold extract at extracted
  split at extracted
  · cases extracted
  obtain ⟨nameLength, named, extracted⟩ := ok_of_bind extracted
  rw [toBytes_size, toBytes_addr] at extracted
  simp only [toBytes] at named
  split at named
  · cases named
    cases extracted
    rfl
  · cases named

variable (takes : String → Bool)

def extractKeeps (s : Section) : Bool := takes s.name && !s.data.all (· == 0)

def extractedSections (elf : ElfFile) : List Section := elf.iterSections.filter (extractKeeps takes)

theorem extractLoop_eq (sections : List Section) (buffer : List UInt8) (nbSections : Nat) :
  extractLoop takes sections buffer nbSections =
    if ∀ s ∈ sections.filter (extractKeeps takes), s.name.length < 65536 then
      .ok (buffer ++ ((sections.filter (extractKeeps takes)).map updateRecord).flatten,
        nbSections + (sections.filter (extractKeeps takes)).length)
    else .error .overflowError := by
  induction sections generalizing buffer nbSections with
  | nil => simp [extractLoop]
  | cons s rest ih =>
    rw [extractLoop]
    by_cases taken : takes s.name = true
    · rw [if_pos taken]
      cases zero : s.data.all (· == 0) with
      | true =>
        rw [filter_cons_of_neg (by simp [extractKeeps, zero]),
          bind_of_ok (extract_of_zero zero)]
        exact ih buffer nbSections
      | false =>
        rw [filter_cons_of_pos (by simp [extractKeeps, taken, zero])]
        by_cases short : s.name.length < 65536
        · obtain ⟨bytes, extracted⟩ := extract_of_nonzero zero short
          rw [bind_of_ok extracted, extract_eq extracted]
          simp only [ih, forall_mem_cons, short, true_and, map_cons,
            flatten_cons, append_assoc, length_cons]
          split
          · congr 2
            omega
          · rfl
        rw [extract_of_long zero short, if_neg fun each => short (each s (by simp))]
        rfl
    rw [if_neg taken, filter_cons_of_neg (by simp [extractKeeps, taken])]
    exact ih buffer nbSections

theorem extractFile_run (elf : ElfFile) : extractFile takes elf =
    if ∀ s ∈ extractedSections takes elf, s.name.length < 65536 then
      if extractedSections takes elf = [] then .ok none
      else if (extractedSections takes elf).length < 256 then
        .ok (some (littleEndian 1 (extractedSections takes elf).length ++
          ((extractedSections takes elf).map updateRecord).flatten))
      else .error .overflowError
    else .error .overflowError := by
  have kept : elf.iterSections.filter (extractKeeps takes) = extractedSections takes elf := rfl
  have counted : toBytes (extractedSections takes elf).length 1 =
      if (extractedSections takes elf).length < 256 then
        .ok (littleEndian 1 (extractedSections takes elf).length)
      else .error .overflowError := rfl
  rw [extractFile, extractLoop_eq, kept]
  split
  · simp only [bind, Except.bind, nil_append, Nat.zero_add, length_eq_zero_iff]
    split
    · rfl
    rw [counted]
    by_cases few : (extractedSections takes elf).length < 256
    · rw [if_pos few, if_pos few]
      rfl
    · rw [if_neg few, if_neg few]
  · rfl

end

section

variable (included notCommon : List String)

def minimizerKeeps (s : Section) : Bool :=
  minimizerTakes included notCommon s.name && !s.data.all (· == 0)

variable (elf : ElfFile)

def updateSections : List Section :=
  elf.iterSections.filter (minimizerKeeps included notCommon)

def UpdateFits : Prop :=
  (updateSections included notCommon elf).length < 256 ∧
    ∀ s ∈ updateSections included notCommon elf, s.name.length < 65536

theorem minimizerLoop_eq (sections : List Section) :
  minimizerLoop included notCommon sections buffer nbSections =
    extractLoop (minimizerTakes included notCommon) sections buffer nbSections := by
  induction sections generalizing buffer nbSections with
  | nil => rfl
  | cons s rest ih => simp only [minimizerLoop, extractLoop, ih]

theorem processFileAslr_run : processFileAslr included notCommon elf =
    if ∀ s ∈ updateSections included notCommon elf, s.name.length < 65536 then
      if updateSections included notCommon elf = [] then .ok none
      else if (updateSections included notCommon elf).length < 256 then
        .ok (some (littleEndian 1 (updateSections included notCommon elf).length ++
          ((updateSections included notCommon elf).map updateRecord).flatten))
      else .error .overflowError
    else .error .overflowError := by
  rw [processFileAslr, minimizerLoop_eq]
  exact extractFile_run (minimizerTakes included notCommon) elf

theorem processFileAslr_eq (finished : processFileAslr included notCommon elf = .ok update) :
  update = if updateSections included notCommon elf = [] then none else
    some (littleEndian 1 (updateSections included notCommon elf).length ++
      ((updateSections included notCommon elf).map updateRecord).flatten) := by
  rw [processFileAslr_run] at finished
  split at finished
  · split at finished
    · rename_i none
      cases finished
      rw [if_pos none]
    rename_i some
    rw [if_neg some]
    split at finished
    · cases finished
      rfl
    · cases finished
  · cases finished

theorem processFileAslr_written_iff : (∃ bytes, processFileAslr included notCommon elf = .ok (some bytes)) ↔
    updateSections included notCommon elf ≠ [] ∧ UpdateFits included notCommon elf := by
  rw [processFileAslr_run, UpdateFits]
  by_cases short : ∀ s ∈ updateSections included notCommon elf, s.name.length < 65536
  · rw [if_pos short]
    by_cases none : updateSections included notCommon elf = []
    · simp [none]
    rw [if_neg none]
    by_cases few : (updateSections included notCommon elf).length < 256
    · simp only [ne_eq, none, not_false_eq_true, few, true_and]
      exact iff_of_true ⟨_, rfl⟩ short
    · simp [few]
  rw [if_neg short]
  simp [short]

end

section

variable (included : List String) (elf : ElfFile)

def plainSections : List Section :=
  elf.iterSections.filter fun s => plainTakes included s.name && !s.data.all (· == 0)

theorem plainLoop_eq (sections : List Section) (buffer : List UInt8) (nbSections : Nat) :
  plainLoop included sections buffer nbSections = (buffer ++ (sections.filter fun s =>
        plainTakes included s.name && !s.data.all (· == 0)).flatMap Section.data,
      nbSections + (sections.filter fun s =>
        plainTakes included s.name && !s.data.all (· == 0)).length) := by
  induction sections generalizing buffer nbSections with
  | nil => simp [plainLoop]
  | cons s rest ih =>
    by_cases taken : plainTakes included s.name = true
    · cases zero : s.data.all (· == 0) with
      | true =>
        rw [filter_cons_of_neg (by simp [zero])]
        simp only [plainLoop, taken, if_true, zero, Bool.not_true, Bool.false_eq_true, if_false]
        exact ih buffer nbSections
      | false =>
        rw [filter_cons_of_pos (by simp [taken, zero])]
        simp only [plainLoop, taken, if_true, zero, Bool.not_false, ih, flatMap_cons,
          append_assoc, length_cons, Prod.mk.injEq, true_and]
        omega
    rw [filter_cons_of_neg (by simp [taken])]
    simp only [plainLoop, taken, Bool.false_eq_true, if_false]
    exact ih buffer nbSections

theorem processFile_eq : processFile included elf =
    if plainSections included elf = [] then none
    else some ((plainSections included elf).flatMap Section.data) := by
  simp only [processFile, plainLoop_eq, nil_append, Nat.zero_add, length_eq_zero_iff]
  rfl

end

end Spacer.Helpers
