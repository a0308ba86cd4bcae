import Spacer.Helpers.Selection

/-!
The classification without ASLR.  `process_spacer` pools the sections of all unikernels
by address and compares their number with that of the unikernels.
-/

namespace Spacer.Helpers

open Lib List

variable (unikernels : List ElfFile) (address : Nat)

def sectionsAt : List Section :=
  (unikernels.flatMap ElfFile.iterSections).filter fun s => s.shAddr = address

def ElfFile.occupies (uk : ElfFile) (address : Nat) : Bool :=
  uk.iterSections.any fun s => s.shAddr = address

def holders : Nat :=
  unikernels.countP (ElfFile.occupies · address)

def SameData (sections : List Section) : Prop :=
  ∀ left ∈ sections, ∀ right ∈ sections, left.data = right.data

instance (sections : List Section) : Decidable (SameData sections) :=
  inferInstanceAs (Decidable (∀ left ∈ sections, ∀ right ∈ sections, left.data = right.data))

theorem holders_le : holders unikernels address ≤ (sectionsAt unikernels address).length ∧
    ((sectionsAt unikernels address).length = holders unikernels address ↔
      ∀ uk ∈ unikernels, (uk.iterSections.filter fun s => s.shAddr = address).length ≤ 1) := by
  induction unikernels with
  | nil => simp [holders, sectionsAt]
  | cons uk rest ih =>
    obtain ⟨fewer, single⟩ := ih
    have pooled : (sectionsAt (uk :: rest) address).length =
        (uk.iterSections.filter fun s => s.shAddr = address).length + (sectionsAt rest address).length := by
      simp [sectionsAt]
    have counted : holders (uk :: rest) address =
        holders rest address + if uk.occupies address then 1 else 0 := by
      rw [holders, countP_cons]
      rfl
    have present : uk.occupies address = true ↔
        0 < (uk.iterSections.filter fun s => s.shAddr = address).length := by
      rw [ElfFile.occupies]
      simp
    rw [counted, forall_mem_cons, ← single]
    split
    · rename_i held
      have some := present.mp held
      omega
    rename_i missing
    have none : ¬0 < (uk.iterSections.filter fun s => s.shAddr = address).length :=
      fun some => missing (present.mpr some)
    omega

theorem holders_eq_length_iff : holders unikernels address = unikernels.length ↔
    ∀ uk ∈ unikernels, ∃ s ∈ uk.iterSections, s.shAddr = address := by
  rw [holders]
  simp [ElfFile.occupies]

theorem holders_pos_iff : 0 < holders unikernels address ↔ sectionsAt unikernels address ≠ [] := by
  rw [holders, countP_pos_iff, ← length_pos_iff, length_pos_iff_exists_mem]
  simp only [ElfFile.occupies, any_eq_true, sectionsAt, mem_filter, mem_flatMap]
  constructor
  · rintro ⟨uk, listed, s, member, same⟩
    exact ⟨s, ⟨uk, listed, member⟩, same⟩
  rintro ⟨s, ⟨uk, listed, member⟩, same⟩
  exact ⟨uk, listed, s, member, same⟩

theorem identicalStep_fold (values : List Section) (identical : Nat) (old : List UInt8) :
  values.foldl identicalStep (identical, some old) =
    (identical + values.countP fun v => old = v.data, some old) := by
  induction values generalizing identical with
  | nil => rfl
  | cons v rest ih =>
    rw [foldl_cons, countP_cons]
    by_cases same : old = v.data
    · simp only [identicalStep, if_pos same, ih, decide_eq_true same, if_true]
      rw [Nat.add_right_comm, Nat.add_assoc]
    simp only [identicalStep, if_neg same, ih, decide_eq_false same, Bool.false_eq_true,
      if_false, Nat.add_zero]

theorem identicalCount_eq_iff (filled : values ≠ []) :
  identicalCount values = values.length ↔ SameData values := by
  obtain ⟨first, rest, rfl⟩ := exists_cons_of_ne_nil filled
  have count : identicalCount (first :: rest) = 1 + rest.countP fun v => first.data = v.data := by
    exact congrArg Prod.fst (identicalStep_fold rest 1 first.data)
  have whole : identicalCount (first :: rest) = (first :: rest).length ↔
      rest.countP (fun v => first.data = v.data) = rest.length := by
    rw [length_cons]
    omega
  rw [whole, countP_eq_length]
  simp only [decide_eq_true_eq]
  constructor
  · intro same left leftMem right rightMem
    have toFirst : ∀ v ∈ first :: rest, first.data = v.data :=
      forall_mem_cons.mpr ⟨rfl, same⟩
    exact (toFirst left leftMem).symm.trans (toFirst right rightMem)
  intro same v member
  exact same first (by simp) v (by simp [member])

def sharedEntry (group : Nat × List Section) : LibEntry :=
  ⟨(group.2.map Section.name).headD "", hexAddr group.1, group.2.length⟩

def isShared (group : Nat × List Section) : Bool :=
  group.1 ≠ 0 ∧ 1 < group.2.length ∧ identicalCount group.2 = group.2.length

theorem trackItems_shared (entry : String → LibEntry) (items : List String) (state : SpacerState) :
  (items.foldl (SpacerState.trackItem entry) state).dictLibs.commonToAll = state.dictLibs.commonToAll ∧
    (items.foldl (SpacerState.trackItem entry) state).dictLibs.commonToSubset =
      state.dictLibs.commonToSubset := by
  induction items generalizing state with
  | nil => exact ⟨rfl, rfl⟩
  | cons item rest ih =>
    rw [foldl_cons]
    obtain ⟨all, subset⟩ := ih (SpacerState.trackItem entry state item)
    rw [all, subset, SpacerState.trackItem]
    split
    · exact ⟨rfl, rfl⟩
    · exact ⟨rfl, rfl⟩

theorem spacerStep_shared (count : Nat) (state : SpacerState) (group : Nat × List Section) :
  (spacerStep count state group).dictLibs.commonToAll = state.dictLibs.commonToAll ++
      (if isShared group ∧ count = group.2.length then [sharedEntry group] else []) ∧
    (spacerStep count state group).dictLibs.commonToSubset = state.dictLibs.commonToSubset ++
      (if isShared group ∧ count ≠ group.2.length then [sharedEntry group] else []) := by
  obtain ⟨k, values⟩ := group
  simp only [spacerStep, isShared]
  by_cases zero : k = 0
  · simp [zero]
  rw [if_neg zero]
  by_cases several : 1 < values.length
  · rw [if_pos several]
    by_cases same : identicalCount values = values.length
    · rw [if_pos same]
      by_cases all : count = values.length
      · simp [zero, several, same, all, sharedEntry]
      · simp [zero, several, same, all, sharedEntry]
    rw [if_neg same]
    obtain ⟨all, subset⟩ := trackItems_shared
      (fun name => LibEntry.mk name (hexAddr k) values.length) (values.map Section.name) state
    rw [all, subset]
    simp [same]
  · simp [several]

theorem spacerFold_shared (count : Nat) (groups : List (Nat × List Section)) (state : SpacerState) :
  (groups.foldl (spacerStep count) state).dictLibs.commonToAll = state.dictLibs.commonToAll ++
      (groups.filter fun group => isShared group ∧ count = group.2.length).map sharedEntry ∧
    (groups.foldl (spacerStep count) state).dictLibs.commonToSubset = state.dictLibs.commonToSubset ++
        (groups.filter fun group => isShared group ∧ count ≠ group.2.length).map sharedEntry := by
  induction groups generalizing state with
  | nil => simp
  | cons group rest ih =>
    obtain ⟨all, subset⟩ := ih (spacerStep count state group)
    obtain ⟨stepAll, stepSubset⟩ := spacerStep_shared count state group
    rw [foldl_cons, all, subset, stepAll, stepSubset]
    by_cases shared : isShared group = true
    · by_cases every : count = group.2.length
      · simp [shared, every]
      · simp [shared, every]
    · simp [shared]

section

theorem mem_mapSection_iff (values : List Section) : (address, values) ∈ (mapSection unikernels).entries ↔
    values ≠ [] ∧ values = sectionsAt unikernels address := by
  have pooled : (((unikernels.flatMap ElfFile.iterSections).map fun s => (s.shAddr, s)).filter
      fun pair => pair.1 = address).map Prod.snd = sectionsAt unikernels address := by
    rw [filter_map, map_map]
    exact map_id _
  rw [mapSection, Dict.mem_entries_group, pooled]

theorem hexAddr_injective (same : hexAddr left = hexAddr right) : left = right := by
  have digits := congrArg (fun text => ofHex text.toList) same
  simpa only [hexAddr, String.toList_ofList, ofHex_hexChars] using digits

def RecordedAt (entries : List LibEntry) (address : Nat) : Prop :=
  ∃ entry ∈ entries, entry.addr = hexAddr address

variable (unikernels : List ElfFile) (entry : LibEntry)

theorem commonToAll_mem_iff : entry ∈ (processSpacer unikernels).commonToAll ↔
    ∃ group ∈ (mapSection unikernels).entries,
      (isShared group = true ∧ unikernels.length = group.2.length) ∧ sharedEntry group = entry := by
  have fold := (spacerFold_shared unikernels.length (mapSection unikernels).entries {}).1
  simp only [processSpacer, sortedEntries, mem_insertionSort, fold, nil_append,
    mem_map, mem_filter, decide_eq_true_eq, and_assoc]

theorem commonToSubset_mem_iff :
  entry ∈ (processSpacer unikernels).commonToSubset ↔ ∃ group ∈ (mapSection unikernels).entries,
      (isShared group = true ∧ unikernels.length ≠ group.2.length) ∧ sharedEntry group = entry := by
  have fold := (spacerFold_shared unikernels.length (mapSection unikernels).entries {}).2
  simp only [processSpacer, sortedEntries, mem_insertionSort, fold, nil_append,
    mem_map, mem_filter, decide_eq_true_eq, and_assoc]

theorem exists_group_iff (chosen : Nat → Prop) (address : Nat) :
  (∃ entry, (∃ group ∈ (mapSection unikernels).entries,
      (isShared group = true ∧ chosen group.2.length) ∧ sharedEntry group = entry) ∧
        entry.addr = hexAddr address) ↔
    address ≠ 0 ∧ 1 < (sectionsAt unikernels address).length ∧ SameData (sectionsAt unikernels address) ∧
      chosen (sectionsAt unikernels address).length := by
  constructor
  · rintro ⟨_, ⟨⟨k, values⟩, member, ⟨shared, count⟩, rfl⟩, same⟩
    obtain ⟨filled, rfl⟩ := (mem_mapSection_iff unikernels k values).mp member
    obtain rfl : k = address := hexAddr_injective same
    obtain ⟨nonzero, several, identical⟩ := of_decide_eq_true shared
    exact ⟨nonzero, several, (identicalCount_eq_iff filled).mp identical, count⟩
  rintro ⟨nonzero, several, same, count⟩
  have filled : sectionsAt unikernels address ≠ [] := by
    intro empty
    simp [empty] at several
  refine ⟨_, ⟨(address, sectionsAt unikernels address),
    (mem_mapSection_iff _ _ _).mpr ⟨filled, rfl⟩, ⟨?_, count⟩, rfl⟩, rfl⟩
  exact decide_eq_true ⟨nonzero, several, (identicalCount_eq_iff filled).mpr same⟩

theorem recorded_all_iff (address : Nat) : RecordedAt (processSpacer unikernels).commonToAll address ↔
    address ≠ 0 ∧ 1 < (sectionsAt unikernels address).length ∧ SameData (sectionsAt unikernels address) ∧
      unikernels.length = (sectionsAt unikernels address).length := by
  rw [← exists_group_iff unikernels (unikernels.length = ·)]
  simp only [RecordedAt, commonToAll_mem_iff]

theorem recorded_subset_iff (address : Nat) : RecordedAt (processSpacer unikernels).commonToSubset address ↔
    address ≠ 0 ∧ 1 < (sectionsAt unikernels address).length ∧ SameData (sectionsAt unikernels address) ∧
      unikernels.length ≠ (sectionsAt unikernels address).length := by
  rw [← exists_group_iff unikernels (unikernels.length ≠ ·)]
  simp only [RecordedAt, commonToSubset_mem_iff]

end

section

variable (unikernels : List ElfFile)

def CommonToAll (address : Nat) : Prop :=
  address ≠ 0 ∧ sectionsAt unikernels address ≠ [] ∧
    (∀ uk ∈ unikernels, ∃ s ∈ uk.iterSections, s.shAddr = address) ∧
    SameData (sectionsAt unikernels address)

def CommonToSubset (address : Nat) : Prop :=
  address ≠ 0 ∧ 2 ≤ holders unikernels address ∧ holders unikernels address < unikernels.length ∧
    SameData (sectionsAt unikernels address)

/-- `named`: an entry carries the name of a section at its address.  `omitted`: the minimal image
of any unikernel holds no section with a name in `common_to_all`. -/
structure ClassifiedExactly : Prop where
  all : ∀ address, RecordedAt (processSpacer unikernels).commonToAll address ↔
    CommonToAll unikernels address
  subset : ∀ address, RecordedAt (processSpacer unikernels).commonToSubset address ↔
    CommonToSubset unikernels address
  named : ∀ entry, entry ∈ (processSpacer unikernels).commonToAll ∨
      entry ∈ (processSpacer unikernels).commonToSubset →
    ∃ address, ∃ s ∈ sectionsAt unikernels address, entry.name = s.name ∧ entry.addr = hexAddr address
  omitted : ∀ elf bytes, processFileMinimal (processSpacer unikernels) elf = .ok (some bytes) →
    ∃ kept : List Section, kept.Sublist elf.iterSections ∧
      bytes = littleEndian 1 kept.length ++ (kept.map updateRecord).flatten ∧
      ∀ s ∈ kept, s.name ∉ entryNames (processSpacer unikernels).commonToAll

def CountsAgree (address : Nat) : Prop :=
  (unikernels.length ≠ 1 ∧
    ∀ uk ∈ unikernels, (uk.iterSections.filter fun s => s.shAddr = address).length ≤ 1) ∨
  ((sectionsAt unikernels address).length ≠ unikernels.length ∧
    2 ≤ holders unikernels address ∧ holders unikernels address < unikernels.length)

variable {unikernels}

theorem sharedEntry_named (member : group ∈ (mapSection unikernels).entries) :
  ∃ address, ∃ s ∈ sectionsAt unikernels address,
    (sharedEntry group).name = s.name ∧ (sharedEntry group).addr = hexAddr address := by
  obtain ⟨k, values⟩ := group
  obtain ⟨filled, same⟩ := (mem_mapSection_iff unikernels k values).mp member
  obtain ⟨first, rest, rfl⟩ := exists_cons_of_ne_nil filled
  exact ⟨k, first, same ▸ mem_cons_self, rfl, rfl⟩

theorem minimal_omits (written : processFileMinimal data elf = .ok (some bytes)) :
  ∃ kept : List Section, kept.Sublist elf.iterSections ∧
    bytes = littleEndian 1 kept.length ++ (kept.map updateRecord).flatten ∧
    ∀ s ∈ kept, s.name ∉ entryNames data.commonToAll := by
  refine ⟨extractedSections (minimalTakes data) elf, filter_sublist, ?_, ?_⟩
  · rw [processFileMinimal, extractFile_run] at written
    split at written
    · split at written
      · cases written
      split at written
      · cases written
        rfl
      · cases written
    · cases written
  intro s member listed
  have taken := (mem_filter.mp member).2
  simp [extractKeeps, minimalTakes, listed] at taken

theorem holders_le_length (address : Nat) : holders unikernels address ≤ unikernels.length :=
  countP_le_length

variable {address}

theorem recorded_right_iff (nonzero : address ≠ 0) (filled : sectionsAt unikernels address ≠ [])
  (same : SameData (sectionsAt unikernels address)) :
  ((RecordedAt (processSpacer unikernels).commonToAll address ↔ CommonToAll unikernels address) ∧
    (RecordedAt (processSpacer unikernels).commonToSubset address ↔
      CommonToSubset unikernels address)) ↔ CountsAgree unikernels address := by
  have some := (holders_pos_iff unikernels address).mpr filled
  have most := @holders_le_length unikernels address
  obtain ⟨fewer, single⟩ := holders_le unikernels address
  have all : CommonToAll unikernels address ↔ holders unikernels address = unikernels.length := by
    rw [CommonToAll, ← holders_eq_length_iff]
    exact ⟨fun both => both.2.2.1, fun every => ⟨nonzero, filled, every, same⟩⟩
  have subset : CommonToSubset unikernels address ↔
      2 ≤ holders unikernels address ∧ holders unikernels address < unikernels.length :=
    ⟨fun both => ⟨both.2.1, both.2.2.1⟩, fun both => ⟨nonzero, both.1, both.2, same⟩⟩
  rw [recorded_all_iff, recorded_subset_iff, all, subset, CountsAgree, ← single]
  simp only [same, true_and]
  omega

end

theorem common_sections_exact_iff (unikernels : List ElfFile) : ClassifiedExactly unikernels ↔
    ∀ address, address ≠ 0 → sectionsAt unikernels address ≠ [] →
      SameData (sectionsAt unikernels address) → CountsAgree unikernels address := by
  constructor
  · intro exactly address nonzero filled same
    exact (recorded_right_iff nonzero filled same).mp ⟨exactly.all address, exactly.subset address⟩
  intro agree
  have right : ∀ address, (RecordedAt (processSpacer unikernels).commonToAll address ↔
        CommonToAll unikernels address) ∧
      (RecordedAt (processSpacer unikernels).commonToSubset address ↔
        CommonToSubset unikernels address) := by
    intro address
    by_cases shared : address ≠ 0 ∧ sectionsAt unikernels address ≠ [] ∧
        SameData (sectionsAt unikernels address)
    · obtain ⟨nonzero, filled, same⟩ := shared
      exact (recorded_right_iff nonzero filled same).mpr (agree address nonzero filled same)
    have several : ∀ {count : Prop}, address ≠ 0 ∧ 1 < (sectionsAt unikernels address).length ∧
        SameData (sectionsAt unikernels address) ∧ count → False := by
      rintro count ⟨nonzero, more, same, _⟩
      refine shared ⟨nonzero, fun empty => ?_, same⟩
      simp [empty] at more
    refine ⟨iff_of_false ?_ ?_, iff_of_false ?_ ?_⟩
    · exact fun recorded => several ((recorded_all_iff unikernels address).mp recorded)
    · exact fun common => shared ⟨common.1, common.2.1, common.2.2.2⟩
    · exact fun recorded => several ((recorded_subset_iff unikernels address).mp recorded)
    rintro ⟨nonzero, two, _, same⟩
    exact shared ⟨nonzero, (holders_pos_iff unikernels address).mp (by omega), same⟩
  refine ⟨fun address => (right address).1, fun address => (right address).2, ?_, ?_⟩
  · rintro entry (all | subset)
    · obtain ⟨group, member, _, rfl⟩ := (commonToAll_mem_iff unikernels entry).mp all
      exact sharedEntry_named member
    obtain ⟨group, member, _, rfl⟩ := (commonToSubset_mem_iff unikernels entry).mp subset
    exact sharedEntry_named member
  · exact fun elf bytes written => minimal_omits written

def emptyPair : List ElfFile :=
  [⟨[⟨".tdata", 0x3000, [], by decide, nullSection.sizeFits⟩,
      ⟨".tbss", 0x3000, [], by decide, nullSection.sizeFits⟩]⟩,
    ⟨[byteSection ".text" 0x1000 0xc3]⟩]

theorem one_unikernel_common_to_all :
  RecordedAt (processSpacer emptyPair).commonToAll 0x3000 ∧ ¬ClassifiedExactly emptyPair := by
  have recorded : RecordedAt (processSpacer emptyPair).commonToAll 0x3000 := by
    rw [recorded_all_iff]
    decide
  refine ⟨recorded, fun exactly => ?_⟩
  obtain ⟨_, _, every, _⟩ := (exactly.all 0x3000).mp recorded
  exact absurd every (by decide)

end Spacer.Helpers
