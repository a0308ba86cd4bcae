import Spacer.Aligner.Inputs
import Spacer.Aligner.Template

/-! How often a link script takes each section of each library. -/

namespace Spacer.Aligner

open Lib List

def UkManager.PlacedOnce (manager : UkManager) (lines : List String) (uk : Unikernel) : Prop :=
  ∃ pieces, manager.processLink64Spacer lines uk = .ok (some pieces) ∧
    ∀ lib ∈ uk.objects, ∀ sect : SectName, pieces.countP (Piece.places lib sect) = 1

def takes (lib : String) (sect : SectName) (inputs : List InputSection) : Bool :=
  inputs.any fun input => input = ⟨lib, sect.label⟩

theorem places_item : (Piece.item item).places lib sect = takes lib sect item.inputs := by
  cases item <;> rfl

theorem countP_items (items : List ScriptItem) : (items.map Piece.item).countP (Piece.places lib sect) =
    (items.map ScriptItem.inputs).countP (takes lib sect) := by
  rw [countP_map, countP_map]
  exact countP_congr fun item _ => by simp [Function.comp, places_item]

theorem Idle.countP_eq_zero (idle : Idle pieces) (lib : String) (sect : SectName) :
  pieces.countP (Piece.places lib sect) = 0 := by
  rw [List.countP_eq_zero]
  intro piece member
  rw [idle piece member lib sect]
  exact Bool.false_ne_true

theorem countP_tailPieces : UkManager.tailPieces.countP (Piece.places lib sect) = 0 := by
  cases sect <;> rfl

section

variable {lib : String} {sect : SectName} {result : UkLib → List (List InputSection)}

theorem countP_absent (libs : List UkLib)
  (others : ∀ ukLib, ukLib.name ≠ lib → (result ukLib).countP (takes lib sect) = 0)
  (absent : ∀ ukLib ∈ libs, ukLib.name ≠ lib) : (libs.flatMap result).countP (takes lib sect) = 0 := by
  induction libs with
  | nil => rfl
  | cons ukLib rest ih =>
    rw [flatMap_cons, countP_append, others ukLib (absent ukLib (by simp)),
      ih fun other member => absent other (mem_cons_of_mem _ member)]

theorem countP_present {libs : List UkLib} (distinct : (libs.map UkLib.name).Nodup)
  (others : ∀ other, other.name ≠ ukLib.name → (result other).countP (takes ukLib.name sect) = 0)
  (member : ukLib ∈ libs) :
  (libs.flatMap result).countP (takes ukLib.name sect) = (result ukLib).countP (takes ukLib.name sect) := by
  induction libs with
  | nil => cases member
  | cons first rest ih =>
    simp only [map_cons, nodup_cons] at distinct
    rw [flatMap_cons, countP_append]
    rcases mem_cons.mp member with rfl | later
    · have absent : ∀ other ∈ rest, other.name ≠ ukLib.name := fun other held same =>
        distinct.1 (same ▸ mem_map_of_mem held)
      rw [countP_absent rest others absent, Nat.add_zero]
    have differs : first.name ≠ ukLib.name := fun same =>
      distinct.1 (same ▸ mem_map_of_mem later)
    rw [others first differs, Nat.zero_add, ih distinct.2 later]

variable (flags : Flags)

def commonTimes : SectName → Nat
  | .text => 1
  | .rodata => if flags.compact then 1 else 0
  | .data => if flags.snapshot then 1 else 0
  | .bss => if flags.compact && flags.snapshot then 1 else 0

def ownTimes : SectName → Nat
  | .text => 1
  | .rodata => if flags.compact then 1 else 0
  | .data => if flags.snapshot && !flags.compact then 1 else 0
  | .bss => if flags.snapshot && !flags.compact then 1 else 0

variable (ukLib : UkLib) (sect)

theorem countP_commonInputs :
  (commonInputs flags ukLib).countP (takes ukLib.name sect) = commonTimes flags sect := by
  cases compact : flags.compact <;> cases snapshot : flags.snapshot <;> cases sect <;>
    simp [commonInputs, commonTimes, takes, compact, snapshot, SectName.label]

theorem countP_commonInputs_other (lib : String) (differs : ukLib.name ≠ lib) (sect : SectName) :
  (commonInputs flags ukLib).countP (takes lib sect) = 0 := by
  cases compact : flags.compact <;> cases snapshot : flags.snapshot <;>
    simp [commonInputs, takes, compact, snapshot, differs]

theorem countP_ownInputs :
  (ownInputs flags ukLib).countP (takes ukLib.name sect) = ownTimes flags sect := by
  cases compact : flags.compact <;> cases snapshot : flags.snapshot <;>
    cases app : (flags.dce && occursIn "app" ukLib.name && ukLib.occurence == 1) <;> cases sect <;>
    simp [ownInputs, ownTimes, takes, sectInputs, Unikernel.arraySect, Unikernel.textItem,
      Unikernel.dataItem, ScriptItem.inputs, compact, snapshot, app, SectName.label]

theorem countP_ownInputs_other (lib : String) (differs : ukLib.name ≠ lib) (sect : SectName) :
  (ownInputs flags ukLib).countP (takes lib sect) = 0 := by
  cases compact : flags.compact <;> cases snapshot : flags.snapshot <;>
    cases app : (flags.dce && occursIn "app" ukLib.name && ukLib.occurence == 1) <;>
    simp [ownInputs, takes, sectInputs, Unikernel.arraySect, Unikernel.textItem,
      Unikernel.dataItem, ScriptItem.inputs, compact, snapshot, app, differs]

end

section

variable {manager : UkManager}

def sectionTimes (flags : Flags) (manager : UkManager) (uk : Unikernel) (lib : String) : SectName → Nat
  | .text => 0
  | .rodata =>
    if flags.snapshot || flags.compact then 0
    else (if lib ∈ manager.sbRodata.keys then 1 else 0) +
      if lib ∈ uk.sbRodata.keys then 1 else 0
  | .data => if flags.snapshot then 0 else 1
  | .bss => if flags.snapshot then 0 else 1

theorem lookupLoc_ok (present : manager.locSect.get? name ≠ none) :
  ∃ loc, manager.lookupLoc name = .ok loc := by
  obtain ⟨loc, found⟩ := Option.ne_none_iff_exists'.mp present
  exact ⟨loc, by simp [UkManager.lookupLoc, found]⟩

theorem places_rodata (libs : List String) (sect : SectName) :
  (Piece.listed ".rodata" (libs.map fun other => ⟨other, ".rodata"⟩)).places lib sect =
    decide (sect = .rodata ∧ lib ∈ libs) := by
  rw [Bool.eq_iff_iff]
  cases sect <;> simp [Piece.places, SectName.label]

theorem places_rodataApp (libs : List String) (sect : SectName) :
  (Piece.listed ".rodata.app" (libs.flatMap fun other =>
    [⟨other, ".rodata"⟩, ⟨other, ".rodata.*"⟩])).places lib sect =
    decide (sect = .rodata ∧ lib ∈ libs) := by
  rw [Bool.eq_iff_iff]
  cases sect <;> simp [Piece.places, SectName.label]

theorem rodataPieces_count (found : manager.lookupLoc ".rodata" = .ok loc) (uk : Unikernel) :
  ∃ pieces, manager.rodataPieces uk = .ok pieces ∧ ∀ lib sect, pieces.countP (Piece.places lib sect) =
      if sect = .rodata then (if lib ∈ manager.sbRodata.keys then 1 else 0) +
        if lib ∈ uk.sbRodata.keys then 1 else 0
      else 0 := by
  refine ⟨_, by rw [UkManager.rodataPieces, bind_of_ok found]; rfl, fun lib sect => ?_⟩
  have first : (Piece.assign loc).places lib sect = false := rfl
  rw [countP_append, countP_cons, countP_singleton, first, places_rodata]
  by_cases filled : 0 < uk.sbRodata.keys.length
  · rw [if_pos filled, countP_singleton, places_rodataApp]
    by_cases isRodata : sect = .rodata
    · simp [isRodata]
    · simp [isRodata]
  have empty : uk.sbRodata.keys = [] := length_eq_zero_iff.mp (by omega)
  by_cases isRodata : sect = .rodata
  · simp [isRodata, empty]
  · simp [isRodata, empty]

theorem looseRodata_count (spec : ScriptRun flags builds manager place)
  (snapshot : flags.snapshot = false) (uk : Unikernel) :
  ∃ pieces, manager.looseRodata uk = .ok pieces ∧ ∀ lib sect, pieces.countP (Piece.places lib sect) =
      if sect = .rodata ∧ flags.compact = false then
        (if lib ∈ manager.sbRodata.keys then 1 else 0) +
          if lib ∈ uk.sbRodata.keys then 1 else 0
      else 0 := by
  rw [UkManager.looseRodata, spec.mode]
  cases compact : flags.compact with
  | true => exact ⟨[], rfl, by simp⟩
  | false =>
    obtain ⟨loc, found⟩ := lookupLoc_ok (spec.windows snapshot .rodata (.inr (.inr ⟨rfl, compact⟩)))
    obtain ⟨pieces, run, count⟩ := rodataPieces_count found uk
    exact ⟨pieces, run, by simpa using count⟩

theorem countP_addressedSections (sect : SectName) :
  (UkManager.addressedSections data bss intrstack).countP (Piece.places lib sect) =
    if sect = .data ∨ sect = .bss then 1 else 0 := by
  cases sect <;> rfl

theorem sectionPieces_count (spec : ScriptRun flags builds manager place) (uk : Unikernel) :
  ∃ pieces, manager.sectionPieces uk = .ok pieces ∧ ∀ lib sect,
    pieces.countP (Piece.places lib sect) = sectionTimes flags manager uk lib sect := by
  obtain ⟨intrstack, stack⟩ := Option.ne_none_iff_exists'.mp (spec.starts ".intrstack" (by simp))
  cases snapshot : flags.snapshot with
  | true =>
    refine ⟨_, by simp only [UkManager.sectionPieces, stack, spec.mode, snapshot]; rfl, ?_⟩
    intro lib sect
    cases sect <;> simp only [sectionTimes, snapshot] <;> rfl
  | false =>
    obtain ⟨data, dataLoc⟩ := lookupLoc_ok (spec.windows snapshot .data (.inl rfl))
    obtain ⟨bss, bssLoc⟩ := lookupLoc_ok (spec.windows snapshot .bss (.inr (.inl rfl)))
    obtain ⟨pieces, run, count⟩ := looseRodata_count spec snapshot uk
    have windows : manager.sectionPieces uk = manager.windowPieces uk intrstack := by
      simp only [UkManager.sectionPieces, stack, spec.mode, snapshot, Bool.false_eq_true, ↓reduceIte]
    have sections : manager.windowPieces uk intrstack =
        .ok (pieces ++ UkManager.addressedSections data bss intrstack) := by
      rw [UkManager.windowPieces, bind_of_ok run]
      change (manager.lookupLoc SectName.data.label >>= _) = _
      rw [bind_of_ok dataLoc]
      change (manager.lookupLoc SectName.bss.label >>= _) = _
      rw [bind_of_ok bssLoc]
      rfl
    refine ⟨_, windows.trans sections, fun lib sect => ?_⟩
    rw [countP_append, count, countP_addressedSections]
    cases compact : flags.compact <;> cases sect <;> simp [sectionTimes, snapshot, compact]

end

section

def ownLibs (builds : List UkBuild) (build : UkBuild) : List UkLib :=
  keptLibs build.listing.keys (subsetLibs builds ++ individualLibs builds)

theorem script_count (spec : ScriptRun flags builds manager place) (template : LinkTemplate)
  (build : UkBuild) :
  ∃ pieces, manager.processLink64Spacer template.lines (place build) = .ok (some pieces) ∧
    ∀ lib sect, pieces.countP (Piece.places lib sect) =
      ((commonLibs builds).flatMap (commonInputs flags)).countP (takes lib sect) +
      ((ownLibs builds build).flatMap (ownInputs flags)).countP (takes lib sect) +
      sectionTimes flags manager (place build) lib sect := by
  have marked : Marked manager := ⟨spec.starts "_ctors" (by simp), spec.starts ".init_array" (by simp),
    spec.starts "_ectors" (by simp)⟩
  obtain ⟨before, after, more, beforeHarmless, afterHarmless, split⟩ :=
    @split_template manager false marked template
  let strSb := replaceText (joinLines (before ++ rodataBlock ++ after)) rodataPattern ""
  have quiet : Quiet strSb := quiet_keptText beforeHarmless afterHarmless
  obtain ⟨sections, sectionsRun, sectionsCount⟩ := sectionPieces_count spec (place build)
  have library : manager.libraryPieces (place build) strSb =
      .ok ([.text strSb] ++ (manager.libraryItems (place build)).map Piece.item ++ sections ++
        UkManager.tailPieces) := by
    rw [UkManager.libraryPieces, bind_of_ok sectionsRun]
    rfl
  have reached : ∃ l ∈ template.head ++ more, endsText l = true := by
    obtain ⟨l, member, ends⟩ := template.head_text
    exact ⟨l, mem_append_left _ member, ends⟩
  obtain ⟨texts, idle, emitted⟩ := emitLines_head manager (place build) strSb library _ reached
  have written : manager.processLink64Spacer template.lines (place build) =
      manager.emitLines (place build) strSb (template.head ++ more) := by
    rw [UkManager.processLink64Spacer, splitLine_eq, bind_of_ok split]
  have own : (place build).inputs "subset" ++ (place build).inputs "individual" =
      (ownLibs builds build).flatMap (ownInputs flags) := spec.own build
  have items : (manager.libraryItems (place build)).map ScriptItem.inputs =
      (commonLibs builds).flatMap (commonInputs flags) ++
        (ownLibs builds build).flatMap (ownInputs flags) := by
    rw [← own, ← spec.common, UkManager.libraryItems, map_append, map_append, append_assoc]
    rfl
  refine ⟨_, written.trans emitted, fun lib sect => ?_⟩
  simp only [countP_append, idle.countP_eq_zero, (idle_text quiet).countP_eq_zero,
    countP_items, items, sectionsCount, countP_tailPieces]
  omega

theorem passes_apart (common : left ∈ commonLibs builds)
  (own : right ∈ subsetLibs builds ++ individualLibs builds) : left.name ≠ right.name := by
  have distinct := nodup_names_passes builds
  rw [map_append, nodup_append] at distinct
  exact distinct.2.2 _ (mem_map_of_mem common) _ (mem_map_of_mem own)

theorem mem_ownRodata (member : lib ∈ ownRodata flags ukLib) : lib = ukLib.name := by
  obtain ⟨sect, _, held⟩ := mem_flatMap.mp member
  rw [sectRodata] at held
  split at held
  · exact mem_singleton.mp held
  · cases held

variable (spec : ScriptRun flags builds manager place)
include spec

theorem common_count (build : UkBuild)
  {ukLib : UkLib} (common : ukLib ∈ commonLibs builds) (sect : SectName) :
  ((commonLibs builds).flatMap (commonInputs flags)).countP (takes ukLib.name sect) +
    ((ownLibs builds build).flatMap (ownInputs flags)).countP (takes ukLib.name sect) +
    sectionTimes flags manager (place build) ukLib.name sect =
  if flags.snapshot = true ∧ flags.compact = false ∧ (sect = .rodata ∨ sect = .bss) then 0
    else 1 := by
  have distinct := nodup_names_passes builds
  rw [map_append, nodup_append] at distinct
  have notOwn : ∀ other ∈ ownLibs builds build, other.name ≠ ukLib.name := fun other member =>
    (passes_apart common (mem_filter.mp member).1).symm
  have listed : ukLib.name ∈ manager.sbRodata.keys ↔ flags.compact = false :=
    ⟨fun member => ((spec.rodata _).mp member).1,
      fun loose => (spec.rodata _).mpr ⟨loose, ukLib, common, rfl⟩⟩
  have unlisted : ukLib.name ∉ (place build).sbRodata.keys := by
    intro member
    obtain ⟨other, held, named⟩ := mem_flatMap.mp ((spec.appRodata build _).mp member)
    exact notOwn other held (mem_ownRodata named).symm
  rw [countP_present distinct.1 (fun other differs =>
      countP_commonInputs_other flags other _ differs sect) common, countP_commonInputs,
    countP_absent _ (fun other differs => countP_ownInputs_other flags other _ differs sect) notOwn]
  cases compact : flags.compact <;> cases snapshot : flags.snapshot <;> cases sect <;>
    simp [commonTimes, sectionTimes, compact, snapshot, listed, unlisted]

theorem own_count (build : UkBuild) {ukLib : UkLib} (own : ukLib ∈ ownLibs builds build) (sect : SectName) :
  ((commonLibs builds).flatMap (commonInputs flags)).countP (takes ukLib.name sect) +
    ((ownLibs builds build).flatMap (ownInputs flags)).countP (takes ukLib.name sect) +
    sectionTimes flags manager (place build) ukLib.name sect =
  if flags.snapshot = true ∧
      (if flags.compact then sect = .data ∨ sect = .bss else sect = .rodata) then 0 else 1 := by
  have distinct := nodup_names_passes builds
  rw [map_append, nodup_append] at distinct
  have ownDistinct : ((ownLibs builds build).map UkLib.name).Nodup :=
    distinct.2.1.sublist (List.Sublist.map UkLib.name filter_sublist)
  have notCommon : ∀ other ∈ commonLibs builds, other.name ≠ ukLib.name := fun other member =>
    passes_apart member (mem_filter.mp own).1
  have unlisted : ukLib.name ∉ manager.sbRodata.keys := by
    intro member
    obtain ⟨_, other, held, named⟩ := (spec.rodata _).mp member
    exact notCommon other held named
  have listed : ukLib.name ∈ (place build).sbRodata.keys ↔ flags.compact = false := by
    rw [spec.appRodata]
    constructor
    · intro member
      obtain ⟨other, _, named⟩ := mem_flatMap.mp member
      obtain ⟨one, _, held⟩ := mem_flatMap.mp named
      rw [sectRodata] at held
      split at held
      · rename_i loose
        exact loose.2
      · cases held
    intro loose
    refine mem_flatMap.mpr ⟨ukLib, own, mem_flatMap.mpr ⟨.text, ?_, ?_⟩⟩
    · cases snapshot : flags.snapshot <;> simp [Unikernel.arraySect, loose]
    · simp [sectRodata, loose]
  rw [countP_absent _ (fun other differs =>
      countP_commonInputs_other flags other _ differs sect) notCommon,
    countP_present ownDistinct (fun other differs =>
      countP_ownInputs_other flags other _ differs sect) own, countP_ownInputs]
  cases compact : flags.compact <;> cases snapshot : flags.snapshot <;> cases sect <;>
    simp [ownTimes, sectionTimes, compact, snapshot, listed, unlisted]

theorem placedOnce_iff (template : LinkTemplate) (member : build ∈ builds) :
  manager.PlacedOnce template.lines (place build) ↔
    (flags.snapshot = true → ∀ lib, build.contains lib = true →
      flags.compact = true ∧ sharers builds lib = builds.length) := by
  obtain ⟨pieces, written, count⟩ := script_count spec template build
  have once : manager.PlacedOnce template.lines (place build) ↔
      ∀ lib ∈ build.listing.keys, ∀ sect, pieces.countP (Piece.places lib sect) = 1 := by
    rw [← spec.objects]
    constructor
    · rintro ⟨others, same, each⟩
      rw [written] at same
      cases same
      exact each
    · exact fun each => ⟨pieces, written, each⟩
  have shared : ∀ lib, build.contains lib = true → 0 < sharers builds lib := fun lib held =>
    countP_pos_iff.mpr ⟨build, member, held⟩
  rw [once]
  constructor
  · intro each snapshot lib held
    have contained := (build.contains_iff lib).mp held
    rcases exists_placedLib member contained with ⟨ukLib, common, rfl⟩ | ⟨ukLib, own, rfl⟩
    · have rodata := each _ contained .rodata
      rw [count, common_count spec build common] at rodata
      refine ⟨?_, (exists_commonLib_iff builds _ (shared _ held)).mp ⟨ukLib, common, rfl⟩⟩
      by_contra loose
      simp [snapshot, loose] at rodata
    have kept : ukLib ∈ ownLibs builds build :=
      mem_filter.mpr ⟨own, by simpa using contained⟩
    have rodata := each _ contained .rodata
    have data := each _ contained .data
    rw [count, own_count spec build kept] at rodata data
    cases compact : flags.compact <;> simp [snapshot, compact] at rodata data
  intro condition lib contained sect
  have held := (build.contains_iff lib).mpr contained
  rw [count]
  rcases exists_placedLib member contained with ⟨ukLib, common, rfl⟩ | ⟨ukLib, own, rfl⟩
  · rw [common_count spec build common, if_neg]
    rintro ⟨snapshot, loose, _⟩
    rw [(condition snapshot _ held).1] at loose
    cases loose
  have kept : ukLib ∈ ownLibs builds build :=
    mem_filter.mpr ⟨own, by simpa using contained⟩
  rw [own_count spec build kept, if_neg]
  rintro ⟨snapshot, _⟩
  obtain ⟨other, common, named⟩ := (exists_commonLib_iff builds _ (shared _ held)).mpr
    (condition snapshot _ held).2
  exact passes_apart common own named

omit spec

end

theorem sections_placed_once_iff (flags : Flags) (ungrouped : flags.groupCommon = false)
  (loc : Nat) (builds : List UkBuild) (template : LinkTemplate) (manager : UkManager)
  (run : align flags loc builds = .ok manager) :
  (∀ uk ∈ manager.uks, manager.PlacedOnce template.lines uk) ↔
    (flags.snapshot = true → ∀ build ∈ builds, ∀ lib, build.contains lib = true →
      flags.compact = true ∧ sharers builds lib = builds.length) := by
  obtain ⟨place, spec⟩ := align_script ungrouped run
  rw [spec.uks]
  simp only [forall_mem_map]
  constructor
  · intro each snapshot build member
    exact (placedOnce_iff spec template member).mp (each build member) snapshot
  intro condition build member
  exact (placedOnce_iff spec template member).mpr fun snapshot => condition snapshot build member

/-- The linker script of the KVM platform, shortened. -/
def kvmTemplate : LinkTemplate where
  head := ["SECTIONS", "\x7b", " . = 0x100000;", " _text = .;", " .text :", " \x7b",
    "  KEEP (*(.data.boot))", "  *(.text.boot)", "  *(.text)", "  *(.text.*)", " \x7d"]
  etext := " _etext = .;"
  before := [" . = ALIGN((1 << 12));", " uk_ctortab_start = .;",
    " .uk_ctortab : \x7b KEEP(*(SORT_BY_NAME(.uk_ctortab[0-9]))) \x7d", " uk_ctortab_end = .;"]
  after := [" . = ALIGN(0x8);", " _ctors = .;", " .preinit_array : \x7b",
    "  KEEP (*(.preinit_array))", " \x7d", " . = ALIGN(0x8);", " .init_array : \x7b",
    "  KEEP (*(.init_array .ctors))", " \x7d", " _ectors = .;",
    " .tdata : \x7b *(.tdata) *(.tdata.*) \x7d", " . = ALIGN((1 << 12));"]
  data := " _data = .;"
  rest := [" .data :", " \x7b", "  *(.data)", "  *(.data.*)", " \x7d", " _edata = .;",
    " __bss_start = .;", " .bss :", " \x7b", "  *(.bss)", "  *(.bss.*)", "  *(COMMON)", " \x7d"]
  head_plain := by decide +kernel
  head_text := by decide +kernel
  etext_mark := by decide +kernel
  before_middle := by decide +kernel
  after_middle := by decide +kernel
  data_mark := by decide +kernel
  rest_plain := by decide +kernel

theorem sections_placed_once_sample :
  ∃ manager, align compactFlags 0x10b000 [⟨"a", bothLibs⟩, ⟨"b", vfsLib⟩] = .ok manager ∧
    ∀ uk ∈ manager.uks, manager.PlacedOnce kvmTemplate.lines uk := by
  obtain ⟨manager, run⟩ : ∃ manager,
      align compactFlags 0x10b000 [⟨"a", bothLibs⟩, ⟨"b", vfsLib⟩] = .ok manager := ⟨_, rfl⟩
  exact ⟨manager, run, (sections_placed_once_iff compactFlags rfl _ _ kvmTemplate manager run).mpr
    fun snapshot => absurd snapshot (by decide)⟩

theorem snapshot_sections_lost :
  ∃ manager, align ⟨false, true, true, false⟩ 0x10b000 [⟨"a", bothLibs⟩, ⟨"b", vfsLib⟩] =
    .ok manager ∧ ∃ uk ∈ manager.uks, ¬manager.PlacedOnce kvmTemplate.lines uk := by
  obtain ⟨manager, run⟩ : ∃ manager, align ⟨false, true, true, false⟩ 0x10b000
      [⟨"a", bothLibs⟩, ⟨"b", vfsLib⟩] = .ok manager := ⟨_, rfl⟩
  obtain ⟨place, spec⟩ := align_script rfl run
  refine ⟨manager, run, place ⟨"a", bothLibs⟩, by simp [spec.uks], fun once => ?_⟩
  have everywhere := (placedOnce_iff spec kvmTemplate mem_cons_self).mp once rfl "libuksched" (by decide)
  exact absurd everywhere.2 (by decide)

end Spacer.Aligner
