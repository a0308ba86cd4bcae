import Spacer.Aligner.Run

/-! The address ranges of a unikernel's link script. -/

namespace Spacer.Aligner

open Lib List

variable (manager : UkManager) (uk : Unikernel)

def UkManager.placedLibs : List UkLib :=
  manager.commonToAll.values ++ (manager.commonSubset.values ++ manager.indivial.values).filter fun ukLib =>
      ukLib.name ∈ uk.objects

def UkManager.sectRange (name : String) (size : Nat) : Option Range :=
  (manager.locSect.get? name).map fun start => ⟨start, size⟩

def libRange (items : List ScriptItem) (ukLib : UkLib) : Option Range :=
  (startAddress items ukLib.name).map fun start => ⟨start, compactSize ukLib⟩

/-- The ranges of a link script in the order of the addresses they should have.
The interrupt stack has no recorded size; only its start counts. -/
def UkManager.linkRanges : List (Option Range) :=
  [manager.sectRange "_ctors" pageSize, manager.sectRange ".init_array" pageSize,
    manager.sectRange "_ectors" pageSize] ++
  (manager.placedLibs uk).map (libRange (manager.libraryItems uk)) ++
  [manager.sectRange ".data" (uk.sizeOf .data), manager.sectRange ".bss" (uk.sizeOf .bss),
    manager.sectRange ".intrstack" 0]

def UkManager.LaidOut : Prop :=
  ∃ ranges : List Range, manager.linkRanges uk = ranges.map some ∧
    (ranges.Pairwise fun left right => left.finish ≤ right.start) ∧
    ∀ range ∈ ranges, pageSize ∣ range.start

theorem le_roundToN (x : Nat) : x ≤ roundToN x pageSize := le_roundUp (by decide) x

def commonRanges : Nat → List UkLib → List Range
  | _, [] => []
  | loc, ukLib :: rest =>
    ⟨loc, compactSize ukLib⟩ :: commonRanges (roundToN (loc + compactSize ukLib) pageSize) rest

def compactRanges (objects : List String) : Nat → List UkLib → List Range
  | _, [] => []
  | loc, ukLib :: rest =>
    if ukLib.name ∈ objects then
      ⟨roundToN loc pageSize, compactSize ukLib⟩ ::
        compactRanges objects (roundToN loc pageSize + compactSize ukLib) rest
    else compactRanges objects loc rest

theorem laid_commonRanges (loc : Nat) (libs : List UkLib) :
  Laid loc (commonRanges loc libs) (commonEnd loc libs) := by
  induction libs generalizing loc with
  | nil => exact Nat.le_refl loc
  | cons ukLib rest ih =>
    refine ⟨Nat.le_refl loc, ?_⟩
    have gap : Laid (loc + compactSize ukLib) []
      (roundToN (loc + compactSize ukLib) pageSize) := le_roundToN _
    exact gap.append (ih _)

theorem aligned_commonRanges (aligned : pageSize ∣ loc) :
  ∀ range ∈ commonRanges loc libs, pageSize ∣ range.start := by
  induction libs generalizing loc with
  | nil => simp [commonRanges]
  | cons ukLib rest ih =>
    simp only [commonRanges, mem_cons, forall_eq_or_imp]
    exact ⟨aligned, ih (dvd_roundToN _)⟩

theorem laid_compactRanges (objects : List String) (loc : Nat) (libs : List UkLib) :
  Laid loc (compactRanges objects loc libs) (compactEnd objects loc libs) := by
  induction libs generalizing loc with
  | nil => exact Nat.le_refl loc
  | cons ukLib rest ih =>
    by_cases member : ukLib.name ∈ objects
    · rw [compactRanges, compactEnd, if_pos member, if_pos member]
      exact ⟨le_roundToN loc, ih _⟩
    rw [compactRanges, compactEnd, if_neg member, if_neg member]
    exact ih loc

theorem aligned_compactRanges (loc : Nat) :
  ∀ range ∈ compactRanges objects loc libs, pageSize ∣ range.start := by
  induction libs generalizing loc with
  | nil => simp [compactRanges]
  | cons ukLib rest ih =>
    by_cases member : ukLib.name ∈ objects
    · simp only [compactRanges, if_pos member, mem_cons, forall_eq_or_imp]
      exact ⟨dvd_roundToN loc, ih _⟩
    simp only [compactRanges, if_neg member]
    exact ih loc

theorem compactEnd_le_passEnd (member : names ∈ objects) (loc : Nat) (libs : List UkLib) :
  compactEnd names (roundToN loc pageSize) libs ≤ roundToN (passEnd objects loc libs) pageSize := by
  by_cases empty : libs = []
  · subst empty
    exact Nat.le_refl _
  rw [passEnd, if_neg empty]
  refine Nat.le_trans ?_ (le_roundToN _)
  exact le_largest (mem_map_of_mem member)

theorem laid_pass (member : names ∈ objects) (libs : List UkLib) :
  Laid (roundToN loc pageSize) (compactRanges names (roundToN loc pageSize) libs)
    (roundToN (passEnd objects loc libs) pageSize) :=
  (laid_compactRanges names _ libs).widen (compactEnd_le_passEnd member loc libs)

/-! The addresses of the link script are those of the ranges: a library's name
occurs once among the libraries of the three passes. -/

theorem startAddress_skip (other : item.start? lib = none) :
  startAddress (item :: items) lib = startAddress items lib := by
  rw [startAddress, findSome?_cons, other]
  rfl

theorem libRanges_commonItems (loc : Nat) (distinct : (libs.map UkLib.name).Nodup) :
  libs.map (libRange (commonItems loc libs)) = (commonRanges loc libs).map some := by
  induction libs generalizing loc with
  | nil => rfl
  | cons ukLib rest ih =>
    simp only [map_cons, nodup_cons] at distinct
    have first : libRange (commonItems loc (ukLib :: rest)) ukLib =
        some ⟨loc, compactSize ukLib⟩ := by
      simp [libRange, commonItems, startAddress, commonEntry, ScriptItem.start?]
    have later : ∀ other ∈ rest, libRange (commonItems loc (ukLib :: rest)) other =
        libRange (commonItems (roundToN (loc + compactSize ukLib) pageSize) rest) other := by
      intro other member
      have differs : ukLib.name ≠ other.name := fun same =>
        distinct.1 (same ▸ mem_map_of_mem member)
      rw [libRange, libRange, commonItems, startAddress_skip]
      simp [commonEntry, ScriptItem.start?, differs]
    rw [map_cons, first, map_congr_left later, ih _ distinct.2]
    rfl

theorem libRanges_compactItems (loc : Nat) (distinct : (libs.map UkLib.name).Nodup) :
  (libs.filter fun ukLib => ukLib.name ∈ objects).map (libRange (compactItems dce objects loc libs)) =
    (compactRanges objects loc libs).map some := by
  induction libs generalizing loc with
  | nil => rfl
  | cons ukLib rest ih =>
    simp only [map_cons, nodup_cons] at distinct
    by_cases member : ukLib.name ∈ objects
    · have first : libRange (compactItems dce objects loc (ukLib :: rest)) ukLib =
          some ⟨roundToN loc pageSize, compactSize ukLib⟩ := by
        rw [libRange, compactItems, if_pos member, startAddress, findSome?_cons,
          start?_textItem, if_pos rfl]
        rfl
      have later : ∀ other ∈ rest.filter fun ukLib => ukLib.name ∈ objects,
          libRange (compactItems dce objects loc (ukLib :: rest)) other =
            libRange (compactItems dce objects (roundToN loc pageSize + compactSize ukLib) rest)
              other := by
        intro other kept
        have differs : ukLib.name ≠ other.name := fun same =>
          distinct.1 (same ▸ mem_map_of_mem (mem_filter.mp kept).1)
        rw [libRange, libRange, compactItems, if_pos member, startAddress_skip]
        rw [start?_textItem, if_neg differs]
      rw [filter_cons_of_pos (by simpa using member), map_cons, first,
        map_congr_left later, ih _ distinct.2, compactRanges, if_pos member]
      rfl
    rw [filter_cons_of_neg (by simpa using member), compactItems, compactRanges,
      if_neg member, if_neg member]
    exact ih loc distinct.2

theorem startAddress_compactItems_none (dce : Bool) (loc : Nat) (absent : ∀ ukLib ∈ libs, ukLib.name ≠ lib) :
  startAddress (compactItems dce objects loc libs) lib = none := by
  induction libs generalizing loc with
  | nil => rfl
  | cons ukLib rest ih =>
    have others : ∀ other ∈ rest, other.name ≠ lib := fun other member =>
      absent other (mem_cons_of_mem _ member)
    rw [compactItems]
    split
    · rw [startAddress_skip]
      · exact ih _ others
      · rw [start?_textItem, if_neg (absent ukLib (by simp))]
    · exact ih _ others

theorem libRange_append :
  libRange (left ++ right) ukLib = (libRange left ukLib).or (libRange right ukLib) := by
  rw [libRange, startAddress_append, libRange, libRange]
  cases startAddress left ukLib.name <;> rfl

theorem libRanges_front {libs : List UkLib} {ranges : List Range}
  (found : libs.map (libRange items) = ranges.map some) :
  libs.map (libRange (items ++ others)) = ranges.map some := by
  rw [← found]
  refine map_congr_left fun ukLib member => ?_
  have placed : libRange items ukLib ∈ ranges.map some := found ▸ mem_map_of_mem member
  obtain ⟨range, _, same⟩ := mem_map.mp placed
  rw [libRange_append, ← same, Option.some_or]

theorem libRanges_behind {libs : List UkLib} (absent : ∀ ukLib ∈ libs, startAddress items ukLib.name = none) :
  libs.map (libRange (items ++ others)) = libs.map (libRange others) := by
  refine map_congr_left fun ukLib member => ?_
  have skipped : libRange items ukLib = none := by rw [libRange, absent ukLib member]; rfl
  rw [libRange_append, skipped, Option.none_or]

def libRangesOf (loc : Nat) (builds : List UkBuild) (build : UkBuild) : List Range :=
  commonRanges (ctorsEnd loc) (commonLibs builds) ++
    (compactRanges build.listing.keys (subsetStart loc builds) (subsetLibs builds) ++
    compactRanges build.listing.keys (individualStart loc builds) (individualLibs builds))

variable {manager}

theorem placedLibs_ranges {loc : Nat} (spec : CompactRun flags loc builds manager place) :
  (manager.placedLibs (place build)).map (libRange (manager.libraryItems (place build))) =
    (libRangesOf loc builds build).map some := by
  have distinct := nodup_names_passes builds
  simp only [map_append, nodup_append, mem_append, mem_map] at distinct
  obtain ⟨commonDistinct, ⟨subsetDistinct, individualDistinct, subsetApart⟩, commonApart⟩ :=
    distinct
  have notCommon : ∀ ukLib, ukLib ∈ subsetLibs builds ∨ ukLib ∈ individualLibs builds →
      startAddress (commonItems (ctorsEnd loc) (commonLibs builds)) ukLib.name = none := by
    intro ukLib later
    refine startAddress_commonItems_none _ _ fun other member same => ?_
    refine commonApart _ ⟨other, member, rfl⟩ _ ?_ same
    rcases later with inSubset | inIndividual
    · exact .inl ⟨ukLib, inSubset, rfl⟩
    · exact .inr ⟨ukLib, inIndividual, rfl⟩
  have notSubset : ∀ ukLib ∈ individualLibs builds,
      startAddress (compactItems flags.dce build.listing.keys (subsetStart loc builds)
        (subsetLibs builds)) ukLib.name = none := by
    intro ukLib inIndividual
    refine startAddress_compactItems_none _ _ fun other member same => ?_
    exact subsetApart _ ⟨other, member, rfl⟩ _ ⟨ukLib, inIndividual, rfl⟩ same
  rw [spec.scripts, append_assoc, UkManager.placedLibs, spec.commonToAll, spec.commonSubset,
    spec.indivial, spec.objects, filter_append, map_append, map_append,
    libRangesOf, map_append, map_append]
  congr 1
  · exact libRanges_front (libRanges_commonItems _ commonDistinct)
  congr 1
  · rw [libRanges_behind fun ukLib kept => notCommon ukLib (.inl (mem_filter.mp kept).1)]
    exact libRanges_front (libRanges_compactItems _ subsetDistinct)
  rw [libRanges_behind fun ukLib kept => notCommon ukLib (.inr (mem_filter.mp kept).1),
    libRanges_behind fun ukLib kept => notSubset ukLib (mem_filter.mp kept).1]
  exact libRanges_compactItems _ individualDistinct

theorem laid_libRanges (loc : Nat) (member : build ∈ builds) :
  Laid (ctorsEnd loc) (libRangesOf loc builds build) (dataStart loc builds) := by
  have names : build.listing.keys ∈ objectNames builds := mem_map_of_mem member
  have common := (laid_commonRanges (ctorsEnd loc) (commonLibs builds)).widen (le_roundToN _)
  exact common.append ((laid_pass names (subsetLibs builds)).append
    (laid_pass names (individualLibs builds)))

theorem CompactRun.laidOut (spec : CompactRun flags loc builds manager place)
  (aligned : pageSize ∣ loc) (member : build ∈ builds) : manager.LaidOut (place build) := by
  have windowFits : ∀ sect, (place build).sizeOf sect ≤ windowOf builds sect := by
    intro sect
    have own : (place build).sizeOf sect = (Unikernel.ofBuild build).sizeOf sect := by
      rw [Unikernel.sizeOf, spec.totalSize, Unikernel.sizeOf]
    have bounded : (place build).sizeOf sect ≤ largest (ownSizes builds sect) :=
      own ▸ le_largest (mem_map.mpr ⟨build, member, rfl⟩)
    exact Nat.le_trans bounded (le_roundToN _)
  have bssAligned : pageSize ∣ bssStart flags loc builds :=
    Nat.dvd_add (Nat.dvd_add (dvd_roundToN _) (dvd_roundToN _)) (dvd_windowGap flags .bss)
  let ctors : List Range := [⟨loc, pageSize⟩, ⟨loc + pageSize, pageSize⟩,
    ⟨loc + pageSize + pageSize, pageSize⟩]
  let windows : List Range := [⟨dataStart loc builds, (place build).sizeOf .data⟩,
    ⟨bssStart flags loc builds, (place build).sizeOf .bss⟩,
    ⟨intrstackStart flags loc builds, 0⟩]
  refine ⟨ctors ++ libRangesOf loc builds build ++ windows, ?_, ?_, ?_⟩
  · simp only [UkManager.linkRanges, UkManager.sectRange, spec.ctors, spec.initArray, spec.ectors,
      spec.data, spec.bss, spec.intrstack, placedLibs_ranges spec, map_append]
    rfl
  · have ctorsLaid : Laid loc ctors (ctorsEnd loc) :=
      ⟨Nat.le_refl _, Nat.le_refl _, Nat.le_refl _, Nat.le_refl _⟩
    have windowsLaid : Laid (dataStart loc builds) windows (intrstackStart flags loc builds) := by
      have dataFits := windowFits .data
      have bssFits := windowFits .bss
      have rounded := le_roundToN (bssStart flags loc builds + windowOf builds .bss)
      refine ⟨Nat.le_refl _, ?_, ?_, Nat.le_refl _⟩
      · simp only [Range.finish, bssStart]
        omega
      simp only [Range.finish, intrstackStart]
      omega
    exact ((ctorsLaid.append (laid_libRanges loc member)).append windowsLaid).pairwise
  have second : pageSize ∣ loc + pageSize := Nat.dvd_add aligned (Nat.dvd_refl _)
  have third : pageSize ∣ loc + pageSize + pageSize := Nat.dvd_add second (Nat.dvd_refl _)
  simp only [ctors, windows, libRangesOf, forall_mem_append, forall_mem_cons,
    not_mem_nil, false_implies, implies_true, and_true]
  exact ⟨⟨⟨aligned, second, third⟩, aligned_commonRanges (Nat.dvd_add third (Nat.dvd_refl _)),
    aligned_compactRanges _, aligned_compactRanges _⟩,
    dvd_roundToN _, bssAligned, dvd_roundToN _⟩

end Spacer.Aligner
