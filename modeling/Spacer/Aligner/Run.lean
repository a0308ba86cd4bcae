import Spacer.Aligner.Tables
import Spacer.Aligner.Placement

/-!
A whole run of the aligner in compact mode without snapshot and grouping: when it
goes through, and every address it hands out as a function of the builds.
-/

namespace Spacer.Aligner

open Lib List

theorem totalSize_ofBuild (build : UkBuild) :
  (Unikernel.ofBuild build).totalSize = none ↔ build.libs.entries = [] := by
  have folded : ∀ (entries : List (String × SectSizes)) (total : Option SectSizes),
      entries.foldl incrementSect total = none ↔ total = none ∧ entries = [] := by
    intro entries
    induction entries with
    | nil => intro total; simp
    | cons entry rest ih =>
      intro total
      rw [foldl_cons, ih]
      cases total <;> simp [incrementSect]
  have sorted : build.listing.entries.Perm build.libs.entries :=
    perm_insertionSort _ build.libs.entries
  rw [Unikernel.ofBuild, folded]
  simp only [true_and]
  constructor
  · intro absent
    rw [absent] at sorted
    exact sorted.nil_eq.symm
  intro absent
  rw [absent] at sorted
  exact sorted.eq_nil

section

variable (flags : Flags) (loc : Nat) (builds : List UkBuild)

def ctorsEnd : Nat := loc + pageSize + pageSize + pageSize

def objectNames : List (List String) := builds.map fun build => build.listing.keys

def subsetStart : Nat := roundToN (commonEnd (ctorsEnd loc) (commonLibs builds)) pageSize

def subsetEnd : Nat :=
  passEnd (objectNames builds) (commonEnd (ctorsEnd loc) (commonLibs builds)) (subsetLibs builds)

def individualStart : Nat := roundToN (subsetEnd loc builds) pageSize

def individualEnd : Nat :=
  passEnd (objectNames builds) (subsetEnd loc builds) (individualLibs builds)

def dataStart : Nat := roundToN (individualEnd loc builds) pageSize

def ownSizes (sect : SectName) : List Nat :=
  builds.map fun build => (Unikernel.ofBuild build).sizeOf sect

def windowOf (sect : SectName) : Nat := roundToN (largest (ownSizes builds sect)) pageSize

def bssStart : Nat :=
  dataStart loc builds + windowOf builds .data + UkManager.windowGap flags .bss

def intrstackStart : Nat :=
  roundToN (bssStart flags loc builds + windowOf builds .bss) pageSize

end

structure CompactRun (flags : Flags) (loc : Nat) (builds : List UkBuild) (manager : UkManager)
  (place : UkBuild → Unikernel) : Prop where
  uks : manager.uks = builds.map place
  commonToAll : manager.commonToAll.values = commonLibs builds
  commonSubset : manager.commonSubset.values = subsetLibs builds
  indivial : manager.indivial.values = individualLibs builds
  name : ∀ build, (place build).name = build.name
  objects : ∀ build, (place build).objects = build.listing.keys
  totalSize : ∀ build, (place build).totalSize = (Unikernel.ofBuild build).totalSize
  scripts : ∀ build, manager.libraryItems (place build) = commonItems (ctorsEnd loc) (commonLibs builds) ++
    compactItems flags.dce build.listing.keys (subsetStart loc builds) (subsetLibs builds) ++
    compactItems flags.dce build.listing.keys (individualStart loc builds) (individualLibs builds)
  ctors : manager.locSect.get? "_ctors" = some loc
  initArray : manager.locSect.get? ".init_array" = some (loc + pageSize)
  ectors : manager.locSect.get? "_ectors" = some (loc + pageSize + pageSize)
  data : manager.locSect.get? ".data" = some (dataStart loc builds)
  bss : manager.locSect.get? ".bss" = some (bssStart flags loc builds)
  intrstack : manager.locSect.get? ".intrstack" = some (intrstackStart flags loc builds)

section

variable (manager : UkManager)

def UkManager.commonLoc : Nat :=
  commonEnd (ctorsEnd manager.locCounter) manager.commonToAll.values

def UkManager.sortedSubset : Dict String UkLib :=
  manager.commonSubset.sortBy UkManager.byOccurence

def UkManager.subsetLoc : Nat :=
  passEnd (manager.uks.map Unikernel.objects) manager.commonLoc manager.sortedSubset.values

def UkManager.individualLoc : Nat :=
  passEnd (manager.uks.map Unikernel.objects) manager.subsetLoc manager.indivial.values

def UkManager.withLibraries (place : Unikernel → Unikernel) : UkManager :=
  { manager with
    uks := manager.uks.map place
    locCounter := roundToN manager.individualLoc pageSize
    commonSubset := manager.sortedSubset
    sbLinkCommon := commonItems (ctorsEnd manager.locCounter) manager.commonToAll.values
    locSect := ((manager.locSect.set "_ctors" manager.locCounter).set ".init_array"
      (manager.locCounter + pageSize)).set "_ectors" (manager.locCounter + pageSize + pageSize) }

structure UkManager.Places (uk placed : Unikernel) : Prop where
  name : placed.name = uk.name
  objects : placed.objects = uk.objects
  totalSize : placed.totalSize = uk.totalSize
  subset : placed.link "subset" = uk.link "subset" ++ compactItems manager.flags.dce uk.objects
    (roundToN manager.commonLoc pageSize) manager.sortedSubset.values
  individual : placed.link "individual" = uk.link "individual" ++
    compactItems manager.flags.dce uk.objects (roundToN manager.subsetLoc pageSize) manager.indivial.values

end

theorem updateLinkFileSpacer_ok_iff (manager : UkManager) (mode : manager.flags.CompactOnly)
  (nonempty : manager.uks ≠ []) :
  ∃ place : Unikernel → Unikernel, (∀ uk, manager.Places uk (place uk)) ∧
    ∀ after, manager.updateLinkFileSpacer = .ok after ↔ (∀ uk ∈ manager.uks, uk.totalSize ≠ none) ∧
        after = (manager.withLibraries place).withWindows.placeIntrstack := by
  let reserved := ["_ctors", ".init_array", "_ectors"].foldl
    (fun manager name => UkManager.reserve manager name pageSize) manager
  let commonDone : UkManager :=
    { reserved with
      locCounter := commonEnd reserved.locCounter reserved.commonToAll.values
      sbLinkCommon := commonItems reserved.locCounter reserved.commonToAll.values
      commonSubset := reserved.commonSubset.sortBy UkManager.byOccurence }
  obtain ⟨placeSubset, subsetRun, subsetSpec⟩ := computeLoc_compact commonDone
    commonDone.commonSubset "subset" mode nonempty
  let subsetDone : UkManager :=
    { commonDone with
      uks := commonDone.uks.map placeSubset
      locCounter := passEnd (commonDone.uks.map Unikernel.objects) commonDone.locCounter
        commonDone.commonSubset.values }
  have subsetUks : subsetDone.uks ≠ [] := map_eq_nil_iff.not.mpr nonempty
  have subsetObjects : subsetDone.uks.map Unikernel.objects = manager.uks.map Unikernel.objects := by
    rw [map_map]
    exact map_congr_left fun uk _ => (subsetSpec uk).1.objects
  obtain ⟨placeLast, lastRun, lastSpec⟩ := computeLoc_compact subsetDone
    subsetDone.indivial "individual" mode subsetUks
  rw [subsetObjects] at lastRun
  let lastDone : UkManager :=
    { subsetDone with
      uks := subsetDone.uks.map placeLast
      locCounter := passEnd (manager.uks.map Unikernel.objects) subsetDone.locCounter
        subsetDone.indivial.values }
  have placed : lastDone.roundLoc = manager.withLibraries (placeLast ∘ placeSubset) := by
    have both : lastDone.uks = manager.uks.map (placeLast ∘ placeSubset) := map_map
    rw [UkManager.withLibraries, ← both]
    rfl
  have places : ∀ uk, manager.Places uk ((placeLast ∘ placeSubset) uk) := by
    intro uk
    obtain ⟨subsetSame, subsetText⟩ := subsetSpec uk
    obtain ⟨lastSame, lastText⟩ := lastSpec (placeSubset uk)
    rw [subsetSame.objects, subsetSame.links "individual" (by decide)] at lastText
    exact ⟨lastSame.name.trans subsetSame.name, lastSame.objects.trans subsetSame.objects,
      lastSame.totalSize.trans subsetSame.totalSize,
      (lastSame.links "subset" (by decide)).trans subsetText, lastText⟩
  have unfolded : manager.updateLinkFileSpacer =
      ((manager.withLibraries (placeLast ∘ placeSubset)).placeWindows >>= fun windows =>
        pure windows.placeIntrstack) := by
    rw [← placed]
    simp only [UkManager.updateLinkFileSpacer]
    change (reserved.processCommonToAll >>= _) = _
    rw [bind_of_ok (processCommonToAll_compact reserved mode)]
    change (commonDone.computeLoc commonDone.commonSubset "subset" >>= _) = _
    rw [bind_of_ok subsetRun]
    change (subsetDone.computeLoc subsetDone.indivial "individual" >>= _) = _
    rw [bind_of_ok lastRun]
  have sizedIff : (∀ uk ∈ (manager.withLibraries (placeLast ∘ placeSubset)).uks,
      uk.totalSize ≠ none) ↔ ∀ uk ∈ manager.uks, uk.totalSize ≠ none := by
    simp only [UkManager.withLibraries, forall_mem_map]
    refine forall_congr' fun uk => imp_congr_right fun _ => ?_
    rw [(places uk).totalSize]
  have windows := placeWindows_ok_iff (manager.withLibraries (placeLast ∘ placeSubset)) mode
    (map_eq_nil_iff.not.mpr nonempty)
  refine ⟨placeLast ∘ placeSubset, places, fun after => ?_⟩
  rw [unfolded]
  constructor
  · intro finished
    obtain ⟨windowed, windowsRun, done⟩ := ok_of_bind finished
    obtain ⟨sized, rfl⟩ := (windows windowed).mp windowsRun
    exact ⟨sizedIff.mp sized, (Except.ok.inj done).symm⟩
  rintro ⟨sized, rfl⟩
  rw [bind_of_ok ((windows _).mpr ⟨sizedIff.mpr sized, rfl⟩)]
  rfl

theorem windowSize_withLibraries {manager : UkManager} (places : ∀ uk, manager.Places uk (place uk))
  : (manager.withLibraries place).windowSize sect = manager.windowSize sect := by
  have sizes : (manager.withLibraries place).uks.map (fun uk => uk.sizeOf sect) =
      manager.uks.map fun uk => uk.sizeOf sect := by
    rw [UkManager.withLibraries, map_map]
    refine map_congr_left fun uk _ => ?_
    simp only [Function.comp, Unikernel.sizeOf, (places uk).totalSize]
  rw [UkManager.windowSize, sizes, UkManager.windowSize]

theorem classified_spec (flags : Flags) (loc : Nat) (builds : List UkBuild) :
  (classified flags loc builds).flags = flags ∧
  (classified flags loc builds).locCounter = loc ∧
  (classified flags loc builds).uks = builds.map Unikernel.ofBuild ∧
  (classified flags loc builds).locSect = Dict.empty ∧
  (classified flags loc builds).commonToAll.values = commonLibs builds ∧
  ((classified flags loc builds).commonSubset.sortBy UkManager.byOccurence).values = subsetLibs builds ∧
  (classified flags loc builds).indivial.values = individualLibs builds := by
  rw [classified, processFolder_spec]
  simp [UkManager.processMaps, commonLibs, subsetLibs, individualLibs, globalMapsOf]

theorem align_compact (flags : Flags) (mode : flags.CompactOnly) (loc : Nat)
  (builds : List UkBuild) (nonempty : builds ≠ []) :
  ((∃ manager, align flags loc builds = .ok manager) ↔ ∀ build ∈ builds, build.libs.entries ≠ []) ∧
  ∀ manager, align flags loc builds = .ok manager → ∃ place, CompactRun flags loc builds manager place := by
  obtain ⟨sameFlags, sameLoc, sameUks, sameSect, sameCommon, sameSubset,
    sameIndividual⟩ := classified_spec flags loc builds
  obtain ⟨place, places, finished⟩ :=
    updateLinkFileSpacer_ok_iff (classified flags loc builds) (by rw [sameFlags]; exact mode)
      (by rw [sameUks]; exact map_eq_nil_iff.not.mpr nonempty)
  have sizedIff : (∀ uk ∈ (classified flags loc builds).uks, uk.totalSize ≠ none) ↔
      ∀ build ∈ builds, build.libs.entries ≠ [] := by
    rw [sameUks]
    simp only [forall_mem_map]
    exact forall_congr' fun build => imp_congr_right fun _ => (totalSize_ofBuild build).not
  refine ⟨⟨?_, ?_⟩, ?_⟩
  · rintro ⟨manager, run⟩
    exact sizedIff.mp ((finished manager).mp run).1
  · intro filled
    exact ⟨_, (finished _).mpr ⟨sizedIff.mpr filled, rfl⟩⟩
  intro manager run
  obtain ⟨_, rfl⟩ := (finished manager).mp run
  have names : (classified flags loc builds).uks.map Unikernel.objects = objectNames builds := by
    rw [sameUks, map_map]
    rfl
  have commonLoc : (classified flags loc builds).commonLoc =
      commonEnd (ctorsEnd loc) (commonLibs builds) := by
    rw [UkManager.commonLoc, sameLoc, sameCommon]
  have subsetLoc : (classified flags loc builds).subsetLoc = subsetEnd loc builds := by
    rw [UkManager.subsetLoc, names, commonLoc, UkManager.sortedSubset, sameSubset, subsetEnd]
  have individualLoc : (classified flags loc builds).individualLoc = individualEnd loc builds := by
    rw [UkManager.individualLoc, names, subsetLoc, sameIndividual, individualEnd]
  have windowSizes : ∀ sect, ((classified flags loc builds).withLibraries place).windowSize sect =
      windowOf builds sect := by
    intro sect
    rw [windowSize_withLibraries places, UkManager.windowSize, sameUks, map_map]
    rfl
  have dataLoc : ((classified flags loc builds).withLibraries place).locCounter = dataStart loc builds := by
    rw [dataStart, ← individualLoc]
    rfl
  have bssLoc : ((classified flags loc builds).withLibraries place).bssLoc = bssStart flags loc builds := by
    rw [UkManager.bssLoc, dataLoc, windowSizes, bssStart]
    exact congrArg (fun flags => _ + UkManager.windowGap flags .bss) sameFlags
  have sections := locSect_withWindows ((classified flags loc builds).withLibraries place)
  rw [dataLoc, bssLoc, windowSizes, UkManager.withLibraries, sameLoc, sameSect] at sections
  refine ⟨fun build => place (Unikernel.ofBuild build), ?_⟩
  constructor
  case uks =>
    change (classified flags loc builds).uks.map place = _
    rw [sameUks, map_map]
    rfl
  case commonToAll => exact sameCommon
  case commonSubset => exact sameSubset
  case indivial => exact sameIndividual
  case name =>
    intro build
    exact (places _).name
  case objects =>
    intro build
    exact (places _).objects
  case totalSize =>
    intro build
    exact (places _).totalSize
  case scripts =>
    intro build
    have spec := places (Unikernel.ofBuild build)
    change commonItems (ctorsEnd (classified flags loc builds).locCounter) _ ++ _ ++ _ = _
    rw [spec.subset, spec.individual, sameLoc, sameCommon, sameFlags, commonLoc, subsetLoc,
      UkManager.sortedSubset, sameSubset, sameIndividual]
    rfl
  all_goals
    rw [UkManager.withLibraries, sameLoc, sameSect, sections]
    rfl

theorem align_nonempty (mode : flags.CompactOnly) (run : align flags loc builds = .ok manager) :
  builds ≠ [] := by
  rintro rfl
  obtain ⟨dce, compact, snapshot, groupCommon⟩ := flags
  obtain ⟨rfl, rfl, rfl⟩ := mode
  cases dce <;> cases run

def compactFlags : Flags := ⟨false, true, false, false⟩

theorem compactFlags_mode : compactFlags.CompactOnly := ⟨rfl, rfl, rfl⟩

def bothLibs : Dict String SectSizes :=
  ⟨[("libvfscore", ⟨0x1800, 0x20, 8, 8⟩), ("libuksched", ⟨0x300, 0, 0, 0⟩)], by decide⟩

def schedLib : Dict String SectSizes := ⟨[("libuksched", ⟨0x300, 0, 0, 0⟩)], by decide⟩

def vfsLib : Dict String SectSizes := ⟨[("libvfscore", ⟨0x1800, 0x20, 8, 8⟩)], by decide⟩

def appLib : Dict String SectSizes := ⟨[("apphello", ⟨0x40, 0, 0, 0⟩)], by decide⟩

end Spacer.Aligner
