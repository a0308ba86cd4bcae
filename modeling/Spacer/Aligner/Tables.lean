import Spacer.Aligner.Core

/-! The library table: every library carries the number of unikernels that contain it. -/

namespace Spacer.Aligner

open Lib List

variable (build : UkBuild) (name : String)

def UkBuild.contains : Bool :=
  decide (name ∈ build.libs.keys)

def sharers (builds : List UkBuild) (name : String) : Nat :=
  builds.countP (UkBuild.contains · name)

theorem UkBuild.mem_listing_keys : name ∈ build.listing.keys ↔ name ∈ build.libs.keys :=
  ((perm_insertionSort _ build.libs.entries).map Prod.fst).mem_iff

theorem UkBuild.contains_iff : build.contains name = true ↔ name ∈ build.listing.keys := by
  rw [build.mem_listing_keys, UkBuild.contains, decide_eq_true_eq]

theorem get?_registerAll (name : String) : (build.listing.entries.foldl registerLib maps).get? name =
    ((build.listing.get? name).map fun sizes => mergeLib name sizes (maps.get? name)).or (maps.get? name) :=
  Dict.get?_foldl_alter mergeLib build.listing.entries build.listing.distinct maps name

structure Counted (builds : List UkBuild) (maps : Dict String UkLib) : Prop where
  named : ∀ name ukLib, maps.get? name = some ukLib → ukLib.name = name
  counted : ∀ name ukLib, maps.get? name = some ukLib → ukLib.occurence = sharers builds name
  positive : ∀ name ukLib, maps.get? name = some ukLib → 0 < ukLib.occurence
  missing : ∀ name, maps.get? name = none → sharers builds name = 0

theorem counted_empty : Counted [] Dict.empty where
  named := by intro name ukLib found; cases found
  counted := by intro name ukLib found; cases found
  positive := by intro name ukLib found; cases found
  missing := by intro name _; rfl

theorem sharers_append (build : UkBuild) (name : String) : sharers (builds ++ [build]) name =
    sharers builds name + if (build.listing.get? name).isSome then 1 else 0 := by
  have listed : build.contains name = (build.listing.get? name).isSome := by
    rw [Bool.eq_iff_iff, build.contains_iff, build.listing.mem_keys_iff, Option.isSome_iff_exists]
  rw [sharers, countP_append, countP_singleton, listed, sharers]

theorem Counted.processBuildFolder (known : Counted builds maps) (build : UkBuild) :
  Counted (builds ++ [build]) (build.listing.entries.foldl registerLib maps) := by
  have stored : ∀ name ukLib, (build.listing.entries.foldl registerLib maps).get? name = some ukLib →
      ukLib.name = name ∧ ukLib.occurence = sharers (builds ++ [build]) name ∧ 0 < ukLib.occurence := by
    intro name ukLib found
    rw [get?_registerAll] at found
    rw [sharers_append]
    cases listed : build.listing.get? name with
    | none =>
      simp only [listed, Option.map_none, Option.none_or] at found
      have counted := known.counted name ukLib found
      simpa [counted] using ⟨known.named name ukLib found, counted ▸ known.positive name ukLib found⟩
    | some sizes =>
      simp only [listed, Option.map_some, Option.some_or, Option.some.injEq] at found
      subst found
      cases old : maps.get? name with
      | none => simp [mergeLib, known.missing name old]
      | some ukLib =>
        simp [mergeLib, UkLib.update, known.named name ukLib old, known.counted name ukLib old]
  refine ⟨fun name ukLib found => (stored name ukLib found).1,
    fun name ukLib found => (stored name ukLib found).2.1,
    fun name ukLib found => (stored name ukLib found).2.2, ?_⟩
  intro name found
  rw [get?_registerAll] at found
  rw [sharers_append]
  cases listed : build.listing.get? name with
  | none =>
    simp only [listed, Option.map_none, Option.none_or] at found
    simp [known.missing name found]
  | some sizes => simp [listed] at found

theorem processFolder_spec (manager : UkManager) : manager.processFolder builds = { manager with
      uks := manager.uks ++ builds.map Unikernel.ofBuild
      globalMaps := builds.foldl
        (fun maps build => build.listing.entries.foldl registerLib maps) manager.globalMaps } := by
  induction builds generalizing manager with
  | nil => simp [UkManager.processFolder]
  | cons build rest ih =>
    have tail := ih (manager.processBuildFolder build)
    simp only [UkManager.processFolder, foldl_cons] at tail ⊢
    rw [tail]
    simp [UkManager.processBuildFolder]

variable (builds : List UkBuild)

def globalMapsOf : Dict String UkLib :=
  builds.foldl (fun maps build => build.listing.entries.foldl registerLib maps) Dict.empty

theorem counted_fold (rest : List UkBuild) : ∀ (builds : List UkBuild) (maps : Dict String UkLib),
  Counted builds maps → Counted (builds ++ rest) (rest.foldl
    (fun maps build => build.listing.entries.foldl registerLib maps) maps) := by
  induction rest with
  | nil =>
    intro builds maps known
    simpa using known
  | cons build rest ih =>
    intro builds maps known
    have tail := ih _ _ (known.processBuildFolder build)
    simpa using tail

theorem counted_globalMapsOf : Counted builds (globalMapsOf builds) := by
  simpa [globalMapsOf] using counted_fold builds [] Dict.empty counted_empty

def classified (flags : Flags) (loc : Nat) (builds : List UkBuild) : UkManager :=
  ({ flags, locCounter := loc : UkManager }.processFolder builds).processMaps

def commonLibs : List UkLib :=
  ((globalMapsOf builds).filter fun entry => entry.2.occurence = builds.length).values

def subsetLibs : List UkLib :=
  (((globalMapsOf builds).filter fun entry =>
    entry.2.occurence ≠ builds.length ∧ 1 < entry.2.occurence).sortBy UkManager.byOccurence).values

def individualLibs : List UkLib :=
  (((globalMapsOf builds).filter fun entry =>
    entry.2.occurence ≠ builds.length ∧ ¬1 < entry.2.occurence).sortBy UkManager.customSortLe).values

variable {builds}

theorem mem_values_filter_iff (known : Counted builds maps) : ukLib ∈ (maps.filter keep).values ↔
    maps.get? ukLib.name = some ukLib ∧ keep (ukLib.name, ukLib) = true := by
  simp only [Dict.values, Dict.filter, mem_map, mem_filter, Dict.get?_eq_some_iff]
  constructor
  · rintro ⟨⟨name, stored⟩, ⟨member, kept⟩, rfl⟩
    have same := known.named name stored ((maps.get?_eq_some_iff name stored).mpr member)
    subst same
    exact ⟨member, kept⟩
  rintro ⟨member, kept⟩
  exact ⟨(ukLib.name, ukLib), ⟨member, kept⟩, rfl⟩

theorem mem_values_sortBy_iff (maps : Dict String UkLib) [DecidableRel before] :
  ukLib ∈ (maps.sortBy before).values ↔ ukLib ∈ maps.values :=
  ((perm_insertionSort before maps.entries).map Prod.snd).mem_iff

variable (builds) (ukLib : UkLib)

theorem mem_commonLibs_iff : ukLib ∈ commonLibs builds ↔
    (globalMapsOf builds).get? ukLib.name = some ukLib ∧ ukLib.occurence = builds.length := by
  rw [commonLibs, mem_values_filter_iff (counted_globalMapsOf builds), decide_eq_true_eq]

theorem mem_subsetLibs_iff : ukLib ∈ subsetLibs builds ↔
    (globalMapsOf builds).get? ukLib.name = some ukLib ∧
      ukLib.occurence ≠ builds.length ∧ 1 < ukLib.occurence := by
  rw [subsetLibs, mem_values_sortBy_iff, mem_values_filter_iff (counted_globalMapsOf builds),
    decide_eq_true_eq]

theorem mem_individualLibs_iff :
  ukLib ∈ individualLibs builds ↔ (globalMapsOf builds).get? ukLib.name = some ukLib ∧
      ukLib.occurence ≠ builds.length ∧ ¬1 < ukLib.occurence := by
  rw [individualLibs, mem_values_sortBy_iff, mem_values_filter_iff (counted_globalMapsOf builds),
    decide_eq_true_eq]

variable {builds}

theorem nodup_names_filter (known : Counted builds maps) :
  ((maps.filter keep).values.map UkLib.name).Nodup := by
  have names : (maps.filter keep).values.map UkLib.name = (maps.filter keep).keys := by
    rw [Dict.values, Dict.keys, map_map]
    refine map_congr_left fun entry member => ?_
    have stored : entry ∈ maps.entries := (mem_filter.mp member).1
    exact known.named entry.1 entry.2 ((maps.get?_eq_some_iff _ _).mpr stored)
  rw [names]
  exact (maps.filter keep).distinct

theorem nodup_names_sortBy (maps : Dict String UkLib) [DecidableRel before]
  (distinct : (maps.values.map UkLib.name).Nodup) : ((maps.sortBy before).values.map UkLib.name).Nodup :=
  (((perm_insertionSort before maps.entries).map Prod.snd).map UkLib.name).nodup_iff.mpr distinct

theorem nodup_names_passes (builds : List UkBuild) :
  ((commonLibs builds ++ (subsetLibs builds ++ individualLibs builds)).map UkLib.name).Nodup := by
  have known := counted_globalMapsOf builds
  have apart : ∀ {left right : UkLib}, (globalMapsOf builds).get? left.name = some left →
      (globalMapsOf builds).get? right.name = some right → left.name = right.name →
      left.occurence = right.occurence := by
    intro left right leftStored rightStored same
    rw [same, rightStored] at leftStored
    rw [Option.some.inj leftStored]
  simp only [map_append, nodup_append, mem_append, mem_map]
  refine ⟨nodup_names_filter known, ⟨nodup_names_sortBy _ (nodup_names_filter known),
    nodup_names_sortBy _ (nodup_names_filter known), ?_⟩, ?_⟩
  · rintro _ ⟨left, leftMem, rfl⟩ _ ⟨right, rightMem, rfl⟩ same
    rw [mem_subsetLibs_iff] at leftMem
    rw [mem_individualLibs_iff] at rightMem
    have equal := apart leftMem.1 rightMem.1 same
    exact rightMem.2.2 (equal ▸ leftMem.2.2)
  rintro _ ⟨left, leftMem, rfl⟩ _ (⟨right, rightMem, rfl⟩ | ⟨right, rightMem, rfl⟩) same
  · rw [mem_commonLibs_iff] at leftMem
    rw [mem_subsetLibs_iff] at rightMem
    exact rightMem.2.1 ((apart leftMem.1 rightMem.1 same).symm.trans leftMem.2)
  rw [mem_commonLibs_iff] at leftMem
  rw [mem_individualLibs_iff] at rightMem
  exact rightMem.2.1 ((apart leftMem.1 rightMem.1 same).symm.trans leftMem.2)

theorem exists_commonLib_iff (builds : List UkBuild) (lib : String) (shared : 0 < sharers builds lib) :
  (∃ ukLib ∈ commonLibs builds, ukLib.name = lib) ↔ sharers builds lib = builds.length := by
  have known := counted_globalMapsOf builds
  simp only [mem_commonLibs_iff]
  constructor
  · rintro ⟨ukLib, ⟨found, everywhere⟩, rfl⟩
    rw [← known.counted _ ukLib found, everywhere]
  intro everywhere
  cases found : (globalMapsOf builds).get? lib with
  | none => have := known.missing lib found; omega
  | some ukLib =>
    have named := known.named lib ukLib found
    subst named
    exact ⟨ukLib, ⟨found, (known.counted _ ukLib found).trans everywhere⟩, rfl⟩

variable {build}

theorem exists_placedLib (member : build ∈ builds) (contained : lib ∈ build.listing.keys) :
  (∃ ukLib ∈ commonLibs builds, ukLib.name = lib) ∨
    ∃ ukLib ∈ subsetLibs builds ++ individualLibs builds, ukLib.name = lib := by
  have known := counted_globalMapsOf builds
  have shared : 0 < sharers builds lib :=
    countP_pos_iff.mpr ⟨build, member, (build.contains_iff lib).mpr contained⟩
  cases found : (globalMapsOf builds).get? lib with
  | none =>
    have := known.missing lib found
    omega
  | some ukLib =>
    have named := known.named lib ukLib found
    subst named
    by_cases everywhere : ukLib.occurence = builds.length
    · exact .inl ⟨ukLib, (mem_commonLibs_iff builds ukLib).mpr ⟨found, everywhere⟩, rfl⟩
    refine .inr ⟨ukLib, mem_append.mpr ?_, rfl⟩
    by_cases several : 1 < ukLib.occurence
    · exact .inl ((mem_subsetLibs_iff builds ukLib).mpr ⟨found, everywhere, several⟩)
    · exact .inr ((mem_individualLibs_iff builds ukLib).mpr ⟨found, everywhere, several⟩)

end Spacer.Aligner
