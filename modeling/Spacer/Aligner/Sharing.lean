import Spacer.Aligner.Run

/-!
Where shared libraries end up: the common ones in one place for all unikernels, those of a
proper subset after the subset libraries that their own unikernel contains.
-/

namespace Spacer.Aligner

open Lib List

variable (builds : List UkBuild) (lib : String)

theorem exists_subsetLib (shared : 2 ≤ sharers builds lib) (partly : sharers builds lib ≠ builds.length) :
  ∃ ukLib ∈ subsetLibs builds, ukLib.name = lib := by
  have known := counted_globalMapsOf builds
  cases found : (globalMapsOf builds).get? lib with
  | none => have := known.missing lib found; omega
  | some ukLib =>
    have named := known.named lib ukLib found
    have counted := known.counted lib ukLib found
    subst named
    refine ⟨ukLib, ?_, rfl⟩
    rw [mem_subsetLibs_iff, counted]
    exact ⟨found, partly, by omega⟩

def SharedAgree (flags : Flags) (loc : Nat) (builds : List UkBuild) : Prop :=
  ∃ manager, align flags loc builds = .ok manager ∧
    ∀ lib, 2 ≤ sharers builds lib → ∃ addr, ∀ uk ∈ manager.uks, lib ∈ uk.objects →
      startAddress (manager.libraryItems uk) lib = some addr

def placedBefore : List UkLib :=
  (subsetLibs builds).takeWhile fun ukLib => ukLib.name ≠ lib

def pagesOnly (present absent : UkBuild) (libs : List UkLib) : Nat :=
  ((libs.filter fun ukLib =>
    present.contains ukLib.name && !absent.contains ukLib.name).map compactPages).sum

def SubsetBalanced : Prop :=
  ∀ lib, 2 ≤ sharers builds lib → sharers builds lib ≠ builds.length →
    ∀ left ∈ builds, ∀ right ∈ builds, left.contains lib → right.contains lib →
      pagesOnly left right (placedBefore builds lib) = pagesOnly right left (placedBefore builds lib)

theorem pagesWithin_split (left right : UkBuild) :
  pagesWithin left.listing.keys libs = pagesOnly left right libs + ((libs.filter fun ukLib =>
      left.contains ukLib.name && right.contains ukLib.name).map compactPages).sum := by
  induction libs with
  | nil => rfl
  | cons ukLib rest ih =>
    have inside := left.contains_iff ukLib.name
    simp only [pagesWithin, pagesOnly] at ih ⊢
    cases first : left.contains ukLib.name <;> cases second : right.contains ukLib.name <;>
      simp only [first, Bool.false_eq_true, false_iff, true_iff] at inside <;>
      simp [first, second, inside, ih] <;> omega

theorem pagesWithin_eq_iff (left right : UkBuild) (libs : List UkLib) :
  pagesWithin left.listing.keys libs = pagesWithin right.listing.keys libs ↔
    pagesOnly left right libs = pagesOnly right left libs := by
  have swap : (fun ukLib : UkLib => left.contains ukLib.name && right.contains ukLib.name) =
      fun ukLib => right.contains ukLib.name && left.contains ukLib.name :=
    funext fun ukLib => Bool.and_comm _ _
  rw [pagesWithin_split left right, pagesWithin_split right left, swap]
  omega

theorem startAddress_common (loc : Nat)
  (shared : 2 ≤ sharers builds lib) (everywhere : sharers builds lib = builds.length) :
  ∃ addr, ∀ others, startAddress (commonItems (ctorsEnd loc) (commonLibs builds) ++ others) lib =
    some addr := by
  obtain ⟨addr, found⟩ := startAddress_commonItems_some (ctorsEnd loc) (commonLibs builds) lib
    ((exists_commonLib_iff builds lib (by omega)).mpr everywhere)
  refine ⟨addr, fun others => ?_⟩
  rw [startAddress_append, found, Option.some_or]

theorem startAddress_subset (loc : Nat) (dce : Bool)
  (shared : 2 ≤ sharers builds lib) (partly : sharers builds lib ≠ builds.length)
  {build : UkBuild} (contained : lib ∈ build.listing.keys) (others : List ScriptItem) :
  startAddress (commonItems (ctorsEnd loc) (commonLibs builds) ++
      compactItems dce build.listing.keys (subsetStart loc builds) (subsetLibs builds) ++
      others) lib =
    some (subsetStart loc builds + pagesWithin build.listing.keys (placedBefore builds lib)) := by
  have notCommon : ∀ ukLib ∈ commonLibs builds, ukLib.name ≠ lib := by
    intro ukLib member named
    exact partly ((exists_commonLib_iff builds lib (by omega)).mp ⟨ukLib, member, named⟩)
  have aligned : roundToN (subsetStart loc builds) pageSize = subsetStart loc builds :=
    roundToN_of_dvd (dvd_roundToN _)
  rw [startAddress_append, startAddress_append, startAddress_commonItems_none _ _ notCommon,
    startAddress_compactItems dce lib (exists_subsetLib builds lib shared partly) contained,
    aligned]
  rfl

variable {builds}

theorem SharedAgree.balanced {flags : Flags} (agreed : SharedAgree flags loc builds)
  (mode : flags.CompactOnly) (nonempty : builds ≠ []) : SubsetBalanced builds := by
  obtain ⟨manager, run, agree⟩ := agreed
  obtain ⟨place, spec⟩ := (align_compact flags mode loc builds nonempty).2 manager run
  intro lib shared partly left leftMem right rightMem leftHas rightHas
  obtain ⟨addr, same⟩ := agree lib shared
  have placed : ∀ build ∈ builds, build.contains lib = true →
      subsetStart loc builds + pagesWithin build.listing.keys (placedBefore builds lib) = addr := by
    intro build member has
    have contained := (build.contains_iff lib).mp has
    have found := same (place build) (spec.uks ▸ mem_map_of_mem member) (spec.objects build ▸ contained)
    rw [spec.scripts, startAddress_subset builds lib loc flags.dce shared partly contained,
      Option.some.injEq] at found
    exact found
  have leftPlaced := placed left leftMem leftHas
  have rightPlaced := placed right rightMem rightHas
  rw [← pagesWithin_eq_iff]
  omega

theorem sharedAgree_of_balanced {flags : Flags} (mode : flags.CompactOnly) (loc : Nat)
  (nonempty : builds ≠ []) (filled : ∀ build ∈ builds, build.libs.entries ≠ [])
  (balanced : SubsetBalanced builds) : SharedAgree flags loc builds := by
  obtain ⟨finishes, scripts⟩ := align_compact flags mode loc builds nonempty
  obtain ⟨manager, run⟩ := finishes.mpr filled
  refine ⟨manager, run, ?_⟩
  obtain ⟨place, spec⟩ := scripts manager run
  rw [spec.uks]
  intro lib shared
  by_cases everywhere : sharers builds lib = builds.length
  · obtain ⟨addr, found⟩ := startAddress_common builds lib loc shared everywhere
    refine ⟨addr, ?_⟩
    simp only [forall_mem_map]
    intro build member contained
    rw [spec.scripts, append_assoc]
    exact found _
  have some : 0 < sharers builds lib := by omega
  obtain ⟨first, firstMem, firstHas⟩ := countP_pos_iff.mp some
  refine ⟨subsetStart loc builds + pagesWithin first.listing.keys (placedBefore builds lib), ?_⟩
  simp only [forall_mem_map]
  intro build member contained
  rw [spec.objects] at contained
  rw [spec.scripts, startAddress_subset builds lib loc flags.dce shared everywhere contained]
  have same := balanced lib shared everywhere build member first firstMem
    ((build.contains_iff lib).mpr contained) firstHas
  rw [(pagesWithin_eq_iff build first _).mpr same]

end Spacer.Aligner
