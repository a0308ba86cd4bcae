import Spacer.Aligner.Run
import Spacer.Aligner.Uniform

/-!
The `.data` and `.bss` windows, sized before `copy_all_objs`, against the objects that are
linked after it.
-/

namespace Spacer.Aligner

open Lib List

def linkedSize (folders : Folders) (sect : SectName) (uk : Unikernel) : Nat :=
  (uk.objects.map fun lib =>
    ((fileAt folders uk.name lib).map fun file => file.sections.get sect).getD 0).sum

def UkManager.WindowsFit (manager : UkManager) (folders : Folders) (uk : Unikernel) : Prop :=
  ∃ data bss intrstack, manager.locSect.get? ".data" = some data ∧ manager.locSect.get? ".bss" = some bss ∧
    manager.locSect.get? ".intrstack" = some intrstack ∧
    linkedSize folders .data uk ≤ bss - data ∧ linkedSize folders .bss uk ≤ intrstack - bss

def chosenSize (folders : Folders) (sect : SectName) (uk : Unikernel) : Nat :=
  (uk.objects.map fun lib =>
    ((chosen folders lib).map fun file => file.2.sections.get sect).getD 0).sum

/-- The biggest files of the libraries of each unikernel fit the page-rounded
maximum of what the unikernels hold themselves. -/
def ObjectsFit (flags : Flags) (folders : Folders) : Prop :=
  ∀ build ∈ buildsOf folders, chosenSize folders .data ((Unikernel.ofBuild build).linkedIn folders) ≤
      windowOf (buildsOf folders) .data + UkManager.windowGap flags .bss ∧
    chosenSize folders .bss ((Unikernel.ofBuild build).linkedIn folders) ≤ windowOf (buildsOf folders) .bss

theorem Uniform.linkedSize_eq (uniform : Uniform original folders uk) (sect : SectName) :
  linkedSize folders sect uk = chosenSize original sect uk := by
  refine congrArg List.sum (map_congr_left fun lib member => ?_)
  rw [uniform lib member]
  cases chosen original lib <;> rfl

theorem windowsFit_iff {manager : UkManager} (places : ∀ uk, manager.Places uk (place uk)) :
  (manager.withLibraries place).withWindows.placeIntrstack.WindowsFit folders (place uk) ↔
    linkedSize folders .data uk ≤ manager.windowSize .data + UkManager.windowGap manager.flags .bss ∧
    linkedSize folders .bss uk ≤ manager.windowSize .bss := by
  have sameSize : ∀ sect, linkedSize folders sect (place uk) = linkedSize folders sect uk := by
    intro sect
    rw [linkedSize, (places uk).objects, (places uk).name, linkedSize]
  have sections := locSect_withWindows (manager.withLibraries place)
  have dataAligned : pageSize ∣ (manager.withLibraries place).locCounter := dvd_roundToN _
  have bssAligned : pageSize ∣ (manager.withLibraries place).bssLoc :=
    Nat.dvd_add (Nat.dvd_add dataAligned (dvd_roundToN _)) (dvd_windowGap _ _)
  have rounded : roundToN ((manager.withLibraries place).bssLoc +
      (manager.withLibraries place).windowSize .bss) pageSize =
        (manager.withLibraries place).bssLoc + (manager.withLibraries place).windowSize .bss :=
    roundToN_of_dvd (Nat.dvd_add bssAligned (dvd_roundToN _))
  rw [rounded] at sections
  have bssLoc : (manager.withLibraries place).bssLoc = (manager.withLibraries place).locCounter +
      manager.windowSize .data + UkManager.windowGap manager.flags .bss := by
    rw [UkManager.bssLoc, windowSize_withLibraries places]
    rfl
  simp only [UkManager.WindowsFit, sameSize, sections, windowSize_withLibraries places, Dict.get?_set]
  constructor
  · rintro ⟨data, bss, intrstack, isData, isBss, isStack, dataFits, bssFits⟩
    simp only [String.reduceEq, ↓reduceIte, Option.some.injEq] at isData isBss isStack
    omega
  rintro ⟨dataFits, bssFits⟩
  refine ⟨_, _, _, rfl, rfl, rfl, ?_, ?_⟩ <;> omega

theorem keys_build (folder : Folder) : (folder.build name).libs.keys = folder.objects.keys := by
  simp [Folder.build, Dict.mapValues, Dict.keys]

theorem names_buildsOf : ((buildsOf folders).map Unikernel.ofBuild).map Unikernel.name = folders.keys := by
  simp [buildsOf, Unikernel.ofBuild, Folder.build, Dict.keys]

theorem folder_of_build (member : build ∈ buildsOf folders) :
  ∃ folder, folders.get? build.name = some folder ∧ build = folder.build build.name := by
  obtain ⟨⟨name, folder⟩, stored, rfl⟩ := mem_map.mp member
  exact ⟨folder, (folders.get?_eq_some_iff name folder).mpr stored, rfl⟩

theorem objects_chosen (member : build ∈ buildsOf folders) (lib : String)
  (listed : lib ∈ (Unikernel.ofBuild build).objects) : chosen folders lib ≠ none := by
  obtain ⟨folder, found, same⟩ := folder_of_build member
  have stored : lib ∈ folder.objects.keys := by
    have held := (build.mem_listing_keys lib).mp listed
    rw [same, keys_build] at held
    exact held
  obtain ⟨file, isFile⟩ := (folder.objects.mem_keys_iff lib).mp stored
  exact chosen_ne_none ((fileAt_of_get? found lib).trans isFile)

theorem alignCopied_spec (mode : flags.CompactOnly)
  (run : alignCopied flags loc folders = .ok (manager, copied)) :
  ∃ (uks : List Unikernel) (place : Unikernel → Unikernel),
    uks = (buildsOf folders).map (fun build => (Unikernel.ofBuild build).linkedIn folders) ∧
    (∀ uk ∈ uks, Uniform folders copied uk) ∧
    (∀ uk, ((classified flags loc (buildsOf folders)).withUks uks).Places uk (place uk)) ∧
    manager = (((classified flags loc (buildsOf folders)).withUks uks).withLibraries
      place).withWindows.placeIntrstack := by
  obtain ⟨sameFlags, _, sameUks, _⟩ := classified_spec flags loc (buildsOf folders)
  obtain ⟨⟨after, uks⟩, copies, run⟩ := ok_of_bind run
  obtain ⟨final, placed, run⟩ := ok_of_bind run
  cases run
  change copyAllObjs (objsFilesOf folders) (useParams folders) folders
    (classified flags loc (buildsOf folders)).uks = _ at copies
  change ((classified flags loc (buildsOf folders)).withUks uks).updateLinkFileSpacer = _ at placed
  rw [sameUks] at copies
  have distinct : (((buildsOf folders).map Unikernel.ofBuild).map Unikernel.name).Nodup := by
    rw [names_buildsOf]
    exact folders.distinct
  have listed : ∀ uk ∈ (buildsOf folders).map Unikernel.ofBuild,
      ∀ lib ∈ uk.objects, chosen folders lib ≠ none := by
    simp only [forall_mem_map]
    exact fun build member => objects_chosen member
  have present : ∀ uk ∈ (buildsOf folders).map Unikernel.ofBuild, folders.get? uk.name ≠ none := by
    simp only [forall_mem_map]
    intro build member
    obtain ⟨folder, found, _⟩ := folder_of_build member
    exact Option.ne_none_iff_exists'.mpr ⟨folder, found⟩
  obtain ⟨_, linked, uniform⟩ := copyAllObjs_spec distinct listed present (Kept.refl folders)
    (fun _ _ => rfl) copies
  dsimp only at linked uniform
  have nonempty : uks ≠ [] := by
    rintro rfl
    have none : buildsOf folders = [] := by simpa using linked.symm
    rw [none] at placed
    have empty : align flags loc [] = .ok manager := placed
    exact align_nonempty mode empty rfl
  obtain ⟨place, places, finished⟩ := updateLinkFileSpacer_ok_iff
    ((classified flags loc (buildsOf folders)).withUks uks)
    (show (classified flags loc (buildsOf folders)).flags.CompactOnly by rw [sameFlags]; exact mode)
    nonempty
  rw [map_map] at linked
  exact ⟨uks, place, linked, uniform, places, ((finished manager).mp placed).2⟩

def twoLibs (first second : ObjFile) : Folder where
  objects := ⟨[("libvfscore", first), ("libuksched", second)], by simp⟩

def smallFile : ObjFile := ⟨0x400, ⟨0x100, 0, 0x10, 0⟩⟩

def bigFile : ObjFile := ⟨0x3000, ⟨0x100, 0, 0xff0, 0⟩⟩

def sameFolders : Folders :=
  ⟨[("a", twoLibs bigFile smallFile), ("b", twoLibs bigFile smallFile)], by simp⟩

def mixedFolders : Folders :=
  ⟨[("a", twoLibs bigFile smallFile), ("b", twoLibs smallFile bigFile)], by simp⟩

end Spacer.Aligner
