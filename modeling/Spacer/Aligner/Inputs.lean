import Spacer.Aligner.Run
import Spacer.Aligner.Script

/-!
Which input sections the passes write, for every combination of the compact and
snapshot options without grouping.
-/

namespace Spacer.Aligner

open Lib
open List hiding after

def ScriptItem.inputs : ScriptItem → List InputSection
  | output _ _ inputs => inputs
  | grouped inputs => inputs
  | _ => []

variable (flags : Flags) (ukLib : UkLib)

def sectInputs (sect : SectName) : List (List InputSection) :=
  (if sect = .text then [(Unikernel.textItem 0 flags.dce flags.compact ukLib).inputs] else []) ++
    if flags.snapshot && sect = .data then [(Unikernel.dataItem 0 flags.dce ukLib).inputs] else []

def sectRodata (sect : SectName) : List String :=
  if sect = .text ∧ flags.compact = false then [ukLib.name] else []

def ownInputs : List (List InputSection) :=
  (Unikernel.arraySect flags.snapshot flags.compact).flatMap (sectInputs flags ukLib)

def ownRodata : List String :=
  (Unikernel.arraySect flags.snapshot flags.compact).flatMap (sectRodata flags ukLib)

theorem inputs_textItem (ukLib : UkLib) :
  (Unikernel.textItem loc dce compact ukLib).inputs = (Unikernel.textItem 0 dce compact ukLib).inputs := by
  simp only [Unikernel.textItem]
  split
  · split <;> rfl
  · rfl

theorem inputs_dataItem (ukLib : UkLib) :
  (Unikernel.dataItem loc dce ukLib).inputs = (Unikernel.dataItem 0 dce ukLib).inputs := by
  simp only [Unikernel.dataItem]
  split <;> rfl

def Unikernel.inputs (uk : Unikernel) (typeMaps : String) : List (List InputSection) :=
  (uk.link typeMaps).map ScriptItem.inputs

/-- `after` has `inputs` appended to one link text and `rodata` among the libraries
of the read-only section. -/
structure Unikernel.Wrote (typeMaps : String) (inputs : List (List InputSection))
  (rodata : List String) (before after : Unikernel) : Prop where
  objects : after.objects = before.objects
  written : after.inputs typeMaps = before.inputs typeMaps ++ inputs
  others : ∀ query, query ≠ typeMaps → after.inputs query = before.inputs query
  rodata : ∀ lib, lib ∈ after.sbRodata.keys ↔ lib ∈ before.sbRodata.keys ∨ lib ∈ rodata

namespace Unikernel.Wrote

theorem refl (typeMaps : String) (uk : Unikernel) : uk.Wrote typeMaps [] [] uk :=
  ⟨rfl, by simp, fun _ _ => rfl, by simp⟩

theorem trans {first second third : Unikernel} (one : first.Wrote typeMaps left leftRodata second)
  (two : second.Wrote typeMaps right rightRodata third) :
  first.Wrote typeMaps (left ++ right) (leftRodata ++ rightRodata) third := by
  refine ⟨two.objects.trans one.objects, ?_, ?_, ?_⟩
  · rw [two.written, one.written, append_assoc]
  · exact fun query other => (two.others query other).trans (one.others query other)
  intro lib
  rw [two.rodata, one.rodata, mem_append, or_assoc]

theorem foldl {α : Type} {step : Unikernel → α → Unikernel}
  (inputs : List String → α → List (List InputSection)) (rodata : List String → α → List String)
  (each : ∀ (uk : Unikernel) (item : α), uk.Wrote typeMaps (inputs uk.objects item)
    (rodata uk.objects item) (step uk item)) (items : List α) (uk : Unikernel) :
  uk.Wrote typeMaps (items.flatMap (inputs uk.objects)) (items.flatMap (rodata uk.objects))
    (items.foldl step uk) := by
  induction items generalizing uk with
  | nil => exact refl typeMaps uk
  | cons item rest ih =>
    have one := each uk item
    have others := ih (step uk item)
    rw [one.objects] at others
    exact one.trans others

end Unikernel.Wrote

theorem Unikernel.inputs_appendLink (uk : Unikernel) : (uk.appendLink typeMaps items).inputs query =
    if query = typeMaps then uk.inputs typeMaps ++ items.map ScriptItem.inputs
    else uk.inputs query := by
  rw [inputs, link_appendLink]
  split
  · rw [map_append]
    rfl
  · rfl

theorem wrote_appendLink (typeMaps : String) (uk : Unikernel) (item : ScriptItem) :
  uk.Wrote typeMaps [item.inputs] [] (uk.appendLink typeMaps [item]) := by
  refine ⟨rfl, ?_, ?_, ?_⟩
  · rw [Unikernel.inputs_appendLink, if_pos rfl]
    rfl
  · intro query other
    rw [Unikernel.inputs_appendLink, if_neg other]
  intro lib
  simp [Unikernel.appendLink]

theorem wrote_rodata (typeMaps : String) (uk : Unikernel) (lib : String) (size : Nat) :
  uk.Wrote typeMaps [] [lib] { uk with sbRodata := uk.sbRodata.set lib size } := by
  refine ⟨rfl, by simp [Unikernel.inputs, Unikernel.link], fun _ _ => rfl, fun other => ?_⟩
  simp only [Dict.mem_keys_iff, Dict.get?_set, mem_singleton]
  by_cases same : other = lib
  · simp [same]
  · simp [same]

theorem Unikernel.Wrote.same {inputs : List (List InputSection)} {rodata : List String}
  {before after other : Unikernel} (wrote : before.Wrote typeMaps inputs rodata after)
  (objects : other.objects = after.objects) (sbLink : other.sbLink = after.sbLink)
  (sbRodata : other.sbRodata = after.sbRodata) : before.Wrote typeMaps inputs rodata other := by
  have links : ∀ query, other.inputs query = after.inputs query := by
    intro query
    rw [Unikernel.inputs, Unikernel.link, sbLink]
    rfl
  refine ⟨objects.trans wrote.objects, (links _).trans wrote.written, fun query different => ?_,
    fun lib => ?_⟩
  · exact (links query).trans (wrote.others query different)
  · rw [sbRodata, wrote.rodata]

theorem placeSect_wrote (typeMaps : String) (ukLib : UkLib) (uk : Unikernel) (sect : SectName) :
  uk.Wrote typeMaps (sectInputs flags ukLib sect) (sectRodata flags ukLib sect)
    (Unikernel.placeSect typeMaps flags.dce flags.snapshot flags.compact ukLib uk sect) := by
  obtain ⟨dce, compact, snapshot, groupCommon⟩ := flags
  have text := wrote_appendLink typeMaps uk
    (Unikernel.textItem (roundToN uk.locCounter pageSize) dce compact ukLib)
  have data := wrote_appendLink typeMaps uk (Unikernel.dataItem (roundToN uk.locCounter pageSize) dce ukLib)
  rw [inputs_textItem] at text
  rw [inputs_dataItem] at data
  have nothing := Unikernel.Wrote.refl typeMaps uk
  cases sect with
  | text =>
    cases compact with
    | true => cases snapshot <;> exact text.same rfl rfl rfl
    | false =>
      have both := text.trans (wrote_rodata typeMaps _ ukLib.name ukLib.totalSize.rodata)
      cases snapshot <;> exact both.same rfl rfl rfl
  | rodata | bss => cases snapshot <;> exact nothing.same rfl rfl rfl
  | data =>
    cases snapshot with
    | true => exact data.same rfl rfl rfl
    | false => exact nothing.same rfl rfl rfl

def keptLibs (objects : List String) (libs : List UkLib) : List UkLib :=
  libs.filter fun ukLib => ukLib.name ∈ objects

theorem flatMap_ite {β : Type} (result : UkLib → List β) :
  libs.flatMap (fun ukLib => if ukLib.name ∈ objects then result ukLib else []) =
    (keptLibs objects libs).flatMap result := by
  induction libs with
  | nil => rfl
  | cons ukLib rest ih =>
    by_cases member : ukLib.name ∈ objects
    · simpa [keptLibs, member] using ih
    · simpa [keptLibs, member] using ih

theorem updateLocCounter_wrote (typeMaps : String) (subset : Dict String UkLib) (uk : Unikernel) :
  uk.Wrote typeMaps ((keptLibs uk.objects subset.values).flatMap (ownInputs flags))
    ((keptLibs uk.objects subset.values).flatMap (ownRodata flags))
    (uk.updateLocCounter subset typeMaps flags.dce flags.snapshot flags.compact) := by
  have each : ∀ (uk : Unikernel) (ukLib : UkLib), uk.Wrote typeMaps
      (if ukLib.name ∈ uk.objects then ownInputs flags ukLib else [])
      (if ukLib.name ∈ uk.objects then ownRodata flags ukLib else [])
      (Unikernel.placeLib typeMaps flags.dce flags.snapshot flags.compact uk ukLib) := by
    intro uk ukLib
    by_cases member : ukLib.name ∈ uk.objects
    · simp only [Unikernel.placeLib, member, ↓reduceIte]
      exact Unikernel.Wrote.foldl (fun _ => sectInputs flags ukLib) (fun _ => sectRodata flags ukLib)
        (placeSect_wrote flags typeMaps ukLib) _ uk
    simp only [Unikernel.placeLib, member, ↓reduceIte]
    exact Unikernel.Wrote.refl typeMaps uk
  have opened : uk.Wrote typeMaps [] [] (uk.appendLink typeMaps []) := by
    refine ⟨rfl, ?_, fun query other => ?_, by simp [Unikernel.appendLink]⟩
    · rw [Unikernel.inputs_appendLink, if_pos rfl]
      rfl
    · rw [Unikernel.inputs_appendLink, if_neg other]
  have all := opened.trans (Unikernel.Wrote.foldl
    (fun objects ukLib => if ukLib.name ∈ objects then ownInputs flags ukLib else [])
    (fun objects ukLib => if ukLib.name ∈ objects then ownRodata flags ukLib else [])
    each subset.values (uk.appendLink typeMaps []))
  simp only [nil_append, opened.objects, flatMap_ite] at all
  exact all

variable {manager : UkManager}

def commonInputs : List (List InputSection) :=
  if flags.compact then
    [[⟨ukLib.name, ".text"⟩, ⟨ukLib.name, ".rodata"⟩]] ++
      if flags.snapshot then [[⟨ukLib.name, ".data"⟩, ⟨ukLib.name, ".bss"⟩]] else []
  else
    [[⟨ukLib.name, ".text"⟩]] ++
      if flags.snapshot then [[⟨ukLib.name, ".data"⟩]] else []

variable {flags}

structure CommonDone (flags : Flags) (libs : List UkLib) (before : UkManager × List ScriptItem)
  (after : UkManager × List ScriptItem) : Prop where
  frame : ∃ last table total, after.1 =
    { before.1 with locCounter := last, sbRodata := table, totalRodataSize := total }
  items : after.2.map ScriptItem.inputs =
    before.2.map ScriptItem.inputs ++ libs.flatMap (commonInputs flags)
  rodata : ∀ lib, lib ∈ after.1.sbRodata.keys ↔
    lib ∈ before.1.sbRodata.keys ∨ flags.compact = false ∧ ∃ ukLib ∈ libs, ukLib.name = lib

theorem CommonDone.trans (one : CommonDone flags left first second)
  (two : CommonDone flags right second third) : CommonDone flags (left ++ right) first third := by
  obtain ⟨_, _, _, firstFrame⟩ := one.frame
  obtain ⟨last, table, total, secondFrame⟩ := two.frame
  refine ⟨⟨last, table, total, ?_⟩, ?_, fun lib => ?_⟩
  · rw [secondFrame, firstFrame]
  · rw [two.items, one.items, append_assoc, flatMap_append]
  rw [two.rodata, one.rodata]
  simp only [mem_append]
  constructor
  · rintro ((old | ⟨loose, ukLib, member, named⟩) | ⟨loose, ukLib, member, named⟩)
    · exact .inl old
    · exact .inr ⟨loose, ukLib, .inl member, named⟩
    · exact .inr ⟨loose, ukLib, .inr member, named⟩
  rintro (old | ⟨loose, ukLib, member | member, named⟩)
  · exact .inl (.inl old)
  · exact .inl (.inr ⟨loose, ukLib, member, named⟩)
  · exact .inr ⟨loose, ukLib, member, named⟩

variable {ukLib}

theorem commonLib_done (ungrouped : manager.flags.groupCommon = false)
  (done : UkManager.commonLib (manager, sb) ukLib = .ok after) :
  CommonDone manager.flags [ukLib] (manager, sb) after := by
  have named : ∀ (table : Dict String Nat) (size : Nat) (lib : String),
      lib ∈ (table.set ukLib.name size).keys ↔ lib ∈ table.keys ∨ ukLib.name = lib := by
    intro table size lib
    simp only [Dict.mem_keys_iff, Dict.get?_set]
    by_cases same : lib = ukLib.name
    · simp [same]
    · simp [same, Ne.symm same]
  cases compact : manager.flags.compact <;> cases snapshot : manager.flags.snapshot <;>
    simp [UkManager.commonLib, UkManager.computeCommonLoc, UkManager.commonItem, compact, snapshot,
      ungrouped, UkManager.arrayItem, bind, Except.bind, pure, Except.pure] at done <;>
    subst done <;>
    refine ⟨⟨_, _, _, rfl⟩, ?_, fun lib => ?_⟩ <;>
    simp [commonInputs, compact, snapshot, ScriptItem.inputs, SectName.label, named]

theorem commonLibs_done (ungrouped : flags.groupCommon = false) (mode : before.1.flags = flags) (done : libs.foldlM UkManager.commonLib before = .ok after) :
  CommonDone flags libs before after := by
  induction libs generalizing before with
  | nil =>
    cases done
    exact ⟨⟨_, _, _, rfl⟩, by simp, by simp⟩
  | cons ukLib rest ih =>
    rw [foldlM_cons] at done
    obtain ⟨middle, first, done⟩ := ok_of_bind done
    have one := commonLib_done (mode ▸ ungrouped) first
    rw [mode] at one
    have kept : middle.1.flags = flags := by
      obtain ⟨_, _, _, frame⟩ := one.frame
      rw [frame]
      exact mode
    exact one.trans (ih kept done)

theorem processCommonToAll_done (ungrouped : manager.flags.groupCommon = false)
  (done : manager.processCommonToAll = .ok after) :
  CommonDone manager.flags manager.commonToAll.values (manager, []) after := by
  simp only [UkManager.processCommonToAll, ungrouped, Bool.false_eq_true, ↓reduceIte, pure_bind] at done
  obtain ⟨⟨last, sb⟩, run, done⟩ := ok_of_bind done
  have all := commonLibs_done ungrouped rfl run
  dsimp only at done
  have kept : last.flags.groupCommon = false := by
    obtain ⟨_, _, _, frame⟩ := all.frame
    dsimp only at frame
    rw [frame]
    exact ungrouped
  rw [kept] at done
  cases done
  exact all

theorem computeLoc_done (done : manager.computeLoc subset typeMaps = .ok after) :
  ∃ (place : Unikernel → Unikernel) (last : Nat),
    after = { manager with uks := manager.uks.map place, locCounter := last } ∧
    ∀ uk : Unikernel, uk.Wrote typeMaps
      ((keptLibs uk.objects subset.values).flatMap (ownInputs manager.flags))
      ((keptLibs uk.objects subset.values).flatMap (ownRodata manager.flags)) (place uk) := by
  cases absent : subset.entries with
  | nil =>
    simp only [UkManager.computeLoc, absent, isEmpty_nil, ↓reduceIte, pure, Except.pure,
      Except.ok.injEq] at done
    subst done
    refine ⟨id, manager.locCounter, by simp, fun uk => ?_⟩
    simpa [keptLibs, Dict.values, absent] using Unikernel.Wrote.refl typeMaps uk
  | cons entry rest =>
    simp only [UkManager.computeLoc, absent, isEmpty_cons, Bool.false_eq_true, ↓reduceIte] at done
    obtain ⟨last, _, done⟩ := ok_of_bind done
    cases done
    refine ⟨_, _, rfl, fun uk => ?_⟩
    have wrote := updateLocCounter_wrote manager.flags typeMaps subset
      { uk with locCounter := roundToN manager.locCounter pageSize }
    exact { wrote with }

theorem placeWindow_done (done : manager.placeWindow sect = .ok after) : ∃ start last, after =
    { manager with locSect := manager.locSect.set sect.label start, locCounter := last } := by
  obtain ⟨sizes, _, done⟩ := ok_of_bind done
  obtain ⟨largest, _, done⟩ := ok_of_bind done
  cases done
  exact ⟨_, _, rfl⟩

structure Located (names : List String) (before after : UkManager) : Prop where
  frame : ∃ table last, after = { before with locSect := table, locCounter := last }
  kept : ∀ name, before.locSect.get? name ≠ none → after.locSect.get? name ≠ none
  named : ∀ name ∈ names, after.locSect.get? name ≠ none

theorem Located.refl (manager : UkManager) : Located [] manager manager :=
  ⟨⟨_, _, rfl⟩, fun _ held => held, by simp⟩

theorem Located.trans (one : Located left first second) (two : Located right second third) :
  Located (left ++ right) first third := by
  obtain ⟨_, _, firstFrame⟩ := one.frame
  obtain ⟨table, last, secondFrame⟩ := two.frame
  refine ⟨⟨table, last, ?_⟩, fun name held => two.kept name (one.kept name held), fun name member => ?_⟩
  · rw [secondFrame, firstFrame]
  rcases mem_append.mp member with early | late
  · exact two.kept name (one.named name early)
  · exact two.named name late

theorem located_set (manager : UkManager) (name : String) (start last : Nat) : Located [name] manager
    { manager with locSect := manager.locSect.set name start, locCounter := last } := by
  refine ⟨⟨_, _, rfl⟩, fun query held => ?_, fun query member => ?_⟩
  · rw [Dict.get?_set]
    split
    · simp
    · exact held
  rw [Dict.get?_set, if_pos (mem_singleton.mp member)]
  simp

theorem placeWindowList_done (sects : List SectName)
  (done : sects.foldlM UkManager.placeWindow manager = .ok after) :
  Located (sects.map SectName.label) manager after := by
  induction sects generalizing manager with
  | nil =>
    cases done
    exact Located.refl _
  | cons sect rest ih =>
    rw [foldlM_cons] at done
    obtain ⟨middle, first, done⟩ := ok_of_bind done
    obtain ⟨start, last, same⟩ := placeWindow_done first
    subst same
    exact (located_set manager sect.label start last).trans (ih done)

theorem placeWindows_done (done : manager.placeWindows = .ok after) :
  ∃ names, Located names manager after ∧ (manager.flags.snapshot = false → ∀ sect : SectName,
    sect = .data ∨ sect = .bss ∨ sect = .rodata ∧ manager.flags.compact = false → sect.label ∈ names) := by
  cases snapshot : manager.flags.snapshot with
  | true =>
    simp only [UkManager.placeWindows, snapshot, if_true] at done
    cases done
    exact ⟨[], Located.refl _, by simp⟩
  | false =>
    simp only [UkManager.placeWindows, snapshot, Bool.false_eq_true, if_false] at done
    obtain ⟨last, run, done⟩ := ok_of_bind done
    cases done
    have windows := placeWindowList_done _ run
    have rounded : Located [] last last.roundLoc := ⟨⟨_, _, rfl⟩, fun _ held => held, by simp⟩
    refine ⟨_, windows.trans rounded, fun _ sect wanted => ?_⟩
    rcases wanted with rfl | rfl | ⟨rfl, loose⟩
    · split <;> simp
    · split <;> simp
    · simp [loose]

structure ScriptRun (flags : Flags) (builds : List UkBuild) (manager : UkManager)
  (place : UkBuild → Unikernel) : Prop where
  mode : manager.flags = flags
  uks : manager.uks = builds.map place
  objects : ∀ build, (place build).objects = build.listing.keys
  common : manager.sbLinkCommon.map ScriptItem.inputs = (commonLibs builds).flatMap (commonInputs flags)
  own : ∀ build, (place build).inputs "subset" ++ (place build).inputs "individual" =
    (keptLibs build.listing.keys (subsetLibs builds ++ individualLibs builds)).flatMap (ownInputs flags)
  rodata : ∀ lib, lib ∈ manager.sbRodata.keys ↔
    flags.compact = false ∧ ∃ ukLib ∈ commonLibs builds, ukLib.name = lib
  appRodata : ∀ build lib, lib ∈ (place build).sbRodata.keys ↔
    lib ∈ (keptLibs build.listing.keys (subsetLibs builds ++ individualLibs builds)).flatMap
      (ownRodata flags)
  starts : ∀ name ∈ ["_ctors", ".init_array", "_ectors", ".intrstack"], manager.locSect.get? name ≠ none
  windows : flags.snapshot = false → ∀ sect : SectName,
    sect = .data ∨ sect = .bss ∨ sect = .rodata ∧ flags.compact = false →
      manager.locSect.get? sect.label ≠ none

theorem keptLibs_append :
  keptLibs objects (left ++ right) = keptLibs objects left ++ keptLibs objects right :=
  filter_append left right

theorem align_script (ungrouped : flags.groupCommon = false)
  (run : align flags loc builds = .ok manager) : ∃ place, ScriptRun flags builds manager place := by
  obtain ⟨sameFlags, _, sameUks, _, sameCommon, sameSubset, sameIndividual⟩ :=
    classified_spec flags loc builds
  have noRodata : (classified flags loc builds).sbRodata.keys = [] := by
    rw [classified, processFolder_spec]
    rfl
  change (classified flags loc builds).updateLinkFileSpacer = _ at run
  generalize classified flags loc builds = start at *
  let reserved := ["_ctors", ".init_array", "_ectors"].foldl
    (fun manager name => UkManager.reserve manager name pageSize) start
  have opened : Located (["_ctors"] ++ ([".init_array"] ++ ["_ectors"])) start reserved :=
    (located_set _ _ _ _).trans ((located_set _ _ _ _).trans (located_set _ _ _ _))
  obtain ⟨⟨commonDone, sb⟩, commonRun, run⟩ := ok_of_bind run
  change reserved.processCommonToAll = _ at commonRun
  obtain ⟨subsetDone, subsetRun, run⟩ := ok_of_bind run
  obtain ⟨lastDone, lastRun, run⟩ := ok_of_bind run
  obtain ⟨windowsDone, windowsRun, run⟩ := ok_of_bind run
  cases run
  have common := processCommonToAll_done (sameFlags ▸ ungrouped) commonRun
  obtain ⟨⟨commonLast, table, total, commonFrame⟩, items, rodata⟩ := common
  dsimp only at commonFrame items rodata
  subst commonFrame
  obtain ⟨placeSubset, subsetLast, rfl, subsetWrote⟩ := computeLoc_done subsetRun
  obtain ⟨placeLast, last, rfl, lastWrote⟩ := computeLoc_done lastRun
  obtain ⟨names, located, windows⟩ := placeWindows_done windowsRun
  have stacked := located.trans (located_set windowsDone ".intrstack" windowsDone.locCounter
    windowsDone.locCounter)
  obtain ⟨sections, stackLast, frame⟩ := stacked.frame
  have final : windowsDone.placeIntrstack = _ := frame
  have held : ∀ name ∈ ["_ctors", ".init_array", "_ectors", ".intrstack"],
      windowsDone.placeIntrstack.locSect.get? name ≠ none := by
    intro name member
    rcases mem_append.mp (show name ∈ ["_ctors", ".init_array", "_ectors"] ++ [".intrstack"]
      from member) with first | stack
    · exact stacked.kept name (opened.named name first)
    · exact stacked.named name (mem_append_right _ stack)
  refine ⟨fun build => placeLast (placeSubset (Unikernel.ofBuild build)), ?_⟩
  constructor
  case starts => exact held
  case windows =>
    intro loose sect wanted
    refine stacked.named _ (mem_append_left _ (windows ?_ sect ?_))
    · change start.flags.snapshot = false
      rw [sameFlags]
      exact loose
    change sect = .data ∨ sect = .bss ∨ sect = .rodata ∧ start.flags.compact = false
    rw [sameFlags]
    exact wanted
  case mode =>
    rw [final]
    exact sameFlags
  case uks =>
    rw [final]
    change (start.uks.map placeSubset).map placeLast = _
    rw [sameUks, map_map, map_map]
    rfl
  case objects =>
    intro build
    exact (lastWrote _).objects.trans (subsetWrote _).objects
  case common =>
    rw [final]
    change sb.map ScriptItem.inputs = _
    rw [items]
    change start.commonToAll.values.flatMap (commonInputs start.flags) = _
    rw [sameCommon, sameFlags]
  case own =>
    intro build
    have first := (subsetWrote (Unikernel.ofBuild build)).written
    have second := (lastWrote (placeSubset (Unikernel.ofBuild build))).written
    rw [(lastWrote _).others "subset" (by decide), first, second,
      (subsetWrote _).objects, (subsetWrote _).others "individual" (by decide)]
    change (keptLibs build.listing.keys
        (start.commonSubset.sortBy UkManager.byOccurence).values).flatMap (ownInputs start.flags) ++
      (keptLibs build.listing.keys start.indivial.values).flatMap (ownInputs start.flags) = _
    rw [sameSubset, sameIndividual, sameFlags, keptLibs_append, flatMap_append]
  case rodata =>
    intro lib
    rw [final]
    change lib ∈ table.keys ↔ _
    rw [rodata]
    change lib ∈ start.sbRodata.keys ∨
      start.flags.compact = false ∧ (∃ ukLib ∈ start.commonToAll.values, ukLib.name = lib) ↔ _
    rw [noRodata, sameFlags, sameCommon]
    simp
  case appRodata =>
    intro build lib
    rw [(lastWrote _).rodata, (subsetWrote _).rodata, (subsetWrote _).objects]
    change (lib ∈ ([] : List String) ∨ lib ∈ (keptLibs build.listing.keys
        (start.commonSubset.sortBy UkManager.byOccurence).values).flatMap (ownRodata start.flags)) ∨
      lib ∈ (keptLibs build.listing.keys start.indivial.values).flatMap (ownRodata start.flags) ↔ _
    rw [sameSubset, sameIndividual, sameFlags, keptLibs_append, flatMap_append, mem_append]
    simp

end Spacer.Aligner
