import Spacer.Aligner.Aslr
import Spacer.Aligner.Once

/-! What the link scripts of `update_link_file_aslr` place. -/

namespace Spacer.Aligner

open Lib List

def BlockItem.places (lib : String) (sect : SectName) : BlockItem → Bool
  | ind _ _ => false
  | output _ _ contents => contents.contains (.input ⟨lib, sect.label⟩)

def AslrPiece.places (lib : String) (sect : SectName) : AslrPiece → Bool
  | kept piece => piece.places lib sect
  | item block => block.places lib sect

def AslrPiece.isWildcard : AslrPiece → Bool
  | kept (.wildcard _ _) => true
  | _ => false

def beforeWildcards (script : List AslrPiece) : List AslrPiece :=
  script.takeWhile fun piece => !piece.isWildcard

section

variable (flags : Flags) (settings : AslrSettings) (mapsSizeLibs : Dict String Nat) (uk : Unikernel)

def dropped (compact : Bool) (name lib : String) : Bool :=
  (occursIn "liblwip" lib && (excludeAppLwip compact).contains name) ||
    occursIn "app" lib || lib == "libcxx"

def libBlock (lib : String) : List BlockItem :=
  let sizeInd := sizeIndOf mapsSizeLibs lib
  if lib ∉ looseLibs then plainItems flags sizeInd lib ++ dataItems flags.compact true lib
  else if lib = "libcxxabi" then cxxItems sizeInd
  else looseItems sizeInd lib ++ dataItems flags.compact true lib

def libBlocks (lib : String) : List (List BlockItem) :=
  if dropped flags.compact uk.name lib then [] else [libBlock flags mapsSizeLibs lib]

theorem addLib_libs : (addLib flags settings mapsSizeLibs uk blocks lib).libs =
    blocks.libs ++ libBlocks flags mapsSizeLibs uk lib := by
  rw [addLib, libBlocks, dropped]
  cases skipped : occursIn "liblwip" lib && (excludeAppLwip flags.compact).contains uk.name with
  | true => simp
  | false =>
    cases app : occursIn "app" lib with
    | true => simp [aggregatedSameSection, app]
    | false =>
      by_cases cxx : lib = "libcxx"
      · subst cxx
        simp [aggregatedSameSection, app, looseLibs]
      by_cases loose : lib ∈ looseLibs
      · by_cases abi : lib = "libcxxabi"
        · subst abi
          simp [aggregatedSameSection, libBlock, app, loose]
        · simp [aggregatedSameSection, libBlock, app, cxx, loose, abi]
      · simp [aggregatedSameSection, libBlock, app, cxx, loose]

theorem ukBlocks_eq : ukBlocks flags settings mapsSizeLibs uk =
    uk.objects.flatMap (libBlocks flags mapsSizeLibs uk) ++ [[]] := by
  have collected : ∀ (libs : List String) (blocks : Blocks),
      (libs.foldl (addLib flags settings mapsSizeLibs uk) blocks).libs =
        blocks.libs ++ libs.flatMap (libBlocks flags mapsSizeLibs uk) := by
    intro libs
    induction libs with
    | nil => simp
    | cons lib rest ih =>
      intro blocks
      rw [foldl_cons, ih, addLib_libs, flatMap_cons, append_assoc]
  rw [ukBlocks, collected]
  simp

end

@[simp] theorem mem_inputs (lib other pattern : String) (patterns : List String) :
  Content.input ⟨other, pattern⟩ ∈ inputs lib patterns ↔ lib = other ∧ pattern ∈ patterns := by
  simp only [inputs, mem_map, Content.input.injEq, InputSection.mk.injEq]
  constructor
  · rintro ⟨_, member, same, rfl⟩
    exact ⟨same, member⟩
  rintro ⟨same, member⟩
  exact ⟨pattern, member, same, rfl⟩

theorem countP_dataItems : (dataItems compact aligned lib).countP (BlockItem.places lib sect) =
    if sect = .data ∨ sect = .bss then 1 else 0 := by
  cases compact <;> cases sect <;> simp [dataItems, BlockItem.places, SectName.label]

theorem countP_plainItems (flags : Flags) :
  (plainItems flags sizeInd lib).countP (BlockItem.places lib sect) =
    if sect = .data ∨ sect = .bss then 0 else 1 := by
  by_cases small : lib = "libuklock" ∨ lib = "liblambda" <;> cases compact : flags.compact <;>
    cases sect <;> simp [plainItems, BlockItem.places, SectName.label, small, compact]

theorem countP_looseItems : (looseItems sizeInd lib).countP (BlockItem.places lib sect) =
    if sect = .data ∨ sect = .bss then 0 else 1 := by
  cases sect <;> simp [looseItems, BlockItem.places, SectName.label]

theorem countP_cxxItems : (cxxItems sizeInd).countP (BlockItem.places lib sect) =
    if lib = "libcxxabi" ∨ lib = "libcxx" then 1 else 0 := by
  by_cases abi : lib = "libcxxabi"
  · cases sect <;> simp [cxxItems, BlockItem.places, SectName.label, abi]
  by_cases cxx : lib = "libcxx"
  · cases sect <;> simp [cxxItems, BlockItem.places, SectName.label, cxx]
  cases sect <;> simp [cxxItems, BlockItem.places, SectName.label, abi, cxx, Ne.symm abi, Ne.symm cxx]

theorem countP_libBlock : (libBlock flags mapsSizeLibs lib).countP (BlockItem.places lib sect) = 1 := by
  rw [libBlock]
  split
  · rw [countP_append, countP_plainItems, countP_dataItems]
    split <;> rfl
  split
  · rename_i abi
    rw [countP_cxxItems, if_pos (.inl abi)]
  rw [countP_append, countP_looseItems, countP_dataItems]
  split <;> rfl

theorem countP_libBlock_other (differs : other ≠ lib) (partner : ¬(other = "libcxxabi" ∧ lib = "libcxx"))
  (sect : SectName) : (libBlock flags mapsSizeLibs other).countP (BlockItem.places lib sect) = 0 := by
  have data : (dataItems flags.compact true other).countP (BlockItem.places lib sect) = 0 := by
    cases compact : flags.compact <;> simp [dataItems, BlockItem.places, differs]
  rw [libBlock]
  split
  · rw [countP_append, data]
    by_cases small : other = "libuklock" ∨ other = "liblambda" <;>
      cases compact : flags.compact <;>
      simp [plainItems, BlockItem.places, small, compact, differs]
  split
  · rename_i abi
    rw [countP_cxxItems, if_neg]
    rintro (same | cxx)
    · exact differs (abi.trans same.symm)
    · exact partner ⟨abi, cxx⟩
  rw [countP_append, data]
  simp [looseItems, BlockItem.places, differs]

def holder (lib : String) : String := if lib = "libcxx" then "libcxxabi" else lib

theorem countP_libBlocks (uk : Unikernel) :
  (libBlocks flags mapsSizeLibs uk other).flatten.countP (BlockItem.places lib sect) =
    if other = holder lib ∧ dropped flags.compact uk.name other = false then 1 else 0 := by
  rw [libBlocks, holder]
  cases out : dropped flags.compact uk.name other with
  | true => simp
  | false =>
    simp only [Bool.false_eq_true, ↓reduceIte, and_true, flatten_singleton]
    have notCxx : other ≠ "libcxx" := by
      rintro rfl
      simp [dropped] at out
    by_cases cxx : lib = "libcxx"
    · rw [if_pos cxx]
      by_cases abi : other = "libcxxabi"
      · rw [if_pos abi, abi, libBlock, if_neg (by decide), if_pos rfl, countP_cxxItems,
          if_pos (.inr cxx)]
      rw [if_neg abi]
      exact countP_libBlock_other (fun same => notCxx (same.trans cxx)) (fun pair => abi pair.1) sect
    rw [if_neg cxx]
    by_cases same : other = lib
    · rw [if_pos same, same, countP_libBlock]
    rw [if_neg same]
    exact countP_libBlock_other same (fun pair => cxx pair.2) sect

theorem countP_ukBlocks (settings : AslrSettings) (distinct : uk.objects.Nodup) (lib : String)
  (sect : SectName) :
  (ukBlocks flags settings mapsSizeLibs uk).flatten.countP (BlockItem.places lib sect) =
    if holder lib ∈ uk.objects ∧ dropped flags.compact uk.name (holder lib) = false then 1
    else 0 := by
  have blocks : (ukBlocks flags settings mapsSizeLibs uk).flatten =
      uk.objects.flatMap fun other => (libBlocks flags mapsSizeLibs uk other).flatten := by
    rw [ukBlocks_eq, flatten_append, flatMap_def, flatMap_def]
    simp [flatten_flatten, Function.comp_def]
  have alone : ∀ other, other ≠ holder lib → other ∈ uk.objects →
      (libBlocks flags mapsSizeLibs uk other).flatten.countP (BlockItem.places lib sect) = 0 := by
    intro other differs _
    rw [countP_libBlocks, if_neg fun held => differs held.1]
  rw [blocks, countP_flatMap, Function.comp_def, sum_map_eq_nsmul_single (holder lib) _ alone]
  by_cases member : holder lib ∈ uk.objects
  · rw [count_eq_one_of_mem distinct member, countP_libBlocks]
    simp [member]
  rw [count_eq_zero_of_not_mem member]
  simp [member]

section

variable {flags : Flags} {settings : AslrSettings} {mapsSizeLibs : Dict String Nat}

def AslrPiece.Neutral (piece : AslrPiece) : Prop :=
  (∀ lib sect, piece.places lib sect = false) ∧ piece.isWildcard = false

variable (settings)

def aslrTail : List AslrPiece :=
  ([.text ". = ALIGN((1 << 12));\n_etext = .;\n_erodata = .;\n_data = .;\n",
    UkManager.dataPiece, .text "_edata = .;\n. = ALIGN((1 << 12));\n__bss_start  = .;\n",
    UkManager.bssPiece] ++ (if settings.usego then [gccExceptTable] else []) ++
    UkManager.tailPieces).map .kept

theorem neutral_text (quiet : Quiet l) : (AslrPiece.kept (.text l)).Neutral :=
  ⟨fun _ sect => quiet sect, rfl⟩

theorem neutral_textStart (manager : UkManager) (quiet : Quiet l) :
  ∀ piece ∈ (manager.textStart l).map AslrPiece.kept, piece.Neutral := by
  intro piece member
  obtain ⟨kept, inside, rfl⟩ := mem_map.mp member
  refine ⟨fun lib sect => idle_textStart manager quiet kept inside lib sect, ?_⟩
  simp only [UkManager.textStart, mem_append, mem_singleton] at inside
  rcases inside with (rfl | started) | rfl
  · rfl
  · split at started
    · rw [mem_singleton.mp started]
      rfl
    · cases started
  · rfl

variable (flags)

theorem script_shape (marked : Marked { flags, locCounter := 0, locSect })
  (unplaced : locSect.get? ".intrstack" = none) (template : LinkTemplate) :
  ∃ front : List AslrPiece, (∀ piece ∈ front, piece.Neutral) ∧
    ∀ (manager : UkManager), manager.flags = flags → manager.locSect = locSect →
    ∀ (settings : AslrSettings) (common : List AslrPiece) (uk : Unikernel), uk.sbLink = Dict.empty →
      manager.processLink64Aslr settings common template.lines uk =
        .ok (some (front ++ common ++ aslrTail settings)) := by
  obtain ⟨before, after, more, beforeHarmless, afterHarmless, split⟩ :=
    @split_template _ true marked template
  let strSb := replaceText (joinLines (before ++ rodataBlock ++ after)) rodataPattern ""
  have quiet : Quiet strSb := quiet_keptText beforeHarmless afterHarmless
  have reached : ∃ l ∈ template.head ++ more, endsText l = true := by
    obtain ⟨l, member, ends⟩ := template.head_text
    exact ⟨l, mem_append_left _ member, ends⟩
  obtain ⟨texts, neutral, emitted⟩ := @emitWith_head AslrPiece
    (fun l => (UkManager.textStart { flags, locCounter := 0, locSect } l).map AslrPiece.kept)
    (.kept ∘ .text) AslrPiece.Neutral (fun l quiet => neutral_text quiet)
    (fun l quiet => neutral_textStart _ quiet) _ reached
  refine ⟨texts ++ [.kept (.text ".ind.text : \x7b BYTE(1);. += 0x47-1; \x7d\n"),
    .kept (.text strSb)], ?_, ?_⟩
  · simp only [forall_mem_append, forall_mem_cons]
    exact ⟨neutral, neutral_text (by decide), neutral_text quiet, by simp⟩
  rintro manager rfl rfl settings common uk fresh
  have links : ∀ typeMaps, uk.link typeMaps = [] := fun typeMaps => by simp [Unikernel.link, fresh]
  have sections : manager.aslrPieces settings common uk strSb =
      .ok ([.kept (.text ".ind.text : \x7b BYTE(1);. += 0x47-1; \x7d\n"), .kept (.text strSb)] ++
        common ++ aslrTail settings) := by
    cases go : settings.usego <;>
      simp [UkManager.aslrPieces, UkManager.aslrSections, UkManager.sectionPieces, unplaced,
        links, aslrTail, go, bind, Except.bind, pure, Except.pure]
  have lines : template.lines.foldlM (manager.splitLineAt true) {} =
      .ok ⟨false, before ++ rodataBlock ++ after, template.head ++ more⟩ := split
  rw [UkManager.processLink64Aslr, bind_of_ok lines]
  refine (emitted _ _ sections).trans ?_
  simp only [append_assoc]

def aslrStart (loc : Nat) : UkManager :=
  ["_ctors", ".init_array", "_ectors"].foldl
    (fun manager name => manager.reserve name pageSize) { flags, locCounter := loc }

def blockOrder (shuffle : Nat → List (List BlockItem) → List (List BlockItem)) (index : Nat)
  (libs : List (List BlockItem)) : List (List BlockItem) :=
  if settings.shuffled then shuffle index libs else libs

def buildBlocks (mapsSizeLibs : Dict String Nat) (build : UkBuild) : List (List BlockItem) :=
  ukBlocks flags settings mapsSizeLibs (Unikernel.ofBuild build)

def scriptAround (loc : Nat) (front : List AslrPiece) (libs : List (List BlockItem)) : List AslrPiece :=
  front ++ (.kept (.assign (aslrStart flags loc).locCounter) :: libs.flatten.map .item) ++ aslrTail settings

variable {flags}

structure Fronts (flags : Flags) (loc : Nat) (template : String → LinkTemplate)
  (front : String → List AslrPiece) : Prop where
  neutral : ∀ name, ∀ piece ∈ front name, piece.Neutral
  script : ∀ name (manager : UkManager), manager.flags = flags →
    manager.locSect = (aslrStart flags loc).locSect →
    ∀ (settings : AslrSettings) (common : List AslrPiece) (uk : Unikernel), uk.sbLink = Dict.empty →
      manager.processLink64Aslr settings common (template name).lines uk =
        .ok (some (front name ++ common ++ aslrTail settings))

theorem exists_fronts (flags : Flags) (loc : Nat) (template : String → LinkTemplate) :
  ∃ front, Fronts flags loc template front := by
  have marked : Marked { flags, locCounter := 0, locSect := (aslrStart flags loc).locSect } := by
    refine ⟨?_, ?_, ?_⟩ <;> simp [aslrStart, UkManager.reserve]
  have unplaced : (aslrStart flags loc).locSect.get? ".intrstack" = none := by
    simp [aslrStart, UkManager.reserve]
  choose front neutral script using fun name => script_shape flags marked unplaced (template name)
  exact ⟨front, neutral, script⟩

variable {loc : Nat} {template : String → LinkTemplate} {front : String → List AslrPiece}
  {shuffle : Nat → List (List BlockItem) → List (List BlockItem)} {settings}

theorem link_scripts (fronts : Fronts flags loc template front) (builds : List UkBuild)
  (run : AslrRun) (mode : run.manager.flags = flags)
  (placed : run.manager.locSect = (aslrStart flags loc).locSect)
  (counter : run.manager.locCounter = (aslrStart flags loc).locCounter) :
  ∃ last, (builds.map Unikernel.ofBuild).foldlM
      (AslrRun.link settings mapsSizeLibs shuffle fun name => (template name).lines) run = .ok last ∧
    last.scripts = run.scripts ++ builds.mapIdx fun index build =>
      some (scriptAround flags settings loc (front build.name)
        (blockOrder settings shuffle (run.scripts.length + index)
          (buildBlocks flags settings mapsSizeLibs build))) := by
  induction builds generalizing run with
  | nil => exact ⟨run, rfl, by simp⟩
  | cons build rest ih =>
    let order := blockOrder settings shuffle run.scripts.length
      (buildBlocks flags settings mapsSizeLibs build)
    let common := .kept (.assign (aslrStart flags loc).locCounter) :: order.flatten.map AslrPiece.item
    let next : AslrRun := ⟨run.manager, common, run.scripts ++
      [some (front build.name ++ common ++ aslrTail settings)]⟩
    have step : AslrRun.link settings mapsSizeLibs shuffle (fun name => (template name).lines)
        run (Unikernel.ofBuild build) = .ok next := by
      simp only [AslrRun.link, mode, counter]
      rw [bind_of_ok (fronts.script _ run.manager mode placed settings _ _ rfl)]
      rfl
    obtain ⟨last, rests, scripts⟩ := ih next mode placed counter
    have shifted : ∀ index, next.scripts.length + index = run.scripts.length + (index + 1) := by
      simp only [next, length_append, length_singleton]
      omega
    refine ⟨last, ?_, ?_⟩
    · rw [map_cons, foldlM_cons, bind_of_ok step, rests]
    simp only [scripts, mapIdx_cons, shifted]
    simp [next, common, order, scriptAround]

theorem alignAslr_scripts (fronts : Fronts flags loc template front) (settings : AslrSettings)
  (mapsSizeLibs : Dict String Nat)
  (shuffle : Nat → List (List BlockItem) → List (List BlockItem)) (builds : List UkBuild) :
  ∃ run, alignAslr settings mapsSizeLibs shuffle (fun name => (template name).lines) flags loc
      builds = .ok run ∧
    run.scripts = builds.mapIdx fun index build =>
      some (scriptAround flags settings loc (front build.name)
        (blockOrder settings shuffle index (buildBlocks flags settings mapsSizeLibs build))) := by
  let manager := ["_ctors", ".init_array", "_ectors"].foldl
    (fun manager name => UkManager.reserve manager name pageSize)
    (UkManager.processFolder { flags, locCounter := loc } builds).processMaps
  have uks : manager.uks = builds.map Unikernel.ofBuild := by
    simp [manager, processFolder_spec, UkManager.processMaps, UkManager.reserve]
  obtain ⟨run, linked, scripts⟩ := @link_scripts flags settings mapsSizeLibs loc template front
    shuffle fronts builds ⟨manager, [], []⟩
    (by simp [manager, processFolder_spec, UkManager.processMaps, UkManager.reserve])
    (by simp [manager, aslrStart, processFolder_spec, UkManager.processMaps, UkManager.reserve])
    (by simp [manager, aslrStart, processFolder_spec, UkManager.processMaps, UkManager.reserve])
  rw [← uks] at linked
  exact ⟨run, linked, by simpa using scripts⟩

theorem countP_aslrTail (settings : AslrSettings) (lib : String) (loose : sect = .text ∨ sect = .rodata) :
  (aslrTail settings).countP (AslrPiece.places lib sect) = 0 := by
  have except : (if settings.usego then [gccExceptTable] else []).countP (Piece.places lib sect) = 0 := by
    split
    · cases sect <;> simp [gccExceptTable, Piece.places, SectName.label]
    · rfl
  rw [aslrTail, countP_map]
  change List.countP (Piece.places lib sect) _ = 0
  rw [countP_append, countP_append, except, countP_tailPieces]
  rcases loose with rfl | rfl <;> rfl

theorem countP_beforeTail (settings : AslrSettings) :
  (beforeWildcards (aslrTail settings)).countP (AslrPiece.places lib sect) = 0 := by
  cases sect <;> rfl

theorem countP_neutral {pieces : List AslrPiece} (neutral : ∀ piece ∈ pieces, piece.Neutral)
  : pieces.countP (AslrPiece.places lib sect) = 0 := by
  rw [countP_eq_zero]
  intro piece member
  rw [(neutral piece member).1 lib sect]
  exact Bool.false_ne_true

theorem countP_blocks (libs : List (List BlockItem)) :
  (libs.flatten.map AslrPiece.item).countP (AslrPiece.places lib sect) =
    libs.flatten.countP (BlockItem.places lib sect) := by
  rw [countP_map]
  rfl

theorem beforeWildcards_append (clear : ∀ piece ∈ left, piece.isWildcard = false) :
  beforeWildcards (left ++ right) = left ++ beforeWildcards right :=
  takeWhile_append_of_pos fun piece member => by simp [clear piece member]

theorem countP_scriptAround {front : List AslrPiece} (neutral : ∀ piece ∈ front, piece.Neutral)
  (loose : sect = .text ∨ sect = .rodata) :
  (scriptAround flags settings loc front libs).countP (AslrPiece.places lib sect) =
    libs.flatten.countP (BlockItem.places lib sect) := by
  rw [scriptAround, countP_append, countP_append, countP_neutral neutral,
    countP_aslrTail settings lib loose, countP_cons, countP_blocks]
  simp [AslrPiece.places, Piece.places]

theorem countP_beforeWildcards {front : List AslrPiece} (neutral : ∀ piece ∈ front, piece.Neutral) :
  (beforeWildcards (scriptAround flags settings loc front libs)).countP (AslrPiece.places lib sect) =
    libs.flatten.countP (BlockItem.places lib sect) := by
  have clear : ∀ piece ∈ front ++ (.kept (.assign (aslrStart flags loc).locCounter) ::
      libs.flatten.map AslrPiece.item), piece.isWildcard = false := by
    simp only [forall_mem_append, forall_mem_cons, forall_mem_map]
    exact ⟨fun piece member => (neutral piece member).2, rfl, fun _ _ => rfl⟩
  rw [scriptAround, beforeWildcards_append clear, countP_append, countP_append,
    countP_neutral neutral, countP_beforeTail, countP_cons, countP_blocks]
  simp [AslrPiece.places, Piece.places]

end

section

/-- `liblwip` of the applications without network is left out on purpose. -/
def exempt (name lib : String) : Prop := lib = "liblwip" ∧ name ∈ lwipFreeApps

variable (flags : Flags) (settings : AslrSettings) (mapsSizeLibs : Dict String Nat)
  (shuffle : Nat → List (List BlockItem) → List (List BlockItem))
  (template : String → LinkTemplate) (loc : Nat)

/-- `own`: the unikernel linked alone gets the same script.  `permuted`: without the shuffle
the script differs in the order of the blocks only. -/
structure ScriptSound (builds : List UkBuild) (index : Nat) (build : UkBuild)
  (script : List AslrPiece) : Prop where
  placed : ∀ lib, build.contains lib = true → ¬exempt build.name lib →
    ∀ sect : SectName, sect = .text ∨ sect = .rodata → script.countP (AslrPiece.places lib sect) = 1
  loose : ∀ lib, build.contains lib = true → ∀ sect : SectName, sect = .data ∨ sect = .bss →
    (beforeWildcards script).countP (AslrPiece.places lib sect) ≤ 1
  own : ∃ run, alignAslr settings mapsSizeLibs (fun _ => shuffle index)
      (fun name => (template name).lines) flags loc [build] = .ok run ∧
    run.scripts = [some script]
  permuted : settings.shuffled = true → ∃ front back, ∃ order : List (List BlockItem), ∃ run,
    order.Perm (buildBlocks flags settings mapsSizeLibs build) ∧
    script = front ++ order.flatten.map .item ++ back ∧
    alignAslr { settings with shuffled := false } mapsSizeLibs shuffle
      (fun name => (template name).lines) flags loc builds = .ok run ∧
    run.scripts[index]? = some (some (front ++
      (buildBlocks flags settings mapsSizeLibs build).flatten.map .item ++ back))

def ScriptsSound (builds : List UkBuild) : Prop :=
  ∃ run, alignAslr settings mapsSizeLibs shuffle (fun name => (template name).lines) flags loc
      builds = .ok run ∧
    run.scripts.length = builds.length ∧
    ∀ index build, builds[index]? = some build → ∃ script, run.scripts[index]? = some (some script) ∧
      ScriptSound flags settings mapsSizeLibs shuffle template loc builds index build script

def HasBlock (flags : Flags) (build : UkBuild) (lib : String) : Prop :=
  occursIn "app" lib = false ∧ (lib = "libcxx" → build.contains "libcxxabi" = true) ∧
    ¬(flags.compact = true ∧ occursIn "liblwip" lib = true ∧ build.name ∈ lwipFreeApps)

instance (flags : Flags) (build : UkBuild) (lib : String) : Decidable (HasBlock flags build lib) :=
  inferInstanceAs (Decidable (_ ∧ _))

theorem hasBlock_iff {flags : Flags} (held : build.contains lib = true) :
  (holder lib ∈ (Unikernel.ofBuild build).objects ∧
      dropped flags.compact build.name (holder lib) = false) ↔ HasBlock flags build lib := by
  have objects : ∀ name, name ∈ (Unikernel.ofBuild build).objects ↔
      build.contains name = true := fun name => (build.contains_iff name).symm
  have excluded : (excludeAppLwip flags.compact).contains build.name = true ↔
      flags.compact = true ∧ build.name ∈ lwipFreeApps := by
    cases compact : flags.compact <;> simp [excludeAppLwip]
  by_cases cxx : lib = "libcxx"
  · subst cxx
    have plain : dropped flags.compact build.name "libcxxabi" = false := by
      have names : occursIn "liblwip" "libcxxabi" = false ∧ occursIn "app" "libcxxabi" = false := by
        decide
      simp [dropped, names]
    have named : occursIn "app" "libcxx" = false ∧ occursIn "liblwip" "libcxx" = false := by decide
    simp [holder, HasBlock, objects, plain, named]
  have same : holder lib = lib := if_neg cxx
  have kept : (excludeAppLwip flags.compact).contains build.name = false ↔
      ¬(flags.compact = true ∧ build.name ∈ lwipFreeApps) := by
    rw [← excluded, Bool.not_eq_true]
  rw [same, objects, dropped, HasBlock]
  cases app : occursIn "app" lib with
  | true => simp
  | false =>
    cases lwip : occursIn "liblwip" lib with
    | true =>
      rw [Bool.true_and, Bool.or_false, Bool.or_eq_false_iff, kept]
      simp [held, cxx]
    | false => simp [held, cxx]

variable (fair : ∀ index libs, (shuffle index libs).Perm libs)
include fair

theorem countP_order (index : Nat) (build : UkBuild) (lib : String) (sect : SectName) :
  (blockOrder settings shuffle index (buildBlocks flags settings mapsSizeLibs build)).flatten.countP
        (BlockItem.places lib sect) =
    if holder lib ∈ (Unikernel.ofBuild build).objects ∧
      dropped flags.compact build.name (holder lib) = false then 1 else 0 := by
  have order : (blockOrder settings shuffle index (buildBlocks flags settings mapsSizeLibs build)).Perm
        (buildBlocks flags settings mapsSizeLibs build) := by
    rw [blockOrder]
    split
    · exact fair index _
    · exact List.Perm.refl _
  rw [order.flatten.countP_eq]
  exact countP_ukBlocks settings build.listing.distinct lib sect

theorem hasBlock_of_sound (sound : ScriptsSound flags settings mapsSizeLibs shuffle template loc builds)
  (member : build ∈ builds) (held : build.contains lib = true) (required : ¬exempt build.name lib) :
  HasBlock flags build lib := by
  obtain ⟨front, fronts⟩ := exists_fronts flags loc template
  obtain ⟨run, linked, scripts⟩ := alignAslr_scripts fronts settings mapsSizeLibs shuffle builds
  obtain ⟨other, same, _, each⟩ := sound
  rw [linked] at same
  cases same
  obtain ⟨index, found⟩ := getElem?_of_mem member
  obtain ⟨script, written, sound⟩ := each index build found
  rw [scripts, getElem?_mapIdx, found] at written
  cases written
  have once := sound.placed lib held required .text (.inl rfl)
  rw [countP_scriptAround (fronts.neutral _) (.inl rfl),
    countP_order flags settings mapsSizeLibs shuffle fair] at once
  rw [← hasBlock_iff held]
  by_contra missing
  rw [if_neg missing] at once
  cases once

theorem aslr_scripts_sound_iff (builds : List UkBuild) :
  ScriptsSound flags settings mapsSizeLibs shuffle template loc builds ↔
    ∀ build ∈ builds, ∀ lib, build.contains lib = true → ¬exempt build.name lib →
      HasBlock flags build lib := by
  constructor
  · intro sound build member lib held required
    exact hasBlock_of_sound flags settings mapsSizeLibs shuffle template loc fair sound member held required
  intro condition
  obtain ⟨front, fronts⟩ := exists_fronts flags loc template
  obtain ⟨run, linked, scripts⟩ := alignAslr_scripts fronts settings mapsSizeLibs shuffle builds
  have count := countP_order flags settings mapsSizeLibs shuffle fair
  refine ⟨run, linked, by simp [scripts], fun index build found => ?_⟩
  refine ⟨_, by rw [scripts, getElem?_mapIdx, found]; rfl, ?_, ?_, ?_, ?_⟩
  · intro lib held required sect loose
    rw [countP_scriptAround (fronts.neutral _) loose, count, if_pos]
    exact (hasBlock_iff held).mpr (condition build (mem_of_getElem? found) lib held required)
  · intro lib held sect _
    rw [countP_beforeWildcards (fronts.neutral _), count]
    split <;> omega
  · exact alignAslr_scripts fronts settings mapsSizeLibs (fun _ => shuffle index) [build]
  intro shuffled
  obtain ⟨unshuffled, plain, inOrder⟩ := alignAslr_scripts fronts
    { settings with shuffled := false } mapsSizeLibs shuffle builds
  refine ⟨front build.name ++ [.kept (.assign (aslrStart flags loc).locCounter)],
    aslrTail settings, shuffle index (buildBlocks flags settings mapsSizeLibs build),
    unshuffled, fair index _, ?_, plain, ?_⟩
  · simp [scriptAround, blockOrder, shuffled]
  rw [inOrder, getElem?_mapIdx, found]
  simp [scriptAround, blockOrder, buildBlocks, ukBlocks_eq, aslrTail]

omit fair

end

def aslrSettings : AslrSettings := ⟨true, false, false⟩

def mixedLibs : Dict String SectSizes :=
  ((Dict.empty.set "libcxx" ⟨0x2000, 0x100, 8, 0⟩).set "libcxxabi" ⟨0x800, 0x80, 0, 8⟩).set
    "libnolibc" ⟨0x1000, 0x40, 0, 0⟩

theorem aslr_scripts_sound_libraries :
  ScriptsSound compactFlags aslrSettings Dict.empty (fun _ => List.reverse)
    (fun _ => kvmTemplate) 0x10b000 [⟨"lib-sqlite", mixedLibs⟩, ⟨"lib-hanoi", vfsLib⟩] := by
  refine (aslr_scripts_sound_iff compactFlags aslrSettings Dict.empty (fun _ => List.reverse)
    (fun _ => kvmTemplate) 0x10b000 (fun _ libs => libs.reverse_perm) _).mpr ?_
  have listed : ∀ build ∈ [UkBuild.mk "lib-sqlite" mixedLibs, ⟨"lib-hanoi", vfsLib⟩],
      ∀ lib ∈ build.listing.keys, HasBlock compactFlags build lib := by decide +kernel
  intro build member lib held _
  exact listed build member lib ((build.contains_iff lib).mp held)

def helloLibs : Dict String SectSizes :=
  (Dict.empty.set "apphelloworld" ⟨0x400, 0x40, 0, 0⟩).set "libnolibc" ⟨0x1000, 0x40, 0, 0⟩

/-- The application is written nowhere. -/
theorem application_not_linked : ¬ScriptsSound compactFlags aslrSettings Dict.empty (fun _ => List.reverse)
    (fun _ => kvmTemplate) 0x10b000 [⟨"lib-helloworld", helloLibs⟩] := by
  intro sound
  have block := hasBlock_of_sound compactFlags aslrSettings Dict.empty (fun _ => List.reverse)
    (fun _ => kvmTemplate) 0x10b000 (fun _ libs => libs.reverse_perm) sound
    mem_cons_self (show UkBuild.contains _ "apphelloworld" = true by decide)
    (fun lwip => absurd lwip.1 (by decide))
  exact absurd block (by decide)

end Spacer.Aligner
