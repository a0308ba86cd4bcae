import Spacer.Lib.Dict
import Spacer.Lib.Pages
import Spacer.Lib.Python

/-!
The aligner (`ukManager.py`, `unikernels.py`) without ASLR.  Library sizes are
read per unikernel, merged into one table, and turned into the output sections
of every unikernel's link script.
-/

namespace Spacer.Aligner

open Lib

def pageSize : Nat := 0x1000

def roundToN (x base : Nat) : Nat :=
  if base = 0 then 0 else roundUp x base

inductive SectName
  | text
  | rodata
  | data
  | bss
  deriving DecidableEq

def SectName.label : SectName → String
  | text => ".text"
  | rodata => ".rodata"
  | data => ".data"
  | bss => ".bss"

structure SectSizes where
  text : Nat
  rodata : Nat
  data : Nat
  bss : Nat

namespace SectSizes

def get (sizes : SectSizes) : SectName → Nat
  | .text => sizes.text
  | .rodata => sizes.rodata
  | .data => sizes.data
  | .bss => sizes.bss

def zipWith (merge : Nat → Nat → Nat) (left right : SectSizes) : SectSizes :=
  ⟨merge left.text right.text, merge left.rodata right.rodata, merge left.data right.data,
    merge left.bss right.bss⟩

end SectSizes

structure UkLib where
  name : String
  totalSize : SectSizes
  occurence : Nat := 1

def UkLib.update (ukLib ukLibNew : UkLib) : UkLib where
  name := ukLib.name
  occurence := ukLib.occurence + 1
  totalSize := ukLib.totalSize.zipWith (fun old new => if old < new then new else old) ukLibNew.totalSize

structure InputSection where
  lib : String
  pattern : String
  deriving DecidableEq

/-- `output` is a placed output section.  With `--group` the common libraries are
bare inputs between one `openGroup` and one `closeGroup`. -/
inductive ScriptItem
  | output (name : String) (addr : Nat) (inputs : List InputSection)
  | openGroup (name : String) (addr : Nat)
  | grouped (inputs : List InputSection)
  | closeGroup

/-- `totalSize` is `none` while no object has been read: the source's dictionary
is then empty and looking a section up raises `KeyError`. -/
structure Unikernel where
  name : String
  locCounter : Nat := 0
  objects : List String
  totalSize : Option SectSizes
  sbLink : Dict String (List ScriptItem) := Dict.empty
  sbRodata : Dict String Nat := Dict.empty
  totalRodataSize : Nat := 0

namespace Unikernel

variable (uk : Unikernel) (typeMaps : String)

def link : List ScriptItem :=
  (uk.sbLink.get? typeMaps).getD []

def appendLink (items : List ScriptItem) : Unikernel :=
  { uk with sbLink := uk.sbLink.alter typeMaps fun old => old.getD [] ++ items }

def textItem (loc : Nat) (dce compact : Bool) (ukLib : UkLib) : ScriptItem :=
  let lib := ukLib.name
  if compact then
    if dce && occursIn "app" lib && ukLib.occurence == 1 then
      .output (".text.rodata." ++ lib) loc
        [⟨lib, ".text"⟩, ⟨lib, ".text.*"⟩, ⟨lib, ".rodata"⟩, ⟨lib, ".rodata.*"⟩]
    else
      .output (".text.rodata." ++ lib) loc [⟨lib, ".text"⟩, ⟨lib, ".rodata"⟩]
  else
    .output (".text." ++ lib) loc [⟨lib, ".text"⟩, ⟨lib, ".text.*"⟩]

def dataItem (loc : Nat) (dce : Bool) (ukLib : UkLib) : ScriptItem :=
  let lib := ukLib.name
  if dce && occursIn "app" lib && ukLib.occurence == 1 then
    .output (".data.bss." ++ lib) loc [⟨lib, ".data"⟩, ⟨lib, ".data.*"⟩, ⟨lib, ".bss"⟩, ⟨lib, ".bss.*"⟩]
  else
    .output (".data.bss." ++ lib) loc [⟨lib, ".data"⟩, ⟨lib, ".bss"⟩]

def roundLoc : Unikernel :=
  { uk with locCounter := roundToN uk.locCounter pageSize }

def placeSect (dce snapshot compact : Bool) (ukLib : UkLib)
  (uk : Unikernel) (typeSect : SectName) : Unikernel :=
  let uk :=
    if typeSect = .text then
      let uk := uk.roundLoc
      let uk := uk.appendLink typeMaps [textItem uk.locCounter dce compact ukLib]
      if compact then uk
      else
        { uk with
          sbRodata := uk.sbRodata.set ukLib.name ukLib.totalSize.rodata
          totalRodataSize := uk.totalRodataSize + ukLib.totalSize.rodata }
    else uk
  let uk :=
    if snapshot && typeSect = .data then
      let uk := uk.roundLoc
      uk.appendLink typeMaps [dataItem uk.locCounter dce ukLib]
    else uk
  { uk with locCounter := uk.locCounter + ukLib.totalSize.get typeSect }

def arraySect (snapshot compact : Bool) : List SectName :=
  if compact then [.text, .rodata]
  else if snapshot then [.text, .rodata, .data, .bss]
  else [.text]

def placeLib (dce snapshot compact : Bool) (uk : Unikernel) (ukLib : UkLib) : Unikernel :=
  if ukLib.name ∈ uk.objects then
    (arraySect snapshot compact).foldl (placeSect typeMaps dce snapshot compact ukLib) uk
  else uk

def updateLocCounter (subset : Dict String UkLib) (typeMaps : String)
  (dce snapshot compact : Bool) : Unikernel :=
  subset.values.foldl (placeLib typeMaps dce snapshot compact) (uk.appendLink typeMaps [])

def sectTotal (sect : SectName) : Except PyError Nat :=
  match uk.totalSize with
  | some sizes => .ok (sizes.get sect)
  | none => .error .keyError

end Unikernel

structure UkBuild where
  name : String
  libs : Dict String SectSizes

def UkBuild.listing (build : UkBuild) : Dict String SectSizes :=
  build.libs.sortBy fun left right => left.1 ++ ".o" ≤ right.1 ++ ".o"

def mergeLib (name : String) (totalSize : SectSizes) : Option UkLib → UkLib
  | none => { name, totalSize }
  | some ukLib => ukLib.update { name, totalSize }

def registerLib (globalMaps : Dict String UkLib) (lib : String × SectSizes) : Dict String UkLib :=
  globalMaps.alter lib.1 (mergeLib lib.1 lib.2)

def incrementSect (total : Option SectSizes) (lib : String × SectSizes) : Option SectSizes :=
  match total with
  | none => some lib.2
  | some sizes => some (sizes.zipWith (· + ·) lib.2)

def Unikernel.ofBuild (build : UkBuild) : Unikernel where
  name := build.name
  objects := build.listing.keys
  totalSize := build.listing.entries.foldl incrementSect none

structure Flags where
  dce : Bool
  compact : Bool
  snapshot : Bool
  groupCommon : Bool

structure UkManager where
  flags : Flags
  locCounter : Nat
  uks : List Unikernel := []
  globalMaps : Dict String UkLib := Dict.empty
  commonToAll : Dict String UkLib := Dict.empty
  commonSubset : Dict String UkLib := Dict.empty
  indivial : Dict String UkLib := Dict.empty
  locSect : Dict String Nat := Dict.empty
  sbLinkCommon : List ScriptItem := []
  sbRodata : Dict String Nat := Dict.empty
  totalRodataSize : Nat := 0

namespace UkManager

variable (manager : UkManager)

def processBuildFolder (build : UkBuild) : UkManager :=
  { manager with
    uks := manager.uks ++ [Unikernel.ofBuild build]
    globalMaps := build.listing.entries.foldl registerLib manager.globalMaps }

def processFolder (builds : List UkBuild) : UkManager :=
  builds.foldl processBuildFolder manager

def sortRank (key : String) : Nat :=
  if startsWith key "app" then 0
  else if startsWith key "libtest" then 1
  else 2

def customSortLe (left right : String × UkLib) : Prop :=
  sortRank left.1 < sortRank right.1 ∨ sortRank left.1 = sortRank right.1 ∧ left.1 ≤ right.1

instance : DecidableRel customSortLe := fun left right => by
  unfold customSortLe
  infer_instance

def processMaps : UkManager :=
  let count := manager.uks.length
  { manager with
    commonToAll := manager.globalMaps.filter fun entry => entry.2.occurence = count
    commonSubset := manager.globalMaps.filter fun entry =>
      entry.2.occurence ≠ count ∧ 1 < entry.2.occurence
    indivial := (manager.globalMaps.filter fun entry =>
      entry.2.occurence ≠ count ∧ ¬1 < entry.2.occurence).sortBy customSortLe }

def arrayItem (arraySect : List SectName) (index : Nat) : Except PyError SectName :=
  match arraySect[index]? with
  | some typeSect => .ok typeSect
  | none => .error .indexError

variable (ukLib : UkLib)

def commonItem (arraySect : List SectName) : Except PyError ScriptItem := do
  let first ← arrayItem arraySect 0
  if manager.flags.groupCommon then
    let second ← arrayItem arraySect 1
    pure (.grouped [⟨ukLib.name, first.label⟩, ⟨ukLib.name, second.label⟩])
  else if manager.flags.compact then
    let second ← arrayItem arraySect 1
    pure (.output (String.join (arraySect.map SectName.label) ++ "." ++ ukLib.name)
      manager.locCounter [⟨ukLib.name, first.label⟩, ⟨ukLib.name, second.label⟩])
  else
    pure (.output (first.label ++ "." ++ ukLib.name) manager.locCounter [⟨ukLib.name, first.label⟩])

def advanceLoc (loc : Nat) (typeSect : SectName) : Nat :=
  if ukLib.totalSize.get typeSect = 0 then loc else loc + ukLib.totalSize.get typeSect

def computeCommonLoc (sb : List ScriptItem)
  (arraySect : List SectName) : Except PyError (UkManager × List ScriptItem) := do
  let item ← manager.commonItem ukLib arraySect
  let loc := arraySect.foldl (advanceLoc ukLib) manager.locCounter
  let manager :=
    { manager with locCounter := if manager.flags.groupCommon then loc else roundToN loc pageSize }
  if manager.flags.compact then
    pure (manager, sb ++ [item])
  else
    pure ({ manager with
      sbRodata := manager.sbRodata.set ukLib.name ukLib.totalSize.rodata
      totalRodataSize := manager.totalRodataSize + ukLib.totalSize.rodata }, sb ++ [item])

def commonLib (state : UkManager × List ScriptItem) (ukLib : UkLib) :
  Except PyError (UkManager × List ScriptItem) := do
  let (manager, sb) := state
  let (manager, sb) ← manager.computeCommonLoc ukLib sb
    (if manager.flags.compact then [.text, .rodata] else [.text])
  if manager.flags.snapshot then
    manager.computeCommonLoc ukLib sb [.data, .bss]
  else
    pure (manager, sb)

def lookupLoc (name : String) : Except PyError Nat :=
  match manager.locSect.get? name with
  | some loc => .ok loc
  | none => .error .keyError

def processCommonToAll : Except PyError (UkManager × List ScriptItem) := do
  let opening ←
    if manager.flags.groupCommon then do
      let ectors ← manager.lookupLoc "_ectors"
      pure [ScriptItem.openGroup ".text.rodata.common" (ectors + pageSize)]
    else pure []
  let (manager, sb) ← manager.commonToAll.values.foldlM commonLib (manager, opening)
  pure (manager, if manager.flags.groupCommon then sb ++ [.closeGroup] else sb)

def maxOf : List Nat → Except PyError Nat
  | [] => .error .valueError
  | first :: rest => .ok (rest.foldl max first)

def computeLoc (subset : Dict String UkLib) (typeMaps : String) : Except PyError UkManager := do
  if subset.entries.isEmpty then
    pure manager
  else
    let flags := manager.flags
    let loc := roundToN manager.locCounter pageSize
    let uks := manager.uks.map fun uk =>
      Unikernel.updateLocCounter { uk with locCounter := loc } subset typeMaps
        flags.dce flags.snapshot flags.compact
    let last ← maxOf (uks.map Unikernel.locCounter)
    pure { manager with uks, locCounter := last }

def reserve (name : String) (size : Nat) : UkManager :=
  { manager with
    locSect := manager.locSect.set name manager.locCounter
    locCounter := manager.locCounter + size }

def windowGap (flags : Flags) (sect : SectName) : Nat :=
  if flags.dce && sect = .bss then pageSize else 0

def placeWindow (sect : SectName) : Except PyError UkManager := do
  let manager :=
    { manager with locCounter := manager.locCounter + windowGap manager.flags sect }
  let sizes ← manager.uks.mapM fun uk => uk.sectTotal sect
  let largest ← maxOf sizes
  pure (manager.reserve sect.label (roundToN largest pageSize))

def roundLoc : UkManager :=
  { manager with locCounter := roundToN manager.locCounter pageSize }

def placeWindows : Except PyError UkManager := do
  let dsection : List SectName :=
    if manager.flags.compact then [.data, .bss] else [.rodata, .data, .bss]
  if manager.flags.snapshot then
    pure manager
  else
    let manager ← dsection.foldlM placeWindow manager
    pure manager.roundLoc

def byOccurence (left right : String × UkLib) : Prop :=
  right.2.occurence ≤ left.2.occurence

instance : DecidableRel byOccurence := fun left right =>
  inferInstanceAs (Decidable (right.2.occurence ≤ left.2.occurence))

def placeIntrstack : UkManager :=
  { manager with locSect := manager.locSect.set ".intrstack" manager.locCounter }

def updateLinkFileSpacer : Except PyError UkManager := do
  let manager := ["_ctors", ".init_array", "_ectors"].foldl
    (fun manager name => manager.reserve name pageSize) manager
  let (manager, sb) ← manager.processCommonToAll
  let manager :=
    { manager with
      sbLinkCommon := sb
      commonSubset := manager.commonSubset.sortBy byOccurence }
  let manager ← manager.computeLoc manager.commonSubset "subset"
  let manager ← manager.computeLoc manager.indivial "individual"
  let manager ← manager.roundLoc.placeWindows
  pure manager.placeIntrstack

/-- The library part of a unikernel's link script, as `process_link64_spacer`
concatenates it. -/
def libraryItems (uk : Unikernel) : List ScriptItem :=
  manager.sbLinkCommon ++ uk.link "subset" ++ uk.link "individual"

end UkManager

/-- `process_folder`, `process_maps`, `update_link_file` with `aslr = 0`. -/
def align (flags : Flags) (loc : Nat) (builds : List UkBuild) : Except PyError UkManager :=
  let manager : UkManager := { flags, locCounter := loc }
  ((manager.processFolder builds).processMaps).updateLinkFileSpacer

def ScriptItem.start? (lib : String) : ScriptItem → Option Nat
  | output _ addr inputs => if inputs.any (·.lib = lib) then some addr else none
  | _ => none

def startAddress (items : List ScriptItem) (lib : String) : Option Nat :=
  items.findSome? (ScriptItem.start? lib)

end Spacer.Aligner
