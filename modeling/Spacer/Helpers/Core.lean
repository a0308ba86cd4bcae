import Mathlib
import Spacer.Lib.Dict
import Spacer.Lib.Text

/-!
The section scripts under `helpers/`: the two classifications of
`check_alignment.py`, the `.sec` writer `dump_sections.py`, the `_update` writer
`elf_minimizer.py` and the pool filler `lib_extractor.py`.
-/

namespace Spacer.Helpers

open Lib

structure Section where
  name : String
  shAddr : Nat
  data : List UInt8
  addrFits : shAddr < 2 ^ 64 := by decide
  sizeFits : data.length < 2 ^ 64 := by decide
  deriving DecidableEq

def Section.shSize (s : Section) : Nat := s.data.length

def nullSection : Section := { name := "", shAddr := 0, data := [] }

def byteSection (name : String) (addr : UInt16) (byte : UInt8) : Section where
  name := name
  shAddr := addr.toNat
  data := [byte]
  addrFits := addr.toNat_lt.trans (by decide)
  sizeFits := by
    rw [List.length_singleton]
    decide

/-- A section header table: the reserved null entry, then `named`. -/
structure ElfFile where
  named : List Section

def ElfFile.iterSections (elf : ElfFile) : List Section := nullSection :: elf.named

/-! `check_alignment.process_spacer_aslr`. -/

structure DictLibs where
  commonToAll : List String
  notCommon : List String

def lower (text : String) : List Char := text.toList.map Char.toLower

def sortedLower (names : List String) : List String :=
  names.insertionSort fun left right => lower left ≤ lower right

def unclassified : List String := ["", " ", ".comment", ".shstrtab"]

def isCommon {Digest : Type} [DecidableEq Digest] (name : String) (digests : List Digest) : Bool :=
  digests.dedup.length ≤ 1 && !occursIn ".app" name && !occursIn ".data" name &&
    !([".intrstack", ".tbss", ".comment"].contains name)

def mapHexSection {Digest : Type} (sha224 : List UInt8 → Digest) (unikernels : List ElfFile) :
  Dict String (List Digest) :=
  Dict.group ((unikernels.flatMap ElfFile.iterSections).map fun s => (s.name, sha224 s.data))

def processSpacerAslr {Digest : Type} [DecidableEq Digest] (sha224 : List UInt8 → Digest)
  (unikernels : List ElfFile) : DictLibs :=
  let classified := (mapHexSection sha224 unikernels).entries.filter fun entry =>
    !unclassified.contains entry.1
  { commonToAll := sortedLower ((classified.filter fun entry => isCommon entry.1 entry.2).map
      Prod.fst)
    notCommon := sortedLower ((classified.filter fun entry => !isCommon entry.1 entry.2).map Prod.fst) }

/-! `check_alignment.process_spacer`: the classification without ASLR, by address. -/

structure LibEntry where
  name : String
  addr : String
  occurence : Nat

structure SpacerLibs where
  commonToAll : List LibEntry := []
  commonToSubset : List LibEntry := []
  notCommon : List LibEntry := []

def hexAddr (address : Nat) : String := String.ofList (hexChars address)

variable (unikernels : List ElfFile)

def mapSection : Dict Nat (List Section) :=
  Dict.group ((unikernels.flatMap ElfFile.iterSections).map fun s => (s.shAddr, s))

def identicalStep (state : Nat × Option (List UInt8)) (v : Section) : Nat × Option (List UInt8) :=
  match state.2 with
  | none => (state.1, some v.data)
  | some old => if old = v.data then (state.1 + 1, some old) else (state.1, some old)

def identicalCount (values : List Section) : Nat := (values.foldl identicalStep (1, none)).1

structure SpacerState where
  dictLibs : SpacerLibs := {}
  trackName : List String := []

def SpacerState.trackItem (entry : String → LibEntry) (state : SpacerState) (item : String) :
  SpacerState :=
  if item ∈ state.trackName then state
  else
    { dictLibs := { state.dictLibs with notCommon := state.dictLibs.notCommon ++ [entry item] }
      trackName := state.trackName ++ [item] }

def spacerStep (count : Nat) (state : SpacerState) (group : Nat × List Section) : SpacerState :=
  let (k, values) := group
  let libs := state.dictLibs
  let entry := fun name => LibEntry.mk name (hexAddr k) values.length
  let items := values.map Section.name
  if k = 0 then state
  else if 1 < values.length then
    if identicalCount values = values.length then
      if count = values.length then
        { state with
          dictLibs := { libs with commonToAll := libs.commonToAll ++ [entry (items.headD "")] } }
      else
        { state with
          dictLibs :=
            { libs with commonToSubset := libs.commonToSubset ++ [entry (items.headD "")] } }
    else items.foldl (SpacerState.trackItem entry) state
  else
    { state with dictLibs := { libs with notCommon := libs.notCommon ++ [entry (items.headD "")] } }

variable (entries : List LibEntry)

def sortedEntries : List LibEntry :=
  entries.insertionSort fun left right => lower left.name ≤ lower right.name

def processSpacer : SpacerLibs :=
  let libs := ((mapSection unikernels).entries.foldl (spacerStep unikernels.length) {}).dictLibs
  { commonToAll := sortedEntries libs.commonToAll
    commonToSubset := sortedEntries libs.commonToSubset
    notCommon := sortedEntries libs.notCommon }

/-! `dump_sections.process_file`: the `.sec` file. -/

def secExcluded : List String := [".bss", ".tbss", ".intrstack"]

variable (excluded : List String) (notCommon : List String) (s : Section)

def dumpSkips : Bool :=
  if occursIn ".ind" s.name || s.name.length == 0 || excluded.contains s.name ||
      notCommon.contains s.name then true
  else if startsWith s.name ".rodata.lib" then true
  else if occursIn ".data.bss." s.name then true
  else s.shAddr % 0x1000 != 0

def dumpLoop (excluded notCommon : List String) : Nat → List Section → List Section
  | _, [] => []
  | i, s :: rest =>
    if dumpSkips excluded notCommon s then dumpLoop excluded notCommon (i + 1) rest
    else if i > 0 && s.shAddr == 0 then []
    else s :: dumpLoop excluded notCommon (i + 1) rest

def dumpSelect (elf : ElfFile) : List Section :=
  dumpLoop excluded notCommon 0 elf.iterSections

def dumpEntry : Except PyError (List UInt8) := do
  let nameLength ← toBytes s.name.length 2
  let addr ← toBytes s.shAddr 8
  let size ← toBytes s.shSize 8
  return nameLength ++ List.replicate 6 0 ++ encodeUtf8 s.name ++ addr ++ size ++ [0]

/-- The bytes of the `.sec` file; `notCommon` is empty without ASLR. -/
def dumpSections (elf : ElfFile) : Except PyError (List UInt8) := do
  let selected := dumpSelect excluded notCommon elf
  let count ← toBytes selected.length 2
  let entries ← selected.mapM dumpEntry
  return count ++ List.replicate 6 0 ++ entries.flatten

/-! `elf_minimizer.process_file_aslr`: the `_update` file. -/

def minimizerIncluded : List String := [".data", ".bss", ".tbss", ".intrstack"]

variable (included : List String)

def minimizerTakes (notCommon : List String) (name : String) : Bool :=
  occursIn ".data" name || included.contains name || occursIn ".ind" name || notCommon.contains name

/-- `extract`: `none` for a section full of zeros. -/
def extract : Except PyError (Option (List UInt8)) :=
  if s.data.all (· == 0) then .ok none
  else do
    let nameLength ← toBytes s.name.length 2
    let size ← toBytes s.shSize 8
    let addr ← toBytes s.shAddr 8
    return some (nameLength ++ encodeUtf8 s.name ++ size ++ addr ++ s.data)

def minimizerLoop (included notCommon : List String) :
  List Section → List UInt8 → Nat → Except PyError (List UInt8 × Nat)
  | [], buffer, nbSections => .ok (buffer, nbSections)
  | s :: rest, buffer, nbSections =>
    if minimizerTakes included notCommon s.name then do
      match ← extract s with
      | some bytes => minimizerLoop included notCommon rest (buffer ++ bytes) (nbSections + 1)
      | none => minimizerLoop included notCommon rest buffer nbSections
    else minimizerLoop included notCommon rest buffer nbSections

/-- `none` when no section qualifies and no file is written. -/
def processFileAslr (notCommon : List String) (elf : ElfFile) : Except PyError (Option (List UInt8)) := do
  let (buffer, nbSections) ← minimizerLoop included notCommon elf.iterSections [] 0
  if nbSections = 0 then return none
  let count ← toBytes nbSections 1
  return some (count ++ buffer)

/-! `elf_minimizer.process_file_minimal`: the `_update_minimal` file. -/

def extractLoop (takes : String → Bool) :
  List Section → List UInt8 → Nat → Except PyError (List UInt8 × Nat)
  | [], buffer, nbSections => .ok (buffer, nbSections)
  | s :: rest, buffer, nbSections =>
    if takes s.name then do
      match ← extract s with
      | some bytes => extractLoop takes rest (buffer ++ bytes) (nbSections + 1)
      | none => extractLoop takes rest buffer nbSections
    else extractLoop takes rest buffer nbSections

def extractFile (takes : String → Bool) (elf : ElfFile) : Except PyError (Option (List UInt8)) := do
  let (buffer, nbSections) ← extractLoop takes elf.iterSections [] 0
  if nbSections = 0 then return none
  let count ← toBytes nbSections 1
  return some (count ++ buffer)

def entryNames : List String := entries.map LibEntry.name

def minimalTakes (data : SpacerLibs) (name : String) : Bool :=
  if occursIn "rodata" name || (entryNames data.commonToAll).contains name then false
  else (entryNames data.notCommon).contains name || (entryNames data.commonToSubset).contains name

def processFileMinimal (data : SpacerLibs) (elf : ElfFile) : Except PyError (Option (List UInt8)) :=
  extractFile (minimalTakes data) elf

/-! `elf_minimizer.process_file`: the `_update` file without ASLR. -/

def plainTakes (name : String) : Bool :=
  occursIn ".data" name || included.contains name

def plainLoop (included : List String) : List Section → List UInt8 → Nat → List UInt8 × Nat
  | [], buffer, nbSections => (buffer, nbSections)
  | s :: rest, buffer, nbSections =>
    if plainTakes included s.name then
      if !s.data.all (· == 0) then plainLoop included rest (buffer ++ s.data) (nbSections + 1)
      else plainLoop included rest buffer nbSections
    else plainLoop included rest buffer nbSections

def processFile (elf : ElfFile) : Option (List UInt8) :=
  let (buffer, nbSections) := plainLoop included elf.iterSections [] 0
  if nbSections = 0 then none else some buffer

/-! `lib_extractor.process_file`: the pool, one file per section name. -/

def poolExcluded : List String := [".data", ".bss", ".tbss", ".intrstack"]

abbrev Pool := Dict String (List UInt8)

def poolTakes : Bool :=
  !(occursIn ".ind" s.name || occursIn ".data" s.name) &&
    (!excluded.contains s.name && decide (s.shAddr > 0))

def poolWrite (pool : Pool) (s : Section) : Pool :=
  if poolTakes excluded s then
    match pool.get? s.name with
    | none => pool.set s.name s.data
    | some _ => pool
  else pool

def poolProcessFile (pool : Pool) (elf : ElfFile) : Pool :=
  elf.iterSections.foldl (poolWrite excluded) pool

def fillPool (order : List ElfFile) : Pool :=
  order.foldl (poolProcessFile excluded) Dict.empty

end Spacer.Helpers
