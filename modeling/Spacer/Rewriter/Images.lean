import Spacer.Rewriter.Stubs

/-!
`rewrite_uk_v`: the text sections of a list of unikernels are compared, and every
unikernel's copy of a section that is not the same everywhere is rewritten.
-/

namespace Spacer.Rewriter

open Lib

structure ElfSection where
  name : String
  virtualAddress : Nat
  size : Nat
  content : List UInt8

def ElfSection.withContent (sect : ElfSection) (content : List UInt8) : ElfSection :=
  { sect with size := content.length, content }

structure Elf where
  sections : List ElfSection
  distinct : (sections.map ElfSection.name).Nodup

namespace Elf

def getSection (elf : Elf) (name : String) : Option ElfSection :=
  elf.sections.find? fun sect => sect.name = name

def setContent (elf : Elf) (name : String) (content : List UInt8) : Elf where
  sections := elf.sections.map fun sect =>
    if sect.name = name then sect.withContent content else sect
  distinct := by
    have names : (elf.sections.map fun sect =>
        if sect.name = name then sect.withContent content else sect).map ElfSection.name =
        elf.sections.map ElfSection.name := by
      rw [List.map_map]
      refine List.map_congr_left fun sect _ => ?_
      simp only [Function.comp]
      split <;> rfl
    rw [names]
    exact elf.distinct

end Elf

/-- A unikernel in memory: `source` as `process_file` copied it, `binary` as it is
written back. -/
structure Image where
  source : Elf
  binary : Elf
  uk : Unikernel

def processFile (elf : Elf) : Image where
  source := elf
  binary := elf
  uk := ⟨elf.sections.map fun sect =>
    ⟨sect.name, sect.virtualAddress, sect.virtualAddress + sect.size⟩⟩

def diffOffsets (left right : ElfSection) : Except PyError (List Nat) := do
  let bytes ← (List.range left.size).mapM fun offset => do
    let first ← byteAt left.content offset
    let second ← byteAt right.content offset
    pure (offset, first, second)
  pure ((bytes.filter fun entry => entry.2.1 ≠ entry.2.2).map Prod.fst)

def sameSects (images : List Image) (sectName : String) : List ElfSection :=
  images.filterMap fun image => (image.binary.getSection sectName).filter fun sect => 1 < sect.size

def diffCompareBytes (images : List Image) (sectName : String) : Except PyError (List Nat) := do
  let sects := sameSects images sectName
  let offsets ← (sects.zip sects.tail).mapM fun pair => diffOffsets pair.1 pair.2
  pure offsets.flatten

def nameInd (sectName : String) : String :=
  if occursIn "rodata" sectName then replaceText sectName ".text.rodata" ".ind"
  else
    let nameInd := replaceText sectName ".text" ".ind"
    if nameInd = ".ind" then ".ind.text" else nameInd

structure Rewriting where
  images : List Image
  mapsSizeLibs : Dict String Nat

variable (decode : List UInt8 → Nat → List Ins) (sectName : String) (diffAddr : List Nat)

def disassembleImage (image : Image) : Except PyError (Image × List UInt8) :=
  match image.uk.dictSections sectName, image.source.getSection sectName with
  | some sect, some source =>
    match image.binary.getSection (nameInd sectName) with
    | none => .error .attributeError
    | some ind => do
      let (uk, s, bt) ← disassemble decode image.uk (.fresh sect ind.virtualAddress) source.content diffAddr
      let binary := (image.binary.setContent sectName bt).setContent (nameInd sectName) s.sectionInd.bt
      pure ({ image with uk, binary }, s.sectionInd.bt)
  | _, _ => .ok (image, [])

def updateMap (mapsSizeLibs : Dict String Nat) (table : List UInt8) : Dict String Nat :=
  if 0 < table.length then mapsSizeLibs.set sectName table.length else mapsSizeLibs

def disassembleSect (state : Rewriting) : Except PyError Rewriting :=
  if diffAddr.isEmpty then .ok state
  else do
    let rewritten ← state.images.mapM (disassembleImage decode sectName diffAddr)
    pure ⟨rewritten.map Prod.fst, (rewritten.map Prod.snd).foldl (updateMap sectName) state.mapsSizeLibs⟩

def rewriteSection (state : Rewriting) (sectName : String) : Except PyError Rewriting := do
  let diffAddr ← diffCompareBytes state.images sectName
  disassembleSect decode sectName diffAddr state

variable (rewriteAll : Bool)

def rewritable (sect : ElfSection) : Bool :=
  sect.size != 0 && (rewriteAll && occursIn "app" sect.name && occursIn ".text" sect.name ||
      startsWith sect.name ".text" && !occursIn "app" sect.name)

def sectionNames (elfs : List Elf) : List String :=
  (((elfs.flatMap Elf.sections).filter (rewritable rewriteAll)).foldl
    (fun sections sect => sections.set sect.name sect)
    (Dict.empty : Dict String ElfSection)).keys

/-- The unikernels as parsed; the result is what is written back, with the map of
the stub tables' sizes. -/
def rewriteUkV (mapsSizeLibs : Dict String Nat) (elfs : List Elf) : Except PyError Rewriting :=
  (sectionNames rewriteAll elfs).foldlM (rewriteSection decode) ⟨elfs.map processFile, mapsSizeLibs⟩

end Spacer.Rewriter
