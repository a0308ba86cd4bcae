import Spacer.Lib.Python
import Spacer.Lib.Reader
import Spacer.Loader.Run

/-!
The two files a unikernel is booted from: the bincode list read by
`SectionsLoader::new`, the `_update` file read by `BinaryLoader::read_uk_file`,
and the part of `build_microvm_for_boot` that makes a `LoaderInfo` of them.
-/

namespace Spacer.Loader

open Lib

inductive BootPanic
  | noFileFound
  | sliceIndex
  | invalidUtf8
  | openSections
  | deserializeSections
  | load (cause : Panic)

/-- `Option<Vec<u8>>` in bincode: a tag byte, then a counted byte vector. -/
def deserializeBytes : Reader BootPanic (Option (List UInt8)) := do
  let tag ← readWord .deserializeSections 1
  if tag = 0 then return none
  else if tag = 1 then
    let count ← readWord .deserializeSections 8
    let bytes ← takeBytes .deserializeSections count
    return some bytes
  else throw .deserializeSections

def deserializeEntry : Reader BootPanic Sections := do
  let nameLength ← readWord .deserializeSections 8
  let name ← readText .deserializeSections .deserializeSections nameLength
  let vma ← readWord .deserializeSections 8
  let size ← readWord .deserializeSections 8
  let bytes ← deserializeBytes
  return ⟨name, vma, size, bytes⟩

def deserialize : Reader BootPanic (List Sections) := do
  let count ← readWord .deserializeSections 8
  readMany deserializeEntry count

variable (host : Host) (filename : String)

/-- Trailing bytes are accepted. -/
def newSectionsLoader : Except BootPanic (List Sections) :=
  match host.file filename with
  | none => .error .openSections
  | some buffer => do
    let (sections, _) ← deserialize buffer
    return sections

def readUkEntry : Reader BootPanic Sections := do
  let nameLength ← readWord .sliceIndex 2
  let name ← readText .sliceIndex .invalidUtf8 nameLength
  let size ← readWord .sliceIndex 8
  let vma ← readWord .sliceIndex 8
  let bytes ← takeBytes .sliceIndex size
  return ⟨name, vma, size, some bytes⟩

def readUkEntries : Reader BootPanic (List Sections) := do
  let nbEntry ← readWord .sliceIndex 1
  readMany readUkEntry nbEntry

def readUkFile : Except BootPanic (List Sections) :=
  match host.file filename with
  | none => if occursIn "update_minimal" filename then .ok [] else .error .noFileFound
  | some buff => do
    let (sections, _) ← readUkEntries buff
    return sections

variable (kernelImagePath : String)

def useAslr : Bool :=
  occursIn "_aslr" kernelImagePath

def readUpdates : Except BootPanic (List Sections) :=
  if useAslr kernelImagePath then readUkFile host (kernelImagePath ++ "_update") else .ok []

def bootLoader : Except BootPanic LoaderInfo := do
  let bin ← readUpdates host kernelImagePath
  let sectionsLoader ← newSectionsLoader host (kernelImagePath ++ ".sec")
  return ⟨bin, sectionsLoader, useAslr kernelImagePath⟩

def bootRegion (regionAddr : Nat) : Except BootPanic (List Effect) := do
  let loader ← bootLoader host kernelImagePath
  (loadRegion host loader regionAddr kernelImagePath).mapError .load

variable {host} {kernelImagePath}

theorem bootRegion_ok_iff (aligned : regionAddr % pageSize = 0)
  (booted : bootLoader host kernelImagePath = .ok loader) :
  bootRegion host kernelImagePath regionAddr = .ok effects ↔
    Loadable host loader (kernelImagePath ++ "_update") ∧
      effects = regionEffects host loader regionAddr (kernelImagePath ++ "_update") := by
  rw [bootRegion, bind_of_ok booted, ← loadRegion_ok_iff host loader aligned]
  cases loadRegion host loader regionAddr kernelImagePath with
  | error | ok => simp [Except.mapError]

end Spacer.Loader
