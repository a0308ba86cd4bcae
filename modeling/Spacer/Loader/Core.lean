import Spacer.Lib.Overlay
import Spacer.Lib.Pages

/-!
The unikernel loader of the VMM: `LoaderInfo::move_sec_aslr`, `shm_mmap` and
`move_all`.  Every host operation the loader performs is an `Effect`; a run of
the loader is the list of its effects, or the panic that ends it.
-/

namespace Spacer.Loader

open Lib

def pageSize : Nat := 0x1000

/-- `usize` addition in a release build. -/
def usizeAdd (left right : Nat) : Nat :=
  (left + right) % 2 ^ 64

structure Sections where
  name : String
  vma : Nat
  size : Nat
  bytes : Option (List UInt8)

structure LoaderInfo where
  bin : List Sections
  sectionsLoader : List Sections
  aslr : Bool

structure Host where
  shm : String → Option (List UInt8)
  file : String → Option (List UInt8)

inductive Panic
  | shmOpen
  | mmapLib
  | openFile
  | mmapData
  | noBytes
  | shortBytes

inductive Effect
  | mmap (addr length : Nat) (content : List UInt8)
  | memcpy (addr : Nat) (content : List UInt8)

/-- `mmap` with `MAP_FIXED` refuses an empty length and an unaligned address. -/
def mmapFixed (failed : Panic) (addr length : Nat) (content : List UInt8) : Except Panic Effect :=
  if length = 0 ∨ addr % pageSize ≠ 0 then .error failed
  else .ok (.mmap addr length content)

variable (host : Host)

def shmMmap (regionAddr : Nat) (name : String) (size : Nat) : Except Panic Effect :=
  match host.shm name with
  | none => .error .shmOpen
  | some content => mmapFixed .mmapLib regionAddr size content

def shmName (aslr : Bool) (name : String) : String :=
  (if aslr then "aslr_" else "") ++ "lib" ++ name

def moveSecFrom (host : Host) (aslr : Bool) (regionAddr : Nat) :
  List Sections → Nat → Except Panic (List Effect × Nat)
  | [], dataStartAddr => .ok ([], dataStartAddr)
  | s :: rest, dataStartAddr =>
    if s.vma % 0x1000 ≠ 0 then
      moveSecFrom host aslr regionAddr rest dataStartAddr
    else if s.name = ".data" then
      moveSecFrom host aslr regionAddr rest s.vma
    else do
      let mapping ← shmMmap host (usizeAdd regionAddr s.vma) (shmName aslr s.name) s.size
      let (later, dataStart) ← moveSecFrom host aslr regionAddr rest dataStartAddr
      return (mapping :: later, dataStart)

variable (loader : LoaderInfo) (regionAddr : Nat)

def moveSecAslr : Except Panic (List Effect × Nat) :=
  moveSecFrom host loader.aslr regionAddr loader.sectionsLoader 0

def memcpySection (s : Sections) : Except Panic Effect :=
  match s.bytes with
  | none => .error .noBytes
  | some content =>
    if content.length < s.size then .error .shortBytes
    else .ok (.memcpy (usizeAdd regionAddr s.vma) (content.take s.size))

def moveAll (filename : String) (dataStartAddr : Nat) : Except Panic (List Effect) :=
  if loader.aslr then
    loader.bin.mapM (memcpySection regionAddr)
  else
    match host.file filename with
    | none => .error .openFile
    | some content => do
      let mapping ← mmapFixed .mmapData (usizeAdd regionAddr dataStartAddr) content.length content
      return [mapping]

def loadRegion (ukName : String) : Except Panic (List Effect) := do
  let (mapped, dataStartAddr) ← moveSecAslr host loader regionAddr
  let copied ← moveAll host loader regionAddr (ukName ++ "_update") dataStartAddr
  return mapped ++ copied

/-- Host memory: `none` is a byte no access may touch. -/
abbrev Memory := Nat → Option UInt8

/-- A mapping replaces whole pages; past the end of the file its last page is
zero and further pages fault. -/
def Effect.overlay : Effect → Overlay (Option UInt8)
  | .mmap addr length content => {
      start := addr
      length := roundUp length pageSize
      value := fun offset =>
        if offset < content.length then content[offset]?
        else if offset < roundUp content.length pageSize then some 0
        else none }
  | .memcpy addr content => {
      start := addr
      length := content.length
      value := fun offset => content[offset]? }

def applyEffects (memory : Memory) (effects : List Effect) : Memory :=
  applyAll memory (effects.map Effect.overlay)

end Spacer.Loader
