import Spacer.Loader.Core

/-!
Guest memory: `create_guest_memory` and `build_guarded_region` of `vm-memory`,
the region list of `arch_memory_regions`, and `create_guest_memory` of the VMM
builder.  The address space of the VMM process is passed along as a `Memory`.
-/

namespace Spacer.Guest

open Lib Loader

def guardPageCount : Nat := 1

/-- The host kernel choosing a place for a fresh mapping, by number of the call
and length; `none` is `MAP_FAILED`. -/
structure Kernel where
  reserve : Nat → Nat → Option Nat
  aligned : ∀ {call length addr}, reserve call length = some addr → addr % pageSize = 0
  inside : ∀ {call length addr}, reserve call length = some addr → addr + length ≤ 2 ^ 47
  apart : ∀ {first second firstLength secondLength firstAddr secondAddr},
    first ≠ second → reserve first firstLength = some firstAddr →
    reserve second secondLength = some secondAddr →
    firstAddr + firstLength ≤ secondAddr ∨ secondAddr + secondLength ≤ firstAddr

structure FileOffset where
  file : List UInt8
  start : Nat

inductive BuildError
  | mmap
  | mappingPastEof
  | invalidPointer
  | invalidGuestRegion
  | noMemoryRegion
  | unsortedMemoryRegions
  | memoryRegionOverlap
  | panic (cause : Panic)

structure GuardedRegion where
  addr : Nat
  size : Nat
  effects : List Effect

def guardedSize (size : Nat) : Nat :=
  size + guardPageCount * 2 * pageSize

def regionStartAddr (guardAddr : Nat) : Nat :=
  guardAddr + pageSize * guardPageCount

def guardOverlay (addr length : Nat) : Overlay (Option UInt8) :=
  ⟨addr, length, fun _ => none⟩

variable (maybeFileOffset : Option FileOffset)

def regionOverlay (addr size : Nat) : Overlay (Option UInt8) :=
  ⟨addr, size, fun offset =>
    match maybeFileOffset with
    | none => some 0
    | some fileOffset => fileOffset.file[fileOffset.start + offset]?⟩

def checkFileOffset (size : Nat) : Except BuildError Unit :=
  match maybeFileOffset with
  | none => .ok ()
  | some fileOffset =>
    if fileOffset.file.length < fileOffset.start + size then .error .mappingPastEof else .ok ()

def mapRegion (addr size : Nat) (memory : Memory) : Except BuildError Memory :=
  let offset := (maybeFileOffset.map FileOffset.start).getD 0
  if size = 0 ∨ offset % pageSize ≠ 0 then .error .mmap
  else .ok ((regionOverlay maybeFileOffset addr size).apply memory)

variable (host : Host)

def runLoader (lopt : Option LoaderInfo) (regionAddr : Nat) (ukName : String) :
  Except BuildError (List Effect) :=
  match lopt with
  | none => .ok []
  | some loader => (loadRegion host loader regionAddr ukName).mapError .panic

def buildRaw (addr size : Nat) (effects : List Effect) : Except BuildError GuardedRegion :=
  if addr % pageSize ≠ 0 ∨ size % pageSize ≠ 0 then .error .invalidPointer
  else .ok ⟨addr, size, effects⟩

def buildGuardedRegion (kernel : Kernel) (call : Nat)
  (maybeFileOffset : Option FileOffset) (size : Nat) (ukName : String)
  (lopt : Option LoaderInfo) (memory : Memory) : Except BuildError (GuardedRegion × Memory) :=
  match kernel.reserve call (guardedSize size) with
  | none => .error .mmap
  | some guardAddr => do
    checkFileOffset maybeFileOffset size
    let regionAddr := regionStartAddr guardAddr
    let mapped ← mapRegion maybeFileOffset regionAddr size
      ((guardOverlay guardAddr (guardedSize size)).apply memory)
    let effects ← runLoader host lopt regionAddr ukName
    let region ← buildRaw regionAddr size effects
    return (region, applyEffects mapped effects)

structure RegionSpec where
  fileOffset : Option FileOffset
  guestAddr : Nat
  size : Nat

structure GuestRegion where
  start : Nat
  mapping : GuardedRegion

def guestRegion (start : Nat) (mapping : GuardedRegion) : Except BuildError GuestRegion :=
  if 2 ^ 64 ≤ start + mapping.size then .error .invalidGuestRegion else .ok ⟨start, mapping⟩

def createRegions (host : Host) (kernel : Kernel) (ukName : String) (lopt : Option LoaderInfo) :
  List RegionSpec → Nat → Memory → Except BuildError (List GuestRegion × Memory)
  | [], _, memory => .ok ([], memory)
  | spec :: rest, call, memory => do
    let (mapping, mapped) ← buildGuardedRegion host kernel call spec.fileOffset spec.size ukName lopt memory
    let region ← guestRegion spec.guestAddr mapping
    let (later, final) ← createRegions host kernel ukName lopt rest (call + 1) mapped
    return (region :: later, final)

def checkOrder : List GuestRegion → Except BuildError Unit
  | previous :: next :: rest =>
    if next.start < previous.start then .error .unsortedMemoryRegions
    else if next.start < previous.start + previous.mapping.size then .error .memoryRegionOverlap
    else checkOrder (next :: rest)
  | _ => .ok ()

def fromRegions (regions : List GuestRegion) : Except BuildError (List GuestRegion) :=
  if regions = [] then .error .noMemoryRegion
  else do
    checkOrder regions
    return regions

def createGuestMemory (kernel : Kernel) (ukName : String)
  (lopt : Option LoaderInfo) (regions : List RegionSpec) (memory : Memory) :
  Except BuildError (List GuestRegion × Memory) := do
  let (mapped, final) ← createRegions host kernel ukName lopt regions 0 memory
  let guest ← fromRegions mapped
  return (guest, final)

/-! `arch_memory_regions` and the builder. -/

def firstAddrPast32Bits : Nat := 1 <<< 32

def mem32BitGapSize : Nat := 768 <<< 20

def mmioMemStart : Nat := firstAddrPast32Bits - mem32BitGapSize

def archMemoryRegions (size : Nat) : List (Nat × Nat) :=
  if size ≤ mmioMemStart then [(0, size)]
  else [(0, mmioMemStart), (firstAddrPast32Bits, size - mmioMemStart)]

def memSize (memSizeMib : Nat) : Nat :=
  (memSizeMib <<< 20) % 2 ^ 64

def builderRegions (memSizeMib : Nat) : List RegionSpec :=
  (archMemoryRegions (memSize memSizeMib)).map fun (addr, size) => ⟨none, addr, size⟩

namespace Builder

def createGuestMemory (host : Host) (kernel : Kernel) (memSizeMib : Nat) (ukName : String)
  (lopt : Option LoaderInfo) (memory : Memory) :
  Except BuildError (List GuestRegion × Memory) :=
  Guest.createGuestMemory host kernel ukName lopt (builderRegions memSizeMib) memory

end Builder

end Spacer.Guest
