import Spacer.Guest.Core
import Spacer.Lib.Sparse

/-!
Guest memory snapshots: `memory_snapshot.rs`, `snapshot_memory_to_file` of `persist.rs`
and the tool `rebase-snap`.  What the guest memory holds is a function of the
guest-physical address.
-/

namespace Spacer.Snapshot

open Lib Loader Guest

abbrev Contents := Nat → UInt8

/-- A region with its Firecracker bitmap, one mark for a page (`AtomicBitmap::with_len`). -/
structure GuestRegionMmap where
  start : Nat
  len : Nat
  bitmap : Option (List Bool)
  paged : len % pageSize = 0
  marks : ∀ map ∈ bitmap, map.length = len / pageSize

/-- What `GuestMemoryMmap::from_regions` accepts of the regions that can be mapped. -/
structure GuestMemoryMmap where
  regions : List GuestRegionMmap
  nonempty : regions ≠ []
  mapped : ∀ region ∈ regions, 0 < region.len ∧ region.start + region.len < 2 ^ 64
  ordered : regions.Pairwise fun first second => first.start + first.len ≤ second.start

namespace GuestRegionMmap

variable (region : GuestRegionMmap)

def bytes (contents : Contents) (addr count : Nat) : List UInt8 :=
  (List.range count).map fun offset => contents (region.start + addr + offset)

def dirtyAt (offset : Nat) : Bool :=
  match region.bitmap with
  | none => false
  | some map => map.getD (offset / pageSize) false

def reset : GuestRegionMmap where
  start := region.start
  len := region.len
  bitmap := region.bitmap.map fun map => List.replicate map.length false
  paged := region.paged
  marks := by
    intro map member
    obtain ⟨old, oldMem, rfl⟩ := Option.map_eq_some_iff.mp member
    rw [List.length_replicate]
    exact region.marks old oldMem

end GuestRegionMmap

structure GuestMemoryRegionState where
  baseAddress : Nat
  size : Nat
  offset : Nat

def describeFrom : Nat → List GuestRegionMmap → List GuestMemoryRegionState
  | _, [] => []
  | offset, region :: rest =>
    ⟨region.start, region.len, offset⟩ :: describeFrom (offset + region.len) rest

def describe (memory : GuestMemoryMmap) : List GuestMemoryRegionState :=
  describeFrom 0 memory.regions

structure Writer where
  file : SparseFile UInt8
  position : Nat

def Writer.seek (writer : Writer) (position : Nat) : Writer := { writer with position }

def Writer.writeAll (writer : Writer) (bytes : List UInt8) : Writer :=
  ⟨writer.file.write writer.position bytes, writer.position + bytes.length⟩

inductive SnapshotError
  | writeMemory
  | dirtyBitmap
  | unwrapNone

variable (region : GuestRegionMmap) (contents : Contents)

def writeAllTo (addr : Nat) (writer : Writer) (count : Nat) : Except SnapshotError Writer :=
  if region.len < addr + count then .error .writeMemory
  else .ok (writer.writeAll (region.bytes contents addr count))

variable (regions : List GuestRegionMmap)

def dump (contents : Contents) (writer : Writer) : Except SnapshotError Writer :=
  regions.foldlM (fun writer region => writeAllTo region contents 0 writer region.len) writer

/-! `dump_dirty`. -/

def isKvmPageDirty (v : UInt64) (j : Nat) : Bool := (v >>> UInt64.ofNat j) &&& 1 != 0

structure Batch where
  writer : Writer
  writeSize : Nat
  dirtyBatchStart : Nat

variable (writerOffset : Nat) (batch : Batch)

def visitPage (pageOffset : Nat) (dirty : Bool) : Except SnapshotError Batch :=
  if dirty then
    if batch.writeSize = 0 then
      .ok ⟨batch.writer.seek (writerOffset + pageOffset), pageSize, pageOffset⟩
    else .ok { batch with writeSize := batch.writeSize + pageSize }
  else if 0 < batch.writeSize then do
    let writer ← writeAllTo region contents batch.dirtyBatchStart batch.writer batch.writeSize
    return { batch with writer, writeSize := 0 }
  else .ok batch

def visitWord (v : UInt64) (i : Nat) : Except SnapshotError Batch :=
  (List.range 64).foldlM (fun batch j =>
    let pageOffset := (i * 64 + j) * pageSize
    visitPage region contents writerOffset batch pageOffset
      (isKvmPageDirty v j || region.dirtyAt pageOffset)) batch

def dumpDirtyRegion (kvmBitmap : List UInt64) (writer : Writer) : Except SnapshotError Writer := do
  let batch ← kvmBitmap.zipIdx.foldlM
    (fun batch word => visitWord region contents writerOffset batch word.1 word.2) ⟨writer, 0, 0⟩
  if 0 < batch.writeSize then
    writeAllTo region contents batch.dirtyBatchStart batch.writer batch.writeSize
  else return batch.writer

abbrev DirtyBitmap := Nat → Option (List UInt64)

def dumpDirtyFrom (contents : Contents) (dirtyBitmap : DirtyBitmap) :
  Nat → Nat → List GuestRegionMmap → Writer → Except SnapshotError (List GuestRegionMmap × Writer)
  | _, _, [], writer => .ok ([], writer)
  | slot, writerOffset, region :: rest, writer =>
    match dirtyBitmap slot with
    | none => .error .unwrapNone
    | some kvmBitmap => do
      let writer ← dumpDirtyRegion region contents writerOffset kvmBitmap writer
      let (later, final) ← dumpDirtyFrom contents dirtyBitmap (slot + 1)
        (writerOffset + region.len) rest writer
      return (region.reset :: later, final)

def dumpDirty (contents : Contents) (writer : Writer)
  (dirtyBitmap : DirtyBitmap) : Except SnapshotError (List GuestRegionMmap × Writer) :=
  dumpDirtyFrom contents dirtyBitmap 0 0 regions writer

/-! `persist.rs`. -/

variable (getDirtyLog : Nat → Nat → Option (List UInt64))

/-- `getDirtyLog` stands for the ioctl: slot and size of the memory to the words of the bitmap. -/
def bitmapRegion (region : GuestRegionMmap) (slot : Nat) : Except SnapshotError (List UInt64) :=
  match getDirtyLog slot region.len with
  | none => .error .dirtyBitmap
  | some log => .ok log

def getDirtyBitmap (regions : List GuestRegionMmap) : Except SnapshotError DirtyBitmap := do
  let logs ← regions.zipIdx.mapM fun slot => bitmapRegion getDirtyLog slot.1 slot.2
  return fun slot => logs[slot]?

def memSizeMib : Nat :=
  (regions.map GuestRegionMmap.len).sum >>> 20

inductive SnapshotType
  | diff
  | full

def snapshotMemoryToFile (regions : List GuestRegionMmap) (contents : Contents) (snapshotType : SnapshotType) :
  Except SnapshotError (List GuestRegionMmap × SparseFile UInt8) :=
  let writer : Writer := ⟨SparseFile.empty.setLen (memSizeMib regions * 1024 * 1024), 0⟩
  match snapshotType with
  | .diff => do
    let dirtyBitmap ← getDirtyBitmap getDirtyLog regions
    let (regions, writer) ← dumpDirty regions contents writer dirtyBitmap
    return (regions, writer.file)
  | .full => do
    let writer ← dump regions contents writer
    return (regions, writer.file)

/-! `rebase-snap`. -/

inductive RebaseError
  | sendfile
  | unfinished

/-- The inner loop.  `sendfile` stands for the system call: cursor and count to the
returned number; the cursor advances by it. -/
def sendBlock (sendfile : Nat → Nat → Int) (diffFile : SparseFile UInt8) (blockEnd : Nat) :
  Nat → Nat → SparseFile UInt8 → Except RebaseError (Nat × SparseFile UInt8)
  | fuel, cursor, baseFile =>
    if cursor < blockEnd then
      match fuel with
      | 0 => .error .unfinished
      | fuel + 1 =>
        let transferred := sendfile cursor (blockEnd - cursor)
        if transferred < 0 then .error .sendfile
        else
          let bytes := ((diffFile.content 0).drop cursor).take transferred.toNat
          sendBlock sendfile diffFile blockEnd fuel (cursor + transferred.toNat)
            (baseFile.write cursor bytes)
    else .ok (cursor, baseFile)

def rebaseFrom (sendfile : Nat → Nat → Int) (diffFile : SparseFile UInt8) (steps : Nat) :
  Nat → Nat → SparseFile UInt8 → Except RebaseError (SparseFile UInt8)
  | fuel, cursor, baseFile =>
    match diffFile.seekData cursor with
    | none => .ok baseFile
    | some blockStart =>
      match fuel with
      | 0 => .error .unfinished
      | fuel + 1 => do
        let blockEnd := (diffFile.seekHole blockStart).getD diffFile.length
        let (cursor, baseFile) ← sendBlock sendfile diffFile blockEnd steps blockStart baseFile
        rebaseFrom sendfile diffFile steps fuel cursor baseFile

/-- Each loop may take `steps` turns. -/
def rebase (sendfile : Nat → Nat → Int) (steps : Nat) (baseFile diffFile : SparseFile UInt8) :
  Except RebaseError (SparseFile UInt8) :=
  rebaseFrom sendfile diffFile steps steps 0 baseFile

def restore (host : Host) (kernel : Kernel) (file : Option (SparseFile UInt8))
  (state : List GuestMemoryRegionState) (ukName : String) (memory : Memory) :
  Except BuildError (List GuestRegion × Memory) :=
  createGuestMemory host kernel ukName none (state.map fun region =>
      ⟨file.map fun file => ⟨file.content 0, region.offset⟩, region.baseAddress, region.size⟩)
    memory

end Spacer.Snapshot
