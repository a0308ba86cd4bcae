import Spacer.Lib.Lists
import Spacer.Snapshot.Core

/-!
What `dump` and `dump_dirty` leave in a file.
-/

namespace Spacer.Snapshot

open Lib Loader

variable (contents : Contents) (regions : List GuestRegionMmap)

def memoryBytes : List UInt8 :=
  regions.flatMap fun region => region.bytes contents 0 region.len

theorem bytes_length (region : GuestRegionMmap) (contents : Contents) :
  (region.bytes contents addr count).length = count := by
  simp [GuestRegionMmap.bytes]

variable (region : GuestRegionMmap)

theorem bytes_getElem? (contents : Contents) (inside : index < count) :
  (region.bytes contents addr count)[index]? = some (contents (region.start + addr + index)) := by
  rw [GuestRegionMmap.bytes, List.getElem?_map, List.getElem?_range inside]
  rfl

theorem memoryBytes_length :
  (memoryBytes contents regions).length = (regions.map GuestRegionMmap.len).sum := by
  simp only [memoryBytes, List.length_flatMap, bytes_length]

theorem memoryBytes_cons :
  memoryBytes contents (region :: rest) = region.bytes contents 0 region.len ++ memoryBytes contents rest :=
  List.flatMap_cons

variable {region : GuestRegionMmap} {contents}

theorem writeAllTo_ok (inside : addr + count ≤ region.len) (writer : Writer) :
  writeAllTo region contents addr writer count = .ok (writer.writeAll (region.bytes contents addr count)) :=
  if_neg (Nat.not_lt_of_le inside)

variable (regions : List GuestRegionMmap)

theorem dump_eq (contents : Contents) :
  dump regions contents writer = .ok (writer.writeAll (memoryBytes contents regions)) := by
  unfold dump
  induction regions generalizing writer with
  | nil => rfl
  | cons region rest ih =>
    rw [List.foldlM_cons, bind_of_ok (writeAllTo_ok (by omega) writer), ih, memoryBytes_cons]
    simp only [Writer.writeAll, SparseFile.write_write, List.length_append, Nat.add_assoc]

def kvmMarked (kvmBitmap : List UInt64) (page : Nat) : Bool :=
  kvmBitmap[page / 64]?.any fun v => isKvmPageDirty v (page % 64)

def dirtyPage (region : GuestRegionMmap) (kvmBitmap : List UInt64) (page : Nat) : Bool :=
  kvmMarked kvmBitmap page || region.dirtyAt (page * pageSize)

/-- KVM's bitmap of a slot: words for all pages, and no bit behind the last page. -/
structure SlotBitmap (region : GuestRegionMmap) (kvmBitmap : List UInt64) : Prop where
  covers : region.len / pageSize ≤ 64 * kvmBitmap.length
  inside : ∀ page, kvmMarked kvmBitmap page = true → page < region.len / pageSize

theorem dirtyAt_inside (dirty : region.dirtyAt (page * pageSize) = true) :
  page < region.len / pageSize := by
  unfold GuestRegionMmap.dirtyAt at dirty
  split at dirty
  · cases dirty
  rename_i map present
  rw [Nat.mul_div_cancel _ (by decide)] at dirty
  have size := region.marks map present
  by_contra outside
  rw [List.getD_eq_getElem?_getD, List.getElem?_eq_none (by omega)] at dirty
  cases dirty

theorem SlotBitmap.dirtyPage_inside (bitmap : SlotBitmap region kvmBitmap)
  (dirty : dirtyPage region kvmBitmap page = true) : page < region.len / pageSize := by
  rcases Bool.or_eq_true_iff.mp dirty with kvm | firecracker
  · exact bitmap.inside page kvm
  · exact dirtyAt_inside firecracker

theorem kvmMarked_of_split (small : j < 64) :
  kvmMarked (front ++ v :: rest) (front.length * 64 + j) = isKvmPageDirty v j := by
  have word : (front.length * 64 + j) / 64 = front.length := by omega
  have bit : (front.length * 64 + j) % 64 = j := by omega
  rw [kvmMarked, word, bit, List.getElem?_append_right (Nat.le_refl _), Nat.sub_self]
  rfl

theorem visitWords_eq (region : GuestRegionMmap) (contents : Contents) (writerOffset : Nat)
  (front rest : List UInt64) (batch : Batch) :
  (rest.zipIdx front.length).foldlM
      (fun batch word => visitWord region contents writerOffset batch word.1 word.2) batch =
    (List.range' (front.length * 64) (rest.length * 64)).foldlM (fun batch page =>
      visitPage region contents writerOffset batch (page * pageSize)
        (dirtyPage region (front ++ rest) page)) batch := by
  induction rest generalizing front batch with
  | nil => rfl
  | cons v rest ih =>
    have pages : List.range' (front.length * 64) ((v :: rest).length * 64) =
        List.range' (front.length * 64) 64 ++ List.range' ((front.length + 1) * 64) (rest.length * 64) := by
      rw [Nat.add_mul, List.range'_append_1, List.length_cons]
      congr 1
      omega
    have word : ∀ batch, visitWord region contents writerOffset batch v front.length =
        (List.range' (front.length * 64) 64).foldlM (fun batch page =>
          visitPage region contents writerOffset batch (page * pageSize)
            (dirtyPage region (front ++ v :: rest) page)) batch := by
      intro batch
      rw [List.range'_eq_map_range, List.foldlM_map]
      refine foldlM_congr (fun j member state => ?_) batch
      rw [dirtyPage, kvmMarked_of_split (List.mem_range.mp member)]
    have later := ih (front ++ [v])
    rw [List.append_assoc, List.length_append] at later
    rw [List.zipIdx_cons, List.foldlM_cons, word, pages, List.foldlM_append]
    exact congrArg _ (funext later)

section

variable (region : GuestRegionMmap) (contents : Contents) (writerOffset : Nat)
  (kvmBitmap : List UInt64) (file : SparseFile UInt8)

structure Flushed (limit : Nat) (written : SparseFile UInt8) : Prop where
  dirty : ∀ offset < limit * pageSize, dirtyPage region kvmBitmap (offset / pageSize) = true →
    written.data (writerOffset + offset) = some (contents (region.start + offset))
  clean : ∀ offset < limit * pageSize, dirtyPage region kvmBitmap (offset / pageSize) = false →
    written.data (writerOffset + offset) = file.data (writerOffset + offset)
  below : ∀ offset < writerOffset, written.data offset = file.data offset
  behind : ∀ offset, writerOffset + limit * pageSize ≤ offset → written.data offset = file.data offset
  size : written.length ≤ max file.length (writerOffset + region.len)

/-- After `count` pages: those from `limit` on are dirty and wait to be written. -/
structure Pending (limit count : Nat) (batch : Batch) : Prop where
  flushed : Flushed region contents writerOffset kvmBitmap file limit batch.writer.file
  order : limit ≤ count
  waiting : ∀ page, limit ≤ page → page < count → dirtyPage region kvmBitmap page = true
  writeSize : batch.writeSize = (count - limit) * pageSize
  place : limit < count → batch.dirtyBatchStart = limit * pageSize ∧
    batch.writer.position = writerOffset + limit * pageSize

end

section

variable {writerOffset : Nat}

variable (flushed : Flushed region contents writerOffset kvmBitmap file limit written)
include flushed

theorem Flushed.skip (clean : dirtyPage region kvmBitmap limit = false) :
  Flushed region contents writerOffset kvmBitmap file (limit + 1) written := by
  have page : ∀ offset < (limit + 1) * pageSize, ¬offset < limit * pageSize →
      offset / pageSize = limit := by
    intro offset above notBelow
    exact Nat.div_eq_of_lt_le (by omega) above
  refine ⟨fun offset inside dirty => ?_, fun offset inside untouched => ?_, flushed.below,
    fun offset outside => flushed.behind offset ?_, flushed.size⟩
  · by_cases old : offset < limit * pageSize
    · exact flushed.dirty offset old dirty
    rw [page offset inside old, clean] at dirty
    cases dirty
  · by_cases old : offset < limit * pageSize
    · exact flushed.clean offset old untouched
    · exact flushed.behind _ (by omega)
  rw [Nat.add_mul] at outside
  omega

theorem Flushed.write (order : limit < count)
  (waiting : ∀ page, limit ≤ page → page < count → dirtyPage region kvmBitmap page = true)
  (inside : count * pageSize ≤ region.len) :
  Flushed region contents writerOffset kvmBitmap file count (written.write (writerOffset + limit * pageSize)
      (region.bytes contents (limit * pageSize) ((count - limit) * pageSize))) := by
  have size : limit * pageSize + (count - limit) * pageSize = count * pageSize := by
    rw [← Nat.add_mul, Nat.add_sub_cancel' (Nat.le_of_lt order)]
  have room : 0 < (count - limit) * pageSize := Nat.mul_pos (by omega) (by decide)
  have data := written.data_write (writerOffset + limit * pageSize)
    (region.bytes contents (limit * pageSize) ((count - limit) * pageSize))
  simp only [bytes_length] at data
  have fresh : ∀ offset < count * pageSize, ¬offset < limit * pageSize →
      dirtyPage region kvmBitmap (offset / pageSize) = true := by
    intro offset above notBelow
    refine waiting _ ?_ ?_
    · exact (Nat.le_div_iff_mul_le (by decide)).mpr (by omega)
    · exact Nat.div_lt_of_lt_mul (by rw [Nat.mul_comm]; exact above)
  refine ⟨fun offset within dirty => ?_, fun offset within clean => ?_, fun offset outside => ?_,
    fun offset outside => ?_, ?_⟩
  · rw [data]
    by_cases old : offset < limit * pageSize
    · rw [if_neg (by omega)]
      exact flushed.dirty offset old dirty
    rw [if_pos (by omega), bytes_getElem? _ _ (by omega)]
    congr 2
    omega
  · by_cases old : offset < limit * pageSize
    · rw [data, if_neg (by omega)]
      exact flushed.clean offset old clean
    rw [fresh offset within old] at clean
    cases clean
  · rw [data, if_neg (by omega)]
    exact flushed.below offset outside
  · rw [data, if_neg (by omega)]
    exact flushed.behind offset (by omega)
  rw [SparseFile.length_write _ _ (List.ne_nil_of_length_pos (by rw [bytes_length]; exact room)),
    bytes_length]
  have old := flushed.size
  omega

omit flushed

variable (bitmap : SlotBitmap region kvmBitmap)
include bitmap

theorem Pending.inside (pending : Pending region contents writerOffset kvmBitmap file limit count batch)
  (some : limit < count) : count * pageSize ≤ region.len := by
  have last := bitmap.dirtyPage_inside (pending.waiting (count - 1) (by omega) (by omega))
  exact (Nat.le_div_iff_mul_le (by decide)).mp (by omega : count ≤ region.len / pageSize)

theorem Pending.flush (pending : Pending region contents writerOffset kvmBitmap file limit count batch)
  (some : limit < count) :
  ∃ writer, writeAllTo region contents batch.dirtyBatchStart batch.writer batch.writeSize = .ok writer ∧
    Flushed region contents writerOffset kvmBitmap file count writer.file := by
  obtain ⟨start, position⟩ := pending.place some
  have inside := pending.inside bitmap some
  have size : limit * pageSize + (count - limit) * pageSize = count * pageSize := by
    rw [← Nat.add_mul, Nat.add_sub_cancel' (Nat.le_of_lt some)]
  rw [start, pending.writeSize]
  refine ⟨_, writeAllTo_ok (by omega) batch.writer, ?_⟩
  rw [Writer.writeAll, position]
  exact pending.flushed.write some pending.waiting inside

theorem visitPage_pending (pending : Pending region contents writerOffset kvmBitmap file limit count batch) :
  ∃ next newLimit, visitPage region contents writerOffset batch (count * pageSize)
      (dirtyPage region kvmBitmap count) = .ok next ∧
    Pending region contents writerOffset kvmBitmap file newLimit (count + 1) next := by
  have order := pending.order
  have empty : batch.writeSize = 0 ↔ limit = count := by
    rw [pending.writeSize]
    simp only [pageSize]
    omega
  have waits : dirtyPage region kvmBitmap count = true →
      ∀ page, limit ≤ page → page < count + 1 → dirtyPage region kvmBitmap page = true := by
    intro dirty page above below
    by_cases old : page < count
    · exact pending.waiting page above old
    have same : page = count := by omega
    rw [same]
    exact dirty
  unfold visitPage
  cases dirty : dirtyPage region kvmBitmap count with
  | true =>
    by_cases fresh : limit = count
    · subst fresh
      rw [if_pos (empty.mpr rfl)]
      refine ⟨_, limit, rfl, pending.flushed, by omega, waits dirty, ?_, fun _ => ⟨rfl, rfl⟩⟩
      simp
    rw [if_neg fun zero => fresh (empty.mp zero)]
    refine ⟨_, limit, rfl, pending.flushed, by omega, waits dirty, ?_,
      fun _ => pending.place (by omega)⟩
    have more : count + 1 - limit = (count - limit) + 1 := by omega
    rw [more, Nat.add_mul, Nat.one_mul, ← pending.writeSize]
  | false =>
    simp only [Bool.false_eq_true, ↓reduceIte]
    by_cases fresh : limit = count
    · subst fresh
      rw [if_neg (by rw [empty.mpr rfl]; omega)]
      refine ⟨batch, limit + 1, rfl, pending.flushed.skip dirty, by omega, fun _ _ _ => by omega,
        ?_, fun _ => by omega⟩
      rw [empty.mpr rfl, Nat.sub_self, Nat.zero_mul]
    have positive : 0 < batch.writeSize :=
      Nat.pos_of_ne_zero fun zero => fresh (empty.mp zero)
    obtain ⟨writer, written, flushed⟩ := pending.flush bitmap (by omega)
    rw [if_pos positive, bind_of_ok written]
    refine ⟨_, count + 1, rfl, flushed.skip dirty, by omega, fun _ _ _ => by omega, ?_,
      fun _ => by omega⟩
    rw [Nat.sub_self, Nat.zero_mul]

variable (contents) (writerOffset)

theorem visitPages_pending (start : writer.file = file) (count : Nat) :
  ∃ batch limit, (List.range count).foldlM (fun batch page =>
      visitPage region contents writerOffset batch (page * pageSize)
        (dirtyPage region kvmBitmap page)) ⟨writer, 0, 0⟩ = .ok batch ∧
    Pending region contents writerOffset kvmBitmap file limit count batch := by
  induction count with
  | zero =>
    refine ⟨_, 0, rfl, ⟨?_, ?_, fun _ _ => ?_, fun _ _ => ?_, ?_⟩, by omega, ?_, ?_, ?_⟩
    · intro offset below
      omega
    · intro offset below
      rw [Nat.zero_mul] at below
      omega
    · rw [start]
    · rw [start]
    · rw [start]
      exact Nat.le_max_left _ _
    · intro page _ below
      omega
    · rw [Nat.zero_mul]
    intro below
    omega
  | succ count ih =>
    obtain ⟨batch, limit, ran, pending⟩ := ih
    obtain ⟨next, newLimit, visited, after⟩ := visitPage_pending bitmap pending
    refine ⟨next, newLimit, ?_, after⟩
    rw [List.range_succ, List.foldlM_append, bind_of_ok ran, List.foldlM_cons, bind_of_ok visited]
    rfl

theorem dumpDirtyRegion_flushed (writer : Writer) :
  ∃ final, dumpDirtyRegion region contents writerOffset kvmBitmap writer = .ok final ∧
    Flushed region contents writerOffset kvmBitmap writer.file (kvmBitmap.length * 64)
      final.file := by
  obtain ⟨batch, limit, ran, pending⟩ := visitPages_pending contents writerOffset bitmap
    (rfl : writer.file = writer.file) (kvmBitmap.length * 64)
  have words := visitWords_eq region contents writerOffset [] kvmBitmap ⟨writer, 0, 0⟩
  rw [List.length_nil, List.nil_append, ← List.range_eq_range', ran] at words
  have order := pending.order
  rw [dumpDirtyRegion, bind_of_ok words]
  by_cases fresh : limit = kvmBitmap.length * 64
  · subst fresh
    have empty : batch.writeSize = 0 := by rw [pending.writeSize, Nat.sub_self, Nat.zero_mul]
    rw [if_neg (by omega)]
    exact ⟨batch.writer, rfl, pending.flushed⟩
  obtain ⟨final, written, flushed⟩ := pending.flush bitmap (by omega)
  have positive : 0 < batch.writeSize := by
    rw [pending.writeSize]
    exact Nat.mul_pos (by omega) (by decide)
  rw [if_pos positive]
  exact ⟨final, written, flushed⟩

omit bitmap

end

structure Tracks (before after : Contents) (region : GuestRegionMmap) (kvmBitmap : List UInt64) :
  Prop where
  slot : SlotBitmap region kvmBitmap
  marks : ∀ offset < region.len, before (region.start + offset) ≠ after (region.start + offset) →
      dirtyPage region kvmBitmap (offset / pageSize) = true

theorem Flushed.completes (tracks : Tracks before after region kvmBitmap)
  (flushed : Flushed region after writerOffset kvmBitmap file (kvmBitmap.length * 64) written)
  (unwritten : ∀ offset, writerOffset ≤ offset → file.data offset = none) :
  (∀ offset < region.len,
    (written.data (writerOffset + offset)).or (some (before (region.start + offset))) =
      some (after (region.start + offset))) ∧
  ∀ offset, writerOffset + region.len ≤ offset → written.data offset = none := by
  have covers := tracks.slot.covers
  have whole := Nat.div_add_mod region.len pageSize
  rw [region.paged, Nat.add_zero] at whole
  have enough : region.len ≤ kvmBitmap.length * 64 * pageSize := by
    rw [← whole, Nat.mul_comm]
    exact Nat.mul_le_mul_right _ (by omega)
  refine ⟨fun offset inside => ?_, fun offset outside => ?_⟩
  · cases dirty : dirtyPage region kvmBitmap (offset / pageSize) with
    | true => rw [flushed.dirty offset (by omega) dirty, Option.some_or]
    | false =>
      have same : before (region.start + offset) = after (region.start + offset) := by
        by_contra differ
        rw [tracks.marks offset inside differ] at dirty
        cases dirty
      rw [flushed.clean offset (by omega) dirty, unwritten _ (by omega), Option.none_or, same]
  by_cases beyond : writerOffset + kvmBitmap.length * 64 * pageSize ≤ offset
  · rw [flushed.behind offset beyond, unwritten _ (by omega)]
  obtain ⟨distance, rfl⟩ := Nat.exists_eq_add_of_le (by omega : writerOffset ≤ offset)
  have clean : dirtyPage region kvmBitmap (distance / pageSize) = false := by
    rw [← Bool.not_eq_true]
    intro dirty
    have inside := tracks.slot.dirtyPage_inside dirty
    rw [Nat.div_lt_iff_lt_mul (by decide), Nat.mul_comm] at inside
    omega
  rw [flushed.clean distance (by omega) clean, unwritten _ (by omega)]

theorem dumpDirtyFrom_completes (slot writerOffset : Nat)
  (tracked : ∀ index region, regions[index]? = some region → ∃ kvmBitmap,
    dirtyBitmap (slot + index) = some kvmBitmap ∧ Tracks before after region kvmBitmap)
  (writer : Writer) (unwritten : ∀ offset, writerOffset ≤ offset → writer.file.data offset = none) :
  ∃ final, dumpDirtyFrom after dirtyBitmap slot writerOffset regions writer =
      .ok (regions.map GuestRegionMmap.reset, final) ∧
    (∀ offset < writerOffset, final.file.data offset = writer.file.data offset) ∧
    (∀ offset, (final.file.data (writerOffset + offset)).or (memoryBytes before regions)[offset]? =
      (memoryBytes after regions)[offset]?) ∧
    final.file.length ≤ max writer.file.length (writerOffset + (regions.map GuestRegionMmap.len).sum) := by
  induction regions generalizing slot writerOffset writer with
  | nil =>
    refine ⟨writer, rfl, fun _ _ => rfl, fun offset => ?_, Nat.le_max_left _ _⟩
    rw [unwritten _ (by omega)]
    rfl
  | cons region rest ih =>
    obtain ⟨kvmBitmap, known, tracks⟩ := tracked 0 region rfl
    obtain ⟨middle, dumped, flushed⟩ := dumpDirtyRegion_flushed after writerOffset tracks.slot writer
    obtain ⟨inside, behind⟩ := flushed.completes tracks unwritten
    have later : ∀ index other, rest[index]? = some other → ∃ kvmBitmap,
        dirtyBitmap (slot + 1 + index) = some kvmBitmap ∧ Tracks before after other kvmBitmap := by
      intro index other found
      rw [Nat.add_assoc, Nat.add_comm 1 index]
      exact tracked (index + 1) other found
    obtain ⟨final, ran, below, completes, size⟩ := ih (slot + 1) (writerOffset + region.len) later
      middle behind
    refine ⟨final, ?_, fun offset low => ?_, fun offset => ?_, ?_⟩
    · rw [Nat.add_zero] at known
      rw [dumpDirtyFrom, known]
      dsimp only
      rw [bind_of_ok dumped, bind_of_ok ran]
      rfl
    · rw [below offset (by omega), flushed.below offset low]
    · rw [memoryBytes_cons, memoryBytes_cons, List.getElem?_append, List.getElem?_append,
        bytes_length, bytes_length]
      by_cases own : offset < region.len
      · rw [if_pos own, if_pos own, bytes_getElem? _ _ own, bytes_getElem? _ _ own,
          below _ (by omega)]
        exact inside offset own
      rw [if_neg own, if_neg own, ← completes]
      congr 2
      omega
    have grown := flushed.size
    rw [List.map_cons, List.sum_cons]
    omega

theorem memSizeMib_le : memSizeMib regions * 1024 * 1024 ≤ (regions.map GuestRegionMmap.len).sum := by
  rw [memSizeMib]
  omega

theorem snapshotMemoryToFile_full (getDirtyLog : Nat → Nat → Option (List UInt64))
  (regions : List GuestRegionMmap) (contents : Contents) :
  snapshotMemoryToFile getDirtyLog regions contents .full =
    .ok (regions, .full (memoryBytes contents regions)) := by
  have covered := memSizeMib_le regions
  rw [← memoryBytes_length contents] at covered
  rw [snapshotMemoryToFile, dump_eq]
  exact congrArg (fun file => Except.ok (regions, file))
    (SparseFile.write_zero_full (by rw [SparseFile.length_setLen]; exact covered))

variable {regions : List GuestRegionMmap}

theorem getDirtyBitmap_ok
  (logged : ∀ slot region, regions[slot]? = some region → (getDirtyLog slot region.len).isSome) :
  ∃ dirtyBitmap, getDirtyBitmap getDirtyLog regions = .ok dirtyBitmap ∧
    ∀ slot region, regions[slot]? = some region → dirtyBitmap slot = getDirtyLog slot region.len := by
  have read : (regions.zipIdx.mapM fun slot => bitmapRegion getDirtyLog slot.1 slot.2) =
      .ok (regions.zipIdx.map fun slot => (getDirtyLog slot.2 slot.1.len).getD []) := by
    refine mapM_ok fun slot member => ?_
    have here := logged slot.2 slot.1 (List.mem_zipIdx_iff_getElem?.mp member)
    obtain ⟨log, known⟩ := Option.isSome_iff_exists.mp here
    rw [bitmapRegion, known]
    rfl
  refine ⟨_, by rw [getDirtyBitmap, bind_of_ok read]; rfl, fun slot region found => ?_⟩
  obtain ⟨log, known⟩ := Option.isSome_iff_exists.mp (logged slot region found)
  rw [List.getElem?_map, List.getElem?_zipIdx, found, Nat.zero_add, Option.map_some, Option.map_some, known]
  rfl

theorem snapshotMemoryToFile_diff (tracked : ∀ slot region, regions[slot]? = some region → ∃ kvmBitmap,
    getDirtyLog slot region.len = some kvmBitmap ∧ Tracks before after region kvmBitmap) :
  ∃ file, snapshotMemoryToFile getDirtyLog regions after .diff =
      .ok (regions.map GuestRegionMmap.reset, file) ∧
    (∀ offset, (file.data offset).or (memoryBytes before regions)[offset]? =
      (memoryBytes after regions)[offset]?) ∧
    file.length ≤ (regions.map GuestRegionMmap.len).sum := by
  have logged : ∀ slot region, regions[slot]? = some region → (getDirtyLog slot region.len).isSome := by
    intro slot region found
    obtain ⟨kvmBitmap, known, _⟩ := tracked slot region found
    rw [known]
    rfl
  obtain ⟨dirtyBitmap, gathered, maps⟩ := getDirtyBitmap_ok logged
  have marks : ∀ index region, regions[index]? = some region → ∃ kvmBitmap,
      dirtyBitmap (0 + index) = some kvmBitmap ∧ Tracks before after region kvmBitmap := by
    intro index region found
    obtain ⟨kvmBitmap, known, tracks⟩ := tracked index region found
    rw [Nat.zero_add, maps index region found]
    exact ⟨kvmBitmap, known, tracks⟩
  obtain ⟨final, ran, _, completes, size⟩ := dumpDirtyFrom_completes regions 0 0 marks
    ⟨SparseFile.empty.setLen (memSizeMib regions * 1024 * 1024), 0⟩
    (fun offset _ => by rw [SparseFile.data_setLen]; split <;> rfl)
  refine ⟨final.file, ?_, fun offset => ?_, ?_⟩
  · rw [snapshotMemoryToFile]
    rw [bind_of_ok gathered, dumpDirty, bind_of_ok ran]
    rfl
  · rw [← completes offset, Nat.zero_add]
  have small := memSizeMib_le regions
  rw [SparseFile.length_setLen] at size
  omega

end Spacer.Snapshot
