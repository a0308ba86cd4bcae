import Spacer.Virtio.Exchange
import Spacer.Virtio.Safety

/-!
The queue code access by access, for a queue whose rings lie in guest memory as the
specification asks: what each access returns, and where it leaves the program.
-/

namespace Spacer.Virtio

open Lib Lib.Program

section

theorem wordAt_storeWord : wordAt (storeWord memory addr value) addr = value := by
  have same := load_store_same memory addr (littleEndian 2 value.toNat)
  rw [littleEndian_length] at same
  rw [wordAt, storeWord, same, parseU16_littleEndian]

theorem wordAt_store_apart (apart : addr + 2 ≤ other ∨ other + bytes.length ≤ addr) :
  wordAt (store memory other bytes) addr = wordAt memory addr := by
  rw [wordAt, load_store_apart apart, wordAt]

theorem wordAt_storeWord_apart (apart : addr + 2 ≤ other ∨ other + 2 ≤ addr) :
  wordAt (storeWord memory other value) addr = wordAt memory addr :=
  wordAt_store_apart (by simpa using apart)

theorem wordAt_congr (same : ∀ offset < 2, memory' (addr + offset) = memory (addr + offset)) :
  wordAt memory' addr = wordAt memory addr := by
  rw [wordAt, load_congr same, wordAt]

variable {α : Type}

theorem access_unwrapU16 (covered : Covered mapped addr.toNat 2) :
  access mapped memory (unwrapU16 addr >>= rest) = (rest (wordAt memory addr.toNat), memory) := by
  change (((if Covered mapped addr.toNat 2 then some (load memory addr.toNat 2) else none).map
    parseU16 |> unwrap) >>= rest, memory) = _
  rw [if_pos covered]
  rfl

theorem access_readObj {β : Type} {parse : List UInt8 → β}
  (covered : Covered mapped addr.toNat count) (rest : Option β → Program α) :
  access mapped memory (readObj addr count parse >>= rest) =
    (rest (some (parse (load memory addr.toNat count))), memory) := by
  change (rest ((if Covered mapped addr.toNat count then
    some (load memory addr.toNat count) else none).map parse), memory) = _
  rw [if_pos covered]
  rfl

theorem access_writeBytes (covered : Covered mapped addr bytes.length) :
  access mapped memory (writeBytes addr bytes >>= rest) = (rest true, store memory addr bytes) := by
  change (if Covered mapped addr bytes.length then (rest true, store memory addr bytes)
    else (rest false, memory)) = _
  rw [if_pos covered]

end

/-- The rings and the table lie in guest memory, apart from each other, and passed the
check made at activation. -/
structure Conforming (mem : GuestLayout) (queue : Queue) : Prop where
  checked : queue.BoundsChecked mem
  suppression : queue.usesNotifSuppression = true
  avail : ∀ offset < 6 + 2 * queue.actualSize.toNat,
    mem.addressInRange (queue.availRing.toNat + offset) = true
  used : ∀ offset < 6 + 8 * queue.actualSize.toNat,
    mem.addressInRange (queue.usedRing.toNat + offset) = true
  table : ∀ offset < 16 * queue.actualSize.toNat, mem.addressInRange (queue.descTable.toNat + offset) = true
  availUsed : queue.availRing.toNat + (6 + 2 * queue.actualSize.toNat) ≤ queue.usedRing.toNat ∨
    queue.usedRing.toNat + (6 + 8 * queue.actualSize.toNat) ≤ queue.availRing.toNat
  availTable : queue.availRing.toNat + (6 + 2 * queue.actualSize.toNat) ≤ queue.descTable.toNat ∨
    queue.descTable.toNat + 16 * queue.actualSize.toNat ≤ queue.availRing.toNat
  usedTable : queue.usedRing.toNat + (6 + 8 * queue.actualSize.toNat) ≤ queue.descTable.toNat ∨
    queue.descTable.toNat + 16 * queue.actualSize.toNat ≤ queue.usedRing.toNat

namespace Conforming

variable (conforming : Conforming mem queue)

include conforming

theorem bounded : queue.Bounded := conforming.checked.bounded

theorem advance (nextAvail nextUsed numAdded : UInt16) :
  Conforming mem { queue with nextAvail := nextAvail, nextUsed := nextUsed, numAdded := numAdded } :=
  { conforming with }

theorem position_lt (count : Nat) :
  (UInt16.ofNat count % queue.actualSize).toNat < queue.actualSize.toNat := by
  rw [UInt16.toNat_mod]
  exact Nat.mod_lt _ conforming.bounded.positive

theorem covered_avail (inside : offset + 2 ≤ 6 + 2 * queue.actualSize.toNat) :
  Covered mem.addressInRange (queue.availRing.toNat + offset) 2 := by
  intro byte small
  rw [Nat.add_assoc]
  exact conforming.avail _ (by omega)

theorem covered_used (inside : offset + count ≤ 6 + 8 * queue.actualSize.toNat) :
  Covered mem.addressInRange (queue.usedRing.toNat + offset) count := by
  intro byte small
  rw [Nat.add_assoc]
  exact conforming.used _ (by omega)

theorem table_end : queue.descTable.toNat + 16 * queue.actualSize.toNat < 2 ^ 64 ∧
    mem.addressInRange (queue.descTable.toNat + 16 * queue.actualSize.toNat) = true := by
  obtain ⟨_, _, desc, _⟩ := conforming.checked
  simpa [Queue.endsOutside] using desc

theorem descHead_some (inside : index < queue.actualSize) :
  ∃ head, DescriptorChain.descHead mem queue.descTable queue.actualSize index = some head ∧
    head.toNat = queue.descriptorAt index := by
  have small : index.toNat < queue.actualSize.toNat := UInt16.lt_iff_toNat_lt.mp inside
  obtain ⟨tableEnd, endInside⟩ := conforming.table_end
  have start : mem.addressInRange (queue.descTable.toNat + index.toNat * 16) = true :=
    conforming.table _ (by omega)
  have addr : (queue.descTable + UInt64.ofNat (index.toNat * 16)).toNat =
      queue.descTable.toNat + index.toNat * 16 := by
    rw [UInt64.toNat_add, UInt64.toNat_ofNat']
    omega
  have stop : mem.addressInRange (queue.descTable.toNat + index.toNat * 16 + 16) = true := by
    rw [Nat.add_assoc]
    rcases Nat.lt_or_ge (index.toNat * 16 + 16) (16 * queue.actualSize.toNat) with before | last
    · exact conforming.table _ before
    have same : index.toNat * 16 + 16 = 16 * queue.actualSize.toNat := by omega
    rw [same]
    exact endInside
  refine ⟨queue.descTable + UInt64.ofNat (index.toNat * 16), ?_, addr⟩
  have first : mem.checkedOffset queue.descTable (index.toNat * 16) =
      some (queue.descTable + UInt64.ofNat (index.toNat * 16)) :=
    if_pos ⟨by omega, start⟩
  have second : mem.checkedOffset (queue.descTable + UInt64.ofNat (index.toNat * 16)) 16 =
      some (queue.descTable + UInt64.ofNat (index.toNat * 16) + UInt64.ofNat 16) := by
    apply if_pos
    rw [addr]
    exact ⟨by omega, stop⟩
  generalize queue.descTable + UInt64.ofNat (index.toNat * 16) = head at first second
  simp [DescriptorChain.descHead, inside, first, second]

theorem covered_descriptor (inside : index < queue.actualSize) :
  Covered mem.addressInRange (queue.descriptorAt index) 16 := by
  have small : index.toNat < queue.actualSize.toNat := UInt16.lt_iff_toNat_lt.mp inside
  intro byte inDescriptor
  rw [Queue.descriptorAt, Nat.add_assoc]
  exact conforming.table _ (by omega)

theorem available_store (entries : other + bytes.length ≤ queue.availRing.toNat + 4 ∨
    queue.availRing.toNat + (4 + 2 * queue.actualSize.toNat) ≤ other)
  (table : other + bytes.length ≤ queue.descTable.toNat ∨
    queue.descTable.toNat + 16 * queue.actualSize.toNat ≤ other)
  (available : queue.Available memory count index) :
  queue.Available (store memory other bytes) count index := by
  have position := conforming.position_lt count
  have small : index.toNat < queue.actualSize.toNat := UInt16.lt_iff_toNat_lt.mp available.inside
  refine ⟨?_, available.inside, ?_⟩
  · rw [wordAt_store_apart]
    · exact available.entry
    unfold Queue.entryAt
    omega
  rw [load_store_apart]
  · exact available.valid
  unfold Queue.descriptorAt
  omega

end Conforming

namespace Queue

variable (queue : Queue) (mem : GuestLayout)

def enable : Program (Option DescriptorChain × Queue) := do
  queue.setAvailEvent queue.nextAvail
  let idx ← queue.availIdx
  if queue.nextAvail = idx then return (none, queue) else queue.doPopUnchecked mem

def recheck : Program (Option DescriptorChain × Queue) := do
  let idx ← queue.availIdx
  if queue.nextAvail = idx then return (none, queue) else queue.doPopUnchecked mem

def fetch (index : UInt16) : Program (Option DescriptorChain × Queue) := do
  let chain ← DescriptorChain.checkedNew mem queue.descTable queue.actualSize index
  return queue.afterPop chain

variable {mem}

theorem popOrEnableNotification_eq {queue : Queue} (suppression : queue.usesNotifSuppression = true) :
  queue.popOrEnableNotification mem = (do
    let idx ← queue.availIdx
    if idx = queue.nextAvail then queue.enable mem else queue.doPopUnchecked mem) := by
  simp only [popOrEnableNotification, tryEnableNotification, suppression, Bool.not_true,
    Bool.false_eq_true, ↓reduceIte, len, Program.bind_assoc, Program.pure_bind]
  congr 1
  funext idx
  by_cases same : idx = queue.nextAvail
  · simp only [same, UInt16.sub_self, ne_eq, not_true_eq_false, ↓reduceIte, Program.bind_assoc,
      Program.pure_bind, decide_eq_true_eq, enable]
  have different : idx - queue.nextAvail ≠ 0 := by
    intro zero
    exact same (by grind)
  simp [same, different]

theorem doPopUnchecked_eq {queue : Queue} (positive : 0 < queue.actualSize.toNat) :
  queue.doPopUnchecked mem = (do
    let index ← unwrapU16 (queue.availRing + (4 + 2 * (queue.nextAvail % queue.actualSize)).toUInt64)
    queue.fetch mem index) := by
  have nonzero : queue.actualSize ≠ 0 := by
    intro zero
    simp [zero] at positive
  simp [doPopUnchecked, checkedRem, nonzero, fetch]

def addLength (usedElem : UInt64) (len : UInt32) : Program (Except QueueError Unit × Queue) := do
  let wroteLen ← writeU32 len (usedElem + 4)
  if !wroteLen then return (.error .usedRing, queue)
  else do
    let queue := { queue with numAdded := queue.numAdded + 1, nextUsed := queue.nextUsed + 1 }
    let wroteUsed ← writeU16 queue.nextUsed (queue.usedRing + 2)
    return (if wroteUsed then .ok () else .error .usedRing, queue)

def addIndex : Program (Except QueueError Unit × Queue) := do
  let queue := { queue with numAdded := queue.numAdded + 1, nextUsed := queue.nextUsed + 1 }
  let wroteUsed ← writeU16 queue.nextUsed (queue.usedRing + 2)
  return (if wroteUsed then .ok () else .error .usedRing, queue)

def usedElem : UInt64 :=
  queue.usedRing + (4 + (queue.nextUsed % queue.actualSize).toUInt64 * 8)

theorem addUsed_eq {queue : Queue} {len : UInt32} (positive : 0 < queue.actualSize.toNat)
  (inside : index < queue.actualSize) :
  queue.addUsed index len = (do
    let wroteIndex ← writeU32 index.toUInt32 queue.usedElem
    if !wroteIndex then return (.error .usedRing, queue)
    else queue.addLength queue.usedElem len) := by
  have nonzero : queue.actualSize ≠ 0 := by
    intro zero
    simp [zero] at positive
  have below : ¬index ≥ queue.actualSize := UInt16.not_le.mpr inside
  simp only [addUsed, below, ↓reduceIte, checkedRem, nonzero, Program.pure_bind]
  rfl

theorem prepareKick_eq {queue : Queue} (suppression : queue.usesNotifSuppression = true) :
  queue.prepareKick = (do
    let event ← queue.usedEvent
    return (needEvent event queue.nextUsed (queue.nextUsed - queue.numAdded),
      { queue with numAdded := 0 })) := by
  simp only [prepareKick, suppression, Bool.not_true, Bool.false_eq_true, ↓reduceIte]
  rfl

end Queue

namespace Queue

variable {queue : Queue} (bounded : queue.Bounded)

include bounded

theorem Bounded.usedIdx_addr : (queue.usedRing + 2).toNat = queue.usedIdxAt := by
  have fits := bounded.usedEnd
  rw [UInt64.toNat_add, Queue.usedIdxAt]
  exact Nat.mod_eq_of_lt (by simpa using by omega)

theorem Bounded.usedElem_addr : ∃ position < queue.actualSize.toNat,
  queue.usedElem.toNat = queue.usedRing.toNat + (4 + 8 * position) ∧
  (queue.usedElem + 4).toNat = queue.usedRing.toNat + (8 + 8 * position) := by
  have fits := bounded.usedEnd
  have inside : (queue.nextUsed % queue.actualSize).toNat < queue.actualSize.toNat := by
    rw [UInt16.toNat_mod]
    exact Nat.mod_lt _ bounded.positive
  have start : queue.usedElem.toNat =
      queue.usedRing.toNat + (4 + 8 * (queue.nextUsed % queue.actualSize).toNat) := by
    simp only [Queue.usedElem, UInt64.toNat_add, UInt64.toNat_mul, UInt16.toNat_toUInt64,
      UInt64.reduceToNat]
    omega
  refine ⟨_, inside, start, ?_⟩
  rw [UInt64.toNat_add, start]
  simp only [UInt64.reduceToNat]
  omega

end Queue

namespace Conforming

variable (conforming : Conforming mem queue)

include conforming

theorem access_start : access mem.addressInRange memory (queue.popOrEnableNotification mem) =
    (if wordAt memory queue.availIdxAt = queue.nextAvail then queue.enable mem
      else queue.doPopUnchecked mem, memory) := by
  have addr := Queue.availIdx_addr conforming.bounded
  rw [Queue.popOrEnableNotification_eq conforming.suppression, Queue.availIdx, access_unwrapU16,
    addr, Queue.availIdxAt]
  rw [addr]
  exact conforming.covered_avail (by omega)

theorem access_enable : access mem.addressInRange memory (queue.enable mem) =
    (queue.recheck mem, storeWord memory queue.availEventAt queue.nextAvail) := by
  have addr := Queue.availEvent_addr conforming.bounded
  rw [Queue.enable, Queue.setAvailEvent, writeU16, Program.bind_assoc, access_writeBytes, addr]
  · rfl
  rw [addr, littleEndian_length]
  exact conforming.covered_used (by omega)

theorem access_recheck : access mem.addressInRange memory (queue.recheck mem) =
    (if queue.nextAvail = wordAt memory queue.availIdxAt then Pure.pure (none, queue)
      else queue.doPopUnchecked mem, memory) := by
  have addr := Queue.availIdx_addr conforming.bounded
  rw [Queue.recheck, Queue.availIdx, access_unwrapU16, addr, Queue.availIdxAt]
  rw [addr]
  exact conforming.covered_avail (by omega)

theorem access_entry (next : queue.nextAvail = UInt16.ofNat count) :
  access mem.addressInRange memory (queue.doPopUnchecked mem) =
    (queue.fetch mem (wordAt memory (queue.entryAt count)), memory) := by
  have position := conforming.position_lt count
  have addr := Queue.entry_addr conforming.bounded position
  rw [Queue.doPopUnchecked_eq conforming.bounded.positive, next, access_unwrapU16, addr, Queue.entryAt]
  rw [addr]
  exact conforming.covered_avail (by omega)

theorem access_fetch (available : queue.Available memory count index) :
  ∃ chain, access mem.addressInRange memory (queue.fetch mem index) =
    (Pure.pure (queue.afterPop (some chain)), memory) := by
  obtain ⟨head, found, addr⟩ := conforming.descHead_some available.inside
  obtain ⟨chain, valid⟩ := Option.isSome_iff_exists.mp available.valid
  refine ⟨chain, ?_⟩
  rw [Queue.fetch, DescriptorChain.checkedNew, found]
  simp only [Program.bind_assoc, Program.pure_bind]
  rw [access_readObj, addr, Option.bind_some, valid]
  rw [addr]
  exact conforming.covered_descriptor available.inside

theorem access_addUsed (inside : index < queue.actualSize) :
  access mem.addressInRange memory (queue.addUsed index len) = (queue.addLength queue.usedElem len,
      store memory queue.usedElem.toNat (littleEndian 4 index.toUInt32.toNat)) := by
  obtain ⟨position, small, addr, _⟩ := conforming.bounded.usedElem_addr
  rw [Queue.addUsed_eq conforming.bounded.positive inside, writeU32, access_writeBytes]
  · rfl
  rw [addr, littleEndian_length]
  exact conforming.covered_used (by omega)

theorem access_addLength : access mem.addressInRange memory (queue.addLength queue.usedElem len) =
    (queue.addIndex, store memory (queue.usedElem + 4).toNat (littleEndian 4 len.toNat)) := by
  obtain ⟨position, small, _, addr⟩ := conforming.bounded.usedElem_addr
  rw [Queue.addLength, writeU32, access_writeBytes]
  · rfl
  rw [addr, littleEndian_length]
  exact conforming.covered_used (by omega)

theorem access_addIndex : access mem.addressInRange memory queue.addIndex = (Pure.pure (.ok (), { queue with
        numAdded := queue.numAdded + 1, nextUsed := queue.nextUsed + 1 }),
      storeWord memory queue.usedIdxAt (queue.nextUsed + 1)) := by
  rw [Queue.addIndex, writeU16, access_writeBytes]
  · rw [conforming.bounded.usedIdx_addr]
    rfl
  rw [conforming.bounded.usedIdx_addr, littleEndian_length]
  exact conforming.covered_used (by omega)

theorem access_prepareKick : access mem.addressInRange memory queue.prepareKick =
    (Pure.pure (needEvent (wordAt memory queue.usedEventAt) queue.nextUsed
      (queue.nextUsed - queue.numAdded), { queue with numAdded := 0 }), memory) := by
  have addr := Queue.usedEvent_addr conforming.bounded
  rw [Queue.prepareKick_eq conforming.suppression, Queue.usedEvent, access_unwrapU16, addr,
    Queue.usedEventAt]
  rw [addr]
  exact conforming.covered_avail (by omega)

end Conforming

end Spacer.Virtio
