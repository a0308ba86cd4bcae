import Spacer.Guest.Core
import Spacer.Virtio.Mmio

/-! Which unwrapped accesses of the virtqueue code can fail. -/

namespace Spacer.Virtio

open Lib Lib.Program List

def FieldInside (mem : GuestLayout) (ring : UInt64) (offset : Nat) : Prop :=
  Covered mem.addressInRange (ring.toNat + offset) 2

section

variable {mem : GuestLayout}

theorem parseU16_littleEndian : parseU16 (littleEndian 2 value.toNat) = value := by
  rw [parseU16, ofLittleEndian_littleEndian 2 value.toNat value.toNat_lt, UInt16.ofNat_toNat]

theorem returns_unwrapU16 :
  Returns mem.addressInRange (unwrapU16 addr) value ↔ Covered mem.addressInRange addr.toNat 2 := by
  simp only [unwrapU16, readU16, readObj, returns_bind, returns_readBytes, returns_pure, returns_unwrap]
  constructor
  · rintro ⟨_, ⟨bytes, possible, rfl⟩, parsed⟩
    obtain ⟨found, rfl, _⟩ := Option.map_eq_some_iff.mp parsed
    exact possible.1
  intro covered
  refine ⟨_, ⟨some (littleEndian 2 value.toNat), ⟨covered, littleEndian_length 2⟩, rfl⟩, ?_⟩
  rw [Option.map_some, parseU16_littleEndian]

theorem panics_unwrapU16 :
  Panics mem.addressInRange (unwrapU16 addr) ↔ ¬Covered mem.addressInRange addr.toNat 2 := by
  simp only [unwrapU16, readU16, readObj, panics_bind, returns_bind, returns_readBytes,
    panics_readBytes, returns_pure, panics_pure, and_false, exists_false, or_false, false_or,
    panics_unwrap]
  constructor
  · rintro ⟨_, ⟨bytes, possible, rfl⟩, none⟩
    rw [Option.map_eq_none_iff.mp none] at possible
    exact possible
  intro uncovered
  exact ⟨none, ⟨none, uncovered, rfl⟩, rfl⟩

theorem checkedNew_no_panic :
  ¬Panics mem.addressInRange (DescriptorChain.checkedNew mem descTable queueSize index) := by
  unfold DescriptorChain.checkedNew
  split
  · exact panics_pure _
  · simp [panics_bind, readObj]

end

namespace Queue

def BoundsChecked (queue : Queue) (mem : GuestLayout) : Prop :=
  queue.ready = true ∧
  (queue.size ≤ queue.maxSize ∧ queue.size ≠ 0 ∧ queue.size &&& (queue.size - 1) = 0) ∧
  endsOutside mem queue.descTable (16 * queue.actualSize.toNat) = false ∧
  endsOutside mem queue.availRing (6 + 2 * queue.actualSize.toNat) = false ∧
  endsOutside mem queue.usedRing (6 + 8 * queue.actualSize.toNat) = false ∧
  queue.descTable &&& 0xf = 0 ∧ queue.availRing &&& 0x1 = 0 ∧ queue.usedRing &&& 0x3 = 0

instance (queue : Queue) (mem : GuestLayout) : Decidable (queue.BoundsChecked mem) :=
  inferInstanceAs (Decidable (_ ∧ _))

def checkLen (queue : Queue) : Program Bool := do
  let available ← queue.len
  if available > queue.maxSize then do
    let _ ← queue.len
    return false
  else return true

theorem isValid_eq (queue : Queue) :
  queue.isValid mem = if queue.BoundsChecked mem then queue.checkLen else Pure.pure false := by
  by_cases bounds : queue.BoundsChecked mem
  · rw [if_pos bounds]
    obtain ⟨ready, ⟨most, some, power⟩, desc, avail, used, descAligned, availAligned, usedAligned⟩ :=
      bounds
    have less : ¬queue.maxSize < queue.size := UInt16.not_lt.mpr most
    simp [isValid, ready, less, some, power, desc, avail, used, descAligned, availAligned,
      usedAligned, checkLen]
  unfold isValid
  dsimp only
  split_ifs with ready size desc avail used descAligned availAligned usedAligned
  all_goals first | rfl | skip
  refine absurd ⟨by simpa using ready, by simpa [and_assoc] using size, by simpa using desc,
    by simpa using avail, by simpa using used, by simpa using descAligned,
    by simpa using availAligned, by simpa using usedAligned⟩ bounds

theorem actualSize_le (queue : Queue) : queue.actualSize.toNat ≤ 256 := by
  have offered : queue.maxSize.toNat ≤ 256 := UInt16.le_iff_toNat_le.mp queue.offered
  unfold actualSize
  split
  · rename_i most
    exact Nat.le_trans (UInt16.le_iff_toNat_le.mp most) offered
  · exact offered

structure Bounded (queue : Queue) : Prop where
  positive : 0 < queue.actualSize.toNat
  availEnd : queue.availRing.toNat + (6 + 2 * queue.actualSize.toNat) < 2 ^ 64
  usedEnd : queue.usedRing.toNat + (6 + 8 * queue.actualSize.toNat) < 2 ^ 64

theorem BoundsChecked.bounded {queue : Queue} (bounds : queue.BoundsChecked mem) : queue.Bounded := by
  obtain ⟨_, ⟨most, some, _⟩, _, avail, used, _⟩ := bounds
  simp only [endsOutside, Bool.not_eq_false', Bool.and_eq_true, decide_eq_true_eq] at avail used
  refine ⟨?_, avail.1, used.1⟩
  have same : queue.actualSize = queue.size := if_pos most
  rw [same]
  have nonzero : queue.size.toNat ≠ 0 := fun zero => some (UInt16.toNat_inj.mp zero)
  omega

section

variable {queue : Queue}

theorem field_addr {scale count : UInt16} (small : 4 + scale.toNat * count.toNat < 2 ^ 16)
  (fits : ring.toNat + (4 + scale.toNat * count.toNat) < 2 ^ 64) :
  (ring + (4 + scale * count).toUInt64).toNat = ring.toNat + (4 + scale.toNat * count.toNat) := by
  have product : (scale * count).toNat = scale.toNat * count.toNat := by
    rw [UInt16.toNat_mul]
    exact Nat.mod_eq_of_lt (by omega)
  have offset : (4 + scale * count).toNat = 4 + scale.toNat * count.toNat := by
    rw [UInt16.toNat_add, product]
    exact Nat.mod_eq_of_lt small
  rw [UInt64.toNat_add, UInt16.toNat_toUInt64, offset, Nat.mod_eq_of_lt fits]

variable (bounded : queue.Bounded)
include bounded

theorem availIdx_addr : (queue.availRing + 2).toNat = queue.availRing.toNat + 2 := by
  have fits := bounded.availEnd
  exact Nat.mod_eq_of_lt (by simpa using by omega)

theorem usedEvent_addr : (queue.availRing + (4 + 2 * queue.actualSize).toUInt64).toNat =
    queue.availRing.toNat + (4 + 2 * queue.actualSize.toNat) := by
  have fits := bounded.availEnd
  have small := queue.actualSize_le
  exact field_addr (by simpa using by omega) (by simpa using by omega)

theorem availEvent_addr : (queue.usedRing + (4 + 8 * queue.actualSize).toUInt64).toNat =
    queue.usedRing.toNat + (4 + 8 * queue.actualSize.toNat) := by
  have fits := bounded.usedEnd
  have small := queue.actualSize_le
  exact field_addr (by simpa using by omega) (by simpa using by omega)

theorem entry_addr {position : UInt16} (inside : position.toNat < queue.actualSize.toNat) :
  (queue.availRing + (4 + 2 * position).toUInt64).toNat =
    queue.availRing.toNat + (4 + 2 * position.toNat) := by
  have fits := bounded.availEnd
  have small := queue.actualSize_le
  exact field_addr (by simpa using by omega) (by simpa using by omega)

omit bounded

structure FieldsInside (queue : Queue) (mem : GuestLayout) : Prop where
  idx : FieldInside mem queue.availRing 2
  entries : ∀ position < queue.actualSize.toNat, FieldInside mem queue.availRing (4 + 2 * position)
  usedEvent : FieldInside mem queue.availRing (4 + 2 * queue.actualSize.toNat)
  availEvent : queue.usesNotifSuppression = true →
    FieldInside mem queue.usedRing (4 + 8 * queue.actualSize.toNat)

variable (bounded : queue.Bounded)

include bounded

variable (value : UInt16)

theorem returns_availIdx :
  Returns mem.addressInRange queue.availIdx value ↔ FieldInside mem queue.availRing 2 := by
  rw [availIdx, returns_unwrapU16, availIdx_addr bounded, FieldInside]

theorem panics_availIdx :
  Panics mem.addressInRange queue.availIdx ↔ ¬FieldInside mem queue.availRing 2 := by
  rw [availIdx, panics_unwrapU16, availIdx_addr bounded, FieldInside]

theorem returns_len : Returns mem.addressInRange queue.len value ↔ FieldInside mem queue.availRing 2 := by
  simp only [len, returns_bind, returns_availIdx bounded, returns_pure]
  constructor
  · rintro ⟨_, inside, _⟩
    exact inside
  intro inside
  exact ⟨value + queue.nextAvail, inside, by simp⟩

theorem panics_len : Panics mem.addressInRange queue.len ↔ ¬FieldInside mem queue.availRing 2 := by
  simp [len, panics_bind, panics_availIdx bounded]

theorem panics_usedEvent : Panics mem.addressInRange queue.usedEvent ↔
  ¬FieldInside mem queue.availRing (4 + 2 * queue.actualSize.toNat) := by
  rw [usedEvent, panics_unwrapU16, usedEvent_addr bounded, FieldInside]

theorem panics_setAvailEvent : Panics mem.addressInRange (queue.setAvailEvent value) ↔
    ¬FieldInside mem queue.usedRing (4 + 8 * queue.actualSize.toNat) := by
  rw [FieldInside, ← availEvent_addr bounded]
  simp only [setAvailEvent, writeU16, panics_bind, panics_writeBytes, returns_writeBytes,
    littleEndian_length, panics_unwrap, false_or, exists_eq_left']
  simp

theorem panics_isValid (checked : queue.BoundsChecked mem) :
  Panics mem.addressInRange (queue.isValid mem) ↔ ¬FieldInside mem queue.availRing 2 := by
  rw [isValid_eq, if_pos checked, checkLen, panics_bind, panics_len bounded]
  constructor
  · rintro (uncovered | ⟨available, length, panics⟩)
    · exact uncovered
    split at panics
    · simpa [panics_bind, panics_len bounded] using panics
    · exact absurd panics (panics_pure _)
  · exact .inl

theorem returns_isValid (checked : queue.BoundsChecked mem) :
  Returns mem.addressInRange (queue.isValid mem) true ↔ FieldInside mem queue.availRing 2 := by
  rw [isValid_eq, if_pos checked, checkLen, returns_bind]
  constructor
  · rintro ⟨available, length, _⟩
    exact (returns_len bounded available).mp length
  intro inside
  refine ⟨0, (returns_len bounded 0).mpr inside, ?_⟩
  rfl

end

structure SameConfig (left right : Queue) : Prop where
  actualSize : right.actualSize = left.actualSize
  availRing : right.availRing = left.availRing
  usedRing : right.usedRing = left.usedRing
  suppression : right.usesNotifSuppression = left.usesNotifSuppression

theorem SameConfig.refl (queue : Queue) : SameConfig queue queue := ⟨rfl, rfl, rfl, rfl⟩

theorem SameConfig.bounded (same : SameConfig left right) (bounded : left.Bounded) : right.Bounded := by
  constructor
  · rw [same.actualSize]
    exact bounded.positive
  · rw [same.actualSize, same.availRing]
    exact bounded.availEnd
  rw [same.actualSize, same.usedRing]
  exact bounded.usedEnd

theorem SameConfig.fieldsInside (same : SameConfig left right) (inside : left.FieldsInside mem) :
  right.FieldsInside mem := by
  constructor
  · rw [same.availRing]
    exact inside.idx
  · rw [same.actualSize, same.availRing]
    exact inside.entries
  · rw [same.actualSize, same.availRing]
    exact inside.usedEvent
  rw [same.actualSize, same.usedRing, same.suppression]
  exact inside.availEvent

inductive Op
  | len
  | pop
  | popOrEnableNotification
  | undoPop
  | addUsed (descIndex : UInt16) (length : UInt32)
  | usedEvent
  | tryEnableNotification
  | prepareKick

def Op.apply (mem : GuestLayout) (queue : Queue) : Op → Program Queue
  | .len => do
    let _ ← queue.len
    return queue
  | .pop => do
    let popped ← queue.pop mem
    return popped.2
  | .popOrEnableNotification => do
    let popped ← queue.popOrEnableNotification mem
    return popped.2
  | .undoPop => return queue.undoPop
  | .addUsed descIndex length => do
    let added ← queue.addUsed descIndex length
    return added.2
  | .usedEvent => do
    let _ ← queue.usedEvent
    return queue
  | .tryEnableNotification => do
    let _ ← queue.tryEnableNotification
    return queue
  | .prepareKick => do
    let kicked ← queue.prepareKick
    return kicked.2

def runOps (mem : GuestLayout) : Queue → List Op → Program Queue
  | queue, [] => return queue
  | queue, op :: ops => do
    let next ← op.apply mem queue
    runOps mem next ops

section

variable {queue next : Queue}

theorem returns_checkedRem (done : Returns mapped (checkedRem dividend divisor) value) :
  divisor.toNat ≠ 0 ∧ value = dividend % divisor := by
  unfold checkedRem at done
  split at done
  · cases done
  rename_i nonzero
  exact ⟨fun zero => nonzero (UInt16.toNat_inj.mp zero), done.symm⟩

theorem panics_checkedRem : Panics mapped (checkedRem dividend divisor) ↔ divisor.toNat = 0 := by
  unfold checkedRem
  split
  · rename_i zero
    simp [zero]
  rename_i nonzero
  simpa using fun zero => nonzero (UInt16.toNat_inj.mp zero)

theorem sameConfig_afterPop (queue : Queue) (chain : Option DescriptorChain) :
  SameConfig queue (queue.afterPop chain).2 := by
  unfold afterPop
  split
  · exact ⟨rfl, rfl, rfl, rfl⟩
  · exact SameConfig.refl queue

theorem sameConfig_doPopUnchecked (done : Returns mapped (queue.doPopUnchecked mem) popped) :
  SameConfig queue popped.2 := by
  simp only [doPopUnchecked, returns_bind, returns_pure] at done
  obtain ⟨_, _, _, _, chain, _, rfl⟩ := done
  exact sameConfig_afterPop queue chain

theorem sameConfig_pop (done : Returns mapped (queue.pop mem) popped) : SameConfig queue popped.2 := by
  simp only [pop, returns_bind] at done
  obtain ⟨available, _, rest⟩ := done
  split at rest
  · cases rest
    exact SameConfig.refl queue
  · exact sameConfig_doPopUnchecked rest

theorem sameConfig_addUsed {len : UInt32}
  (done : Returns mapped (queue.addUsed descIndex len) added) : SameConfig queue added.2 := by
  unfold addUsed at done
  split at done
  · cases done
    exact SameConfig.refl queue
  simp only [returns_bind] at done
  obtain ⟨_, _, wroteIndex, _, rest⟩ := done
  split at rest
  · cases rest
    exact SameConfig.refl queue
  rw [returns_bind] at rest
  obtain ⟨wroteLen, _, rest⟩ := rest
  split at rest
  · cases rest
    exact SameConfig.refl queue
  rw [returns_bind] at rest
  obtain ⟨_, _, rest⟩ := rest
  cases rest
  exact ⟨rfl, rfl, rfl, rfl⟩

theorem sameConfig_popOrEnableNotification
  (done : Returns mapped (queue.popOrEnableNotification mem) popped) : SameConfig queue popped.2 := by
  unfold popOrEnableNotification at done
  split at done
  · exact sameConfig_pop done
  obtain ⟨enabled, _, rest⟩ := (returns_bind).mp done
  split at rest
  · cases rest
    exact SameConfig.refl queue
  · exact sameConfig_doPopUnchecked rest

theorem sameConfig_prepareKick (done : Returns mapped queue.prepareKick kicked) :
  SameConfig queue kicked.2 := by
  unfold prepareKick at done
  split at done
  · cases done
    exact SameConfig.refl queue
  obtain ⟨_, _, rest⟩ := (returns_bind).mp done
  cases rest
  exact ⟨rfl, rfl, rfl, rfl⟩

theorem sameConfig_apply {op : Op} (done : Returns mapped (op.apply mem queue) next) :
  SameConfig queue next := by
  cases op with
  | undoPop =>
    cases done
    exact ⟨rfl, rfl, rfl, rfl⟩
  | len | usedEvent | tryEnableNotification =>
    rw [Op.apply, returns_bind] at done
    obtain ⟨_, _, rfl⟩ := done
    exact SameConfig.refl queue
  | pop =>
    rw [Op.apply, returns_bind] at done
    obtain ⟨popped, first, rfl⟩ := done
    exact sameConfig_pop first
  | popOrEnableNotification =>
    rw [Op.apply, returns_bind] at done
    obtain ⟨popped, first, rfl⟩ := done
    exact sameConfig_popOrEnableNotification first
  | addUsed descIndex length =>
    rw [Op.apply, returns_bind] at done
    obtain ⟨added, first, rfl⟩ := done
    exact sameConfig_addUsed first
  | prepareKick =>
    rw [Op.apply, returns_bind] at done
    obtain ⟨kicked, first, rfl⟩ := done
    exact sameConfig_prepareKick first

variable (bounded : queue.Bounded) (inside : queue.FieldsInside mem)

include bounded inside

theorem doPopUnchecked_no_panic : ¬Panics mem.addressInRange (queue.doPopUnchecked mem) := by
  have positive := bounded.positive
  simp only [doPopUnchecked, panics_bind, panics_checkedRem, panics_unwrapU16, panics_pure,
    checkedNew_no_panic, and_false, exists_false, or_false, not_or, not_exists, not_and, not_not]
  refine ⟨by omega, ?_⟩
  intro position remainder
  obtain ⟨_, rfl⟩ := returns_checkedRem remainder
  have small : (queue.nextAvail % queue.actualSize).toNat < queue.actualSize.toNat := by
    exact Nat.mod_lt _ positive
  rw [entry_addr bounded small]
  exact inside.entries _ small

theorem tryEnableNotification_no_panic : ¬Panics mem.addressInRange queue.tryEnableNotification := by
  unfold tryEnableNotification
  split
  · exact panics_pure true
  rename_i suppression
  have event := inside.availEvent (by simpa using suppression)
  rw [panics_bind, panics_len bounded, not_or]
  refine ⟨not_not.mpr inside.idx, ?_⟩
  rintro ⟨available, _, rest⟩
  split at rest
  · exact panics_pure _ rest
  simp [panics_bind, panics_setAvailEvent bounded, panics_availIdx bounded, event, inside.idx] at rest

theorem pop_no_panic : ¬Panics mem.addressInRange (queue.pop mem) := by
  rw [pop, panics_bind, panics_len bounded, not_or]
  refine ⟨not_not.mpr inside.idx, ?_⟩
  rintro ⟨available, _, rest⟩
  split at rest
  · exact panics_pure _ rest
  · exact doPopUnchecked_no_panic bounded inside rest

theorem popOrEnableNotification_no_panic :
  ¬Panics mem.addressInRange (queue.popOrEnableNotification mem) := by
  unfold popOrEnableNotification
  split
  · exact pop_no_panic bounded inside
  rw [panics_bind, not_or]
  refine ⟨tryEnableNotification_no_panic bounded inside, ?_⟩
  rintro ⟨enabled, _, rest⟩
  split at rest
  · exact panics_pure _ rest
  · exact doPopUnchecked_no_panic bounded inside rest

omit inside in
theorem addUsed_no_panic (descIndex : UInt16) (length : UInt32) :
  ¬Panics mem.addressInRange (queue.addUsed descIndex length) := by
  have positive := bounded.positive
  unfold addUsed
  split
  · exact panics_pure _
  simp only [panics_bind, panics_checkedRem, writeU32, writeU16, panics_writeBytes, false_or, not_or]
  refine ⟨by omega, ?_⟩
  rintro ⟨position, _, wroteIndex, _, rest⟩
  split at rest
  · exact panics_pure _ rest
  simp only [panics_bind, panics_writeBytes, false_or] at rest
  obtain ⟨wroteLen, _, rest⟩ := rest
  split at rest
  · exact panics_pure _ rest
  · simp [panics_bind] at rest

theorem prepareKick_no_panic : ¬Panics mem.addressInRange queue.prepareKick := by
  unfold prepareKick
  split
  · exact panics_pure _
  · simp [panics_bind, panics_usedEvent bounded, inside.usedEvent]

theorem apply_no_panic (op : Op) : ¬Panics mem.addressInRange (op.apply mem queue) := by
  cases op with
  | len => simp [Op.apply, panics_bind, panics_len bounded, inside.idx]
  | pop => simp [Op.apply, panics_bind, pop_no_panic bounded inside]
  | popOrEnableNotification =>
    simp [Op.apply, panics_bind, popOrEnableNotification_no_panic bounded inside]
  | undoPop => exact panics_pure _
  | addUsed descIndex length =>
    simp [Op.apply, panics_bind, addUsed_no_panic bounded descIndex length]
  | usedEvent => simp [Op.apply, panics_bind, panics_usedEvent bounded, inside.usedEvent]
  | tryEnableNotification =>
    simp [Op.apply, panics_bind, tryEnableNotification_no_panic bounded inside]
  | prepareKick => simp [Op.apply, panics_bind, prepareKick_no_panic bounded inside]

omit bounded inside in
theorem runOps_no_panic (ops : List Op) : ∀ {queue : Queue}, queue.Bounded →
  queue.FieldsInside mem → ¬Panics mem.addressInRange (runOps mem queue ops) := by
  induction ops with
  | nil =>
    intro queue _ _
    exact panics_pure queue
  | cons op ops ih =>
    intro queue bounded inside
    rw [runOps, panics_bind, not_or]
    refine ⟨apply_no_panic bounded inside op, ?_⟩
    rintro ⟨next, done, rest⟩
    have same := sameConfig_apply done
    exact ih (same.bounded bounded) (same.fieldsInside inside) rest

end

variable (queue : Queue) (mem : GuestLayout)

/-- The available ring from its index on and, if notifications are suppressed, the last
field of the used ring lie in guest memory. -/
def RingsInside : Prop :=
  (∀ offset, 2 ≤ offset → offset < 6 + 2 * queue.actualSize.toNat →
    mem.addressInRange (queue.availRing.toNat + offset) = true) ∧
  (queue.usesNotifSuppression = true →
    ∀ offset, 4 + 8 * queue.actualSize.toNat ≤ offset → offset < 6 + 8 * queue.actualSize.toNat →
      mem.addressInRange (queue.usedRing.toNat + offset) = true)

theorem fieldInside_iff : FieldInside mem ring start ↔ ∀ offset, start ≤ offset → offset < start + 2 →
    mem.addressInRange (ring.toNat + offset) = true := by
  constructor
  · intro inside offset lower upper
    have covered := inside (offset - start) (by omega)
    rwa [show ring.toNat + start + (offset - start) = ring.toNat + offset by omega] at covered
  intro inside offset small
  rw [Nat.add_assoc]
  exact inside (start + offset) (by omega) (by omega)

theorem ringsInside_iff : queue.RingsInside mem ↔ queue.FieldsInside mem := by
  constructor
  · rintro ⟨avail, used⟩
    refine ⟨?_, ?_, ?_, ?_⟩
    · rw [fieldInside_iff]
      intro offset lower upper
      exact avail offset lower (by omega)
    · intro position small
      rw [fieldInside_iff]
      intro offset lower upper
      exact avail offset (by omega) (by omega)
    · rw [fieldInside_iff]
      intro offset lower upper
      exact avail offset (by omega) (by omega)
    intro suppression
    rw [fieldInside_iff]
    intro offset lower upper
    exact used suppression offset lower (by omega)
  intro inside
  constructor
  · intro offset lower upper
    -- the offset belongs to the index, to one of the entries, or to the event field
    by_cases index : offset < 4
    · exact (fieldInside_iff _).mp inside.idx offset lower (by omega)
    by_cases entry : (offset - 4) / 2 < queue.actualSize.toNat
    · exact (fieldInside_iff _).mp (inside.entries _ entry) offset (by omega) (by omega)
    · exact (fieldInside_iff _).mp inside.usedEvent offset (by omega) (by omega)
  intro suppression offset lower upper
  exact (fieldInside_iff _).mp (inside.availEvent suppression) offset lower (by omega)

/-- No contents of guest memory, changing in any way between the accesses, make the check
at activation panic, or any sequence of calls after a check that succeeded. -/
def PanicFree : Prop :=
  ¬Panics mem.addressInRange (queue.isValid mem) ∧
  (Returns mem.addressInRange (queue.isValid mem) true →
    ∀ ops : List Op, ¬Panics mem.addressInRange (runOps mem queue ops))

section

variable {queue : Queue} {mem : GuestLayout}

theorem panics_runOps_undoPop (count : Nat) (queue : Queue) (panics : Panics mem.addressInRange
    (runOps mem { queue with nextAvail := queue.nextAvail - UInt16.ofNat count } ops)) :
  Panics mem.addressInRange (runOps mem queue (List.replicate count .undoPop ++ ops)) := by
  induction count generalizing queue with
  | zero => simpa using panics
  | succ count ih =>
    have same : queue.nextAvail - 1 - UInt16.ofNat count = queue.nextAvail - UInt16.ofNat (count + 1) := by
      rw [UInt16.ofNat_add]
      grind
    refine ih queue.undoPop ?_
    rw [← same] at panics
    exact panics

theorem panics_pop (bounded : queue.Bounded) (idx : FieldInside mem queue.availRing 2)
  (outside : ¬FieldInside mem queue.availRing (4 + 2 * (queue.nextAvail.toNat % queue.actualSize.toNat))) :
  Panics mem.addressInRange (Op.pop.apply mem queue) := by
  have positive := bounded.positive
  have small : (queue.nextAvail % queue.actualSize).toNat < queue.actualSize.toNat := by
    exact Nat.mod_lt _ positive
  have nonzero : queue.actualSize ≠ 0 := by
    intro zero
    rw [zero] at positive
    exact absurd positive (by decide)
  have entry : Panics mem.addressInRange (queue.doPopUnchecked mem) := by
    rw [doPopUnchecked, checkedRem, if_neg nonzero, Program.pure_bind, panics_bind,
      panics_unwrapU16, entry_addr bounded small, UInt16.toNat_mod]
    exact .inl outside
  rw [Op.apply, panics_bind, pop, panics_bind]
  refine .inl (.inr ⟨1, (returns_len bounded 1).mpr idx, ?_⟩)
  exact entry

theorem panics_tryEnableNotification (bounded : queue.Bounded)
  (idx : FieldInside mem queue.availRing 2) (suppression : queue.usesNotifSuppression = true)
  (outside : ¬FieldInside mem queue.usedRing (4 + 8 * queue.actualSize.toNat)) :
  Panics mem.addressInRange (Op.tryEnableNotification.apply mem queue) := by
  have event := (panics_setAvailEvent bounded queue.nextAvail).mpr outside
  rw [Op.apply, panics_bind, tryEnableNotification, suppression, Bool.not_true, if_neg (by decide),
    panics_bind]
  refine .inl (.inr ⟨0, (returns_len bounded 0).mpr idx, ?_⟩)
  rw [if_neg (by simp), panics_bind]
  exact .inl event

theorem runOps_singleton (panics : Panics mem.addressInRange (op.apply mem queue)) :
  Panics mem.addressInRange (runOps mem queue [op]) := by
  rw [runOps, panics_bind]
  exact .inl panics

end

/-- The check looks at the end of each ring only, so the virtqueue code is free of panics
exactly if a ring that ends in guest memory lies in it. -/
theorem panicFree_iff (queue : Queue) (mem : GuestLayout) :
  queue.PanicFree mem ↔ (queue.BoundsChecked mem → queue.RingsInside mem) := by
  constructor
  · rintro ⟨checks, later⟩ bounds
    have bounded := bounds.bounded
    have idx : FieldInside mem queue.availRing 2 := by
      rwa [panics_isValid bounded bounds, not_not] at checks
    have calls := later ((returns_isValid bounded bounds).mpr idx)
    refine (ringsInside_iff queue mem).mpr ⟨idx, ?_, ?_, ?_⟩
    · intro position small
      by_contra outside
      -- the queue can be brought to this position, and then the guest adds a buffer
      refine calls (List.replicate (queue.nextAvail - UInt16.ofNat position).toNat .undoPop ++ [.pop])
        (panics_runOps_undoPop _ _ (runOps_singleton (panics_pop ⟨?_, ?_, ?_⟩ idx ?_)))
      · exact bounded.positive
      · exact bounded.availEnd
      · exact bounded.usedEnd
      have bound := queue.actualSize_le
      have back : queue.nextAvail - (queue.nextAvail - UInt16.ofNat position) =
          UInt16.ofNat position := by grind
      have here : (UInt16.ofNat position).toNat % queue.actualSize.toNat = position := by
        rw [UInt16.toNat_ofNat', Nat.mod_eq_of_lt (show position < 2 ^ 16 by omega),
          Nat.mod_eq_of_lt small]
      dsimp only
      rw [UInt16.ofNat_toNat, back]
      change ¬FieldInside mem queue.availRing
        (4 + 2 * ((UInt16.ofNat position).toNat % queue.actualSize.toNat))
      rwa [here]
    · by_contra outside
      refine calls [.usedEvent] (runOps_singleton ?_)
      rw [Op.apply, panics_bind, panics_usedEvent bounded]
      exact .inl outside
    intro suppression
    by_contra outside
    exact calls [.tryEnableNotification]
      (runOps_singleton (panics_tryEnableNotification bounded idx suppression outside))
  intro inside
  by_cases bounds : queue.BoundsChecked mem
  · have bounded := bounds.bounded
    have fields := (ringsInside_iff queue mem).mp (inside bounds)
    constructor
    · rw [panics_isValid bounded bounds, not_not]
      exact fields.idx
    intro _ ops
    exact runOps_no_panic ops bounded fields
  rw [PanicFree, isValid_eq, if_neg bounds]
  refine ⟨panics_pure false, ?_⟩
  intro returned
  cases returned

end Queue

def archLayout (size : Nat) (small : size < 2 ^ 62) : GuestLayout where
  regions := Guest.archMemoryRegions size
  fits := by
    intro region member
    have start : Guest.mmioMemStart < Guest.firstAddrPast32Bits := by decide
    unfold Guest.archMemoryRegions at member
    split at member
    · rw [mem_singleton] at member
      subst member
      dsimp only
      omega
    simp only [mem_cons, not_mem_nil, or_false] at member
    rcases member with rfl | rfl
    · decide
    simp only [Guest.firstAddrPast32Bits]
    omega
  disjoint := by
    unfold Guest.archMemoryRegions
    split
    · simp
    simp only [pairwise_cons, mem_singleton, forall_eq, not_mem_nil,
      false_implies, implies_true, List.Pairwise.nil, and_true]
    decide

/-- Four GiB of memory: a hole of 768 MiB ends at the second region. -/
def gapLayout : GuestLayout := archLayout 0x100000000 (by decide)

def gapQueue : Queue :=
  { Queue.new queueSizeMax queueSizeMax_offered with
    size := 1, ready := true, descTable := 0x1000, availRing := 0xfffffffc, usedRing := 0x2000 }

/-- Status up to `FEATURES_OK`, then the registers of the first queue. -/
def gapWrites : List (UInt64 × List UInt8) :=
  [(0x70, [1, 0, 0, 0]), (0x70, [3, 0, 0, 0]), (0x70, [11, 0, 0, 0]), (0x38, [1, 0, 0, 0]),
    (0x80, [0, 0x10, 0, 0]), (0x90, [0xfc, 0xff, 0xff, 0xff]), (0xa0, [0, 0x20, 0, 0]),
    (0x44, [1, 0, 0, 0])]

/-- The available ring starts in the hole and ends behind it: the check itself panics. -/
theorem gapQueue_panics :
  ∃ transport, MmioTransport.writeAll plainKind gapLayout (.new plainDevice 0) gapWrites = .pure transport ∧
    transport.device.queues = [gapQueue] ∧ ¬gapQueue.PanicFree gapLayout := by
  have bounds : gapQueue.BoundsChecked gapLayout := by decide
  refine ⟨_, rfl, rfl, ?_⟩
  rintro ⟨checks, _⟩
  rw [Queue.panics_isValid bounds.bounded bounds, not_not] at checks
  exact absurd (checks 0 (by decide)) (by decide)

end Spacer.Virtio
