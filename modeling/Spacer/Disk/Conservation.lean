import Spacer.Disk.Device
import Spacer.Virtio.Wakeup

/-!
Every chain the block device takes is either in flight in its file engine or was added to
the used ring, once.
-/

namespace Spacer.Virtio.Queue

open Lib Lib.Program

def UsedWritable (queue : Queue) (mem : GuestLayout) : Prop :=
  Covered mem.addressInRange (queue.usedRing.toNat + 2) (2 + 8 * queue.actualSize.toNat)

instance (queue : Queue) (mem : GuestLayout) : Decidable (queue.UsedWritable mem) :=
  inferInstanceAs (Decidable (Covered _ _ _))

section

variable {queue : Queue}

theorem SameConfig.trans (left : SameConfig first second) (right : SameConfig second third) :
  SameConfig first third :=
  ⟨right.actualSize.trans left.actualSize, right.availRing.trans left.availRing,
    right.usedRing.trans left.usedRing, right.suppression.trans left.suppression⟩

theorem SameConfig.usedWritable (same : SameConfig left right) (writable : left.UsedWritable mem) :
  right.UsedWritable mem := by
  rw [UsedWritable, same.usedRing, same.actualSize]
  exact writable

theorem UsedWritable.covered (writable : queue.UsedWritable mem) (above : 2 ≤ offset)
  (below : offset + count ≤ 4 + 8 * queue.actualSize.toNat) :
  Covered mem.addressInRange (queue.usedRing.toNat + offset) count := by
  intro place inside
  have byte := writable (offset - 2 + place) (by omega)
  rw [show queue.usedRing.toNat + offset + place = queue.usedRing.toNat + 2 + (offset - 2 + place) by omega]
  exact byte

theorem addUsed_ok (bounded : queue.Bounded) (writable : queue.UsedWritable mem)
  (inside : index < queue.actualSize) {len : UInt32}
  (ran : Returns mem.addressInRange (queue.addUsed index len) added) : added.1 = .ok () := by
  obtain ⟨position, small, elemAddr, lenAddr⟩ := bounded.usedElem_addr
  have elem : Covered mem.addressInRange queue.usedElem.toNat 4 := by
    rw [elemAddr]
    exact writable.covered (by omega) (by omega)
  have length : Covered mem.addressInRange (queue.usedElem + 4).toNat 4 := by
    rw [lenAddr]
    exact writable.covered (by omega) (by omega)
  have idx : Covered mem.addressInRange (queue.usedRing + 2).toNat 2 := by
    rw [bounded.usedIdx_addr]
    exact writable.covered (Nat.le_refl _) (by have := bounded.positive; omega)
  rw [addUsed_eq bounded.positive inside] at ran
  simp only [addLength, writeU32, writeU16, returns_bind, returns_writeBytes, littleEndian_length,
    elem, length, idx, decide_true, exists_eq_left', Bool.not_true, Bool.false_eq_true, if_false,
    if_true] at ran
  rw [← ran]

theorem checkedNew_index {descTable : UInt64}
  (ran : Returns mapped (DescriptorChain.checkedNew mem descTable queueSize index) (some chain)) :
  chain.index = index ∧ index < queueSize := by
  unfold DescriptorChain.checkedNew at ran
  split at ran
  · cases ran
  rename_i head found
  obtain ⟨desc, _, rest⟩ := (returns_bind).mp ran
  have made : desc.bind (DescriptorChain.ofDescriptor descTable queueSize index) = some chain :=
    rest
  obtain ⟨read, _, valid⟩ := Option.bind_eq_some_iff.mp made
  constructor
  · unfold DescriptorChain.ofDescriptor at valid
    dsimp only at valid
    split at valid
    · cases valid
      rfl
    · cases valid
  unfold DescriptorChain.descHead at found
  by_contra outside
  simp [outside] at found

theorem doPopUnchecked_index (ran : Returns mapped (queue.doPopUnchecked mem) (some head, later)) :
  head.index < queue.actualSize := by
  simp only [doPopUnchecked, returns_bind] at ran
  obtain ⟨_, _, index, _, chain, found, done⟩ := ran
  cases (Prod.mk.inj done).1
  obtain ⟨same, inside⟩ := checkedNew_index found
  rw [same]
  exact inside

theorem popOrEnableNotification_index
  (ran : Returns mapped (queue.popOrEnableNotification mem) (some head, later)) :
  head.index < queue.actualSize := by
  unfold popOrEnableNotification at ran
  split at ran
  · simp only [pop, returns_bind] at ran
    obtain ⟨available, _, rest⟩ := ran
    split at rest
    · cases rest
    · exact doPopUnchecked_index rest
  obtain ⟨enabled, _, rest⟩ := (returns_bind).mp ran
  split at rest
  · cases rest
  · exact doPopUnchecked_index rest

end

end Spacer.Virtio.Queue

namespace Spacer.Disk

open Lib Lib.Program Virtio

inductive Processed (engine : FileEngine PendingRequest) (pending : PendingRequest) :
  ProcessingResult × FileEngine PendingRequest → Prop
  | submitted {later : FileEngine PendingRequest}
      (held : later.inFlight.Perm (pending :: engine.inFlight)) :
      Processed engine pending (.submitted, later)
  | throttled : Processed engine pending (.throttled, engine)
  | executed (finished : FinishedRequest) : Processed engine pending (.executed finished, engine)

theorem conclude_processed (handed : FileEngine.Handed engine pending answer)
  (ran : Returns mapped (Request.conclude answer.1) result) :
  Processed engine pending (result, answer.2) := by
  cases handed with
  | submitted held =>
    cases ran
    exact .submitted held
  | executed count =>
    obtain ⟨finished, _, rfl⟩ := (returns_bind).mp ran
    exact .executed finished
  | refused cause =>
    simp only [Request.conclude] at ran
    split at ran
    · cases ran
      exact .throttled
    obtain ⟨finished, _, rfl⟩ := (returns_bind).mp ran
    exact .executed finished

theorem process_processed {request : Request}
  (ran : Returns mapped (request.process mem blocking imageId engine index serial) outcome) :
  Processed engine (request.toPendingRequest index serial) outcome := by
  unfold Request.process at ran
  split at ran
  · obtain ⟨result, concluded, rfl⟩ := (returns_bind).mp ran
    exact conclude_processed (FileEngine.transfer_handed _) concluded
  · obtain ⟨result, concluded, rfl⟩ := (returns_bind).mp ran
    exact conclude_processed (FileEngine.transfer_handed _) concluded
  · obtain ⟨result, concluded, rfl⟩ := (returns_bind).mp ran
    exact conclude_processed (FileEngine.flush_handed) concluded
  · obtain ⟨wrote, _, rest⟩ := (returns_bind).mp ran
    obtain ⟨finished, _, rfl⟩ := (returns_bind).mp rest
    exact .executed finished
  obtain ⟨finished, _, rfl⟩ := (returns_bind).mp ran
  exact .executed finished

structure Usable (mem : GuestLayout) (queue : Queue) : Prop where
  bounded : queue.Bounded
  writable : queue.UsedWritable mem

theorem Usable.same (usable : Usable mem first) (same : Queue.SameConfig first second) :
  Usable mem second :=
  ⟨same.bounded usable.bounded, same.usedWritable usable.writable⟩

theorem addUsedDescriptor_done (usable : Usable mem queue) (inside : index < queue.actualSize)
  (ran : Returns mem.addressInRange (addUsedDescriptor queue index len) added) :
  added.1 = true ∧ Queue.SameConfig queue added.2 := by
  simp only [addUsedDescriptor, returns_bind] at ran
  obtain ⟨result, first, kicked, second, rfl⟩ := ran
  have done := Queue.addUsed_ok usable.bounded usable.writable inside first
  have kept := Queue.sameConfig_prepareKick second
  refine ⟨?_, (Queue.sameConfig_addUsed first).trans kept⟩
  rw [done]
  rfl

inductive Placed (block : Block) (serial : Nat) : Turn × Block → Prop
  | empty {later : Block} (kept : later.disk.fileEngine = block.disk.fileEngine) :
      Placed block serial (.empty, later)
  | limited {later : Block} (kept : later.disk.fileEngine = block.disk.fileEngine) :
      Placed block serial (.limited, later)
  | throttled {later : Block} (kept : later.disk.fileEngine = block.disk.fileEngine) :
      Placed block serial (.throttled, later)
  | submitted {later : Block} {index : UInt16} (inside : index < block.queue.actualSize)
      (held : (later.disk.fileEngine.inFlight.map chainOf).Perm
        (⟨serial, index⟩ :: block.disk.fileEngine.inFlight.map chainOf)) :
      Placed block serial (.submitted index, later)
  | executed {later : Block} {index : UInt16} (inside : index < block.queue.actualSize)
      (kept : later.disk.fileEngine = block.disk.fileEngine) :
      Placed block serial (.executed index true, later)

theorem execute_placed (usable : Usable mem block.queue) (inside : index < block.queue.actualSize)
  (ran : Returns mem.addressInRange (block.execute index len) outcome) :
  Placed block serial outcome ∧ Queue.SameConfig block.queue outcome.2.queue := by
  obtain ⟨⟨added, queue⟩, first, rfl⟩ := (returns_bind).mp ran
  obtain ⟨rfl, same⟩ := addUsedDescriptor_done usable inside first
  exact ⟨.executed inside rfl, same⟩

theorem sameConfig_undoPop : Queue.SameConfig queue queue.undoPop :=
  ⟨rfl, rfl, rfl, rfl⟩

theorem processHead_placed (usable : Usable mem block.queue) {head : DescriptorChain}
  (inside : head.index < block.queue.actualSize) {blocking : Option UInt32} {budget : Budget}
  {serial : Nat} {outcome : Turn × Block}
  (ran : Returns mem.addressInRange (block.processHead mem blocking budget serial head) outcome) :
  Placed block serial outcome ∧ Queue.SameConfig block.queue outcome.2.queue := by
  obtain ⟨parsed, _, rest⟩ := (returns_bind).mp ran
  cases parsed with
  | error cause => exact execute_placed usable inside rest
  | ok request =>
    dsimp only at rest
    split at rest
    · cases rest
      exact ⟨.limited rfl, sameConfig_undoPop⟩
    obtain ⟨processed, first, rest⟩ := (returns_bind).mp rest
    have location := process_processed first
    cases location with
    | submitted held =>
      cases rest
      exact ⟨.submitted inside (held.map chainOf), Queue.SameConfig.refl _⟩
    | throttled =>
      cases rest
      exact ⟨.throttled rfl, sameConfig_undoPop⟩
    | executed finished => exact execute_placed usable inside rest

theorem processNext_placed (usable : Usable mem block.queue)
  (ran : Returns mem.addressInRange (block.processNext mem blocking budget serial) outcome) :
  Placed block serial outcome ∧ Queue.SameConfig block.queue outcome.2.queue := by
  obtain ⟨⟨chain, queue⟩, popped, rest⟩ := (returns_bind).mp ran
  have same := Queue.sameConfig_popOrEnableNotification popped
  cases chain with
  | none =>
    cases rest
    exact ⟨.empty rfl, same⟩
  | some head =>
    have inside := Queue.popOrEnableNotification_index popped
    rw [← same.actualSize] at inside
    obtain ⟨placed, later⟩ := @processHead_placed _ { block with queue } (usable.same same) _
      inside _ _ _ _ rest
    refine ⟨?_, same.trans later⟩
    cases placed with
    | empty kept => exact .empty kept
    | limited kept => exact .limited kept
    | throttled kept => exact .throttled kept
    | submitted inside held => exact .submitted (by rw [← same.actualSize]; exact inside) held
    | executed inside kept => exact .executed (by rw [← same.actualSize]; exact inside) kept

theorem finish_descIdx {pending : PendingRequest}
  (ran : Returns mapped (pending.finish res) finished) : finished.descIdx = pending.descIdx := by
  obtain ⟨_, _, rfl⟩ := ran
  rfl

inductive Collected (block : Block) : Option (PendingRequest × Bool) × Block → Prop
  | none : Collected block (none, block)
  | some {later : Block} {pending : PendingRequest}
      (held : (block.disk.fileEngine.inFlight.map chainOf).Perm
        (chainOf pending :: later.disk.fileEngine.inFlight.map chainOf)) :
      Collected block (some (pending, true), later)

theorem processCompletion_collected (usable : Usable mem block.queue)
  (indices : ∀ pending ∈ block.disk.fileEngine.inFlight, pending.descIdx < block.queue.actualSize)
  (ran : Returns mem.addressInRange block.processCompletion outcome) :
  Collected block outcome ∧ Queue.SameConfig block.queue outcome.2.queue := by
  unfold Block.processCompletion at ran
  split at ran
  · cases ran
    exact ⟨.none, Queue.SameConfig.refl _⟩
  rename_i ring engine
  split at ran
  · cases ran
    exact ⟨.none, Queue.SameConfig.refl _⟩
  rename_i cqe later popped
  simp only [returns_bind] at ran
  obtain ⟨finished, done, ⟨added, queue⟩, first, rfl⟩ := ran
  have outstanding := (IoUring.outstanding_pop popped).map WrappedUserData.userData
  have inside : finished.descIdx < block.queue.actualSize := by
    rw [finish_descIdx done]
    refine indices _ ?_
    rw [engine]
    exact outstanding.symm.subset List.mem_cons_self
  obtain ⟨rfl, same⟩ := addUsedDescriptor_done usable inside first
  refine ⟨.some ?_, same⟩
  rw [engine]
  exact outstanding.map chainOf

namespace System

structure Inv (mem : GuestLayout) (system : System) : Prop where
  usable : Usable mem system.block.queue
  placed : (system.used ++ system.inFlight).Perm system.popped
  serials : system.popped.map Chain.serial = List.range system.popped.length
  indices : ∀ chain ∈ system.popped, chain.index < system.block.queue.actualSize

theorem Inv.conserved (inv : Inv mem system) : system.Conserved := by
  refine ⟨inv.placed, List.Nodup.of_map Chain.serial ?_⟩
  rw [inv.serials]
  exact List.nodup_range

theorem Inv.move (inv : Inv mem system) {block : Block} (task : Task)
  (same : Queue.SameConfig system.block.queue block.queue)
  (held : (block.disk.fileEngine.inFlight.map chainOf).Perm system.inFlight) :
  Inv mem { system with block, task } := by
  refine ⟨inv.usable.same same, (held.append_left system.used).trans inv.placed, inv.serials, ?_⟩
  intro chain member
  rw [same.actualSize]
  exact inv.indices chain member

theorem kick_held (block : Block) (submitted : Nat) :
  ((block.kickSubmissionQueue submitted).disk.fileEngine.inFlight.map chainOf).Perm
    (block.disk.fileEngine.inFlight.map chainOf) ∧
  (block.kickSubmissionQueue submitted).queue = block.queue := by
  unfold Block.kickSubmissionQueue
  split
  · exact ⟨List.Perm.refl _, rfl⟩
  rename_i ring engine
  refine ⟨?_, rfl⟩
  rw [engine]
  exact ((ring.outstanding_submit submitted).map _).map _

theorem kernel_held (block : Block) (place : Nat) (res : Int32) :
  ((kernelCompletes block place res).disk.fileEngine.inFlight.map chainOf).Perm
    (block.disk.fileEngine.inFlight.map chainOf) ∧
  (kernelCompletes block place res).queue = block.queue := by
  unfold kernelCompletes
  split
  · exact ⟨List.Perm.refl _, rfl⟩
  rename_i ring engine
  refine ⟨?_, rfl⟩
  rw [engine]
  exact ((ring.outstanding_complete place res).map _).map _

variable (inv : Inv mem system)
include inv

theorem Inv.take {block : Block} {used : List Chain}
  (same : Queue.SameConfig system.block.queue block.queue) (inside : index < system.block.queue.actualSize)
  (placed : (used ++ block.disk.fileEngine.inFlight.map chainOf).Perm
    (⟨system.popped.length, index⟩ :: (system.used ++ system.inFlight))) :
  Inv mem { system with block, used, popped := system.popped ++ [⟨system.popped.length, index⟩] } := by
  refine ⟨inv.usable.same same, ?_, ?_, ?_⟩
  · exact placed.trans ((inv.placed.cons _).trans (List.perm_append_singleton _ _).symm)
  · simp only [List.map_append, List.map_cons, List.map_nil, List.length_append, List.length_cons,
      List.length_nil, List.range_succ, inv.serials]
  intro chain member
  rw [same.actualSize]
  rcases List.mem_append.mp member with old | new
  · exact inv.indices chain old
  cases List.mem_singleton.mp new
  exact inside

theorem inv_turn {block : Block} (ran : Returns mem.addressInRange
    (system.block.processNext mem blocking budget system.popped.length) (turn, block)) :
  Inv mem (system.afterTurn submitted turn block) := by
  obtain ⟨placed, same⟩ := processNext_placed inv.usable ran
  have stop (kept : block.disk.fileEngine = system.block.disk.fileEngine) :
      Inv mem { system with block := block.kickSubmissionQueue submitted, task := .idle } := by
    obtain ⟨held, queue⟩ := kick_held block submitted
    rw [kept] at held
    refine inv.move .idle ?_ held
    rw [queue]
    exact same
  cases placed with
  | empty kept | limited kept | throttled kept => exact stop kept
  | submitted inside held =>
    refine inv.take same inside ?_
    exact (held.append_left system.used).trans List.perm_middle
  | executed inside kept =>
    refine inv.take same inside ?_
    rw [kept, if_pos rfl, List.append_assoc]
    exact List.perm_middle

theorem inv_completion {block : Block}
  (ran : Returns mem.addressInRange system.block.processCompletion (done, block)) :
  Inv mem (system.afterCompletion resume done block) := by
  have indices : ∀ pending ∈ system.block.disk.fileEngine.inFlight,
      pending.descIdx < system.block.queue.actualSize := by
    intro pending member
    have known : chainOf pending ∈ system.popped :=
      inv.placed.subset (List.mem_append_right _ (List.mem_map_of_mem member))
    exact inv.indices _ known
  obtain ⟨collected, same⟩ := processCompletion_collected inv.usable indices ran
  cases collected with
  | none =>
    rw [afterCompletion]
    split
    · exact inv.move .queue same (List.Perm.refl _)
    · exact inv.move .idle same (List.Perm.refl _)
  | @some later pending held =>
    refine ⟨inv.usable.same same, ?_, inv.serials, fun chain member => ?_⟩
    · refine List.Perm.trans ?_ inv.placed
      rw [afterCompletion]
      rw [if_pos rfl, List.append_assoc]
      exact held.symm.append_left system.used
    rw [afterCompletion]
    rw [same.actualSize]
    exact inv.indices chain member

theorem inv_step (allowed : system.Allowed event) (step : Step mem system event later) : Inv mem later := by
  cases step with
  | queueEvent | rateLimiterEvent | completionEvent | drained => exact inv.move _ (.refl _) (.refl _)
  | turn blocking budget submitted turn block looping ran => exact inv_turn inv ran
  | completion resume done block looping ran => exact inv_completion inv ran
  | updateDiskImage image idle =>
    cases image with
    | none => exact inv.move system.task (.refl _) (.refl _)
    | some image =>
      refine inv.move system.task (.refl _) ?_
      have empty : system.block.disk.fileEngine.inFlight = [] := allowed
      have fresh : (system.block.freshEngine image.sqEntries image.cqEntries).inFlight = [] := by
        unfold Block.freshEngine
        split <;> rfl
      rw [inFlight, empty, Block.updateDiskImage, fresh]
  | prepareSave submitted idle =>
    obtain ⟨held, queue⟩ := kick_held system.block submitted
    refine inv.move _ ?_ held
    rw [queue]
    exact .refl _
  | kernelCompletes place res =>
    obtain ⟨held, queue⟩ := kernel_held system.block place res
    refine inv.move system.task ?_ held
    rw [queue]
    exact .refl _

omit inv

theorem inv_reached {block : Block} (active : block.queue.BoundsChecked mem)
  (writable : block.queue.UsedWritable mem) (fresh : block.disk.fileEngine.inFlight = [])
  (reached : Reach (Step mem) Allowed ⟨block, .idle, [], []⟩ system) : Inv mem system := by
  have initially : Inv mem ⟨block, .idle, [], []⟩ := by
    refine ⟨⟨active.bounded, writable⟩, ?_, rfl, fun chain member => ?_⟩
    · rw [inFlight, fresh]
      exact .refl _
    · cases member
  exact @Reach.invariant _ _ _ _ (Inv mem)
    (fun state event later inv allowed step => inv_step inv allowed step) _ _ initially reached

/-- Every chain completes once, whatever the guest, the kernel and the events do, if the used
ring is in guest memory and the image is exchanged only while nothing is in flight. -/
theorem chains_complete_once (mem : GuestLayout) (block : Block) (active : block.queue.BoundsChecked mem)
  (writable : block.queue.UsedWritable mem) (fresh : block.disk.fileEngine.inFlight = []) {system : System}
  (reached : Reach (Step mem) Allowed ⟨block, .idle, [], []⟩ system) : system.Conserved :=
  (inv_reached active writable fresh reached).conserved

/-! A flush request in the first two descriptors of a queue. -/

def requestQueue : Queue :=
  { Queue.new queueSizeMax queueSizeMax_offered with
    size := 4, ready := true, descTable := 0x1000, availRing := 0x2000, usedRing := 0x3000 }

def flushAnswers : List (List UInt8) :=
  [[1, 0], [0, 0], [0, 0x40, 0, 0, 0, 0, 0, 0, 16, 0, 0, 0, 1, 0, 1, 0],
    [4, 0, 0, 0, 0, 0, 0, 0, 0, 0, 0, 0, 0, 0, 0, 0],
    [0, 0x50, 0, 0, 0, 0, 0, 0, 1, 0, 0, 0, 2, 0, 0, 0]]

def flushRequest : PendingRequest := ⟨.flush, 0, 0x5000, 0, 0⟩

def sampleRing : IoUring (WrappedUserData PendingRequest) := ⟨128, 256, [], [], [], 0⟩

def asyncBlock : Block := ⟨⟨.async sampleRing, 8, []⟩, requestQueue, false⟩

def submittedBlock : Block :=
  ⟨⟨.async { sampleRing with squeue := [⟨none, flushRequest⟩], numOps := 1 }, 8, []⟩,
    { requestQueue with nextAvail := 1 }, false⟩

def plenty : Budget := ⟨true, true⟩

def waitingBlock : Block :=
  ⟨⟨.async { sampleRing with inFlight := [⟨none, flushRequest⟩], numOps := 1 }, 8, []⟩,
    { requestQueue with nextAvail := 1 }, false⟩

def finishedBlock : Block :=
  ⟨⟨.async sampleRing, 8, []⟩, { requestQueue with nextAvail := 1, nextUsed := 1, numAdded := 1 }, false⟩

theorem flush_submitted : Returns Virtio.System.sampleLayout.addressInRange
  (asyncBlock.processNext Virtio.System.sampleLayout none plenty 0)
  (.submitted 0, submittedBlock) :=
  @returns_of_replay _ _ _ flushAnswers _ (by decide +kernel)

theorem queue_empty : Returns Virtio.System.sampleLayout.addressInRange
  (submittedBlock.processNext Virtio.System.sampleLayout none plenty 1)
  (.empty, submittedBlock) :=
  @returns_of_replay _ _ _ [[1, 0]] _ (by decide +kernel)

theorem flush_finished : Returns Virtio.System.sampleLayout.addressInRange
  (kernelCompletes waitingBlock 0 0).processCompletion
  (some (flushRequest, true), finishedBlock) :=
  @returns_of_replay _ _ _ [] _ (by decide +kernel)

theorem flush_in_flight : Reach (Step Virtio.System.sampleLayout) Allowed ⟨asyncBlock, .idle, [], []⟩
    ⟨waitingBlock, .idle, [⟨0, 0⟩], []⟩ := by
  have notice : Step Virtio.System.sampleLayout ⟨asyncBlock, .idle, [], []⟩
      (.queueEvent true false) ⟨asyncBlock, .queue, [], []⟩ := .queueEvent _ true false rfl
  have take : Step Virtio.System.sampleLayout ⟨asyncBlock, .queue, [], []⟩
      (.turn none plenty 1) ⟨submittedBlock, .queue, [⟨0, 0⟩], []⟩ :=
    .turn _ none plenty 1 (.submitted 0) submittedBlock rfl flush_submitted
  have stop : Step Virtio.System.sampleLayout ⟨submittedBlock, .queue, [⟨0, 0⟩], []⟩
      (.turn none plenty 1) ⟨waitingBlock, .idle, [⟨0, 0⟩], []⟩ :=
    .turn _ none plenty 1 .empty submittedBlock rfl queue_empty
  exact .tail (.tail (.tail .refl notice trivial) take trivial) stop trivial

theorem chains_complete_once_flush :
  (⟨finishedBlock, .completions true, [⟨0, 0⟩], [⟨0, 0⟩]⟩ : System).Conserved := by
  have complete : Step Virtio.System.sampleLayout ⟨waitingBlock, .idle, [⟨0, 0⟩], []⟩
      (.kernelCompletes 0 0) ⟨kernelCompletes waitingBlock 0 0, .idle, [⟨0, 0⟩], []⟩ :=
    .kernelCompletes _ 0 0
  have notice : Step Virtio.System.sampleLayout
      ⟨kernelCompletes waitingBlock 0 0, .idle, [⟨0, 0⟩], []⟩ (.completionEvent true)
      ⟨kernelCompletes waitingBlock 0 0, .completions true, [⟨0, 0⟩], []⟩ :=
    .completionEvent _ true rfl
  have finish : Step Virtio.System.sampleLayout
      ⟨kernelCompletes waitingBlock 0 0, .completions true, [⟨0, 0⟩], []⟩ .completion
      ⟨finishedBlock, .completions true, [⟨0, 0⟩], [⟨0, 0⟩]⟩ :=
    .completion _ true (some (flushRequest, true)) finishedBlock rfl flush_finished
  exact chains_complete_once Virtio.System.sampleLayout asyncBlock (by decide) (by decide) rfl
    (.tail (.tail (.tail flush_in_flight complete trivial) notice trivial) finish trivial)

/-! The used index of a ring of one element falls into the gap of the memory. -/

def gapRequestQueue : Queue :=
  { requestQueue with size := 1, usedRing := 0xfffffffc }

def gapBlock : Block := ⟨⟨.sync, 8, []⟩, gapRequestQueue, false⟩

def gapBlockAfter : Block :=
  { gapBlock with
    queue := { gapRequestQueue with nextAvail := 1, nextUsed := 1, numAdded := 1 } }

theorem gap_not_added : Returns gapLayout.addressInRange
  (gapBlock.processNext gapLayout none plenty 0) (.executed 0 false, gapBlockAfter) :=
  @returns_of_replay _ _ _
    [[1, 0], [0, 0], [0, 0x40, 0, 0, 0, 0, 0, 0, 16, 0, 0, 0, 2, 0, 0, 0]] _ (by decide +kernel)

/-- The image is exchanged under a request; the used ring is not all in guest memory. -/
theorem chain_forgotten : (∃ system, Reach (Step Virtio.System.sampleLayout) (fun _ _ => True)
      ⟨asyncBlock, .idle, [], []⟩ system ∧
    asyncBlock.queue.BoundsChecked Virtio.System.sampleLayout ∧
    asyncBlock.queue.UsedWritable Virtio.System.sampleLayout ∧
    system.popped = [⟨0, 0⟩] ∧ system.used = [] ∧ system.inFlight = []) ∧
  ∃ system, Reach (Step gapLayout) Allowed ⟨gapBlock, .idle, [], []⟩ system ∧
    gapBlock.queue.BoundsChecked gapLayout ∧
    system.popped = [⟨0, 0⟩] ∧ system.used = [] ∧ system.inFlight = [] := by
  constructor
  · refine ⟨_, .tail (flush_in_flight.mono fun _ _ _ => trivial)
      (.updateDiskImage _ (some ⟨16, [], 128, 256⟩) rfl) trivial, by decide, by decide, rfl,
      rfl, rfl⟩
  have notice : Step gapLayout ⟨gapBlock, .idle, [], []⟩ (.queueEvent true false)
      ⟨gapBlock, .queue, [], []⟩ := .queueEvent _ true false rfl
  have fail : Step gapLayout ⟨gapBlock, .queue, [], []⟩ (.turn none plenty 1)
      ⟨gapBlockAfter, .queue, [⟨0, 0⟩], []⟩ :=
    .turn _ none plenty 1 (.executed 0 false) gapBlockAfter rfl gap_not_added
  exact ⟨_, .tail (.tail .refl notice trivial) fail trivial, by decide, rfl, rfl, rfl⟩

end System

end Spacer.Disk
