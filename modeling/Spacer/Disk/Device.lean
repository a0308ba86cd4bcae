import Spacer.Disk.Request
import Spacer.Lib.Runs

/-!
The block device: `device.rs`.  A step of the system is one turn of the loop of a handler;
what the guest does to its memory meanwhile is in what the accesses return, and what the
kernel does with the operations of the ring is a step of its own.
-/

namespace Spacer.Disk

open Lib Virtio

structure DiskProperties where
  fileEngine : FileEngine PendingRequest
  nsectors : UInt64
  imageId : List UInt8
  deriving DecidableEq

structure Block where
  disk : DiskProperties
  queue : Queue
  isIoEngineThrottled : Bool
  deriving DecidableEq

inductive Turn
  | empty
  | limited
  | throttled
  | submitted (index : UInt16)
  | executed (index : UInt16) (added : Bool)
  deriving DecidableEq

def addUsedDescriptor (queue : Queue) (index : UInt16) (len : UInt32) : Program (Bool × Queue) := do
  let added ← queue.addUsed index len
  let kicked ← added.2.prepareKick
  return (added.1.isOk, kicked.2)

namespace Block

variable (block : Block)

def withEngine (fileEngine : FileEngine PendingRequest) : Block :=
  { block with disk := { block.disk with fileEngine } }

def processQueueEvent (delivered blocked : Bool) : Bool :=
  delivered && !blocked && !block.isIoEngineThrottled

def execute (index : UInt16) (len : UInt32) : Program (Turn × Block) := do
  let added ← addUsedDescriptor block.queue index len
  return (.executed index added.1, { block with queue := added.2 })

def settle (index : UInt16) : ProcessingResult → Program (Turn × Block)
  | .submitted => return (.submitted index, block)
  | .throttled =>
    return (.throttled, { block with queue := block.queue.undoPop, isIoEngineThrottled := true })
  | .executed finished => block.execute index finished.numBytesToMem

/-- A turn of the loop of `process_queue` with the chain that was popped. -/
def processHead (mem : GuestLayout) (blocking : Option UInt32) (budget : Budget) (serial : Nat)
  (block : Block) (head : DescriptorChain) : Program (Turn × Block) := do
  let parsed ← Request.parse mem head block.disk.nsectors
  match parsed with
  | .error _ => block.execute head.index 0
  | .ok request =>
    if request.rateLimit budget then
      return (.limited, { block with queue := block.queue.undoPop })
    else do
      let processed ← Request.process mem blocking block.disk.imageId block.disk.fileEngine
        request head.index serial
      (block.withEngine processed.2).settle head.index processed.1

def processNext (mem : GuestLayout) (blocking : Option UInt32) (budget : Budget) (serial : Nat)
  (block : Block) : Program (Turn × Block) := do
  let popped ← block.queue.popOrEnableNotification mem
  match popped.1 with
  | none => return (.empty, { block with queue := popped.2 })
  | some head => processHead mem blocking budget serial { block with queue := popped.2 } head

def kickSubmissionQueue (submitted : Nat) : Block :=
  match block.disk.fileEngine with
  | .sync => block
  | .async ring => block.withEngine (.async (ring.submit submitted))

def completionResult (cqe : Cqe (WrappedUserData PendingRequest)) : Except IoErr UInt32 :=
  match cqe.result with
  | .ok count => .ok count
  | .error errno => .error (.fileEngine (.asyncIo errno))

/-- A turn of the loop of `process_async_completion_queue`: the chain that was finished, if
any, and whether it could be added to the used ring. -/
def processCompletion : Program (Option (PendingRequest × Bool) × Block) :=
  match block.disk.fileEngine with
  | .sync => return (none, block)
  | .async ring =>
    match ring.pop with
    | (none, _) => return (none, block)
    | (some cqe, ring) => do
      let pending := cqe.userData.userData
      let finished ← pending.finish (completionResult cqe)
      let added ← addUsedDescriptor block.queue finished.descIdx finished.numBytesToMem
      return (some (pending, added.1), { block.withEngine (.async ring) with queue := added.2 })

def isAsync : Bool :=
  match block.disk.fileEngine with
  | .sync => false
  | .async _ => true

def freshEngine (sqEntries cqEntries : Nat) : FileEngine PendingRequest :=
  match block.disk.fileEngine with
  | .sync => .sync
  | .async _ => .async ⟨sqEntries, cqEntries, [], [], [], 0⟩

structure NewImage where
  nsectors : UInt64
  imageId : List UInt8
  sqEntries : Nat
  cqEntries : Nat

def updateDiskImage : Option NewImage → Block
  | none => block
  | some image =>
    { block with
      disk := ⟨block.freshEngine image.sqEntries image.cqEntries, image.nsectors, image.imageId⟩ }

end Block

inductive Task
  | idle
  | queue
  -- `resume` tells the completion event from `prepare_save`
  | completions (resume : Bool)
  | draining

structure Chain where
  serial : Nat
  index : UInt16

def chainOf (pending : PendingRequest) : Chain := ⟨pending.serial, pending.descIdx⟩

/-- `popped` are the chains taken and not put back, `used` those added to the used ring. -/
structure System where
  block : Block
  task : Task
  popped : List Chain
  used : List Chain

namespace System

def inFlight (system : System) : List Chain :=
  system.block.disk.fileEngine.inFlight.map chainOf

def afterTurn (system : System) (submitted : Nat) (turn : Turn) (block : Block) : System :=
  match turn with
  | .empty | .limited | .throttled =>
    { system with block := block.kickSubmissionQueue submitted, task := .idle }
  | .submitted index =>
    { system with block, popped := system.popped ++ [⟨system.popped.length, index⟩] }
  | .executed index added =>
    { system with
      block
      popped := system.popped ++ [⟨system.popped.length, index⟩]
      used := if added then system.used ++ [⟨system.popped.length, index⟩] else system.used }

def afterCompletion (system : System) (resume : Bool) (done : Option (PendingRequest × Bool))
  (block : Block) : System :=
  match done with
  | some (pending, added) =>
    { system with
      block
      used := if added then system.used ++ [chainOf pending] else system.used }
  | none =>
    if resume && block.isIoEngineThrottled then
      { system with block := { block with isIoEngineThrottled := false }, task := .queue }
    else { system with block, task := .idle }

inductive Event
  | queueEvent (delivered blocked : Bool)
  | rateLimiterEvent (handled : Bool)
  | turn (blocking : Option UInt32) (budget : Budget) (submitted : Nat)
  | completionEvent (delivered : Bool)
  | completion
  | updateDiskImage (image : Option Block.NewImage)
  | prepareSave (submitted : Nat)
  | drained (finished : Bool)
  | kernelCompletes (place : Nat) (res : Int32)

def Drained (block : Block) : Prop :=
  match block.disk.fileEngine with
  | .sync => True
  | .async ring => ring.squeue = [] ∧ ring.inFlight = []

def kernelCompletes (block : Block) (place : Nat) (res : Int32) : Block :=
  match block.disk.fileEngine with
  | .sync => block
  | .async ring => block.withEngine (.async (ring.complete place res))

inductive Step (mem : GuestLayout) : System → Event → System → Prop
  | queueEvent (system : System) (delivered blocked : Bool) (idle : system.task = .idle) :
      Step mem system (.queueEvent delivered blocked) { system with
          task := if system.block.processQueueEvent delivered blocked then .queue else .idle }
  | rateLimiterEvent (system : System) (handled : Bool) (idle : system.task = .idle) :
      Step mem system (.rateLimiterEvent handled) { system with task := if handled then .queue else .idle }
  | turn (system : System) (blocking : Option UInt32) (budget : Budget) (submitted : Nat)
      (turn : Turn) (block : Block) (looping : system.task = .queue)
      (ran : Program.Returns mem.addressInRange
        (system.block.processNext mem blocking budget system.popped.length) (turn, block)) :
      Step mem system (.turn blocking budget submitted) (system.afterTurn submitted turn block)
  | completionEvent (system : System) (delivered : Bool) (idle : system.task = .idle) :
      Step mem system (.completionEvent delivered) { system with
          task := if system.block.isAsync && delivered then .completions true else .idle }
  | completion (system : System) (resume : Bool) (done : Option (PendingRequest × Bool))
      (block : Block) (looping : system.task = .completions resume)
      (ran : Program.Returns mem.addressInRange system.block.processCompletion (done, block)) :
      Step mem system .completion (system.afterCompletion resume done block)
  | updateDiskImage (system : System) (image : Option Block.NewImage)
      (idle : system.task = .idle) :
      Step mem system (.updateDiskImage image) { system with block := system.block.updateDiskImage image }
  | prepareSave (system : System) (submitted : Nat) (idle : system.task = .idle) :
      Step mem system (.prepareSave submitted) { system with
          block := system.block.kickSubmissionQueue submitted
          task := if system.block.isAsync then .draining else .idle }
  | drained (system : System) (finished : Bool) (waiting : system.task = .draining)
      (empty : finished = true → Drained system.block) :
      Step mem system (.drained finished) { system with task := .completions false }
  | kernelCompletes (system : System) (place : Nat) (res : Int32) :
      Step mem system (.kernelCompletes place res)
        { system with block := kernelCompletes system.block place res }

/-- Every chain taken and not put back was added to the used ring or is in flight in the
current engine: one of the two, and once. -/
structure Conserved (system : System) : Prop where
  placed : (system.used ++ system.inFlight).Perm system.popped
  distinct : system.popped.Nodup

def Allowed (system : System) : Event → Prop
  | .updateDiskImage (some _) => system.block.disk.fileEngine.inFlight = []
  | _ => True

end System

end Spacer.Disk
