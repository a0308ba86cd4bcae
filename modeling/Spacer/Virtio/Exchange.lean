import Spacer.Lib.Counters
import Spacer.Virtio.Queue

/-!
A driver and a device that share a virtqueue with notification suppression.  Memory is
sequentially consistent and changes hands between any two accesses.  The device runs the
queue code, one access a step; the driver is any driver that follows the specification.
Unbounded counters stand beside the 16-bit words, which are their truncations.
-/

namespace Spacer.Virtio

open Lib Lib.Program

def wordAt (memory : Nat → UInt8) (addr : Nat) : UInt16 := parseU16 (load memory addr 2)

def storeWord (memory : Nat → UInt8) (addr : Nat) (value : UInt16) : Nat → UInt8 :=
  store memory addr (littleEndian 2 value.toNat)

namespace Queue

variable (queue : Queue)

def availIdxAt : Nat := queue.availRing.toNat + 2

def usedEventAt : Nat :=
  queue.availRing.toNat + (4 + 2 * queue.actualSize.toNat)

def usedIdxAt : Nat := queue.usedRing.toNat + 2

def availEventAt : Nat :=
  queue.usedRing.toNat + (4 + 8 * queue.actualSize.toNat)

def entryAt (count : Nat) : Nat :=
  queue.availRing.toNat + (4 + 2 * (UInt16.ofNat count % queue.actualSize).toNat)

def descriptorAt (index : UInt16) : Nat :=
  queue.descTable.toNat + index.toNat * 16

variable {queue}

structure Available (queue : Queue) (memory : Nat → UInt8) (count : Nat) (index : UInt16) :
  Prop where
  entry : wordAt memory (queue.entryAt count) = index
  inside : index < queue.actualSize
  valid : (DescriptorChain.ofDescriptor queue.descTable queue.actualSize index
    (parseDescriptor (load memory (queue.descriptorAt index) 16))).isSome

end Queue

/-- What the driver does about used buffers: it works, has set the event word and has
still to look at the ring, or waits for the interrupt of that event. -/
inductive Phase
  | running
  | armed (event : Nat)
  | waiting (event : Nat)

structure Driver where
  published : Nat
  -- the last check whether to notify was made when so many were published
  checked : Nat
  seen : Nat
  -- decided to notify, and not done so yet
  kick : Bool
  phase : Phase

inductive Task
  | rest
  | pop (program : Program (Option DescriptorChain × Queue))
  | add (program : Program (Except QueueError Unit × Queue))
  | kick (program : Program (Bool × Queue))

structure Device where
  queue : Queue
  task : Task
  -- the last `pop_or_enable_notification` returned `None`
  asleep : Bool
  popped : Nat
  used : Nat
  added : Nat

structure System where
  memory : Nat → UInt8
  driver : Driver
  device : Device
  notified : Bool
  interrupted : Bool

namespace System

def afterPop (system : System) : Program (Option DescriptorChain × Queue) → System
  | .pure (chain, queue) =>
    { system with device :=
      { system.device with
        queue := queue, task := .rest, asleep := chain.isNone
        popped := system.device.popped + if chain.isSome then 1 else 0 } }
  | program => { system with device := { system.device with task := .pop program } }

def afterAdd (system : System) : Program (Except QueueError Unit × Queue) → System
  | .pure (result, queue) =>
    let done := if result.isOk then 1 else 0
    { system with device :=
      { system.device with
        queue := queue, task := .rest
        used := system.device.used + done, added := system.device.added + done } }
  | program => { system with device := { system.device with task := .add program } }

def afterKick (system : System) : Program (Bool × Queue) → System
  | .pure (needed, queue) =>
    { system with
      device := { system.device with queue := queue, task := .rest, added := 0 }
      interrupted := system.interrupted || needed }
  | program => { system with device := { system.device with task := .kick program } }

/-- What the driver leaves alone when it prepares buffers: the used ring, its index, its
event word unless it takes no interest in interrupts, and the buffers the device may still
look at. -/
structure Keeps (system : System) (memory : Nat → UInt8) : Prop where
  used : ∀ offset < 6 + 8 * system.device.queue.actualSize.toNat,
    memory (system.device.queue.usedRing.toNat + offset) =
      system.memory (system.device.queue.usedRing.toNat + offset)
  idx : wordAt memory system.device.queue.availIdxAt = wordAt system.memory system.device.queue.availIdxAt
  event : system.driver.phase ≠ .running → wordAt memory system.device.queue.usedEventAt =
      wordAt system.memory system.device.queue.usedEventAt
  available : ∀ count index, system.device.popped ≤ count → count < system.driver.published →
    system.device.queue.Available system.memory count index →
    system.device.queue.Available memory count index

def mustNotify (system : System) : Bool :=
  needEvent (wordAt system.memory system.device.queue.availEventAt)
    (UInt16.ofNat system.driver.published) (UInt16.ofNat system.driver.checked)

def unseen (system : System) : Nat :=
  (wordAt system.memory system.device.queue.usedIdxAt - UInt16.ofNat system.driver.seen).toNat

inductive Step (mem : GuestLayout) : System → System → Prop
  | prepare (system : System) (memory : Nat → UInt8) (keeps : system.Keeps memory) :
      Step mem system { system with memory := memory }
  | publish (system : System) (number : Nat)
      (room : system.driver.published + number ≤ system.driver.seen + system.device.queue.actualSize.toNat)
      (recent : system.driver.published + number < system.driver.checked + 2 ^ 16)
      (ready : ∀ count, system.driver.published ≤ count → count < system.driver.published + number →
        ∃ index, system.device.queue.Available system.memory count index) :
      Step mem system { system with
          memory := storeWord system.memory system.device.queue.availIdxAt
            (UInt16.ofNat (system.driver.published + number))
          driver := { system.driver with published := system.driver.published + number } }
  | check (system : System) :
      Step mem system { system with driver :=
          { system.driver with
            checked := system.driver.published
            kick := system.driver.kick || system.mustNotify } }
  | notify (system : System) :
      Step mem system { system with driver := { system.driver with kick := false }, notified := true }
  | collect (system : System) (number : Nat) (shown : number ≤ system.unseen) :
      Step mem system { system with driver :=
          { system.driver with seen := system.driver.seen + number, phase := .running } }
  | arm (system : System) (delay : Nat) :
      Step mem system { system with
          memory := storeWord system.memory system.device.queue.usedEventAt
            (UInt16.ofNat (system.driver.seen + delay))
          driver := { system.driver with phase := .armed (system.driver.seen + delay) } }
  | recheck (system : System) (event : Nat) (armed : system.driver.phase = .armed event) :
      Step mem system { system with driver :=
          { system.driver with phase :=
            if system.driver.seen + system.unseen ≤ event then .waiting event else .running } }
  | interrupt (system : System) (pending : system.interrupted = true) :
      Step mem system
        { system with driver := { system.driver with phase := .running }, interrupted := false }
  | wake (system : System) (pending : system.notified = true)
      (resting : system.device.task = .rest) :
      Step mem system { system with device := { system.device with asleep := false }, notified := false }
  | startPop (system : System) (resting : system.device.task = .rest) :
      Step mem system { system with device :=
          { system.device with task := .pop (system.device.queue.popOrEnableNotification mem) } }
  | startAdd (system : System) (index : UInt16) (len : UInt32)
      (resting : system.device.task = .rest) (held : system.device.used < system.device.popped)
      (inside : index < system.device.queue.actualSize)
      (early : system.device.added < system.device.queue.actualSize.toNat) :
      Step mem system { system with device :=
          { system.device with task := .add (system.device.queue.addUsed index len) } }
  | startKick (system : System) (resting : system.device.task = .rest) :
      Step mem system { system with device :=
          { system.device with task := .kick system.device.queue.prepareKick } }
  | popAccess (system : System) (program : Program (Option DescriptorChain × Queue))
      (running : system.device.task = .pop program) :
      Step mem system
        ({ system with memory := (access mem.addressInRange system.memory program).2 }.afterPop
          (access mem.addressInRange system.memory program).1)
  | addAccess (system : System) (program : Program (Except QueueError Unit × Queue))
      (running : system.device.task = .add program) :
      Step mem system
        ({ system with memory := (access mem.addressInRange system.memory program).2 }.afterAdd
          (access mem.addressInRange system.memory program).1)
  | kickAccess (system : System) (program : Program (Bool × Queue))
      (running : system.device.task = .kick program) :
      Step mem system
        ({ system with memory := (access mem.addressInRange system.memory program).2 }.afterKick
          (access mem.addressInRange system.memory program).1)

inductive Run (mem : GuestLayout) : System → System → Prop
  | refl (system : System) : Run mem system system
  | step {first middle last : System} (before : Run mem first middle)
      (taken : Step mem middle last) : Run mem first last

end System

end Spacer.Virtio
