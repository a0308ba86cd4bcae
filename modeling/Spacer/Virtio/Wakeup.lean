import Spacer.Virtio.Notification

/-! No wakeup is lost: what the event words and the counters are worth while a side sleeps. -/

namespace Spacer.Virtio

open Lib Lib.Program

inductive Popping (mem : GuestLayout) (queue : Queue) (memory : Nat → UInt8)
  (popped published : Nat) : Program (Option DescriptorChain × Queue) → Prop
  | start : Popping mem queue memory popped published (queue.popOrEnableNotification mem)
  | enable : Popping mem queue memory popped published (queue.enable mem)
  | recheck (event : wordAt memory queue.availEventAt = UInt16.ofNat popped) :
      Popping mem queue memory popped published (queue.recheck mem)
  | entry (more : popped < published) :
      Popping mem queue memory popped published (queue.doPopUnchecked mem)
  | fetch (index : UInt16) (more : popped < published)
      (available : queue.Available memory popped index) :
      Popping mem queue memory popped published (queue.fetch mem index)

inductive Adding (queue : Queue) : Program (Except QueueError Unit × Queue) → Prop
  | start (index : UInt16) (len : UInt32) (inside : index < queue.actualSize) :
      Adding queue (queue.addUsed index len)
  | length (len : UInt32) : Adding queue (queue.addLength queue.usedElem len)
  | index : Adding queue queue.addIndex

/-- The words through which the two sides tell each other how far they are. -/
inductive Signal
  | availIdx
  | usedEvent
  | usedIdx
  | availEvent

def Queue.signalAt (queue : Queue) : Signal → Nat
  | .availIdx => queue.availIdxAt
  | .usedEvent => queue.usedEventAt
  | .usedIdx => queue.usedIdxAt
  | .availEvent => queue.availEventAt

section

open Queue

variable (conforming : Conforming mem queue)
include conforming

theorem Conforming.word_kept {memory : Nat → UInt8} (one other : Signal) (differ : one ≠ other) :
  wordAt (storeWord memory (queue.signalAt one) value) (queue.signalAt other) =
    wordAt memory (queue.signalAt other) := by
  have apart := conforming.availUsed
  apply wordAt_storeWord_apart
  cases one <;> cases other <;>
    first
    | exact absurd rfl differ
    | simp only [signalAt, availIdxAt, usedEventAt, usedIdxAt, availEventAt]; omega

theorem Conforming.available_kept (signal : Signal) (available : queue.Available memory count index) :
  queue.Available (storeWord memory (queue.signalAt signal) value) count index := by
  have := conforming.availUsed
  have := conforming.availTable
  have := conforming.usedTable
  refine conforming.available_store ?_ ?_ available <;> rw [littleEndian_length] <;> cases signal <;>
    simp only [signalAt, availIdxAt, usedEventAt, usedIdxAt, availEventAt] <;> omega

end

namespace System

structure Counts (size nSeen nUsed nPopped nPublished nChecked nAdded : Nat) : Prop where
  seen : nSeen ≤ nUsed
  used : nUsed ≤ nPopped
  popped : nPopped ≤ nPublished
  room : nPublished ≤ nSeen + size
  checked : nChecked ≤ nPublished
  recent : nPublished < nChecked + 2 ^ 16
  added : nAdded ≤ nUsed
  early : nAdded ≤ size

structure Mirrored (memory : Nat → UInt8) (queue : Queue) (published popped used added : Nat) :
  Prop where
  availIdx : wordAt memory queue.availIdxAt = UInt16.ofNat published
  usedIdx : wordAt memory queue.usedIdxAt = UInt16.ofNat used
  nextAvail : queue.nextAvail = UInt16.ofNat popped
  nextUsed : queue.nextUsed = UInt16.ofNat used
  numAdded : queue.numAdded = UInt16.ofNat added

def Offered (system : System) : Prop :=
  ∀ count, system.device.popped ≤ count → count < system.driver.published →
    ∃ index, system.device.queue.Available system.memory count index

/-- The driver's event word stands, and a driver that waits has not been passed unless an
interrupt is pending or will be raised for the entries added since the last one. -/
structure Waits (memory : Nat → UInt8) (queue : Queue) (phase : Phase) (interrupted : Bool)
  (used added : Nat) : Prop where
  event : ∀ event, phase = .armed event ∨ phase = .waiting event →
    wordAt memory queue.usedEventAt = UInt16.ofNat event
  covered : ∀ event, phase = .waiting event → interrupted = true ∨ used ≤ event + added

/-- The device's event word stands while it sleeps, and what was published since is
followed by a notification, or by a check that will find the event crossed. -/
def Sleeps (system : System) : Prop :=
  system.device.asleep = true → (∀ program, system.device.task ≠ .pop program) →
    wordAt system.memory system.device.queue.availEventAt = UInt16.ofNat system.device.popped ∧
    (system.notified = true ∨ system.driver.kick = true ∨ system.driver.checked ≤ system.device.popped)

structure Tasked (mem : GuestLayout) (system : System) : Prop where
  pop : ∀ program, system.device.task = .pop program →
    Popping mem system.device.queue system.memory system.device.popped system.driver.published program
  add : ∀ program, system.device.task = .add program →
    Adding system.device.queue program ∧ system.device.used < system.device.popped ∧
      system.device.added < system.device.queue.actualSize.toNat
  kick : ∀ program, system.device.task = .kick program → program = system.device.queue.prepareKick

structure Inv (mem : GuestLayout) (system : System) : Prop where
  conforming : Conforming mem system.device.queue
  counts : Counts system.device.queue.actualSize.toNat system.driver.seen system.device.used
    system.device.popped system.driver.published system.driver.checked system.device.added
  mirrored : Mirrored system.memory system.device.queue system.driver.published
    system.device.popped system.device.used system.device.added
  offered : system.Offered
  waits : Waits system.memory system.device.queue system.driver.phase system.interrupted
    system.device.used system.device.added
  sleeps : system.Sleeps
  tasked : system.Tasked mem

structure Frame (system : System) (memory : Nat → UInt8) : Prop where
  availIdx : wordAt memory system.device.queue.availIdxAt =
    wordAt system.memory system.device.queue.availIdxAt
  usedIdx : wordAt memory system.device.queue.usedIdxAt = wordAt system.memory system.device.queue.usedIdxAt
  usedEvent : system.driver.phase ≠ .running → wordAt memory system.device.queue.usedEventAt =
      wordAt system.memory system.device.queue.usedEventAt
  available : ∀ count index, system.device.popped ≤ count → count < system.driver.published →
    system.device.queue.Available system.memory count index →
    system.device.queue.Available memory count index

theorem Frame.refl (system : System) : system.Frame system.memory :=
  ⟨rfl, rfl, fun _ => rfl, fun _ _ _ _ available => available⟩

section

variable {system : System}

theorem Tasked.rest (resting : system.device.task = .rest) : system.Tasked mem :=
  ⟨by simp [resting], by simp [resting], by simp [resting]⟩

theorem Waits.running {memory : Nat → UInt8} {interrupted : Bool} :
  Waits memory queue .running interrupted used added :=
  ⟨by simp, by simp⟩

theorem Frame.waits {memory : Nat → UInt8} (frame : system.Frame memory)
  (waits : Waits system.memory system.device.queue system.driver.phase system.interrupted
    system.device.used system.device.added) :
  Waits memory system.device.queue system.driver.phase system.interrupted
    system.device.used system.device.added := by
  refine ⟨?_, waits.covered⟩
  intro event phase
  have interested : system.driver.phase ≠ .running := by
    rcases phase with armed | waiting
    · exact fun running => by simp [running] at armed
    · exact fun running => by simp [running] at waiting
  exact (frame.usedEvent interested).trans (waits.event event phase)

theorem Offered.of_frame {memory : Nat → UInt8} (offered : system.Offered)
  (frame : system.Frame memory) : { system with memory := memory }.Offered := by
  intro count after before
  obtain ⟨index, available⟩ := offered count after before
  exact ⟨index, frame.available count index after before available⟩

variable (inv : Inv mem system)
include inv

theorem Inv.move {memory : Nat → UInt8} {task : Task} (frame : system.Frame memory)
  (sleeps : { system with memory := memory, device := { system.device with task := task } }.Sleeps)
  (tasked : { system with memory := memory, device := { system.device with task := task } }.Tasked mem) :
  Inv mem { system with memory := memory, device := { system.device with task := task } } where
  conforming := inv.conforming
  counts := inv.counts
  mirrored := { inv.mirrored with
    availIdx := frame.availIdx.trans inv.mirrored.availIdx
    usedIdx := frame.usedIdx.trans inv.mirrored.usedIdx }
  offered := inv.offered.of_frame frame
  waits := frame.waits inv.waits
  sleeps := sleeps
  tasked := tasked

theorem Inv.movePop {memory : Nat → UInt8} (frame : system.Frame memory)
  (popping : Popping mem system.device.queue memory system.device.popped system.driver.published program) :
  Inv mem { system with memory := memory, device := { system.device with task := .pop program } } := by
  refine inv.move frame ?_ ⟨?_, nofun, nofun⟩
  · intro _ awake
    exact absurd rfl (awake program)
  rintro next same
  cases same
  exact popping

theorem Inv.unseen_eq : system.unseen = system.device.used - system.driver.seen := by
  have small := system.device.queue.actualSize_le
  have counts := inv.counts
  rw [unseen, inv.mirrored.usedIdx, distance_words counts.seen]
  have := counts.used
  have := counts.popped
  have := counts.room
  omega

theorem Inv.mustNotify_of_late
  (event : wordAt system.memory system.device.queue.availEventAt = UInt16.ofNat system.device.popped)
  (covered : system.driver.checked ≤ system.device.popped)
  (more : system.device.popped < system.driver.published) : system.mustNotify = true := by
  rw [mustNotify, event]
  exact needEvent_of_crossed covered more inv.counts.recent

theorem Inv.mustInterrupt_of_passed (waiting : system.driver.phase = .waiting event)
  (passed : event < system.device.used) (added : system.device.used ≤ event + system.device.added) :
  needEvent (wordAt system.memory system.device.queue.usedEventAt) system.device.queue.nextUsed
    (system.device.queue.nextUsed - system.device.queue.numAdded) = true := by
  have counts := inv.counts
  have small := system.device.queue.actualSize_le
  have early := counts.early
  rw [inv.waits.event event (.inr waiting), inv.mirrored.nextUsed, inv.mirrored.numAdded,
    ← words_sub counts.added]
  exact needEvent_of_crossed (by omega) passed (by omega)

omit inv

end

theorem Keeps.frame {system : System} {memory : Nat → UInt8} (keeps : system.Keeps memory) :
  system.Frame memory ∧ wordAt memory system.device.queue.availEventAt =
    wordAt system.memory system.device.queue.availEventAt := by
  refine ⟨⟨keeps.idx, ?_, keeps.event, keeps.available⟩, ?_⟩
  · apply wordAt_congr
    intro offset small
    rw [Queue.usedIdxAt, Nat.add_assoc]
    exact keeps.used _ (by omega)
  apply wordAt_congr
  intro offset small
  rw [Queue.availEventAt, Nat.add_assoc]
  exact keeps.used _ (by omega)

section

variable (inv : Inv mem system)

include inv

theorem Inv.popping_of_driver {memory : Nat → UInt8}
  (event : wordAt memory system.device.queue.availEventAt =
    wordAt system.memory system.device.queue.availEventAt)
  (keeps : ∀ index, system.device.popped < system.driver.published →
    system.device.queue.Available system.memory system.device.popped index →
    system.device.queue.Available memory system.device.popped index)
  (grown : system.driver.published ≤ published) (running : system.device.task = .pop program) :
  Popping mem system.device.queue memory system.device.popped published program := by
  cases inv.tasked.pop program running with
  | start => exact .start
  | enable => exact .enable
  | recheck same => exact .recheck (event.trans same)
  | entry more => exact .entry (Nat.lt_of_lt_of_le more grown)
  | fetch index more available =>
    exact .fetch index (Nat.lt_of_lt_of_le more grown) (keeps index more available)

theorem inv_prepare {memory : Nat → UInt8} (keeps : system.Keeps memory) :
  Inv mem { system with memory := memory } := by
  obtain ⟨frame, event⟩ := keeps.frame
  refine @Inv.move mem system inv memory system.device.task frame ?_ ⟨?_, inv.tasked.add, inv.tasked.kick⟩
  · intro asleep awake
    obtain ⟨same, covered⟩ := inv.sleeps asleep awake
    exact ⟨event.trans same, covered⟩
  intro program running
  exact inv.popping_of_driver event (fun index => frame.available _ index (Nat.le_refl _))
    (Nat.le_refl _) running

theorem inv_publish (room : system.driver.published + number ≤
    system.driver.seen + system.device.queue.actualSize.toNat)
  (recent : system.driver.published + number < system.driver.checked + 2 ^ 16)
  (ready : ∀ count, system.driver.published ≤ count → count < system.driver.published + number →
    ∃ index, system.device.queue.Available system.memory count index) :
  Inv mem { system with
    memory := storeWord system.memory system.device.queue.availIdxAt
      (UInt16.ofNat (system.driver.published + number))
    driver := { system.driver with published := system.driver.published + number } } := by
  have counts := inv.counts
  have grown := Nat.le_add_right system.driver.published number
  have conforming := inv.conforming
  refine ⟨conforming, ?_, ?_, ?_, ?_, ?_, ?_, inv.tasked.add, inv.tasked.kick⟩
  · exact { counts with
      popped := Nat.le_trans counts.popped grown, room, checked := Nat.le_trans counts.checked grown, recent }
  · exact { inv.mirrored with
      availIdx := wordAt_storeWord
      usedIdx := (conforming.word_kept .availIdx .usedIdx nofun).trans inv.mirrored.usedIdx }
  · intro count after before
    rcases Nat.lt_or_ge count system.driver.published with old | new
    · obtain ⟨index, available⟩ := inv.offered count after old
      exact ⟨index, conforming.available_kept .availIdx available⟩
    obtain ⟨index, available⟩ := ready count new before
    exact ⟨index, conforming.available_kept .availIdx available⟩
  · refine ⟨fun event phase => ?_, inv.waits.covered⟩
    exact (conforming.word_kept .availIdx .usedEvent nofun).trans (inv.waits.event event phase)
  · intro asleep awake
    obtain ⟨same, covered⟩ := inv.sleeps asleep awake
    exact ⟨(conforming.word_kept .availIdx .availEvent nofun).trans same, covered⟩
  intro program running
  exact inv.popping_of_driver (conforming.word_kept .availIdx .availEvent nofun)
    (fun index _ available => conforming.available_kept .availIdx available) grown running

theorem Inv.drive {driver : Driver} {notified interrupted : Bool}
  (published : driver.published = system.driver.published)
  (counts : Counts system.device.queue.actualSize.toNat driver.seen system.device.used
    system.device.popped driver.published driver.checked system.device.added)
  (waits : Waits system.memory system.device.queue driver.phase interrupted
    system.device.used system.device.added) (sleeps : { system with driver, notified, interrupted }.Sleeps) :
  Inv mem { system with driver, notified, interrupted } := by
  refine ⟨inv.conforming, counts, ?_, ?_, waits, sleeps, ?_, inv.tasked.add, inv.tasked.kick⟩
  · exact { inv.mirrored with
      availIdx := inv.mirrored.availIdx.trans (congrArg UInt16.ofNat published.symm) }
  · intro count after before
    exact inv.offered count after (Nat.lt_of_lt_of_eq before published)
  intro program running
  exact inv.popping_of_driver rfl (fun _ _ available => available) (Nat.le_of_eq published.symm) running

theorem inv_check : Inv mem { system with driver :=
    { system.driver with
      checked := system.driver.published
      kick := system.driver.kick || system.mustNotify } } := by
  have counts := inv.counts
  refine inv.drive rfl ?_ inv.waits ?_
  · exact { counts with checked := Nat.le_refl _, recent := Nat.lt_add_of_pos_right (by decide) }
  intro asleep awake
  obtain ⟨event, covered⟩ := inv.sleeps asleep awake
  refine ⟨event, ?_⟩
  rcases covered with notified | kick | before
  · exact .inl notified
  · exact .inr (.inl (by simp [kick]))
  rcases Nat.lt_or_ge system.device.popped system.driver.published with more | all
  · have found := inv.mustNotify_of_late event before more
    exact .inr (.inl (by simp [found]))
  · exact .inr (.inr all)

theorem inv_notify :
  Inv mem { system with driver := { system.driver with kick := false }, notified := true } := by
  refine inv.drive rfl inv.counts inv.waits ?_
  intro asleep awake
  exact ⟨(inv.sleeps asleep awake).1, .inl rfl⟩

theorem inv_collect (shown : number ≤ system.unseen) : Inv mem { system with driver :=
    { system.driver with seen := system.driver.seen + number, phase := .running } } := by
  have counts := inv.counts
  rw [inv.unseen_eq] at shown
  refine inv.drive rfl ?_ Waits.running inv.sleeps
  have seen := counts.seen
  have room := counts.room
  exact { counts with seen := by dsimp only; omega, room := by dsimp only; omega }

theorem inv_recheck (armed : system.driver.phase = .armed event) : Inv mem { system with driver :=
    { system.driver with phase :=
      if system.driver.seen + system.unseen ≤ event then .waiting event else .running } } := by
  refine inv.drive rfl inv.counts ?_ inv.sleeps
  rw [inv.unseen_eq]
  split
  · constructor
    · rintro other (phase | phase)
      · cases phase
      cases phase
      exact inv.waits.event event (.inl armed)
    rintro other phase
    cases phase
    exact .inr (by omega)
  · exact Waits.running

theorem inv_interrupt :
  Inv mem { system with driver := { system.driver with phase := .running }, interrupted := false } :=
  inv.drive rfl inv.counts Waits.running inv.sleeps

theorem inv_arm : Inv mem { system with
    memory := storeWord system.memory system.device.queue.usedEventAt
      (UInt16.ofNat (system.driver.seen + delay))
    driver := { system.driver with phase := .armed (system.driver.seen + delay) } } := by
  have conforming := inv.conforming
  refine ⟨conforming, inv.counts, ?_, ?_, ?_, ?_, ?_, inv.tasked.add, inv.tasked.kick⟩
  · exact { inv.mirrored with
      availIdx := (conforming.word_kept .usedEvent .availIdx nofun).trans inv.mirrored.availIdx
      usedIdx := (conforming.word_kept .usedEvent .usedIdx nofun).trans inv.mirrored.usedIdx }
  · intro count after before
    obtain ⟨index, available⟩ := inv.offered count after before
    exact ⟨index, conforming.available_kept .usedEvent available⟩
  · constructor
    · rintro event (phase | phase)
      · cases phase
        exact wordAt_storeWord
      · cases phase
    rintro event phase
    cases phase
  · intro asleep awake
    obtain ⟨same, covered⟩ := inv.sleeps asleep awake
    exact ⟨(conforming.word_kept .usedEvent .availEvent nofun).trans same, covered⟩
  intro program running
  exact inv.popping_of_driver (conforming.word_kept .usedEvent .availEvent nofun)
    (fun index _ available => conforming.available_kept .usedEvent available)
    (Nat.le_refl _) running

end

section

variable {system : System}

theorem afterPop_running (running : ∀ result, program ≠ .pure result) :
  system.afterPop program = { system with device := { system.device with task := .pop program } } := by
  cases program with
  | pure result => exact absurd rfl (running result)
  | panic | read | write => rfl

theorem doPopUnchecked_running {queue : Queue} (positive : 0 < queue.actualSize.toNat)
  (result : Option DescriptorChain × Queue) : queue.doPopUnchecked mem ≠ .pure result := by
  rw [Queue.doPopUnchecked_eq positive]
  intro stopped
  cases stopped

theorem fetch_running (conforming : Conforming mem queue) (inside : index < queue.actualSize)
  (result : Option DescriptorChain × Queue) : queue.fetch mem index ≠ .pure result := by
  obtain ⟨head, found, _⟩ := conforming.descHead_some inside
  rw [Queue.fetch, DescriptorChain.checkedNew, found]
  intro stopped
  cases stopped

variable (inv : Inv mem system)

include inv

theorem Inv.frame_used (after : system.device.queue.usedRing.toNat + 4 ≤ other)
  (before : other + bytes.length ≤
    system.device.queue.usedRing.toNat + (6 + 8 * system.device.queue.actualSize.toNat)) :
  system.Frame (store system.memory other bytes) := by
  have availUsed := inv.conforming.availUsed
  have usedTable := inv.conforming.usedTable
  refine ⟨?_, ?_, fun _ => ?_, ?_⟩
  · apply wordAt_store_apart
    unfold Queue.availIdxAt
    omega
  · apply wordAt_store_apart
    unfold Queue.usedIdxAt
    omega
  · apply wordAt_store_apart
    unfold Queue.usedEventAt
    omega
  intro count index _ _ available
  exact inv.conforming.available_store (by omega) (by omega) available

theorem inv_wake : Inv mem { system with
  device := { system.device with asleep := false }, notified := false } := by
  exact { inv with sleeps := nofun, tasked := { inv.tasked with } }

theorem inv_startPop : Inv mem { system with device :=
  { system.device with task := .pop (system.device.queue.popOrEnableNotification mem) } } :=
  inv.movePop (Frame.refl system) .start

theorem inv_startAdd (resting : system.device.task = .rest)
  (held : system.device.used < system.device.popped)
  (inside : index < system.device.queue.actualSize)
  (early : system.device.added < system.device.queue.actualSize.toNat) :
  Inv mem { system with device :=
    { system.device with task := .add (system.device.queue.addUsed index len) } } := by
  refine inv.move (Frame.refl system) ?_ ⟨nofun, ?_, nofun⟩
  · intro asleep _
    exact inv.sleeps asleep (by simp [resting])
  rintro program running
  cases running
  exact ⟨.start index len inside, held, early⟩

theorem inv_startKick (resting : system.device.task = .rest) : Inv mem { system with device :=
    { system.device with task := .kick system.device.queue.prepareKick } } := by
  refine inv.move (Frame.refl system) ?_ ⟨nofun, nofun, ?_⟩
  · intro asleep _
    exact inv.sleeps asleep (by simp [resting])
  rintro program running
  cases running
  rfl

theorem inv_sleep
  (event : wordAt system.memory system.device.queue.availEventAt = UInt16.ofNat system.device.popped)
  (drained : system.device.popped = system.driver.published) :
  Inv mem { system with device := { system.device with task := .rest, asleep := true } } := by
  refine { inv with sleeps := ?_, tasked := Tasked.rest rfl }
  intro _ _
  exact ⟨event, .inr (.inr (Nat.le_trans inv.counts.checked (Nat.le_of_eq drained.symm)))⟩

theorem inv_take (more : system.device.popped < system.driver.published) : Inv mem { system with device :=
    { system.device with
      queue := { system.device.queue with nextAvail := system.device.queue.nextAvail + 1 }
      task := .rest, asleep := false, popped := system.device.popped + 1 } } := by
  have counts := inv.counts
  refine ⟨inv.conforming.advance _ _ _, ?_, ?_, ?_, { inv.waits with }, ?_,
    Tasked.rest rfl⟩
  · exact { counts with used := Nat.le_succ_of_le counts.used, popped := more }
  · refine { inv.mirrored with nextAvail := ?_ }
    rw [inv.mirrored.nextAvail, word_succ]
  · intro count after before
    obtain ⟨index, available⟩ := inv.offered count (Nat.le_of_succ_le after) before
    exact ⟨index, available.entry, available.inside, available.valid⟩
  intro asleep
  cases asleep

variable (resting : ∀ program, system.device.task ≠ .pop program)
include resting

theorem inv_put (held : system.device.used < system.device.popped)
  (early : system.device.added < system.device.queue.actualSize.toNat) :
  Inv mem { system with
    memory := storeWord system.memory system.device.queue.usedIdxAt (system.device.queue.nextUsed + 1)
    device :=
      { system.device with
        queue := { system.device.queue with
          numAdded := system.device.queue.numAdded + 1
          nextUsed := system.device.queue.nextUsed + 1 }
        task := .rest, used := system.device.used + 1, added := system.device.added + 1 } } := by
  have counts := inv.counts
  have conforming := inv.conforming
  refine ⟨inv.conforming.advance _ _ _, ?_, ?_, ?_, ⟨?_, ?_⟩, ?_, Tasked.rest rfl⟩
  · exact { counts with
      seen := Nat.le_succ_of_le counts.seen, used := held, added := Nat.succ_le_succ counts.added, early }
  · refine ⟨(conforming.word_kept .usedIdx .availIdx nofun).trans inv.mirrored.availIdx,
      Eq.trans (wordAt_storeWord) ?_, inv.mirrored.nextAvail, ?_, ?_⟩
    · rw [inv.mirrored.nextUsed, word_succ]
    · rw [inv.mirrored.nextUsed, word_succ]
    · rw [inv.mirrored.numAdded, word_succ]
  · intro count after before
    obtain ⟨index, available⟩ := inv.offered count after before
    have kept := @Conforming.available_kept _ _ conforming _ _ _ (system.device.queue.nextUsed + 1)
      .usedIdx available
    exact ⟨index, kept.entry, kept.inside, kept.valid⟩
  · intro event phase
    exact (conforming.word_kept .usedIdx .usedEvent nofun).trans (inv.waits.event event phase)
  · intro event waiting
    rcases inv.waits.covered event waiting with pending | reached
    · exact .inl pending
    · exact .inr (Nat.succ_le_succ reached)
  intro asleep _
  obtain ⟨same, covered⟩ := inv.sleeps asleep resting
  exact ⟨(conforming.word_kept .usedIdx .availEvent nofun).trans same, covered⟩

theorem inv_kick : Inv mem { system with
    device := { system.device with
      queue := { system.device.queue with numAdded := 0 }, task := .rest, added := 0 }
    interrupted := system.interrupted ||
      needEvent (wordAt system.memory system.device.queue.usedEventAt) system.device.queue.nextUsed
        (system.device.queue.nextUsed - system.device.queue.numAdded) } := by
  have counts := inv.counts
  refine ⟨inv.conforming.advance _ _ _, ?_, ?_, ?_, ?_, ?_, Tasked.rest rfl⟩
  · exact { counts with added := Nat.zero_le _, early := Nat.zero_le _ }
  · exact { inv.mirrored with numAdded := rfl }
  · intro count after before
    obtain ⟨index, available⟩ := inv.offered count after before
    exact ⟨index, available.entry, available.inside, available.valid⟩
  · refine ⟨inv.waits.event, ?_⟩
    intro event waiting
    rcases Nat.lt_or_ge event system.device.used with passed | reached
    · refine .inl ?_
      rcases inv.waits.covered event waiting with pending | added
      · simp [pending]
      · rw [inv.mustInterrupt_of_passed waiting passed added, Bool.or_true]
    · exact .inr reached
  intro asleep _
  exact inv.sleeps asleep resting

omit resting

theorem Inv.more_of_idx (different : wordAt system.memory system.device.queue.availIdxAt ≠
  system.device.queue.nextAvail) : system.device.popped < system.driver.published := by
  rw [inv.mirrored.availIdx, inv.mirrored.nextAvail] at different
  apply Nat.lt_of_le_of_ne inv.counts.popped
  intro same
  exact different (by rw [same])

theorem Inv.drained_of_idx (same : system.device.queue.nextAvail =
  wordAt system.memory system.device.queue.availIdxAt) :
  system.device.popped = system.driver.published := by
  have small := system.device.queue.actualSize_le
  have counts := inv.counts
  have near : system.driver.published < system.device.popped + 2 ^ 16 := by
    have := counts.seen
    have := counts.used
    have := counts.room
    omega
  rw [inv.mirrored.availIdx, inv.mirrored.nextAvail] at same
  exact ((words_inj counts.popped near).mp same.symm).symm

theorem inv_entry (more : system.device.popped < system.driver.published) :
  Inv mem (system.afterPop (system.device.queue.doPopUnchecked mem)) := by
  rw [afterPop_running (doPopUnchecked_running inv.conforming.bounded.positive)]
  exact inv.movePop (Frame.refl system) (.entry more)

theorem inv_popAccess (running : system.device.task = .pop program) : Inv mem ({ system with
    memory := (access mem.addressInRange system.memory program).2 }.afterPop
      (access mem.addressInRange system.memory program).1) := by
  have conforming := inv.conforming
  cases inv.tasked.pop program running with
  | start =>
    rw [conforming.access_start]
    split
    · exact inv.movePop (Frame.refl system) .enable
    rename_i different
    exact inv_entry inv (inv.more_of_idx different)
  | enable =>
    rw [conforming.access_enable]
    refine inv.movePop (inv.frame_used ?_ ?_) (.recheck ?_)
    · rw [Queue.availEventAt]
      omega
    · rw [Queue.availEventAt, littleEndian_length]
      omega
    · exact (wordAt_storeWord).trans inv.mirrored.nextAvail
  | recheck event =>
    rw [conforming.access_recheck]
    split
    · rename_i same
      exact inv_sleep inv event (inv.drained_of_idx same)
    rename_i different
    exact inv_entry inv (inv.more_of_idx (Ne.symm different))
  | entry more =>
    obtain ⟨index, available⟩ := inv.offered _ (Nat.le_refl _) more
    rw [conforming.access_entry inv.mirrored.nextAvail, available.entry]
    rw [afterPop_running (fetch_running conforming available.inside)]
    exact inv.movePop (Frame.refl system) (.fetch index more available)
  | fetch index more available =>
    obtain ⟨chain, fetched⟩ := conforming.access_fetch available
    rw [fetched]
    exact inv_take inv more

theorem Inv.moveAdd (running : system.device.task = .add program)
  (after : system.device.queue.usedRing.toNat + 4 ≤ other)
  (before : other + bytes.length ≤
    system.device.queue.usedRing.toNat + (4 + 8 * system.device.queue.actualSize.toNat))
  (adding : Adding system.device.queue next) :
  Inv mem { system with
    memory := store system.memory other bytes
    device := { system.device with task := .add next } } := by
  obtain ⟨_, held, early⟩ := inv.tasked.add program running
  refine inv.move (inv.frame_used after (by omega)) ?_ ⟨nofun, ?_, nofun⟩
  · intro asleep _
    obtain ⟨same, covered⟩ := inv.sleeps asleep (by simp [running])
    refine ⟨Eq.trans (wordAt_store_apart ?_) same, covered⟩
    rw [Queue.availEventAt]
    dsimp only
    omega
  rintro other' same
  cases same
  exact ⟨adding, held, early⟩

theorem inv_addAccess (running : system.device.task = .add program) : Inv mem ({ system with
    memory := (access mem.addressInRange system.memory program).2 }.afterAdd
      (access mem.addressInRange system.memory program).1) := by
  have conforming := inv.conforming
  obtain ⟨adding, held, early⟩ := inv.tasked.add program running
  obtain ⟨position, small, elemAddr, lenAddr⟩ := conforming.bounded.usedElem_addr
  cases adding with
  | start index len inside =>
    rw [conforming.access_addUsed inside]
    refine inv.moveAdd running ?_ ?_ (.length len)
    · omega
    rw [littleEndian_length]
    omega
  | length len =>
    rw [conforming.access_addLength]
    refine inv.moveAdd running ?_ ?_ .index
    · omega
    rw [littleEndian_length]
    omega
  | index =>
    rw [conforming.access_addIndex]
    exact inv_put inv (by simp [running]) held early

theorem inv_kickAccess (running : system.device.task = .kick program) : Inv mem ({ system with
    memory := (access mem.addressInRange system.memory program).2 }.afterKick
      (access mem.addressInRange system.memory program).1) := by
  rw [inv.tasked.kick program running, inv.conforming.access_prepareKick]
  exact inv_kick inv (by simp [running])

theorem inv_step (step : Step mem system next) : Inv mem next := by
  cases step with
  | prepare memory keeps => exact inv_prepare inv keeps
  | publish number room recent ready => exact inv_publish inv room recent ready
  | check => exact inv_check inv
  | notify => exact inv_notify inv
  | collect number shown => exact inv_collect inv shown
  | arm delay => exact inv_arm inv
  | recheck event armed => exact inv_recheck inv armed
  | interrupt pending => exact inv_interrupt inv
  | wake pending resting => exact inv_wake inv
  | startPop resting => exact inv_startPop inv
  | startAdd index len resting held inside early => exact inv_startAdd inv resting held inside early
  | startKick resting => exact inv_startKick inv resting
  | popAccess program running => exact inv_popAccess inv running
  | addAccess program running => exact inv_addAccess inv running
  | kickAccess program running => exact inv_kickAccess inv running

end

theorem inv_run (inv : Inv mem first) (run : Run mem first last) : Inv mem last := by
  induction run with
  | refl => exact inv
  | step before taken ih => exact inv_step ih taken

/-- The queue right after activation: nothing was published yet and nothing runs. -/
structure Initial (mem : GuestLayout) (system : System) : Prop where
  conforming : Conforming mem system.device.queue
  nextAvail : system.device.queue.nextAvail = 0
  nextUsed : system.device.queue.nextUsed = 0
  numAdded : system.device.queue.numAdded = 0
  availIdx : wordAt system.memory system.device.queue.availIdxAt = 0
  usedIdx : wordAt system.memory system.device.queue.usedIdxAt = 0
  driver : system.driver = ⟨0, 0, 0, false, .running⟩
  task : system.device.task = .rest
  asleep : system.device.asleep = false
  counts : system.device.popped = 0 ∧ system.device.used = 0 ∧ system.device.added = 0

theorem Initial.inv (initial : Initial mem system) : Inv mem system := by
  obtain ⟨popped, used, added⟩ := initial.counts
  refine ⟨initial.conforming, ?_, ?_, ?_, ?_, ?_, Tasked.rest initial.task⟩
  · rw [initial.driver, popped, used, added]
    exact ⟨Nat.le_refl _, Nat.le_refl _, Nat.le_refl _, Nat.zero_le _, Nat.le_refl _, by decide,
      Nat.le_refl _, Nat.zero_le _⟩
  · rw [initial.driver, popped, used, added]
    exact { initial with }
  · intro count _ before
    rw [initial.driver] at before
    exact absurd before (Nat.not_lt_zero count)
  · rw [initial.driver]
    exact Waits.running
  intro asleep
  rw [initial.asleep] at asleep
  cases asleep

variable (system : System)

def DeviceStalled : Prop :=
  system.device.asleep = true ∧ (∀ program, system.device.task ≠ .pop program) ∧
  system.device.popped < system.driver.published ∧
  system.notified = false ∧ system.driver.kick = false ∧ system.mustNotify = false

def mustInterrupt : Bool :=
  needEvent (wordAt system.memory system.device.queue.usedEventAt) system.device.queue.nextUsed
    (system.device.queue.nextUsed - system.device.queue.numAdded)

def DriverStalled : Prop :=
  ∃ event, system.driver.phase = .waiting event ∧ event < system.device.used ∧
    system.interrupted = false ∧ system.mustInterrupt = false

theorem no_lost_wakeup {mem : GuestLayout} {first last : System} (initial : Initial mem first)
  (run : Run mem first last) : ¬last.DeviceStalled ∧ ¬last.DriverStalled := by
  have inv := inv_run initial.inv run
  constructor
  · rintro ⟨asleep, awake, more, notNotified, noKick, notFound⟩
    obtain ⟨event, covered⟩ := inv.sleeps asleep awake
    rcases covered with notified | kick | before
    · rw [notNotified] at notified
      cases notified
    · rw [noKick] at kick
      cases kick
    rw [inv.mustNotify_of_late event before more] at notFound
    cases notFound
  rintro ⟨event, waiting, passed, notPending, notFound⟩
  rcases inv.waits.covered event waiting with pending | added
  · rw [notPending] at pending
    cases pending
  rw [mustInterrupt, inv.mustInterrupt_of_passed waiting passed added] at notFound
  cases notFound

def sampleLayout : GuestLayout := archLayout 0x10000000 (by decide)

def sampleQueue : Queue :=
  { Queue.new queueSizeMax queueSizeMax_offered with
    size := 1, ready := true, descTable := 0x1000, availRing := 0x2000, usedRing := 0x3000
    usesNotifSuppression := true }

theorem sampleQueue_conforming : Conforming sampleLayout sampleQueue := by
  refine ⟨?_, ?_, ?_, ?_, ?_, ?_, ?_, ?_⟩ <;> decide

def sampleSystem : System where
  memory := fun _ => 0
  driver := ⟨0, 0, 0, false, .running⟩
  device := ⟨sampleQueue, .rest, false, 0, 0, 0⟩
  notified := false
  interrupted := false

theorem sampleSystem_initial : Initial sampleLayout sampleSystem :=
  ⟨sampleQueue_conforming, rfl, rfl, rfl, by decide, by decide, rfl, rfl, rfl, ⟨rfl, rfl, rfl⟩⟩

def wokenSystem : System :=
  { sampleSystem with
    memory := storeWord (storeWord (fun _ => 0) sampleQueue.availEventAt 0) sampleQueue.availIdxAt 1
    driver := ⟨1, 0, 0, false, .running⟩
    device := ⟨sampleQueue, .rest, true, 0, 0, 0⟩ }

theorem wokenSystem_run : Run sampleLayout sampleSystem wokenSystem := by
  have started : Run sampleLayout sampleSystem _ :=
    .step (.refl _) (Step.startPop sampleSystem rfl)
  have enabled := Run.step started (Step.popAccess _ _ rfl)
  have armed := Run.step enabled (Step.popAccess _ _ rfl)
  have asleep := Run.step armed (Step.popAccess _ _ rfl)
  refine Run.step asleep (Step.publish _ 1 ?_ ?_ ?_)
  · decide
  · decide
  intro count _ before
  have first : count = 0 := Nat.lt_one_iff.mp before
  subst first
  exact ⟨0, by decide, by decide, by decide⟩

theorem no_lost_wakeup_woken :
  Initial sampleLayout sampleSystem ∧ Run sampleLayout sampleSystem wokenSystem ∧
    wokenSystem.device.asleep = true ∧
    wokenSystem.device.popped < wokenSystem.driver.published ∧
    ¬wokenSystem.DeviceStalled ∧ ¬wokenSystem.DriverStalled :=
  ⟨sampleSystem_initial, wokenSystem_run, rfl, by decide,
    no_lost_wakeup sampleSystem_initial wokenSystem_run⟩

/-- `is_empty` is right, however often the 16-bit words have wrapped. -/
theorem emptied_iff (initial : Initial mem first) (run : Run mem first last) :
  wordAt last.memory last.device.queue.availIdxAt = last.device.queue.nextAvail ↔
    last.device.popped = last.driver.published := by
  have inv := inv_run initial.inv run
  constructor
  · intro same
    exact inv.drained_of_idx same.symm
  · intro drained
    rw [inv.mirrored.availIdx, inv.mirrored.nextAvail, drained]

theorem emptied_iff_woken : wordAt wokenSystem.memory wokenSystem.device.queue.availIdxAt ≠
    wokenSystem.device.queue.nextAvail :=
  mt (emptied_iff sampleSystem_initial wokenSystem_run).mp (by decide)

end System

end Spacer.Virtio
