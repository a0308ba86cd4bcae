import Mathlib
import Spacer.Virtio.Safety

/-!
The life of a virtio device under any sequence of register writes: what one write can do,
and the invariants of all runs that follow from it.
-/

namespace Spacer.Virtio

open Lib Lib.Program

def Queue.config (queue : Queue) : UInt16 × Bool × UInt64 × UInt64 × UInt64 :=
  (queue.size, queue.ready, queue.descTable, queue.availRing, queue.usedRing)

namespace MmioTransport

open DeviceStatus

def StatusWrite (write : UInt64 × List UInt8) (status : UInt32) : Prop :=
  write.1 = 0x70 ∧ write.2.length = 4 ∧ status = UInt32.ofNat (ofLittleEndian write.2)

variable (transport : MmioTransport) (write : UInt64 × List UInt8)

def AcceptsFeatures : Prop :=
  ∃ status, StatusWrite write status ∧ transport.changedBits status = featuresOk ∧
    transport.deviceStatus = acknowledge ||| driver

def StartsDriver (status : UInt32) :
  Prop :=
  StatusWrite write status ∧ transport.changedBits status = driverOk ∧
    transport.deviceStatus = acknowledge ||| driver ||| featuresOk

def ClearsFeatures : Prop :=
  ∃ status, transport.StartsDriver write status ∧ status &&& (driver ||| featuresOk) = driver

def Resets (kind : DeviceKind) (transport : MmioTransport) (write : UInt64 × List UInt8) : Prop :=
  StatusWrite write 0 ∧ (transport.resetDevice kind).deviceStatus &&& failed = 0

theorem or_and_distrib (mask : UInt32) : (left ||| right) &&& mask = left &&& mask ||| right &&& mask := by
  apply UInt32.eq_of_toBitVec_eq
  ext index
  simp [Bool.and_or_distrib_right]

theorem or_failed_and (other : failed &&& mask = 0) (status : UInt32) :
  (status ||| failed) &&& mask = status &&& mask := by
  rw [or_and_distrib, other, UInt32.or_zero]

theorem and_of_check {set clr mask : UInt32} (among : (set ||| clr) &&& mask = mask)
  (checked : status &&& (set ||| clr) = set) : status &&& mask = set &&& mask := by
  calc status &&& mask
      _ = status &&& ((set ||| clr) &&& mask) := by rw [among]
      _ = status &&& (set ||| clr) &&& mask := (UInt32.and_assoc _ _ _).symm
      _ = set &&& mask := by rw [checked]

theorem failed_and_or : (status ||| failed) &&& failed = failed := by
  apply UInt32.eq_of_toBitVec_eq
  simp only [UInt32.toBitVec_and, UInt32.toBitVec_or]
  ext index
  simp only [BitVec.getElem_and, BitVec.getElem_or]
  cases status.toBitVec[index] <;> simp

theorem and_of_changedBits {transport : MmioTransport}
  (changed : transport.changedBits status = mask) : status &&& mask = mask := by
  rw [← changed, changedBits, UInt32.and_comm (~~~_), ← UInt32.and_assoc, UInt32.and_self]

section

variable {transport next : MmioTransport} {write : UInt64 × List UInt8}

theorem writeRegister_cases (transport : MmioTransport) (offset : UInt64) (v : UInt32) :
  transport.writeRegister offset v = transport.ackFeatures v ∨
  ((transport.writeRegister offset v).device = transport.device ∧
    (transport.writeRegister offset v).deviceStatus = transport.deviceStatus) := by
  unfold writeRegister
  split_ifs <;> first | exact .inl rfl | exact .inr ⟨rfl, rfl⟩

theorem writeConfig_eq (transport : MmioTransport) (offset : UInt64) (data : List UInt8) :
  ∃ config, (transport.writeConfig kind offset data).device = { transport.device with config := config } ∧
    (transport.writeConfig kind offset data).deviceStatus = transport.deviceStatus := by
  unfold writeConfig
  split
  · exact ⟨_, rfl, rfl⟩
  · exact ⟨transport.device.config, rfl, rfl⟩

inductive WriteStep (kind : DeviceKind) (mem : GuestLayout) (mapped : Nat → Bool)
  (transport : MmioTransport) (write : UInt64 × List UInt8) (next : MmioTransport) : Prop
  | status (status : UInt32) (written : StatusWrite write status)
      (done : Returns mapped (transport.setDeviceStatus kind mem status) next)
  | queue (change : Queue → Queue) (done : next = transport.updateQueueField change)
  | features (v : UInt32) (done : next = transport.ackFeatures v)
  | other (config : List UInt8) (device : next.device = { transport.device with config := config })
      (kept : next.deviceStatus = transport.deviceStatus)

theorem write_step (done : Returns mapped (transport.write kind mem write.1 write.2) next) :
  WriteStep kind mem mapped transport write next := by
  unfold MmioTransport.write at done
  split at done
  · rename_i register
    dsimp only at done
    split at done
    · rename_i statusRegister
      exact .status _ ⟨statusRegister, register.2, rfl⟩ done
    split at done
    · cases done
      exact .queue _ rfl
    cases done
    rcases writeRegister_cases transport write.1 (UInt32.ofNat (ofLittleEndian write.2)) with
      acked | ⟨same, kept⟩
    · exact .features _ acked
    · exact .other transport.device.config same kept
  split at done
  · cases done
    obtain ⟨config, device, kept⟩ := writeConfig_eq transport write.1 write.2
    exact .other config device kept
  cases done
  exact .other transport.device.config rfl rfl

theorem activateDevice_cases (done : Returns mapped (transport.activateDevice kind mem) next) :
  next = transport ∨
  (transport.device.activated = false ∧ Returns mapped (areQueuesValid mem transport.device.queues) true ∧
    ∃ queues, next = transport.withDevice { transport.device with
      queues := queues, activated := true, activations := transport.device.activations + 1 }) := by
  unfold activateDevice at done
  split at done
  · exact .inl (Eq.symm done)
  rename_i inactive
  rw [returns_bind] at done
  obtain ⟨valid, checked, rest⟩ := done
  split at rest
  · rename_i holds
    rw [VirtioDevice.activate, returns_bind] at rest
    obtain ⟨device, activated, rfl⟩ := rest
    rw [returns_unwrap] at activated
    obtain ⟨queues, _, rfl⟩ := Option.map_eq_some_iff.mp activated
    refine .inr ⟨by simpa using inactive, ?_, queues, rfl⟩
    rwa [holds] at checked
  · exact .inl (Eq.symm rest)

inductive StatusStep (kind : DeviceKind) (mem : GuestLayout) (mapped : Nat → Bool)
  (transport : MmioTransport) (status : UInt32) : MmioTransport → Prop
  | accepted (early : transport.deviceStatus = init ∨ transport.deviceStatus = acknowledge ∨
      transport.deviceStatus = acknowledge ||| driver) :
      StatusStep kind mem mapped transport status (transport.withStatus status)
  | started {next : MmioTransport} (changed : transport.changedBits status = driverOk)
      (ready : transport.deviceStatus = acknowledge ||| driver ||| featuresOk)
      (done : Returns mapped ((transport.withStatus status).activateDevice kind mem) next) :
      StatusStep kind mem mapped transport status next
  | failed : StatusStep kind mem mapped transport status
      (transport.withStatus (transport.deviceStatus ||| failed))
  | reset (zero : status = 0) (supported : (transport.resetDevice kind).deviceStatus &&& failed = 0) :
      StatusStep kind mem mapped transport status (transport.resetDevice kind).reset
  | unsupported : StatusStep kind mem mapped transport status (transport.resetDevice kind)
  | ignored : StatusStep kind mem mapped transport status transport

theorem setDeviceStatus_step (done : Returns mapped (transport.setDeviceStatus kind mem status) next) :
  StatusStep kind mem mapped transport status next := by
  unfold setDeviceStatus at done
  dsimp only at done
  split_ifs at done with ack drv features driverStep fail zero supported
  · cases done
    exact .accepted (.inl ack.2)
  · cases done
    exact .accepted (.inr (.inl drv.2))
  · cases done
    exact .accepted (.inr (.inr features.2))
  · exact .started driverStep.1 driverStep.2 done
  · cases done
    exact .failed
  · cases done
    exact .reset zero supported
  · cases done
    exact .unsupported
  cases done
  exact .ignored

theorem setDeviceStatus_accepts (changed : transport.changedBits status = featuresOk)
  (ready : transport.deviceStatus = acknowledge ||| driver) :
  transport.setDeviceStatus kind mem status = Pure.pure (transport.withStatus status) := by
  unfold setDeviceStatus
  have first : ¬(transport.changedBits status = acknowledge ∧ transport.deviceStatus = init) := by
    rw [changed]
    exact fun both => absurd both.1 (by decide)
  have second : ¬(transport.changedBits status = driver ∧ transport.deviceStatus = acknowledge) := by
    rw [changed]
    exact fun both => absurd both.1 (by decide)
  rw [if_neg first, if_neg second, if_pos ⟨changed, ready⟩]

theorem updateQueueField_started (started : transport.deviceStatus &&& driverOk ≠ 0) :
  transport.updateQueueField change = transport := by
  unfold updateQueueField checkDeviceStatus
  rw [if_neg]
  rw [decide_eq_true_eq]
  intro allowed
  exact started (and_of_check (by decide) allowed)

/-- An activated device is past `DRIVER_OK`, and it was activated once. -/
structure Inv (transport : MmioTransport) : Prop where
  started : transport.device.activated = true → transport.deviceStatus &&& driverOk ≠ 0
  once : transport.device.activations = if transport.device.activated then 1 else 0

theorem Inv.inactive (inv : transport.Inv) (before : transport.deviceStatus &&& driverOk = 0) :
  transport.device.activated = false := by
  cases activated : transport.device.activated with
  | false => rfl
  | true => exact absurd before (inv.started activated)

theorem driverOk_or_failed (status : UInt32) :
  (status ||| failed) &&& driverOk = status &&& driverOk := or_failed_and (by decide) status

theorem Inv.of_inactive (inactive : transport.device.activated = false)
  (once : transport.device.activations = if transport.device.activated then 1 else 0) : transport.Inv := by
  refine ⟨fun activated => ?_, once⟩
  rw [inactive] at activated
  cases activated

theorem Inv.congr (inv : transport.Inv) (activated : next.device.activated = transport.device.activated)
  (activations : next.device.activations = transport.device.activations)
  (status : next.deviceStatus &&& driverOk = transport.deviceStatus &&& driverOk) : next.Inv := by
  constructor
  · rw [activated, status]
    exact inv.started
  rw [activations, activated]
  exact inv.once

theorem Inv.activateDevice (inv : transport.Inv) (before : transport.deviceStatus &&& driverOk = 0)
  (started : status &&& driverOk = driverOk)
  (done : Returns mapped ((transport.withStatus status).activateDevice kind mem) next) : next.Inv := by
  have inactive := inv.inactive before
  have none := inv.once
  rw [inactive] at none
  rcases activateDevice_cases done with rfl | ⟨_, _, queues, rfl⟩
  · exact .of_inactive inactive inv.once
  refine ⟨fun _ => ?_, ?_⟩
  · change status &&& driverOk ≠ 0
    rw [started]
    decide
  change transport.device.activations + 1 = 1
  rw [none]
  rfl

theorem areQueuesValid_true (valid : Returns mapped (areQueuesValid mem queues) true) :
  ∀ queue ∈ queues, Returns mapped (queue.isValid mem) true := by
  induction queues with
  | nil => simp
  | cons first rest ih =>
    rw [areQueuesValid, returns_bind] at valid
    obtain ⟨result, checked, later⟩ := valid
    split at later
    · rename_i holds
      intro queue member
      rcases List.mem_cons.mp member with rfl | other
      · rwa [holds] at checked
      · exact ih later queue other
    · cases later

def Frozen (transport : MmioTransport) : Prop :=
  transport.deviceStatus &&& featuresOk ≠ 0 ∨
    transport.deviceStatus &&& driverOk ≠ 0 ∧ transport.deviceStatus &&& driver = 0

theorem Frozen.congr (frozen : transport.Frozen)
  (features : next.deviceStatus &&& featuresOk = transport.deviceStatus &&& featuresOk)
  (started : next.deviceStatus &&& driverOk = transport.deviceStatus &&& driverOk)
  (drives : next.deviceStatus &&& driver = transport.deviceStatus &&& driver) : next.Frozen := by
  unfold Frozen
  rw [features, started, drives]
  exact frozen

theorem Frozen.marked (frozen : transport.Frozen) :
  (transport.withStatus (transport.deviceStatus ||| failed)).Frozen :=
  frozen.congr (or_failed_and (by decide) _) (or_failed_and (by decide) _)
    (or_failed_and (by decide) _)

theorem Frozen.ackFeatures (frozen : transport.Frozen) (v : UInt32) :
  transport.ackFeatures v = transport := by
  unfold MmioTransport.ackFeatures checkDeviceStatus
  rw [if_neg]
  rw [decide_eq_true_eq]
  intro allowed
  have features : transport.deviceStatus &&& featuresOk = driver &&& featuresOk :=
    and_of_check (by decide) allowed
  have drives : transport.deviceStatus &&& driver = driver &&& driver :=
    and_of_check (by decide) allowed
  rcases frozen with set | ⟨_, cleared⟩
  · exact set features
  rw [cleared] at drives
  exact absurd drives (by decide)

theorem and_driver_cases (status : UInt32) : status &&& driver = 0 ∨ status &&& driver = driver := by
  have bit := Nat.and_two_pow status.toNat 1
  rw [← UInt32.toNat_inj, ← UInt32.toNat_inj, UInt32.toNat_and]
  change status.toNat &&& 2 ^ 1 = 0 ∨ status.toNat &&& 2 ^ 1 = 2
  rw [bit]
  cases status.toNat.testBit 1 <;> simp

theorem StartsDriver.frozen (starts : transport.StartsDriver write status)
  (keeps : ¬transport.ClearsFeatures write) :
  status &&& featuresOk ≠ 0 ∨ status &&& driverOk ≠ 0 ∧ status &&& driver = 0 := by
  by_contra open_
  rw [not_or, not_not, not_and_or, not_not] at open_
  obtain ⟨cleared, rest⟩ := open_
  have set : status &&& driverOk = driverOk := and_of_changedBits starts.2.1
  rcases rest with unset | drives
  · rw [set] at unset
    exact absurd unset (by decide)
  refine keeps ⟨status, starts, ?_⟩
  have whole := (and_driver_cases status).resolve_left drives
  rw [UInt32.and_comm, or_and_distrib, UInt32.and_comm driver, UInt32.and_comm featuresOk, whole,
    cleared, UInt32.or_zero]

theorem withStatus_activateDevice
  (done : Returns mapped ((transport.withStatus status).activateDevice kind mem) next) :
  next.deviceStatus = status ∧ next.device.ackedFeatures = transport.device.ackedFeatures := by
  rcases activateDevice_cases done with rfl | ⟨_, _, queues, rfl⟩
  · exact ⟨rfl, rfl⟩
  · exact ⟨rfl, rfl⟩

variable {kind : DeviceKind} (unsupported : ∀ device, kind.reset device = none)
include unsupported

theorem resetDevice_cases (transport : MmioTransport) :
  (transport.device.activated = true ∧
    transport.resetDevice kind = transport.withStatus (transport.deviceStatus ||| failed)) ∨
  (transport.device.activated = false ∧ transport.resetDevice kind = transport) := by
  unfold resetDevice
  cases activated : transport.device.activated with
  | true => simp [unsupported]
  | false => simp

theorem resetDevice_supported
  (supported : (transport.resetDevice kind).deviceStatus &&& failed = 0) :
  transport.device.activated = false ∧ transport.resetDevice kind = transport := by
  rcases resetDevice_cases unsupported transport with ⟨_, marked⟩ | same
  · rw [marked] at supported
    change (transport.deviceStatus ||| failed) &&& failed = 0 at supported
    rw [failed_and_or] at supported
    exact absurd supported (by decide)
  · exact same

theorem Inv.statusStep (inv : transport.Inv)
  (step : StatusStep kind mem mapped transport status next) : next.Inv := by
  cases step with
  | accepted early =>
    have before : transport.deviceStatus &&& driverOk = 0 := by
      rcases early with same | same | same <;>
      · rw [same]
        decide
    exact .of_inactive (inv.inactive before) inv.once
  | started changed ready done =>
    refine inv.activateDevice ?_ (and_of_changedBits changed) done
    rw [ready]
    decide
  | failed => exact inv.congr rfl rfl (driverOk_or_failed transport.deviceStatus)
  | reset zero supported =>
    obtain ⟨inactive, same⟩ := resetDevice_supported unsupported supported
    rw [same]
    exact .of_inactive inactive inv.once
  | unsupported =>
    rcases resetDevice_cases unsupported transport with ⟨_, marked⟩ | ⟨_, same⟩
    · rw [marked]
      exact inv.congr rfl rfl (driverOk_or_failed transport.deviceStatus)
    · rwa [same]
  | ignored => exact inv

theorem Inv.writeStep (inv : transport.Inv)
  (step : WriteStep kind mem mapped transport write next) : next.Inv := by
  cases step with
  | status status _ done => exact inv.statusStep unsupported (setDeviceStatus_step done)
  | queue change done =>
    rw [done, updateQueueField]
    split
    · exact inv.congr rfl rfl rfl
    · exact inv
  | features v done =>
    rw [done, ackFeatures]
    split
    · exact inv.congr rfl rfl rfl
    · exact inv
  | other config device kept =>
    refine inv.congr ?_ ?_ ?_
    · rw [device]
    · rw [device]
    · rw [kept]

theorem WriteStep.activates (step : WriteStep kind mem mapped transport write next)
  (called : next.device.activations ≠ transport.device.activations) :
  (∃ status, transport.StartsDriver write status) ∧
    ∀ queue ∈ transport.device.queues, Returns mapped (queue.isValid mem) true := by
  cases step with
  | status status written done =>
    cases setDeviceStatus_step done with
    | started changed ready done =>
      refine ⟨⟨status, written, changed, ready⟩, ?_⟩
      rcases activateDevice_cases done with rfl | ⟨_, valid, _⟩
      · exact absurd rfl called
      · exact areQueuesValid_true valid
    | accepted | failed | ignored => exact absurd rfl called
    | reset zero supported =>
      obtain ⟨_, same⟩ := resetDevice_supported unsupported supported
      rw [same] at called
      exact absurd rfl called
    | unsupported =>
      rcases resetDevice_cases unsupported transport with ⟨_, marked⟩ | ⟨_, same⟩
      · rw [marked] at called
        exact absurd rfl called
      rw [same] at called
      exact absurd rfl called
  | queue change done =>
    rw [done, updateQueueField] at called
    split at called <;> exact absurd rfl called
  | features v done =>
    rw [done, ackFeatures] at called
    split at called <;> exact absurd rfl called
  | other config device kept =>
    rw [device] at called
    exact absurd rfl called

theorem WriteStep.queues_kept (inv : transport.Inv)
  (activated : transport.device.activated = true) (step : WriteStep kind mem mapped transport write next) :
  next.device.queues.map Queue.config = transport.device.queues.map Queue.config := by
  have started := inv.started activated
  cases step with
  | status status written done =>
    cases setDeviceStatus_step done with
    | started changed ready done =>
      rw [ready] at started
      exact absurd started (by decide)
    | accepted | failed | ignored => rfl
    | reset zero supported =>
      obtain ⟨inactive, _⟩ := resetDevice_supported unsupported supported
      rw [activated] at inactive
      cases inactive
    | unsupported =>
      rcases resetDevice_cases unsupported transport with ⟨_, marked⟩ | ⟨_, same⟩
      · rw [marked]
        rfl
      · rw [same]
  | queue change done => rw [done, updateQueueField_started started]
  | features v done =>
    rw [done, ackFeatures]
    split <;> rfl
  | other config device kept => rw [device]

theorem Frozen.writeStep (frozen : transport.Frozen)
  (keeps : ¬transport.ClearsFeatures write) (noReset : ¬transport.Resets kind write)
  (step : WriteStep kind mem mapped transport write next) :
  next.Frozen ∧ next.device.ackedFeatures = transport.device.ackedFeatures := by
  cases step with
  | status status written done =>
    cases setDeviceStatus_step done with
    | accepted early =>
      unfold Frozen at frozen
      rcases early with same | same | same <;>
      · rw [same] at frozen
        exact absurd frozen (by decide)
    | started changed ready done =>
      obtain ⟨same, features⟩ := withStatus_activateDevice done
      refine ⟨?_, features⟩
      unfold Frozen
      rw [same]
      exact StartsDriver.frozen ⟨written, changed, ready⟩ keeps
    | failed => exact ⟨frozen.marked, rfl⟩
    | reset zero supported => exact absurd ⟨zero ▸ written, supported⟩ noReset
    | unsupported =>
      rcases resetDevice_cases unsupported transport with ⟨_, marked⟩ | ⟨_, same⟩
      · rw [marked]
        exact ⟨frozen.marked, rfl⟩
      rw [same]
      exact ⟨frozen, rfl⟩
    | ignored => exact ⟨frozen, rfl⟩
  | queue change done =>
    rw [done, updateQueueField]
    split
    · exact ⟨frozen.congr rfl rfl rfl, rfl⟩
    · exact ⟨frozen, rfl⟩
  | features v done =>
    rw [done, frozen.ackFeatures v]
    exact ⟨frozen, rfl⟩
  | other config device kept =>
    refine ⟨frozen.congr ?_ ?_ ?_, ?_⟩
    · rw [kept]
    · rw [kept]
    · rw [kept]
    · rw [device]

omit unsupported

end

structure Step where
  before : MmioTransport
  write : UInt64 × List UInt8
  after : MmioTransport

def Run (kind : DeviceKind) (mem : GuestLayout) : MmioTransport → List Step → Prop
  | _, [] => True
  | transport, step :: rest =>
    step.before = transport ∧
    Returns mem.addressInRange (transport.write kind mem step.write.1 step.write.2) step.after ∧
    Run kind mem step.after rest

section

variable {transport : MmioTransport}

variable (run : Run kind mem transport (front ++ back))
include run

theorem Run.append : ∃ middle, Run kind mem middle back := by
  induction front generalizing transport with
  | nil => exact ⟨transport, run⟩
  | cons step front ih => exact ih run.2.2

theorem Run.of_append : Run kind mem transport front := by
  induction front generalizing transport with
  | nil => trivial
  | cons step front ih => exact ⟨run.1, run.2.1, ih run.2.2⟩

omit run

theorem Run.taken (unsupported : ∀ device, kind.reset device = none) (inv : transport.Inv)
  (run : Run kind mem transport steps) : ∀ step ∈ steps, step.before.Inv ∧ step.after.Inv ∧
    WriteStep kind mem mem.addressInRange step.before step.write step.after := by
  induction steps generalizing transport with
  | nil => simp
  | cons step steps ih =>
    obtain ⟨rfl, done, rest⟩ := run
    have taken := write_step done
    have next := inv.writeStep unsupported taken
    intro other member
    rcases List.mem_cons.mp member with rfl | later
    · exact ⟨inv, next, taken⟩
    · exact ih next rest other later

theorem Run.frozen (unsupported : ∀ device, kind.reset device = none) (frozen : transport.Frozen)
  (run : Run kind mem transport steps) (keeps : ∀ step ∈ steps, ¬step.before.ClearsFeatures step.write)
  (noReset : ∀ step ∈ steps, ¬step.before.Resets kind step.write) :
  ∀ step ∈ steps, step.after.device.ackedFeatures = transport.device.ackedFeatures := by
  induction steps generalizing transport with
  | nil => simp
  | cons step steps ih =>
    obtain ⟨rfl, done, rest⟩ := run
    obtain ⟨next, same⟩ := frozen.writeStep unsupported (keeps step List.mem_cons_self)
      (noReset step List.mem_cons_self) (write_step done)
    intro other member
    rcases List.mem_cons.mp member with rfl | later
    · exact same
    exact (ih next rest (fun step inside => keeps step (List.mem_cons_of_mem _ inside))
      (fun step inside => noReset step (List.mem_cons_of_mem _ inside)) other later).trans same

theorem AcceptsFeatures.frozen {write : UInt64 × List UInt8} (accepts : transport.AcceptsFeatures write)
  (done : Returns mem.addressInRange (transport.write kind mem write.1 write.2) next) : next.Frozen := by
  obtain ⟨status, ⟨register, length, value⟩, changed, ready⟩ := accepts
  have taken : transport.write kind mem write.1 write.2 = transport.setDeviceStatus kind mem status := by
    rw [MmioTransport.write, if_pos ⟨register ▸ by decide, length⟩, if_pos register, value]
  rw [taken, setDeviceStatus_accepts changed ready] at done
  cases done
  refine .inl ?_
  change status &&& featuresOk ≠ 0
  rw [and_of_changedBits changed]
  decide

end

def Fresh (device : VirtioDevice) : Prop := device.activated = false ∧ device.activations = 0

theorem Fresh.inv {device : VirtioDevice} (fresh : Fresh device) (interruptStatus : UInt64) :
  (new device interruptStatus).Inv := by
  refine .of_inactive fresh.1 ?_
  change device.activations = if device.activated then 1 else 0
  rw [fresh.1, fresh.2]
  rfl

/-- The life of a device under every sequence of writes.  The acknowledged features stay as
they are unless a `DRIVER_OK` step clears `FEATURES_OK` and keeps `DRIVER`. -/
theorem lifecycle (kind : DeviceKind) (unsupported : ∀ device, kind.reset device = none)
  (mem : GuestLayout) (device : VirtioDevice) (fresh : Fresh device) (interruptStatus : UInt64)
  (steps : List Step) (run : Run kind mem (new device interruptStatus) steps) :
  (∀ step ∈ steps, step.after.device.activations ≤ 1) ∧
  (∀ step ∈ steps, step.after.device.activations ≠ step.before.device.activations →
    (∃ status, step.before.StartsDriver step.write status) ∧
    ∀ queue ∈ step.before.device.queues, Returns mem.addressInRange (queue.isValid mem) true) ∧
  (∀ step ∈ steps, step.before.device.activated = true →
    step.after.device.queues.map Queue.config = step.before.device.queues.map Queue.config) ∧
  ∀ front accepted rest tail, steps = front ++ accepted :: (rest ++ tail) →
    accepted.before.AcceptsFeatures accepted.write →
    (∀ step ∈ rest, ¬step.before.ClearsFeatures step.write) →
    (∀ step ∈ rest, ¬step.before.Resets kind step.write) →
    ∀ step ∈ rest, step.after.device.ackedFeatures = accepted.after.device.ackedFeatures := by
  have taken := run.taken unsupported (fresh.inv interruptStatus)
  refine ⟨?_, ?_, ?_, ?_⟩
  · intro step member
    have once := (taken step member).2.1.once
    split at once <;> omega
  · intro step member called
    exact (taken step member).2.2.activates unsupported called
  · intro step member activated
    exact (taken step member).2.2.queues_kept unsupported (taken step member).1 activated
  rintro front accepted rest tail rfl accepts keeps noReset
  obtain ⟨middle, rfl, done, later⟩ := run.append
  exact later.of_append.frozen unsupported (accepts.frozen done) keeps noReset

def trace (kind : DeviceKind) (mem : GuestLayout) : MmioTransport → List (UInt64 × List UInt8) → List Step
  | _, [] => []
  | transport, write :: rest =>
    match transport.write kind mem write.1 write.2 with
    | .pure next => ⟨transport, write, next⟩ :: trace kind mem next rest
    | _ => []

theorem run_trace (kind : DeviceKind) (mem : GuestLayout) (writes : List (UInt64 × List UInt8)) :
  ∀ transport, Run kind mem transport (trace kind mem transport writes) := by
  induction writes with
  | nil =>
    intro transport
    trivial
  | cons write rest ih =>
    intro transport
    unfold trace
    split
    · rename_i next written
      refine ⟨rfl, ?_, ih next⟩
      rw [written]
      rfl
    · trivial

/-- Feature 0 is acknowledged, `FEATURES_OK` is set, and feature 32 comes too late. -/
def lateWrites : List (UInt64 × List UInt8) :=
  [(0x70, [1, 0, 0, 0]), (0x70, [3, 0, 0, 0]), (0x20, [1, 0, 0, 0]), (0x70, [11, 0, 0, 0]),
    (0x24, [1, 0, 0, 0]), (0x20, [1, 0, 0, 0])]

theorem lifecycle_lateWrites : ∃ front accepted rest,
    Run plainKind gapLayout (new plainDevice 0) (front ++ accepted :: (rest ++ [])) ∧
    accepted.before.AcceptsFeatures accepted.write ∧ rest.length = 2 ∧
    ∀ step ∈ rest, step.after.device.ackedFeatures = 1 := by
  have run := run_trace plainKind gapLayout lateWrites (new plainDevice 0)
  refine ⟨[_, _, _], _, [_, _], run, ⟨11, ⟨rfl, rfl, rfl⟩, rfl, rfl⟩, rfl, ?_⟩
  refine (lifecycle plainKind (fun _ => rfl) gapLayout plainDevice ⟨rfl, rfl⟩ 0 _ run).2.2.2
    [_, _, _] _ [_, _] [] rfl ⟨11, ⟨rfl, rfl, rfl⟩, rfl, rfl⟩ ?_ ?_
  · simp [ClearsFeatures, StartsDriver, StatusWrite]
  · simp [Resets, StatusWrite]

/-- The status goes from 11 to 6, and the features can be written again. -/
def clearingWrites : List (UInt64 × List UInt8) :=
  [(0x70, [1, 0, 0, 0]), (0x70, [3, 0, 0, 0]), (0x70, [11, 0, 0, 0]), (0x70, [6, 0, 0, 0]),
    (0x20, [1, 0, 0, 0])]

theorem clearingWrites_change_features : ∃ front accepted rest,
    Run plainKind gapLayout (new plainDevice 0) (front ++ accepted :: (rest ++ [])) ∧
    accepted.before.AcceptsFeatures accepted.write ∧
    (∀ step ∈ rest, ¬step.before.Resets plainKind step.write) ∧
    ∃ step ∈ rest, step.after.device.ackedFeatures ≠ accepted.after.device.ackedFeatures := by
  have run := run_trace plainKind gapLayout clearingWrites (new plainDevice 0)
  refine ⟨[_, _], _, [_, _], run, ⟨11, ⟨rfl, rfl, rfl⟩, rfl, rfl⟩, ?_, ?_⟩
  · have nonzero : (0 : UInt32) ≠ UInt32.ofNat (ofLittleEndian [6, 0, 0, 0]) := by decide
    simp [Resets, StatusWrite, nonzero]
  refine ⟨_, List.mem_cons_of_mem _ List.mem_cons_self, ?_⟩
  decide

end MmioTransport

end Spacer.Virtio
