import Mathlib.Data.List.Basic

/-!
The thread of a vCPU: `vstate/vcpu/mod.rs`.  A step of the thread is what it does between two
points at which the kick signal, the kernel or the thread of the VMM can come in.
-/

namespace Spacer.Vstate

inductive FcExitCode
  | ok
  | genericError
  deriving DecidableEq

inductive ArchExit
  | ioIn
  | ioOut
  | unexpected (debug : String)
  deriving DecidableEq

/-- The exits of `KVM_RUN`; what the buses do with an access is not part of the thread. -/
inductive VcpuExit
  | mmioRead
  | mmioWrite
  | hlt
  | shutdown
  | failEntry
  | internalError
  | systemEvent (eventType : UInt32) (eventFlags : UInt64)
  | arch (exit : ArchExit)
  deriving DecidableEq

structure Errno where
  code : Nat
  text : String
  deriving DecidableEq

def eintr : Nat := 4

def eagain : Nat := 11

def enosys : Nat := 38

def kvmSystemEventShutdown : UInt32 := 1

def kvmSystemEventReset : UInt32 := 2

inductive Error (κ : Type)
  | faultyKvmExit (text : String)
  | signalVcpu (errno : Errno)
  | unhandledKvmExit (text : String)
  | vcpuResponse (err : κ)
  deriving DecidableEq

inductive VcpuEmulation
  | handled
  | interrupted
  | stopped

def isEintr : Except Errno VcpuExit → Bool
  | .ok _ => false
  | .error err => err.code = eintr

section

variable {κ : Type}

def runArchEmulation : ArchExit → Except (Error κ) VcpuEmulation
  | .ioIn => .ok .handled
  | .ioOut => .ok .handled
  | .unexpected debug => .error (.unhandledKvmExit debug)

def runEmulation : Except Errno VcpuExit → Except (Error κ) VcpuEmulation
  | .ok .mmioRead => .ok .handled
  | .ok .mmioWrite => .ok .handled
  | .ok .hlt => .ok .stopped
  | .ok .shutdown => .ok .stopped
  | .ok .failEntry => .error (.faultyKvmExit "FailEntry")
  | .ok .internalError => .error (.faultyKvmExit "InternalError")
  | .ok (.systemEvent eventType eventFlags) =>
    if eventType = kvmSystemEventReset ∨ eventType = kvmSystemEventShutdown then .ok .stopped
    else .error (.faultyKvmExit s!"SystemEvent({eventType}, {eventFlags})")
  | .ok (.arch exit) => runArchEmulation exit
  | .error err =>
    if err.code = eagain then .ok .handled
    else if err.code = eintr then .ok .interrupted
    else if err.code = enosys then
      .error (.faultyKvmExit "Received ENOSYS error because KVM failed to emulate an instruction.")
    else .error (.faultyKvmExit err.text)

end

inductive VcpuEvent (σ : Type)
  | finish
  | pause
  | resume
  | restoreState (state : σ)
  | saveState

inductive VcpuResponse (σ κ : Type)
  | error (err : Error κ)
  | exited (exitCode : FcExitCode)
  | notAllowed (reason : String)
  | paused
  | resumed
  | restoredState
  | savedState (state : σ)
  deriving DecidableEq

structure Sent (σ : Type) where
  serial : Nat
  event : VcpuEvent σ

/-- A response with the number of the event it answers; an exit answers none. -/
structure Given (σ κ : Type) where
  answers : Option Nat
  response : VcpuResponse σ κ

inductive Thread
  -- in `recv` of `paused`
  | paused
  -- at the head of the loop of `running`
  | entering
  -- executing the guest inside `KVM_RUN`
  | guest
  -- `KVM_RUN` has returned
  | returned (result : Except Errno VcpuExit)
  -- before `try_recv` of `running`
  | polling
  -- before `send` in the loop of `exit`
  | exiting (exitCode : FcExitCode) (answers : Option Nat)
  -- in `recv` of the loop of `exit`
  | exited (exitCode : FcExitCode)
  | finished
  deriving DecidableEq

structure Vcpu (σ κ : Type) where
  thread : Thread
  immediateExit : Bool
  -- kick signals that are pending
  kicks : Nat
  events : List (Sent σ)
  responses : List (Given σ κ)
  -- the number of the event sent last
  sent : Nat

inductive Action (σ κ : Type)
  | handleSignal
  | kvmRun
  | kvmReturns (result : Except Errno VcpuExit)
  | runEmulation
  | tryRecv
  | recv (saved : Except κ σ) (restored : Except κ Unit)
  | sendExited

section

variable {σ κ : Type}

def afterEmulation : Except (Error κ) VcpuEmulation → Thread
  | .ok .handled => .entering
  | .ok .interrupted => .polling
  | .ok .stopped => .exiting .ok none
  | .error _ => .exiting .genericError none

def running : VcpuEvent σ → Option (VcpuResponse σ κ) × Thread
  | .pause => (some .paused, .paused)
  | .resume => (some .resumed, .entering)
  | .saveState => (some (.notAllowed "save/restore unavailable while running"), .entering)
  | .restoreState _ => (some (.notAllowed "save/restore unavailable while running"), .entering)
  | .finish => (none, .finished)

def paused (saved : Except κ σ) (restored : Except κ Unit) :
  VcpuEvent σ → Option (VcpuResponse σ κ) × Thread
  | .resume => (some .resumed, .entering)
  | .pause => (some .paused, .paused)
  | .saveState =>
    match saved with
    | .ok state => (some (.savedState state), .paused)
    | .error err => (some (.error (.vcpuResponse err)), .paused)
  | .restoreState _ =>
    match restored with
    | .ok () => (some .restoredState, .paused)
    | .error err => (some (.error (.vcpuResponse err)), .paused)
  | .finish => (none, .finished)

/-- The loop of `exit` ends with `Finish` and answers everything else. -/
def exited (exitCode : FcExitCode) (sent : Sent σ) : Option (VcpuResponse σ κ) × Thread :=
  match sent.event with
  | .finish => (none, .finished)
  | _ => (none, .exiting exitCode (some sent.serial))

namespace Vcpu

variable (vcpu : Vcpu σ κ)

def interruptible : Bool := vcpu.immediateExit || 0 < vcpu.kicks

/-- `sent` has been taken from the channel, `rest` is left in it. -/
def answer (sent : Sent σ) (rest : List (Sent σ))
  (outcome : Option (VcpuResponse σ κ) × Thread) : Vcpu σ κ :=
  { vcpu with
    thread := outcome.2
    events := rest
    responses := vcpu.responses ++ outcome.1.toList.map (⟨some sent.serial, ·⟩) }

def takeEvent (handle : Sent σ → Option (VcpuResponse σ κ) × Thread) : Option (Vcpu σ κ) :=
  match vcpu.events with
  | [] => none
  | sent :: rest => some (vcpu.answer sent rest (handle sent))

def recv (saved : Except κ σ) (restored : Except κ Unit) : Option (Vcpu σ κ) :=
  match vcpu.thread with
  | .paused => vcpu.takeEvent fun sent => paused saved restored sent.event
  | .exited exitCode => vcpu.takeEvent (exited exitCode)
  | _ => none

def act : Action σ κ → Option (Vcpu σ κ)
  | .handleSignal =>
    if 0 < vcpu.kicks then
      some { vcpu with kicks := vcpu.kicks - 1, immediateExit := true }
    else none
  | .kvmRun =>
    match vcpu.thread with
    | .entering =>
      some { vcpu with
        thread := if vcpu.immediateExit then .returned (.error ⟨eintr, "EINTR"⟩) else .guest }
    | _ => none
  | .kvmReturns result =>
    match vcpu.thread with
    | .guest =>
      if isEintr result && !vcpu.interruptible then none
      else some { vcpu with thread := .returned result }
    | _ => none
  | .runEmulation =>
    match vcpu.thread with
    | .returned result =>
      some { vcpu with
        thread := afterEmulation (Vstate.runEmulation result : Except (Error κ) _)
        immediateExit := vcpu.immediateExit && !isEintr result }
    | _ => none
  | .tryRecv =>
    match vcpu.thread with
    | .polling =>
      match vcpu.events with
      | [] => some { vcpu with thread := .entering }
      | sent :: rest => some (vcpu.answer sent rest (running sent.event))
    | _ => none
  | .recv saved restored => vcpu.recv saved restored
  | .sendExited =>
    match vcpu.thread with
    | .exiting exitCode answers =>
      some { vcpu with
        thread := .exited exitCode
        responses := vcpu.responses ++ [⟨answers, .exited exitCode⟩] }
    | _ => none

variable {vcpu}

inductive Acts (vcpu : Vcpu σ κ) : Action σ κ → Vcpu σ κ → Prop
  | signalled (pending : 0 < vcpu.kicks) :
      Acts vcpu .handleSignal { vcpu with kicks := vcpu.kicks - 1, immediateExit := true }
  | entered (place : vcpu.thread = .entering) (clear : vcpu.immediateExit = false) :
      Acts vcpu .kvmRun { vcpu with thread := .guest }
  | immediate (place : vcpu.thread = .entering) (flagged : vcpu.immediateExit = true) :
      Acts vcpu .kvmRun { vcpu with thread := .returned (.error ⟨eintr, "EINTR"⟩) }
  | left (result : Except Errno VcpuExit) (place : vcpu.thread = .guest) :
      Acts vcpu (.kvmReturns result) { vcpu with thread := .returned result }
  | emulated (result : Except Errno VcpuExit) (place : vcpu.thread = .returned result) :
      Acts vcpu .runEmulation { vcpu with
          thread := afterEmulation (runEmulation result : Except (Error κ) _)
          immediateExit := vcpu.immediateExit && !isEintr result }
  | unasked (place : vcpu.thread = .polling) (empty : vcpu.events = []) :
      Acts vcpu .tryRecv { vcpu with thread := .entering }
  | polled (sent : Sent σ) (rest : List (Sent σ)) (place : vcpu.thread = .polling)
      (queued : vcpu.events = sent :: rest) :
      Acts vcpu .tryRecv (vcpu.answer sent rest (running sent.event))
  | resting (saved : Except κ σ) (restored : Except κ Unit) (sent : Sent σ)
      (rest : List (Sent σ)) (place : vcpu.thread = .paused)
      (queued : vcpu.events = sent :: rest) :
      Acts vcpu (.recv saved restored) (vcpu.answer sent rest (paused saved restored sent.event))
  | gone (saved : Except κ σ) (restored : Except κ Unit) (exitCode : FcExitCode)
      (sent : Sent σ) (rest : List (Sent σ)) (place : vcpu.thread = .exited exitCode)
      (queued : vcpu.events = sent :: rest) :
      Acts vcpu (.recv saved restored) (vcpu.answer sent rest (exited exitCode sent))
  | announced (exitCode : FcExitCode) (answers : Option Nat)
      (place : vcpu.thread = .exiting exitCode answers) :
      Acts vcpu .sendExited { vcpu with
          thread := .exited exitCode
          responses := vcpu.responses ++ [⟨answers, .exited exitCode⟩] }

theorem takeEvent_some {vcpu later : Vcpu σ κ} (taken : vcpu.takeEvent handle = some later) :
  ∃ sent rest, vcpu.events = sent :: rest ∧ later = vcpu.answer sent rest (handle sent) := by
  unfold takeEvent at taken
  split at taken
  · cases taken
  rename_i sent rest queued
  exact ⟨sent, rest, queued, (Option.some.inj taken).symm⟩

theorem acts_of_act {vcpu later : Vcpu σ κ} (acted : vcpu.act action = some later) :
  vcpu.Acts action later := by
  cases action with
  | handleSignal =>
    simp only [act, Option.ite_none_right_eq_some, Option.some.injEq] at acted
    obtain ⟨pending, rfl⟩ := acted
    exact .signalled pending
  | kvmRun =>
    simp only [act] at acted
    split at acted
    · rename_i place
      cases acted
      split
      · rename_i flagged
        exact .immediate place flagged
      rename_i clear
      exact .entered place (by simpa using clear)
    · cases acted
  | kvmReturns result =>
    simp only [act] at acted
    split at acted
    · rename_i place
      split at acted
      · cases acted
      cases acted
      exact .left result place
    · cases acted
  | runEmulation =>
    simp only [act] at acted
    split at acted
    · rename_i result place
      cases acted
      exact .emulated result place
    · cases acted
  | tryRecv =>
    simp only [act] at acted
    split at acted
    · rename_i place
      split at acted
      · rename_i empty
        cases acted
        exact .unasked place empty
      rename_i sent rest queued
      cases acted
      exact .polled sent rest place queued
    · cases acted
  | recv saved restored =>
    simp only [act, recv] at acted
    split at acted
    · rename_i place
      obtain ⟨sent, rest, queued, rfl⟩ := takeEvent_some acted
      exact .resting saved restored sent rest place queued
    · rename_i exitCode place
      obtain ⟨sent, rest, queued, rfl⟩ := takeEvent_some acted
      exact .gone saved restored exitCode sent rest place queued
    · cases acted
  | sendExited =>
    simp only [act] at acted
    split at acted
    · rename_i exitCode answers place
      cases acted
      exact .announced exitCode answers place
    · cases acted

end Vcpu

end

end Spacer.Vstate
