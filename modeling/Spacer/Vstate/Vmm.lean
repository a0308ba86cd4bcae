import Spacer.Lib.Runs
import Spacer.Vstate.Vcpu

/-!
The commands of the VMM to its vCPUs: `resume_vm`, `pause_vm`, `save_vcpu_states`,
`restore_vcpu_states` and `stop` of `lib.rs`.  A command first sends its event to every
vCPU, in two steps each, and then reads one response of every vCPU.
-/

namespace Spacer.Vstate

open Lib

inductive VmState
  | notStarted
  | paused
  | running

inductive VmmError (κ : Type)
  | vcpuMessage
  | invalidInput
  | notAllowed (reason : String)
  | saveVcpuState (err : Error κ)
  | restoreVcpuState (err : Error κ)
  | signalVcpu (err : Error κ)
  | unexpectedVcpuResponse
  deriving DecidableEq

inductive Call (σ : Type)
  | resumeVm
  | pauseVm
  | saveVcpuStates
  | restoreVcpuStates (states : List σ)
  | stop (exitCode : FcExitCode)
  deriving DecidableEq

inductive Reply (σ : Type)
  | done
  | saved (states : List σ)
  deriving DecidableEq

namespace Call

variable {σ κ : Type} (call : Call σ)

def event (index : Nat) : Option (VcpuEvent σ) :=
  match call with
  | .resumeVm => some .resume
  | .pauseVm => some .pause
  | .saveVcpuStates => some .saveState
  | .restoreVcpuStates states => states[index]?.map .restoreState
  | .stop _ => some .finish

def rejected (vcpuCount : Nat) : Bool :=
  match call with
  | .restoreVcpuStates states => states.length != vcpuCount
  | _ => false

/-- The error of a command whose signal could not be raised; `stop` only logs it. -/
def signalError (errno : Errno) : Option (VmmError κ) :=
  match call with
  | .resumeVm => some .vcpuMessage
  | .pauseVm => some .vcpuMessage
  | .saveVcpuStates => some (.signalVcpu (.signalVcpu errno))
  | .restoreVcpuStates _ => some (.signalVcpu (.signalVcpu errno))
  | .stop _ => none

def timeoutError : VmmError κ :=
  match call with
  | .resumeVm => .vcpuMessage
  | .pauseVm => .vcpuMessage
  | _ => .unexpectedVcpuResponse

def goesOn (response : VcpuResponse σ κ) : Bool :=
  match call, response with
  | .resumeVm, .resumed => true
  | .resumeVm, _ => false
  | .pauseVm, .paused => true
  | .pauseVm, _ => false
  | _, _ => true

def savedState : VcpuResponse σ κ → Except (VmmError κ) σ
  | .savedState state => .ok state
  | .error err => .error (.saveVcpuState err)
  | .notAllowed reason => .error (.notAllowed reason)
  | _ => .error .unexpectedVcpuResponse

def restoredState : VcpuResponse σ κ → Except (VmmError κ) Unit
  | .restoredState => .ok ()
  | .error err => .error (.restoreVcpuState err)
  | .notAllowed reason => .error (.notAllowed reason)
  | _ => .error .unexpectedVcpuResponse

def conclude (responses : List (VcpuResponse σ κ)) : Except (VmmError κ) (Reply σ) :=
  match call with
  | .saveVcpuStates => .saved <$> responses.mapM savedState
  | .restoreVcpuStates _ => (fun _ => .done) <$> responses.forM restoredState
  | _ => .ok .done

def instanceState (before : VmState) : VmState :=
  match call with
  | .resumeVm => .running
  | .pauseVm => .paused
  | _ => before

end Call

inductive Control (σ κ : Type)
  | idle (returned : Option (Call σ × Except (VmmError κ) (Reply σ)))
  -- before the event is queued for the vCPU
  | sending (call : Call σ) (index : Nat)
  -- the event is queued, the signal not yet raised
  | kicking (call : Call σ) (index : Nat)
  | receiving (call : Call σ) (index : Nat) (responses : List (VcpuResponse σ κ))
  | joining (exitCode : FcExitCode)
  | stopped (exitCode : FcExitCode)
  deriving DecidableEq

/-- A response the VMM took from the channel of a vCPU, and the number of the event sent
to that vCPU last. -/
structure Consumed (σ κ : Type) where
  index : Nat
  last : Nat
  given : Given σ κ

structure System (σ κ : Type) where
  vcpus : List (Vcpu σ κ)
  control : Control σ κ
  instanceState : VmState
  consumed : List (Consumed σ κ)

inductive Event (σ κ : Type)
  | call (call : Call σ)
  | queueEvent
  | kill (failure : Option Errno)
  | recvResponse
  | recvTimeout
  | conclude
  | join
  | thread (index : Nat) (action : Action σ κ)

section

variable {σ κ : Type}

namespace Vcpu

def new : Vcpu σ κ := ⟨.paused, false, 0, [], [], 0⟩

def queueEvent (vcpu : Vcpu σ κ) (event : VcpuEvent σ) : Vcpu σ κ :=
  { vcpu with
    events := vcpu.events ++ [⟨vcpu.sent + 1, event⟩]
    sent := vcpu.sent + 1 }

def kick (vcpu : Vcpu σ κ) : Vcpu σ κ := { vcpu with kicks := vcpu.kicks + 1 }

end Vcpu

namespace System

def start (vcpuCount : Nat) : System σ κ :=
  ⟨List.replicate vcpuCount .new, .idle none, .paused, []⟩

variable (system : System σ κ)

def returns (call : Call σ) (result : Except (VmmError κ) (Reply σ)) : System σ κ :=
  { system with control := .idle (some (call, result)) }

def call (system : System σ κ) (call : Call σ) : Option (System σ κ) :=
  match system.control with
  | .idle _ =>
    if call.rejected system.vcpus.length then some (system.returns call (.error .invalidInput))
    else some { system with control := .sending call 0 }
  | _ => none

def queueEvent (system : System σ κ) : Option (System σ κ) :=
  match system.control with
  | .sending call index =>
    match system.vcpus[index]?, call.event index with
    | some vcpu, some event =>
      some { system with
        vcpus := system.vcpus.set index (vcpu.queueEvent event)
        control := .kicking call index }
    | some _, none => none
    | none, _ =>
      match call with
      | .stop exitCode => some { system with control := .joining exitCode }
      | _ => some { system with control := .receiving call 0 [] }
  | _ => none

def kill (failure : Option Errno) : Option (System σ κ) :=
  match system.control with
  | .kicking call index =>
    match failure, system.vcpus[index]? with
    | none, none => none
    | none, some vcpu =>
      some { system with
        vcpus := system.vcpus.set index vcpu.kick
        control := .sending call (index + 1) }
    | some errno, _ =>
      match call.signalError errno with
      | some err => some (system.returns call (.error err))
      | none => some { system with control := .sending call (index + 1) }
  | _ => none

def recvResponse : Option (System σ κ) :=
  match system.control with
  | .receiving call index responses =>
    match system.vcpus[index]? with
    | none => none
    | some vcpu =>
      match vcpu.responses with
      | [] => none
      | given :: rest =>
        some { system with
          vcpus := system.vcpus.set index { vcpu with responses := rest }
          consumed := system.consumed ++ [⟨index, vcpu.sent, given⟩]
          control :=
            if call.goesOn given.response then
              .receiving call (index + 1) (responses ++ [given.response])
            else .idle (some (call, .error .vcpuMessage)) }
  | _ => none

def recvTimeout : Option (System σ κ) :=
  match system.control with
  | .receiving call index _ =>
    match system.vcpus[index]? with
    | none => none
    | some vcpu =>
      if vcpu.responses.isEmpty then some (system.returns call (.error call.timeoutError))
      else none
  | _ => none

def conclude (system : System σ κ) : Option (System σ κ) :=
  match system.control with
  | .receiving call index responses =>
    if index = system.vcpus.length then
      match call.conclude responses with
      | .ok reply =>
        some { system.returns call (.ok reply) with
          instanceState := call.instanceState system.instanceState }
      | .error err => some (system.returns call (.error err))
    else none
  | _ => none

def join : Option (System σ κ) :=
  match system.control with
  | .joining exitCode =>
    if system.vcpus.all (·.thread = .finished) then
      some { system with control := .stopped exitCode }
    else none
  | _ => none

def thread (index : Nat) (action : Action σ κ) : Option (System σ κ) :=
  match system.vcpus[index]? with
  | none => none
  | some vcpu =>
    match vcpu.act action with
    | none => none
    | some vcpu => some { system with vcpus := system.vcpus.set index vcpu }

def step : Event σ κ → Option (System σ κ)
  | .call call => system.call call
  | .queueEvent => system.queueEvent
  | .kill failure => system.kill failure
  | .recvResponse => system.recvResponse
  | .recvTimeout => system.recvTimeout
  | .conclude => system.conclude
  | .join => system.join
  | .thread index action => system.thread index action

def Reached (allowed : System σ κ → Event σ κ → Prop) : System σ κ → System σ κ → Prop :=
  Reach (fun system event later => system.step event = some later) allowed

variable {system}

inductive Change (system : System σ κ) : Event σ κ → System σ κ → Prop
  | rejected (call : Call σ) (returned : Option (Call σ × Except (VmmError κ) (Reply σ)))
      (place : system.control = .idle returned) :
      Change system (.call call) (system.returns call (.error .invalidInput))
  | begun (call : Call σ) (returned : Option (Call σ × Except (VmmError κ) (Reply σ)))
      (place : system.control = .idle returned) :
      Change system (.call call) { system with control := .sending call 0 }
  | queued (call : Call σ) (index : Nat) (vcpu : Vcpu σ κ) (event : VcpuEvent σ)
      (place : system.control = .sending call index) (found : system.vcpus[index]? = some vcpu)
      (sent : call.event index = some event) :
      Change system .queueEvent { system with
          vcpus := system.vcpus.set index (vcpu.queueEvent event)
          control := .kicking call index }
  | allSent (call : Call σ) (index : Nat) (place : system.control = .sending call index)
      (past : system.vcpus[index]? = none) (answered : ∀ exitCode, call ≠ .stop exitCode) :
      Change system .queueEvent { system with control := .receiving call 0 [] }
  | allFinished (exitCode : FcExitCode) (index : Nat)
      (place : system.control = .sending (.stop exitCode) index) :
      Change system .queueEvent { system with control := .joining exitCode }
  | kicked (call : Call σ) (index : Nat) (vcpu : Vcpu σ κ)
      (place : system.control = .kicking call index)
      (found : system.vcpus[index]? = some vcpu) :
      Change system (.kill none) { system with
          vcpus := system.vcpus.set index vcpu.kick
          control := .sending call (index + 1) }
  | unkicked (call : Call σ) (errno : Errno) (err : VmmError κ) :
      Change system (.kill (some errno)) (system.returns call (.error err))
  | unkickedFinish (exitCode : FcExitCode) (index : Nat) (errno : Errno) :
      Change system (.kill (some errno)) { system with control := .sending (.stop exitCode) (index + 1) }
  | received (call : Call σ) (index : Nat) (responses : List (VcpuResponse σ κ))
      (vcpu : Vcpu σ κ) (given : Given σ κ) (rest : List (Given σ κ))
      (place : system.control = .receiving call index responses)
      (found : system.vcpus[index]? = some vcpu) (waiting : vcpu.responses = given :: rest) :
      Change system .recvResponse { system with
          vcpus := system.vcpus.set index { vcpu with responses := rest }
          consumed := system.consumed ++ [⟨index, vcpu.sent, given⟩]
          control :=
            if call.goesOn given.response then
              .receiving call (index + 1) (responses ++ [given.response])
            else .idle (some (call, .error .vcpuMessage)) }
  | timedOut (call : Call σ) (index : Nat) (responses : List (VcpuResponse σ κ))
      (place : system.control = .receiving call index responses) :
      Change system .recvTimeout (system.returns call (.error call.timeoutError))
  | concluded (call : Call σ) (responses : List (VcpuResponse σ κ)) (reply : Reply σ)
      (place : system.control = .receiving call system.vcpus.length responses) :
      Change system .conclude { system.returns call (.ok reply) with
          instanceState := call.instanceState system.instanceState }
  | unsuccessful (call : Call σ) (responses : List (VcpuResponse σ κ)) (err : VmmError κ)
      (place : system.control = .receiving call system.vcpus.length responses) :
      Change system .conclude (system.returns call (.error err))
  | joined (exitCode : FcExitCode) (place : system.control = .joining exitCode) :
      Change system .join { system with control := .stopped exitCode }
  | acted (index : Nat) (action : Action σ κ) (vcpu after : Vcpu σ κ)
      (found : system.vcpus[index]? = some vcpu) (acts : vcpu.Acts action after) :
      Change system (.thread index action) { system with vcpus := system.vcpus.set index after }

theorem change_of_step {system later : System σ κ} (taken : system.step event = some later) :
  system.Change event later := by
  cases event with
  | call request =>
    simp only [step, call] at taken
    split at taken
    · rename_i returned place
      split at taken
      · cases taken
        exact .rejected request returned place
      cases taken
      exact .begun request returned place
    · cases taken
  | queueEvent =>
    simp only [step, queueEvent] at taken
    split at taken
    · rename_i request index place
      split at taken
      · rename_i vcpu event found sent
        cases taken
        exact .queued request index vcpu event place found sent
      · cases taken
      rename_i past
      split at taken
      · cases taken
        exact .allFinished _ index place
      rename_i answered
      cases taken
      exact .allSent request index place past answered
    · cases taken
  | kill failure =>
    simp only [step, kill] at taken
    split at taken
    · rename_i request index place
      split at taken
      · cases taken
      · rename_i vcpu found
        cases taken
        exact .kicked request index vcpu place found
      split at taken
      · cases taken
        exact .unkicked request _ _
      rename_i silent
      cases taken
      cases request with
      | stop exitCode => exact .unkickedFinish exitCode index _
      | resumeVm | pauseVm | saveVcpuStates | restoreVcpuStates => cases silent
    · cases taken
  | recvResponse =>
    simp only [step, recvResponse] at taken
    split at taken
    · rename_i request index responses place
      split at taken
      · cases taken
      rename_i vcpu found
      split at taken
      · cases taken
      rename_i given rest waiting
      cases taken
      exact .received request index responses vcpu given rest place found waiting
    · cases taken
  | recvTimeout =>
    simp only [step, recvTimeout] at taken
    split at taken
    · rename_i request index responses place
      split at taken
      · cases taken
      split at taken
      · cases taken
        exact .timedOut request index responses place
      · cases taken
    · cases taken
  | conclude =>
    simp only [step, conclude] at taken
    split at taken
    · rename_i request index responses place
      split at taken
      · rename_i past
        subst past
        split at taken
        · cases taken
          exact .concluded request responses _ place
        cases taken
        exact .unsuccessful request responses _ place
      · cases taken
    · cases taken
  | join =>
    simp only [step, join] at taken
    split at taken
    · rename_i exitCode place
      split at taken
      · cases taken
        exact .joined exitCode place
      · cases taken
    · cases taken
  | thread index action =>
    simp only [step, thread] at taken
    split at taken
    · cases taken
    rename_i vcpu found
    split at taken
    · cases taken
    rename_i after acted
    cases taken
    exact .acted index action vcpu after found (Vcpu.acts_of_act acted)

def commandEvents (vcpuCount : Nat) (call : Call σ) : List (Event σ κ) :=
  .call call :: (List.replicate vcpuCount [.queueEvent, .kill none]).flatten ++ [.queueEvent]

def entersGuest (index : Nat) : List (Event σ κ) :=
  [.thread index .handleSignal, .thread index .kvmRun, .thread index .runEmulation,
    .thread index .tryRecv, .thread index .kvmRun]

def leavesGuest (index : Nat) : List (Event σ κ) :=
  [.thread index (.kvmReturns (.error ⟨eintr, "EINTR"⟩)), .thread index .handleSignal]

end System

end

end Spacer.Vstate
