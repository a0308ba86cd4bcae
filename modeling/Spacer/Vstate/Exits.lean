import Spacer.Vstate.Answers

/-! The exit event: with which code the VMM stops after a vCPU has left. -/

namespace Spacer.Vstate

open Lib List

variable {σ κ : Type}

/-- The code with which the vCPU has called `exit`. -/
def Thread.exitCode : Thread → Option FcExitCode
  | .exiting exitCode _ | .exited exitCode => some exitCode
  | _ => none

def exitOf : List (Given σ κ) → Option FcExitCode
  | ⟨_, .exited exitCode⟩ :: _ => some exitCode
  | _ => none

/-- The first exit code `process` finds, or `unwrap_or(FcExitCode::Ok)`. -/
def shutdownExitCode (seen : List (List (Given σ κ))) : FcExitCode :=
  (seen.findSome? exitOf).getD .ok

namespace Vcpu

def Unsuccessful (vcpu : Vcpu σ κ) : Prop :=
  ∀ given ∈ vcpu.responses, given.response ≠ .exited .ok

variable {vcpu later : Vcpu σ κ}

theorem Unsuccessful.answer (holds : vcpu.Unsuccessful) (other : outcome.1 ≠ some (.exited .ok)) :
  (vcpu.answer taken rest outcome).Unsuccessful := by
  intro given member
  simp only [Vcpu.answer, mem_append, mem_map, Option.mem_toList] at member
  rcases member with old | ⟨new, found, rfl⟩
  · exact holds given old
  rintro rfl
  exact other found

theorem Unsuccessful.acts (holds : vcpu.Unsuccessful) (acts : vcpu.Acts action later)
  (fails : vcpu.thread.exitCode ≠ some .ok) : later.Unsuccessful := by
  cases acts with
  | polled sent | gone saved restored exitCode sent =>
    obtain ⟨serial, event⟩ := sent
    cases event <;> exact holds.answer nofun
  | resting saved restored sent rest place queued =>
    obtain ⟨serial, event⟩ := sent
    cases event <;> cases saved <;> cases restored <;> exact holds.answer nofun
  | announced exitCode answers place =>
    rw [place] at fails
    refine forall_mem_append.mpr ⟨holds, forall_mem_singleton.mpr ?_⟩
    simpa [Thread.exitCode] using fails
  | _ => exact holds

end Vcpu

namespace System

/-- No vCPU has exited with `Ok` after the step. -/
def failing (system : System σ κ) (event : Event σ κ) : Bool :=
  (system.step event).all (·.vcpus.all (·.thread.exitCode ≠ some .ok))

/-- `process` takes a response of every vCPU without waiting, while the threads go on, until
one is an exit; `seen` are the channels as it finds them. -/
inductive Looks : System σ κ → Nat → List (List (Given σ κ)) → Prop
  | past (past : system.vcpus[index]? = none) : Looks system index []
  | next (found : system.vcpus[index]? = some vcpu) (other : exitOf vcpu.responses = none)
      (rest : Looks { system with
        vcpus := system.vcpus.set index { vcpu with responses := vcpu.responses.tail } }
        (index + 1) seen) : Looks system index (vcpu.responses :: seen)
  | exit (found : system.vcpus[index]? = some vcpu) (exits : (exitOf vcpu.responses).isSome) :
      Looks system index [vcpu.responses]
  | thread (fails : system.failing (.thread place action) = true)
      (taken : system.step (.thread place action) = some later) (rest : Looks later index seen) :
      Looks system index seen

structure Unsuccessful (system : System σ κ) : Prop where
  threads : ∀ vcpu ∈ system.vcpus, vcpu.thread.exitCode ≠ some .ok
  channels : ∀ vcpu ∈ system.vcpus, vcpu.Unsuccessful

theorem forall_mem_set {items : List α} {holds : α → Prop} (all : ∀ item ∈ items, holds item)
  (fine : holds changed) : ∀ item ∈ items.set index changed, holds item := by
  intro item member
  rcases mem_or_eq_of_mem_set member with old | rfl
  · exact all item old
  · exact fine

variable {system later : System σ κ}

theorem Unsuccessful.step (holds : system.Unsuccessful) (fails : system.failing event = true)
  (taken : system.step event = some later) : later.Unsuccessful := by
  refine ⟨by simpa [failing, taken] using fails, ?_⟩
  obtain ⟨threads, channels⟩ := holds
  cases change_of_step taken with
  | queued call index vcpu event place found | kicked call index vcpu place found =>
    have fine := channels vcpu (mem_of_getElem? found)
    exact forall_mem_set channels fun given => fine given
  | received call index responses vcpu given rest place found waiting =>
    refine forall_mem_set channels fun other member => channels vcpu (mem_of_getElem? found) other ?_
    rw [waiting]
    exact mem_cons_of_mem _ member
  | acted index action vcpu later found acts =>
    have member := mem_of_getElem? found
    exact forall_mem_set channels ((channels vcpu member).acts acts (threads vcpu member))
  | _ => exact channels

theorem Unsuccessful.looks (looks : Looks system index seen) (holds : system.Unsuccessful) :
  ∀ channel ∈ seen, exitOf channel ≠ some .ok := by
  induction looks with
  | past past => nofun
  | next found other rest ih =>
    have thread := holds.threads _ (mem_of_getElem? found)
    have channel := holds.channels _ (mem_of_getElem? found)
    refine forall_mem_cons.mpr ⟨by rw [other]; nofun, ih ⟨?_, ?_⟩⟩
    · exact forall_mem_set holds.threads thread
    · exact forall_mem_set holds.channels fun given inside =>
        channel given (mem_of_mem_tail inside)
  | exit found exits =>
    refine forall_mem_singleton.mpr fun same => ?_
    unfold exitOf at same
    split at same
    · rename_i queued
      cases same
      exact holds.channels _ (mem_of_getElem? found) _ (queued ▸ mem_cons_self) rfl
    · cases same
  | thread fails taken rest ih => exact ih (holds.step fails taken)

/-- As long as no vCPU exits with `Ok`, the VMM stops with the code of the failure exactly if
the channel of some vCPU starts with its exit when the handler looks at it. -/
theorem failure_reported_iff (vcpuCount : Nat) {system : System σ κ} {seen : List (List (Given σ κ))}
  (reached : Reached (failing · ·) (start vcpuCount) system) (looks : Looks system 0 seen) :
  shutdownExitCode seen = .genericError ↔ ∃ channel ∈ seen, (exitOf channel).isSome := by
  have initially : (start vcpuCount : System σ κ).Unsuccessful :=
    ⟨by simp [start, Vcpu.new, Thread.exitCode],
      forall_mem_replicate.mpr (.inr nofun)⟩
  have holds := @Reach.invariant _ _ _ _ Unsuccessful
    (fun _ _ _ holds fails taken => holds.step fails taken) _ _ initially reached
  unfold shutdownExitCode
  cases found : seen.findSome? exitOf with
  | none =>
    refine ⟨nofun, ?_⟩
    rintro ⟨channel, member, exits⟩
    rw [findSome?_eq_none_iff.mp found channel member] at exits
    cases exits
  | some exitCode =>
    obtain ⟨channel, member, exits⟩ := exists_of_findSome?_eq_some found
    refine ⟨fun _ => ⟨channel, member, by rw [exits]; rfl⟩, fun _ => ?_⟩
    cases exitCode with
    | ok => exact absurd exits (holds.looks looks channel member)
    | genericError => rfl

/-! The only vCPU fails to enter the guest. -/

def oneFailed : List (Event Unit Unit) :=
  oneRunning ++ [.thread 0 (.kvmReturns (.ok .failEntry)), .thread 0 .runEmulation]

theorem failure_reported_queued : ∃ (system : System Unit Unit) (seen : _),
  Reached (failing · ·) (start 1) system ∧ Looks system 0 seen ∧ shutdownExitCode seen = .genericError := by
  obtain ⟨system, reached, vcpu, found, exits⟩ :=
    @exists_reach_of_play (System Unit Unit) _ step (failing · ·) _ (start 1)
      (oneFailed ++ [.thread 0 .sendExited])
      (fun system => ∃ vcpu ∈ system.vcpus[0]?, (exitOf vcpu.responses).isSome)
      (by decide +kernel)
  have looks : Looks system 0 [vcpu.responses] := .exit found exits
  exact ⟨system, _, reached, looks, (failure_reported_iff 1 reached looks).mpr ⟨_, mem_cons_self, exits⟩⟩

/-- The exit event is raised before the code is queued. -/
theorem failure_unreported : ∃ (system : System Unit Unit) (seen : _),
  Reached (failing · ·) (start 1) system ∧
    (∃ vcpu ∈ system.vcpus[0]?, vcpu.thread.exitCode = some .genericError) ∧
    Looks system 0 seen ∧ shutdownExitCode seen = .ok := by
  obtain ⟨system, reached, length, vcpu, found, failed, silent⟩ :=
    @exists_reach_of_play (System Unit Unit) _ step (failing · ·) _ (start 1) oneFailed
      (fun system => system.vcpus.length = 1 ∧ ∃ vcpu ∈ system.vcpus[0]?,
        vcpu.thread.exitCode = some .genericError ∧ exitOf vcpu.responses = none)
      (by decide +kernel)
  refine ⟨system, [vcpu.responses], reached, ⟨vcpu, found, failed⟩,
    .next found silent (.past (by simp [length])), ?_⟩
  simp [shutdownExitCode, silent]

end System

end Spacer.Vstate
