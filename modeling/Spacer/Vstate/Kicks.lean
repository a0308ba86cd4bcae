import Spacer.Lib.Lists
import Spacer.Vstate.Vmm

/-! Events and their kicks.  One run of `try_recv` follows each clearing of `immediate_exit`. -/

namespace Spacer.Vstate

open Lib

variable {σ κ : Type}

def Thread.heedless : Thread → Bool
  | .entering => true
  | .guest => true
  | .returned result => !isEintr result
  | _ => false

def VcpuEvent.halts : VcpuEvent σ → Bool
  | .pause => true
  | .finish => true
  | _ => false

variable {vcpu : Vcpu σ κ}

namespace Vcpu

def Stuck (vcpu : Vcpu σ κ) : Prop :=
  vcpu.events ≠ [] ∧ vcpu.thread = .guest ∧ vcpu.immediateExit = false ∧ vcpu.kicks = 0

instance (vcpu : Vcpu σ κ) : Decidable vcpu.Stuck :=
  inferInstanceAs (Decidable (_ ∧ _ ∧ _ ∧ _))

def Ordered (vcpu : Vcpu σ κ) : Prop := ∀ sent ∈ vcpu.events.dropLast, sent.event.halts = true

def Heeded (vcpu : Vcpu σ κ) : Prop :=
  vcpu.thread.heedless = true → vcpu.events ≠ [] → vcpu.interruptible = true

theorem Heeded.not_stuck (heeded : vcpu.Heeded) : ¬vcpu.Stuck := by
  rintro ⟨queued, place, clear, silent⟩
  have noticed := heeded (by rw [place]; rfl) queued
  simp [interruptible, clear, silent] at noticed

theorem heedless_running : (running (κ := κ) event).2.heedless = !event.halts := by
  cases event <;> rfl

theorem heedless_paused (halts : event.halts = true) :
  (paused saved restored event).2.heedless = false := by
  cases event with
  | finish => rfl
  | pause => rfl
  | resume | restoreState | saveState => cases halts

theorem heedless_exited (sent : Sent σ) : (exited (κ := κ) exitCode sent).2.heedless = false := by
  unfold exited
  split <;> rfl

theorem heedless_afterEmulation (result : Except Errno VcpuExit)
  (heedless : (afterEmulation (runEmulation result : Except (Error κ) _)).heedless = true) :
  isEintr result = false := by
  cases result with
  | ok exit => rfl
  | error err =>
    by_cases interrupted : err.code = eintr
    · have polling : (runEmulation (.error err) : Except (Error κ) _) = .ok .interrupted := by
        rw [runEmulation, interrupted]
        rfl
      rw [polling] at heedless
      cases heedless
    · simp [isEintr, interrupted]

theorem ordered_tail (ordered : vcpu.Ordered) {sent : Sent σ} (queued : vcpu.events = sent :: rest) :
  (∀ next ∈ rest.dropLast, next.event.halts = true) ∧ (rest ≠ [] → sent.event.halts = true) := by
  rw [Ordered, queued] at ordered
  cases rest with
  | nil => exact ⟨fun next member => (List.not_mem_nil member).elim, fun more => absurd rfl more⟩
  | cons second others =>
    rw [List.dropLast_cons_cons] at ordered
    exact ⟨fun next member => ordered next (List.mem_cons_of_mem _ member),
      fun _ => ordered sent (List.mem_cons_self ..)⟩

theorem Ordered.acts (ordered : vcpu.Ordered) (acts : vcpu.Acts action after) : after.Ordered := by
  cases acts with
  | polled sent rest place queued | resting saved restored sent rest place queued
  | gone saved restored exitCode sent rest place queued => exact (ordered_tail ordered queued).1
  | _ => exact ordered

theorem Heeded.acts (ordered : vcpu.Ordered) (heeded : vcpu.Heeded) (acts : vcpu.Acts action after) :
  after.Heeded := by
  intro heedless queued
  cases acts with
  | signalled pending => rfl
  | entered place | left result place => exact heeded (by rw [place]; rfl) queued
  | immediate | announced => cases heedless
  | emulated result place =>
    have other := heedless_afterEmulation result heedless
    have noticed := heeded (by rw [place, Thread.heedless, other]; rfl) queued
    simpa [interruptible, other] using noticed
  | unasked place empty => exact absurd empty queued
  | polled sent rest place waiting =>
    rw [answer, heedless_running, (ordered_tail ordered waiting).2 queued] at heedless
    cases heedless
  | resting saved restored sent rest place waiting =>
    rw [answer, heedless_paused ((ordered_tail ordered waiting).2 queued)] at heedless
    cases heedless
  | gone saved restored exitCode sent rest place waiting =>
    rw [answer, heedless_exited] at heedless
    cases heedless

end Vcpu

namespace System

/-- An event is sent only while every event queued before it stops the vCPU, and its signal
is raised. -/
def unhurried (system : System σ κ) : Event σ κ → Bool
  | .queueEvent =>
    match system.control with
    | .sending _ index => system.vcpus[index]?.all fun vcpu => vcpu.events.all (·.event.halts)
    | _ => true
  | .kill failure => failure.isNone
  | _ => true

def kicking (system : System σ κ) : Option Nat :=
  match system.control with
  | .kicking _ index => some index
  | _ => none

structure EventsHeeded (system : System σ κ) : Prop where
  ordered (index : Nat) (vcpu : Vcpu σ κ) (found : system.vcpus[index]? = some vcpu) : vcpu.Ordered
  heeded (index : Nat) (vcpu : Vcpu σ κ) (found : system.vcpus[index]? = some vcpu)
    (whole : system.kicking ≠ some index) : vcpu.Heeded

section

variable {system later : System σ κ}

variable (inv : system.EventsHeeded)
include inv

theorem EventsHeeded.move (same : later.vcpus = system.vcpus)
  (whole : system.kicking = none) : later.EventsHeeded := by
  refine ⟨fun index vcpu found => ?_, fun index vcpu found _ => ?_⟩
  · rw [same] at found
    exact inv.ordered index vcpu found
  rw [same] at found
  exact inv.heeded index vcpu found (by simp [whole])

theorem EventsHeeded.set (changed : later.vcpus = system.vcpus.set index after) (ordered : after.Ordered)
  (heeded : later.kicking ≠ some index → after.Heeded)
  (kicking : ∀ other, other ≠ index → system.kicking = some other → later.kicking = some other) :
  later.EventsHeeded := by
  refine ⟨fun other vcpu found => ?_, fun other vcpu found whole => ?_⟩
  · rw [changed] at found
    rcases of_getElem?_set found with ⟨rfl, rfl⟩ | ⟨differ, found⟩
    · exact ordered
    · exact inv.ordered other vcpu found
  rw [changed] at found
  rcases of_getElem?_set found with ⟨rfl, rfl⟩ | ⟨differ, found⟩
  · exact heeded whole
  · exact inv.heeded other vcpu found fun before => whole (kicking other differ before)

theorem eventsHeeded_step (calm : system.unhurried event = true)
  (change : system.Change event later) : later.EventsHeeded := by
  cases change with
  | rejected call returned place | begun call returned place | allSent call index place
  | allFinished exitCode index place | timedOut call index responses place
  | concluded call responses reply place | unsuccessful call responses err place
  | joined exitCode place => exact inv.move rfl (by rw [kicking, place])
  | queued call index vcpu event place found sent =>
    rw [unhurried, place] at calm
    dsimp only at calm
    rw [found, Option.all_some, List.all_eq_true] at calm
    refine inv.set rfl ?_ (fun whole => absurd rfl whole) fun other _ before => ?_
    · rw [Vcpu.Ordered, Vcpu.queueEvent, List.dropLast_concat]
      exact calm
    rw [kicking, place] at before
    cases before
  | kicked call index vcpu place found =>
    refine inv.set rfl (inv.ordered index vcpu found) (fun _ _ _ => ?_) fun other differ before => ?_
    · simp [Vcpu.interruptible, Vcpu.kick]
    rw [kicking, place] at before
    cases before
    exact absurd rfl differ
  | unkicked call errno err => cases calm
  | unkickedFinish exitCode index errno => cases calm
  | received call index responses vcpu given rest place found waiting =>
    refine inv.set rfl (inv.ordered index vcpu found) (fun _ => ?_) fun other _ before => ?_
    · exact inv.heeded index vcpu found (by simp [kicking, place])
    rw [kicking, place] at before
    cases before
  | acted index action vcpu after found acts =>
    exact inv.set rfl ((inv.ordered index vcpu found).acts acts)
      (fun whole => (inv.heeded index vcpu found whole).acts (inv.ordered index vcpu found) acts)
      fun other _ before => before

omit inv

theorem eventsHeeded_start (vcpuCount : Nat) : (start vcpuCount : System σ κ).EventsHeeded := by
  have fresh (index : Nat) (vcpu : Vcpu σ κ)
      (found : (start vcpuCount : System σ κ).vcpus[index]? = some vcpu) : vcpu = .new :=
    List.eq_of_mem_replicate (List.mem_of_getElem? found)
  refine ⟨fun index vcpu found => ?_, fun index vcpu found _ => ?_⟩
  · rw [fresh index vcpu found]
    exact fun sent member => (List.not_mem_nil member).elim
  rw [fresh index vcpu found]
  exact fun heedless _ => heedless

end

/-- No event is left behind while the VMM waits for the earlier ones to be taken; between the
two halves of `send_event` the kick is still to come. -/
theorem no_command_lost (vcpuCount : Nat) {system : System σ κ}
  (reached : Reached (unhurried · ·) (start vcpuCount) system) (index : Nat) (vcpu : Vcpu σ κ)
  (found : system.vcpus[index]? = some vcpu) (whole : system.kicking ≠ some index) : ¬vcpu.Stuck := by
  have inv := @Reach.invariant _ _ _ _ EventsHeeded
    (fun _ _ _ inv calm taken => eventsHeeded_step inv calm (change_of_step taken)) _ _
    (eventsHeeded_start vcpuCount) reached
  exact (inv.heeded index vcpu found whole).not_stuck

def bothRunning : List (Event Unit Unit) :=
  commandEvents 2 .resumeVm ++ .thread 0 (.recv (.ok ()) (.ok ())) :: entersGuest 0 ++
    .thread 1 (.recv (.ok ()) (.ok ())) :: entersGuest 1 ++
    [.recvResponse, .recvResponse, .conclude]

theorem no_command_lost_pausing : ∃ system : System Unit Unit, Reached (unhurried · ·) (start 2) system ∧
    ∃ vcpu ∈ system.vcpus[0]?, vcpu.events ≠ [] ∧ vcpu.thread = .guest ∧ ¬vcpu.Stuck := by
  obtain ⟨system, reached, whole, vcpu, found, queued, place⟩ :=
    @exists_reach_of_play (System Unit Unit) _ step (unhurried · ·) _ (start 2)
      (bothRunning ++ commandEvents 2 .pauseVm)
      (fun system => system.kicking = none ∧
        ∃ vcpu ∈ system.vcpus[0]?, vcpu.events ≠ [] ∧ vcpu.thread = .guest)
      (by decide +kernel)
  exact ⟨system, reached, vcpu, found, queued, place,
    no_command_lost 2 reached 0 vcpu found (by simp [whole])⟩

/-- vCPU 0 has exited, so that `resume_vm` returns before the answer of vCPU 1 is read.  The
kicks of `Resume` and of the `Finish` of `stop` meet one clearing of `immediate_exit`. -/
theorem finish_lost : ∃ system : System Unit Unit, Reached (fun _ _ => True) (start 2) system ∧
    system.control = .joining .ok ∧ ∃ vcpu ∈ system.vcpus[1]?, vcpu.Stuck :=
  @exists_reach_of_play (System Unit Unit) _ step (fun _ _ => True) _ (start 2) (bothRunning ++
      [.thread 0 (.kvmReturns (.ok .hlt)), .thread 0 .runEmulation, .thread 0 .sendExited] ++
      commandEvents 2 .resumeVm ++ [.recvResponse] ++ commandEvents 2 (.stop .ok) ++
      leavesGuest 1 ++
      [.thread 1 .handleSignal, .thread 1 .runEmulation, .thread 1 .tryRecv, .thread 1 .kvmRun])
    (fun system => system.control = .joining .ok ∧ ∃ vcpu ∈ system.vcpus[1]?, Vcpu.Stuck vcpu)
    (by decide +kernel)

end System

end Spacer.Vstate
