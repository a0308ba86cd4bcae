import Spacer.Lib.Lists
import Spacer.Vstate.Vmm

/-! Commands and their answers.  The channels carry no identifiers. -/

namespace Spacer.Vstate

open Lib

variable {σ κ : Type}

/-- The thread has not left its states `paused` and `running`. -/
def Thread.live : Thread → Bool
  | .exiting _ _ => false
  | .exited _ => false
  | .finished => false
  | _ => true

def Call.answered : Call σ → Bool
  | .stop _ => false
  | _ => true

def Call.Settles (call : Call σ) (response : VcpuResponse σ κ) (thread : Thread) : Prop :=
  match call with
  | .resumeVm => response = .resumed
  | .pauseVm => response = .paused ∧ thread = .paused
  | _ => True

variable {call : Call σ}

theorem running_settles (answered : call.answered = true) (kind : call.event index = some event) :
  ∃ (response : VcpuResponse σ κ) (thread : Thread), running event = (some response, thread) ∧
    call.Settles response thread ∧ thread.live = true := by
  cases call with
  | resumeVm =>
    cases kind
    exact ⟨_, _, rfl, rfl, rfl⟩
  | pauseVm =>
    cases kind
    exact ⟨_, _, rfl, ⟨rfl, rfl⟩, rfl⟩
  | saveVcpuStates =>
    cases kind
    exact ⟨_, _, rfl, trivial, rfl⟩
  | restoreVcpuStates states =>
    obtain ⟨state, _, rfl⟩ := Option.map_eq_some_iff.mp kind
    exact ⟨_, _, rfl, trivial, rfl⟩
  | stop exitCode => cases answered

theorem paused_settles (answered : call.answered = true) (kind : call.event index = some event)
  (saved : Except κ σ) (restored : Except κ Unit) :
  ∃ (response : VcpuResponse σ κ) (thread : Thread), paused saved restored event = (some response, thread) ∧
    call.Settles response thread ∧ thread.live = true := by
  cases call with
  | resumeVm =>
    cases kind
    exact ⟨_, _, rfl, rfl, rfl⟩
  | pauseVm =>
    cases kind
    exact ⟨_, _, rfl, ⟨rfl, rfl⟩, rfl⟩
  | saveVcpuStates =>
    cases kind
    cases saved <;> exact ⟨_, _, rfl, trivial, rfl⟩
  | restoreVcpuStates states =>
    obtain ⟨state, _, rfl⟩ := Option.map_eq_some_iff.mp kind
    cases restored <;> exact ⟨_, _, rfl, trivial, rfl⟩
  | stop exitCode => cases answered

namespace Vcpu

structure Quiet (vcpu : Vcpu σ κ) : Prop where
  events : vcpu.events = []
  responses : vcpu.responses = []
  live : vcpu.thread.live = true

instance (vcpu : Vcpu σ κ) : Decidable vcpu.Quiet :=
  decidable_of_iff (vcpu.events = [] ∧ vcpu.responses = [] ∧ vcpu.thread.live = true)
    ⟨fun holds => ⟨holds.1, holds.2.1, holds.2.2⟩, fun quiet => ⟨quiet.events, quiet.responses, quiet.live⟩⟩

inductive Outstanding (call : Call σ) (index : Nat) (vcpu : Vcpu σ κ) : Prop
  | waiting (event : VcpuEvent σ) (kind : call.event index = some event)
      (queued : vcpu.events = [⟨vcpu.sent, event⟩]) (silent : vcpu.responses = [])
  | answered (response : VcpuResponse σ κ) (taken : vcpu.events = [])
      (given : vcpu.responses = [⟨some vcpu.sent, response⟩])
      (settled : call.Settles response vcpu.thread)

def exits (vcpu : Vcpu σ κ) : Bool :=
  match vcpu.thread with
  | .returned result => !(afterEmulation (runEmulation result : Except (Error κ) _)).live
  | _ => false

section

variable {vcpu after : Vcpu σ κ} {action : Action σ κ}

theorem Outstanding.of_answer {thread : Thread} (silent : vcpu.responses = [])
  (settled : call.Settles response thread) :
  (vcpu.answer ⟨vcpu.sent, event⟩ [] (some response, thread)).Outstanding call index := by
  refine .answered response rfl ?_ settled
  rw [answer, silent]
  rfl

/-- The thread waits in `paused`, with no `Resume` in its channel, or has finished. -/
def Held (vcpu : Vcpu σ κ) : Prop :=
  vcpu.thread = .finished ∨ vcpu.thread = .paused ∧ ∀ sent ∈ vcpu.events, sent.event ≠ .resume

theorem Held.not_guest (held : vcpu.Held) : vcpu.thread ≠ .guest := by
  rcases held with place | ⟨place, _⟩ <;> simp [place]

theorem Held.queueEvent (held : vcpu.Held) (other : event ≠ .resume) : (vcpu.queueEvent event).Held := by
  rcases held with place | ⟨place, held⟩
  · exact .inl place
  refine .inr ⟨place, fun sent member => ?_⟩
  rcases List.mem_append.mp member with earlier | last
  · exact held sent earlier
  rw [List.mem_singleton.mp last]
  exact other

theorem thread_paused (saved : Except κ σ) (restored : Except κ Unit) (other : event ≠ .resume) :
  (paused saved restored event).2 = .finished ∨ (paused saved restored event).2 = .paused := by
  cases event with
  | finish => exact .inl rfl
  | pause => exact .inr rfl
  | resume => exact absurd rfl other
  | restoreState state => cases restored <;> exact .inr rfl
  | saveState => cases saved <;> exact .inr rfl

variable (moved : vcpu.Acts action after)
include moved

theorem Acts.rests (empty : vcpu.events = []) (place : vcpu.thread = .paused) : after.thread = .paused := by
  cases moved with
  | signalled pending => exact place
  | resting saved restored sent rest place queued => simp [empty] at queued
  | _ => simp_all

theorem Held.acts (held : vcpu.Held) : after.Held := by
  cases moved with
  | signalled pending => exact held
  | resting saved restored sent rest place queued =>
    rcases held with finished | ⟨_, held⟩
    · rw [place] at finished
      cases finished
    rw [queued] at held
    rcases thread_paused saved restored (held sent List.mem_cons_self) with finishes | stays
    · exact .inl finishes
    · exact .inr ⟨stays, fun next member => held next (List.mem_cons_of_mem _ member)⟩
  | _ =>
    rcases held with finished | ⟨resting, _⟩
    · simp_all
    · simp_all

variable (stays : action = .runEmulation → vcpu.exits = false)
include stays

theorem Acts.frame (empty : vcpu.events = []) (live : vcpu.thread.live = true) :
  after.events = [] ∧ after.responses = vcpu.responses ∧ after.sent = vcpu.sent ∧
    after.thread.live = true := by
  cases moved with
  | signalled pending => exact ⟨empty, rfl, rfl, live⟩
  | entered | immediate | left | unasked => exact ⟨empty, rfl, rfl, rfl⟩
  | emulated result place =>
    rw [exits, place] at stays
    exact ⟨empty, rfl, rfl, by simpa using stays⟩
  | polled sent rest place queued | resting saved restored sent rest place queued
  | gone saved restored exitCode sent rest place queued => simp [empty] at queued
  | announced exitCode answers place =>
    rw [place] at live
    cases live

theorem Quiet.acts (quiet : vcpu.Quiet) : after.Quiet := by
  obtain ⟨events, responses, _, live⟩ := moved.frame stays quiet.events quiet.live
  exact ⟨events, responses.trans quiet.responses, live⟩

theorem Outstanding.acts (outstanding : vcpu.Outstanding call index)
  (answered : call.answered = true) (live : vcpu.thread.live = true) :
  after.Outstanding call index ∧ after.thread.live = true := by
  cases outstanding with
  | waiting event kind queued silent =>
    cases moved with
    | signalled pending => exact ⟨.waiting event kind queued silent, live⟩
    | entered | immediate | left => exact ⟨.waiting event kind queued silent, rfl⟩
    | emulated result place =>
      rw [exits, place] at stays
      exact ⟨.waiting event kind queued silent, by simpa using stays⟩
    | unasked place empty => simp [empty] at queued
    | polled sent rest place next =>
      rw [queued] at next
      cases next
      obtain ⟨response, thread, outcome, settled, live⟩ := running_settles answered kind
      rw [outcome]
      exact ⟨.of_answer silent settled, live⟩
    | resting saved restored sent rest place next =>
      rw [queued] at next
      cases next
      obtain ⟨response, thread, outcome, settled, live⟩ :=
        paused_settles answered kind saved restored
      rw [outcome]
      exact ⟨.of_answer silent settled, live⟩
    | gone saved restored exitCode sent rest place | announced exitCode answers place =>
      rw [place] at live
      cases live
  | answered response taken given settled =>
    obtain ⟨events, responses, sent, lives⟩ := moved.frame stays taken live
    refine ⟨.answered response events ?_ ?_, lives⟩
    · rw [responses, sent]
      exact given
    cases call with
    | pauseVm => exact ⟨settled.1, moved.rests taken settled.2⟩
    | resumeVm => exact settled
    | saveVcpuStates | restoreVcpuStates | stop => trivial

omit moved stays

end

end Vcpu

inductive Stage
  | before
  | between
  | after

def Stage.Holds (stage : Stage) (call : Call σ) (index : Nat) (vcpu : Vcpu σ κ) : Prop :=
  match stage with
  | .before => vcpu.Quiet
  | .between => vcpu.Outstanding call index ∧ vcpu.thread.live = true
  | .after => vcpu.Quiet ∧ (call = .pauseVm → vcpu.thread = .paused)

theorem Stage.Holds.acts {stage : Stage} {after : Vcpu σ κ} (holds : stage.Holds call index vcpu)
  (answered : call.answered = true) (acts : vcpu.Acts action after)
  (stays : action = .runEmulation → vcpu.exits = false) : stage.Holds call index after := by
  cases stage with
  | before => exact Vcpu.Quiet.acts acts stays holds
  | between => exact Vcpu.Outstanding.acts acts stays holds.1 answered holds.2
  | after =>
    exact ⟨holds.1.acts acts stays, fun pausing => acts.rests holds.1.events (holds.2 pausing)⟩

theorem Stage.Holds.kick {stage : Stage} (holds : stage.Holds call index vcpu) :
  stage.Holds call index vcpu.kick := by
  cases stage with
  | before => exact { holds with }
  | between =>
    refine ⟨?_, holds.2⟩
    cases holds.1 with
    | waiting event kind queued silent => exact .waiting event kind queued silent
    | answered response taken given settled => exact .answered response taken given settled
  | after => exact ⟨⟨holds.1.events, holds.1.responses, holds.1.live⟩, holds.2⟩

def Control.commanding : Control σ κ → Bool
  | .sending call _ => call.answered
  | .kicking call _ => call.answered
  | .receiving _ _ _ => true
  | _ => false

def Control.stage (control : Control σ κ) (index : Nat) : Option (Call σ × Stage) :=
  match control with
  | .sending call next =>
    if call.answered then some (call, if index < next then .between else .before) else none
  | .kicking call next =>
    if call.answered then some (call, if index ≤ next then .between else .before) else none
  | .receiving call next _ => some (call, if index < next then .after else .between)
  | .idle (some (.pauseVm, .ok _)) => some (.pauseVm, .after)
  | _ => none

theorem Control.commanding_of_stage {control : Control σ κ} {stage : Stage}
  (staged : control.stage index = some (call, stage)) :
  control.commanding = true ∨ call = .pauseVm ∧ stage = .after := by
  unfold Control.stage at staged
  split at staged
  · split at staged
    · rename_i answered
      exact .inl answered
    · cases staged
  · split at staged
    · rename_i answered
      exact .inl answered
    · cases staged
  · exact .inl rfl
  · cases staged
    exact .inr ⟨rfl, rfl⟩
  · cases staged

namespace System

/-- A command begins only when nothing is left in the channels and no vCPU has exited, and no
vCPU exits before the command has returned. -/
def Attended (system : System σ κ) : Event σ κ → Prop
  | .call call => call.answered = true → ∀ vcpu ∈ system.vcpus, vcpu.Quiet
  | .thread index .runEmulation =>
    system.control.commanding = true → ∀ vcpu ∈ system.vcpus[index]?, vcpu.exits = false
  | _ => True

instance (system : System σ κ) (event : Event σ κ) : Decidable (system.Attended event) :=
  match event with
  | .call _ => inferInstanceAs (Decidable (_ → _))
  | .thread _ .runEmulation => inferInstanceAs (Decidable (_ → _))
  | .thread _ .handleSignal => .isTrue trivial
  | .thread _ .kvmRun => .isTrue trivial
  | .thread _ (.kvmReturns _) => .isTrue trivial
  | .thread _ .tryRecv => .isTrue trivial
  | .thread _ (.recv _ _) => .isTrue trivial
  | .thread _ .sendExited => .isTrue trivial
  | .queueEvent => .isTrue trivial
  | .kill _ => .isTrue trivial
  | .recvResponse => .isTrue trivial
  | .recvTimeout => .isTrue trivial
  | .conclude => .isTrue trivial
  | .join => .isTrue trivial

structure InTurn (system : System σ κ) : Prop where
  answers (record : Consumed σ κ) (member : record ∈ system.consumed) :
    record.given.answers = some record.last
  stages (index : Nat) (vcpu : Vcpu σ κ) (found : system.vcpus[index]? = some vcpu)
    (call : Call σ) (stage : Stage) (staged : system.control.stage index = some (call, stage)) :
    call.answered = true ∧ stage.Holds call index vcpu

section

variable {system later : System σ κ}

variable (inv : system.InTurn)
include inv

theorem InTurn.unstaged (same : later.consumed = system.consumed)
  (free : ∀ index, later.control.stage index = none) : later.InTurn := by
  refine ⟨fun record member => ?_, fun index vcpu found call stage staged => ?_⟩
  · rw [same] at member
    exact inv.answers record member
  rw [free index] at staged
  cases staged

theorem inTurn_begun (quiet : call.answered = true → ∀ vcpu ∈ system.vcpus, vcpu.Quiet) :
  InTurn { system with control := .sending call 0 } := by
  refine ⟨inv.answers, fun index vcpu found request stage staged => ?_⟩
  rw [Control.stage] at staged
  split at staged
  · rename_i answered
    cases staged
    exact ⟨answered, quiet answered vcpu (List.mem_of_getElem? found)⟩
  · cases staged

theorem inTurn_queued (place : system.control = .sending call index)
  (found : system.vcpus[index]? = some vcpu) (sent : call.event index = some event) :
  InTurn { system with
    vcpus := system.vcpus.set index (vcpu.queueEvent event)
    control := .kicking call index } := by
  refine ⟨inv.answers, fun other next changed request stage staged => ?_⟩
  have before := inv.stages other
  rw [place, Control.stage] at before
  rw [Control.stage] at staged
  by_cases answered : call.answered = true
  · rw [if_pos answered, Option.some.injEq, Prod.mk.injEq] at staged
    obtain ⟨rfl, rfl⟩ := staged
    simp only [if_pos answered, Option.some.injEq, Prod.mk.injEq, and_imp] at before
    rcases of_getElem?_set changed with ⟨rfl, rfl⟩ | ⟨differ, same⟩
    · obtain ⟨_, quiet⟩ := before vcpu found call _ rfl rfl
      rw [if_neg (Nat.lt_irrefl _)] at quiet
      rw [if_pos (Nat.le_refl _)]
      refine ⟨answered, .waiting event sent ?_ quiet.responses, quiet.live⟩
      rw [Vcpu.queueEvent, quiet.events]
      rfl
    have order : other ≤ index ↔ other < index := by omega
    simp only [order]
    exact before next same call _ rfl rfl
  rw [if_neg answered] at staged
  cases staged

theorem inTurn_kicked (place : system.control = .kicking call index)
  (found : system.vcpus[index]? = some vcpu) :
  InTurn { system with
    vcpus := system.vcpus.set index vcpu.kick
    control := .sending call (index + 1) } := by
  refine ⟨inv.answers, fun other next changed request stage staged => ?_⟩
  have before := inv.stages other
  rw [place, Control.stage] at before
  rw [Control.stage] at staged
  simp only [Nat.lt_succ_iff] at staged
  rcases of_getElem?_set changed with ⟨rfl, rfl⟩ | ⟨differ, same⟩
  · obtain ⟨answered, holds⟩ := before vcpu found request stage staged
    exact ⟨answered, holds.kick⟩
  · exact before next same request stage staged

theorem inTurn_allSent (place : system.control = .sending call index) (past : system.vcpus[index]? = none)
  (waits : call.answered = true) : InTurn { system with control := .receiving call 0 [] } := by
  refine ⟨inv.answers, fun other vcpu found request stage staged => ?_⟩
  have inside : other < system.vcpus.length := (List.getElem?_eq_some_iff.mp found).1
  have outside := List.getElem?_eq_none_iff.mp past
  refine inv.stages other vcpu found request stage ?_
  rw [place, Control.stage, if_pos waits, if_pos (by omega)]
  exact staged

theorem inTurn_received (place : system.control = .receiving call index responses)
  (found : system.vcpus[index]? = some vcpu) (waiting : vcpu.responses = given :: rest) :
  InTurn { system with
    vcpus := system.vcpus.set index { vcpu with responses := rest }
    consumed := system.consumed ++ [⟨index, vcpu.sent, given⟩]
    control :=
      if call.goesOn given.response then
        .receiving call (index + 1) (responses ++ [given.response])
      else .idle (some (call, .error .vcpuMessage)) } := by
  have before (other : Nat) (next : Vcpu σ κ) (same : system.vcpus[other]? = some next) :=
    inv.stages other next same call (if other < index then .after else .between)
      (by rw [place, Control.stage])
  obtain ⟨answered, holds⟩ := before index vcpu found
  rw [if_neg (Nat.lt_irrefl _)] at holds
  obtain ⟨outstanding, live⟩ := holds
  cases outstanding with
  | waiting event kind queued silent => simp [silent] at waiting
  | answered response taken single settled =>
    rw [single] at waiting
    cases waiting
    refine ⟨fun record member => ?_, fun other next changed request stage staged => ?_⟩
    · rcases List.mem_append.mp member with earlier | last
      · exact inv.answers record earlier
      · rw [List.mem_singleton.mp last]
    split at staged
    · obtain ⟨rfl, rfl⟩ := staged
      rcases of_getElem?_set changed with ⟨rfl, rfl⟩ | ⟨differ, same⟩
      · rw [if_pos (Nat.lt_succ_self _)]
        refine ⟨answered, ⟨taken, rfl, live⟩, fun pausing => ?_⟩
        subst pausing
        exact settled.2
      have order : other < index + 1 ↔ other < index := by omega
      simp only [order]
      exact before other next same
    · cases call <;> cases staged

theorem inTurn_concluded (place : system.control = .receiving call system.vcpus.length responses) :
  InTurn { system.returns call (.ok reply) with
    instanceState := call.instanceState system.instanceState } := by
  refine ⟨inv.answers, fun index vcpu found request stage staged => ?_⟩
  cases call with
  | pauseVm =>
    have inside : index < system.vcpus.length := (List.getElem?_eq_some_iff.mp found).1
    refine inv.stages index vcpu found request stage ?_
    rw [place, Control.stage, if_pos inside]
    exact staged
  | resumeVm | saveVcpuStates | restoreVcpuStates | stop => cases staged

theorem inTurn_acted (found : system.vcpus[index]? = some vcpu) (acts : vcpu.Acts action after)
  (stays : action = .runEmulation → system.control.commanding = true → vcpu.exits = false) :
  InTurn { system with vcpus := system.vcpus.set index after } := by
  refine ⟨inv.answers, fun other next changed request stage staged => ?_⟩
  rcases of_getElem?_set changed with ⟨rfl, rfl⟩ | ⟨differ, same⟩
  · obtain ⟨answered, holds⟩ := inv.stages other vcpu found request stage staged
    refine ⟨answered, holds.acts answered acts fun emulates => ?_⟩
    rcases Control.commanding_of_stage staged with busy | ⟨rfl, rfl⟩
    · exact stays emulates busy
    · rw [Vcpu.exits, holds.2 rfl]
  · exact inv.stages other next same request stage staged

omit inv

theorem inTurn_step {event : Event σ κ} (inv : system.InTurn) (attended : system.Attended event)
  (change : system.Change event later) : later.InTurn := by
  cases change with
  | rejected call returned place => exact inv.unstaged rfl (fun _ => by cases call <;> rfl)
  | begun call returned place => exact inTurn_begun inv attended
  | queued call index vcpu event place found sent => exact inTurn_queued inv place found sent
  | allSent call index place past answered =>
    refine inTurn_allSent inv place past ?_
    cases call with
    | stop exitCode => exact absurd rfl (answered exitCode)
    | _ => rfl
  | allFinished | unkickedFinish | joined => exact inv.unstaged rfl (fun _ => rfl)
  | kicked call index vcpu place found => exact inTurn_kicked inv place found
  | unkicked call errno err => exact inv.unstaged rfl (fun _ => by cases call <;> rfl)
  | received call index responses vcpu given rest place found waiting =>
    exact inTurn_received inv place found waiting
  | timedOut call index responses place => exact inv.unstaged rfl (fun _ => by cases call <;> rfl)
  | concluded call responses reply place => exact inTurn_concluded inv place
  | unsuccessful call responses err place => exact inv.unstaged rfl (fun _ => by cases call <;> rfl)
  | acted index action vcpu after found acts =>
    refine inTurn_acted inv found acts fun emulates busy => ?_
    subst emulates
    exact attended busy vcpu found

theorem inTurn_start (vcpuCount : Nat) : (start vcpuCount : System σ κ).InTurn := by
  refine ⟨fun record member => ?_, fun index vcpu found call stage staged => ?_⟩
  · cases member
  · cases staged

end

/-! A vCPU that is paused stays so until it is sent `Resume`. -/

def resumes (system : System σ κ) (index : Nat) (event : Event σ κ) : Bool :=
  match event, system.control with
  | .queueEvent, .sending .resumeVm next => next = index
  | _, _ => false

section

variable {system later : System σ κ}

theorem held_step {event : Event σ κ} (held : ∀ vcpu ∈ system.vcpus[index]?, vcpu.Held)
  (other : system.resumes index event = false) (change : system.Change event later) :
  ∀ vcpu ∈ later.vcpus[index]?, vcpu.Held := by
  cases change with
  | queued call next vcpu event place found sent =>
    intro changed member
    rcases of_getElem?_set member with ⟨rfl, rfl⟩ | ⟨_, same⟩
    · refine (held vcpu found).queueEvent fun resume => ?_
      subst resume
      cases call with
      | resumeVm => simp [resumes, place] at other
      | restoreVcpuStates states => simp [Call.event] at sent
      | _ => cases sent
    · exact held changed same
  | kicked call next vcpu place found | received call next responses vcpu given rest place found =>
    intro changed member
    rcases of_getElem?_set member with ⟨rfl, rfl⟩ | ⟨_, same⟩
    · exact held vcpu found
    · exact held changed same
  | acted next action vcpu after found acts =>
    intro changed member
    rcases of_getElem?_set member with ⟨rfl, rfl⟩ | ⟨_, same⟩
    · exact (held vcpu found).acts acts
    · exact held changed same
  | _ => exact held

theorem held_until_resume (found : system.vcpus[index]? = some vcpu) (held : vcpu.Held)
  (reached : Reached (fun state event => state.resumes index event = false) system later) :
  ∀ vcpu ∈ later.vcpus[index]?, vcpu.thread ≠ .guest := by
  have inv := @Reach.invariant _ _ _ _ (fun state : System σ κ => ∀ vcpu ∈ state.vcpus[index]?, vcpu.Held)
    (fun _ _ _ held other taken => held_step held other (change_of_step taken)) _ _
    (fun next member => by cases found.symm.trans member; exact held) reached
  exact fun next member => (inv next member).not_guest

end

/-- Every response the VMM reads answers the event it sent last, and a pause that succeeds
holds, while every command begins with empty channels and no vCPU exits during it. -/
theorem commands_answered (vcpuCount : Nat) {system : System σ κ}
  (reached : Reached Attended (start vcpuCount) system) :
  (∀ record ∈ system.consumed, record.given.answers = some record.last) ∧
    ∀ reply, system.control = .idle (some (.pauseVm, .ok reply)) →
      ∀ index vcpu, system.vcpus[index]? = some vcpu → vcpu.thread = .paused ∧
        ∀ later, Reached (fun state event => state.resumes index event = false) system later →
          ∀ next ∈ later.vcpus[index]?, next.thread ≠ .guest := by
  have inv := @Reach.invariant _ _ _ _ InTurn
    (fun _ _ _ inv attended taken => inTurn_step inv attended (change_of_step taken)) _ _
    (inTurn_start vcpuCount) reached
  refine ⟨inv.answers, fun reply place index vcpu found => ?_⟩
  obtain ⟨_, quiet, pausing⟩ := inv.stages index vcpu found .pauseVm .after (by rw [place]; rfl)
  refine ⟨pausing rfl, fun later reached =>
    held_until_resume found (.inr ⟨pausing rfl, ?_⟩) reached⟩
  rw [quiet.events]
  exact fun sent member => (List.not_mem_nil member).elim

def oneRunning : List (Event Unit Unit) :=
  commandEvents 1 .resumeVm ++ .thread 0 (.recv (.ok ()) (.ok ())) :: entersGuest 0 ++
    [.recvResponse, .conclude]

theorem commands_answered_pausing : ∃ system : System Unit Unit, Reached Attended (start 1) system ∧
    system.consumed.length = 2 ∧
    (∀ record ∈ system.consumed, record.given.answers = some record.last) ∧
    ∃ vcpu ∈ system.vcpus[0]?, vcpu.thread = .paused ∧
      ∀ later, Reached (fun state event => state.resumes 0 event = false) system later →
        ∀ next ∈ later.vcpus[0]?, next.thread ≠ .guest := by
  obtain ⟨system, reached, count, place, vcpu, found⟩ :=
    @exists_reach_of_play (System Unit Unit) _ step Attended _ (start 1)
      (oneRunning ++ commandEvents 1 .pauseVm ++ leavesGuest 0 ++
        [.thread 0 .runEmulation, .thread 0 .tryRecv, .recvResponse, .conclude])
      (fun system => system.consumed.length = 2 ∧ system.control = .idle (some (.pauseVm, .ok .done)) ∧
        ∃ vcpu ∈ system.vcpus[0]?, vcpu.kicks = 0)
      (by decide +kernel)
  have answered := commands_answered 1 reached
  exact ⟨system, reached, count, answered.1, vcpu, found.1, answered.2 .done place 0 vcpu found.1⟩

/-- `pause_vm` and `resume_vm` time out before the vCPU takes their events.  The next
`pause_vm` reads the answer to the first one and returns while the guest runs. -/
theorem stale_answer_read : ∃ system : System Unit Unit, Reached (fun _ _ => True) (start 1) system ∧
    (∃ record ∈ system.consumed, record.given.answers ≠ some record.last) ∧
    system.control = .idle (some (.pauseVm, .ok .done)) ∧
    ∃ vcpu ∈ system.vcpus[0]?, vcpu.thread = .guest :=
  @exists_reach_of_play (System Unit Unit) _ step (fun _ _ => True) _ (start 1)
    (oneRunning ++ commandEvents 1 .pauseVm ++ [.recvTimeout] ++
      commandEvents 1 .resumeVm ++ [.recvTimeout] ++ leavesGuest 0 ++
      [.thread 0 .runEmulation, .thread 0 .tryRecv, .thread 0 (.recv (.ok ()) (.ok ()))] ++
      entersGuest 0 ++ commandEvents 1 .pauseVm ++ [.recvResponse, .conclude])
    (fun system => (∃ record ∈ system.consumed, record.given.answers ≠ some record.last) ∧
      system.control = .idle (some (.pauseVm, .ok .done)) ∧
      ∃ vcpu ∈ system.vcpus[0]?, Vcpu.thread vcpu = .guest)
    (by decide +kernel)

end System

end Spacer.Vstate
