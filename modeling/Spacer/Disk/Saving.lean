import Spacer.Disk.Conservation

/-!
`prepare_save`: what is left of the requests when the state of the device is saved.
-/

namespace Spacer.Disk

open Lib Lib.Program Virtio

/-- The operations the kernel has not finished. -/
def Block.unfinished (block : Block) : List (WrappedUserData PendingRequest) :=
  match block.disk.fileEngine with
  | .sync => []
  | .async ring => ring.squeue ++ ring.inFlight

namespace System

section

variable {block later : Block}

theorem unfinished_async (engine : block.disk.fileEngine = .async ring) :
  block.unfinished = ring.squeue ++ ring.inFlight := by
  rw [Block.unfinished, engine]

theorem drained_iff : Drained block ↔ block.unfinished = [] := by
  cases engine : block.disk.fileEngine with
  | sync => simp [Drained, Block.unfinished, engine]
  | async ring => simp [Drained, unfinished_async engine, engine]

theorem unfinished_nil (nothing : block.disk.fileEngine.inFlight = []) : block.unfinished = [] := by
  cases engine : block.disk.fileEngine with
  | sync => rw [Block.unfinished, engine]
  | async ring =>
    rw [engine] at nothing
    simp only [FileEngine.inFlight, IoUring.outstanding, List.map_eq_nil_iff] at nothing
    rw [unfinished_async engine]
    exact (List.append_eq_nil_iff.mp nothing).1

theorem kernelCompletes_finished (finished : block.unfinished = []) :
  kernelCompletes block place res = block := by
  unfold kernelCompletes
  split
  · rfl
  rename_i ring engine
  rw [unfinished_async engine] at finished
  rw [IoUring.complete, (List.append_eq_nil_iff.mp finished).2]
  simp [Block.withEngine, ← engine]

/-- A turn of the loop over the completions takes a completion, or finds none. -/
theorem processCompletion_unfinished (ran : Returns mapped block.processCompletion (done, later)) :
  later.unfinished = block.unfinished ∧
    (done = none → block.unfinished = [] → later.disk.fileEngine.inFlight = []) := by
  unfold Block.processCompletion at ran
  split at ran
  · rename_i engine
    cases ran
    exact ⟨rfl, fun _ _ => by rw [engine]; rfl⟩
  rename_i ring engine
  rw [unfinished_async engine]
  cases queue : ring.cqueue with
  | nil =>
    rw [IoUring.pop, queue] at ran
    cases ran
    refine ⟨unfinished_async engine, fun _ finished => ?_⟩
    rw [engine, FileEngine.inFlight, IoUring.outstanding, finished, queue]
    rfl
  | cons cqe rest =>
    rw [IoUring.pop, queue] at ran
    simp only [returns_bind, returns_pure] at ran
    obtain ⟨_, _, _, _, taken⟩ := ran
    cases taken
    exact ⟨rfl, nofun⟩

end

/-- What may happen during the call: the kernel completes operations, and once
`io_uring_enter` has returned the completions are collected. -/
def During (collects kernel : Prop) : System → Event → Prop
  | _, .completion => collects
  | _, .kernelCompletes _ _ => kernel
  | _, _ => False

structure Collects (mem : GuestLayout) (left : List (WrappedUserData PendingRequest))
  (system : System) : Prop where
  inv : Inv mem system
  same : system.block.unfinished = left
  ended : system.task = .completions false ∨
    system.task = .idle ∧ (left = [] → system.block.disk.fileEngine.inFlight = [])

theorem collects_step (collects : Collects mem left system) (free : kernel → left = [])
  (fits : During True kernel system event) (step : Step mem system event later) :
  Collects mem left later := by
  obtain ⟨inv, same, ended⟩ := collects
  cases step with
  | completion resume done block looping ran =>
    have kept : Inv mem (system.afterCompletion resume done block) := inv_completion inv ran
    obtain ⟨rest, none⟩ := processCompletion_unfinished ran
    rw [same] at rest none
    rcases ended with task | ⟨task, -⟩ <;> cases looping.symm.trans task
    cases done with
    | none => exact ⟨kept, rest, .inr ⟨rfl, none rfl⟩⟩
    | some finished => exact ⟨kept, rest, .inl task⟩
  | kernelCompletes place res =>
    rw [kernelCompletes_finished (same.trans (free fits))]
    exact ⟨inv, same, ended⟩
  | _ => cases fits

theorem collects_run (collects : Collects mem left system) (free : kernel → left = [])
  (reached : Reach (Step mem) (During True kernel) system last) : Collects mem left last :=
  @Reach.invariant _ _ _ _ (Collects mem left)
    (fun _ _ _ holds fits step => collects_step holds free fits step) _ _ collects reached

/-- Whether every request is in the used ring when `prepare_save` returns, whatever the kernel
still does meanwhile, depends on what `io_uring_enter` did: it has to submit every operation
and to wait for all of them. -/
theorem saved_complete_iff {mem : GuestLayout} {system called waited saving : System}
  (inv : Inv mem system) {submitted : Nat} {finished : Bool}
  (call : Step mem system (.prepareSave submitted) called)
  (entered : Reach (Step mem) (During False True) called waited)
  (returned : Step mem waited (.drained finished) saving)
  (ends : ∃ last, Reach (Step mem) (During True False) saving last ∧ last.task = .idle) :
  (∀ last, Reach (Step mem) (During True True) saving last → last.task = .idle →
    last.used.Perm last.popped) ↔ Drained waited.block := by
  have awaited : Inv mem waited := by
    refine Reach.invariant (fun state event later inv fits step => ?_)
      (inv_step inv (by trivial) call) entered
    refine inv_step inv ?_ step
    cases event <;> trivial
  have kept := inv_step awaited (by trivial) returned
  cases returned
  rw [drained_iff]
  have begins := Collects.mk kept rfl (.inl rfl)
  constructor
  · obtain ⟨last, reached, idle⟩ := ends
    intro complete
    have collects := collects_run begins False.elim reached
    have whole := complete last (reached.mono ?_) idle
    · have lengths := (collects.inv.placed.trans whole.symm).length_eq
      rw [List.length_append] at lengths
      have nothing : last.inFlight = [] := List.eq_nil_of_length_eq_zero (by omega)
      exact collects.same.symm.trans (unfinished_nil (List.map_eq_nil_iff.mp nothing))
    intro state event
    cases event <;> first | exact id | exact fun _ => trivial
  intro nothing last reached idle
  have collects := collects_run begins (fun _ => nothing) reached
  rcases collects.ended with task | ⟨-, collected⟩
  · cases idle.symm.trans task
  have placed := collects.inv.placed
  rw [inFlight, collected nothing, List.map_nil, List.append_nil] at placed
  exact placed

theorem saved_complete_flush : Drained (kernelCompletes waitingBlock 0 0) ∧ ∀ last,
  Reach (Step Virtio.System.sampleLayout) (During True True)
    ⟨kernelCompletes waitingBlock 0 0, .completions false, [⟨0, 0⟩], []⟩ last →
  last.task = .idle → last.used.Perm last.popped := by
  have collect : Step Virtio.System.sampleLayout
      ⟨kernelCompletes waitingBlock 0 0, .completions false, [⟨0, 0⟩], []⟩ .completion
      ⟨finishedBlock, .completions false, [⟨0, 0⟩], [⟨0, 0⟩]⟩ :=
    .completion _ false (some (flushRequest, true)) finishedBlock rfl flush_finished
  have stop : Step Virtio.System.sampleLayout
      ⟨finishedBlock, .completions false, [⟨0, 0⟩], [⟨0, 0⟩]⟩ .completion
      ⟨finishedBlock, .idle, [⟨0, 0⟩], [⟨0, 0⟩]⟩ := .completion _ false none finishedBlock rfl rfl
  have drained : Drained (kernelCompletes waitingBlock 0 0) := ⟨rfl, rfl⟩
  exact ⟨drained, (saved_complete_iff (inv_reached (by decide) (by decide) rfl flush_in_flight)
    (.prepareSave _ 0 rfl) (.tail .refl (.kernelCompletes _ 0 0) trivial)
    (.drained _ true rfl fun _ => drained)
    ⟨_, .tail (.tail .refl collect trivial) stop trivial, rfl⟩).mpr drained⟩

/-- `io_uring_enter` fails, and the queue is saved with a request in flight. -/
theorem saved_in_flight : ∃ saving last,
  Reach (Step Virtio.System.sampleLayout) Allowed ⟨asyncBlock, .idle, [], []⟩ saving ∧
  saving.task = .completions false ∧
  Reach (Step Virtio.System.sampleLayout) (During True True) saving last ∧ last.task = .idle ∧
  last.popped = [⟨0, 0⟩] ∧ last.used = [] := by
  have stop : Step Virtio.System.sampleLayout ⟨waitingBlock, .completions false, [⟨0, 0⟩], []⟩ .completion
      ⟨waitingBlock, .idle, [⟨0, 0⟩], []⟩ := .completion _ false none waitingBlock rfl rfl
  exact ⟨_, _, .tail (.tail flush_in_flight (.prepareSave _ 0 rfl) trivial)
    (.drained _ false rfl nofun) trivial, rfl, .tail .refl stop trivial, rfl, rfl, rfl⟩

end System

end Spacer.Disk
