import Spacer.Dksm.Transparent
import Spacer.Lib.Fibers

/-!
Processes around DKSM.  A run interleaves mappings of free frames, writes with
copy-on-write, unmappings, run-file writes and advising calls of any number of
processes.  Each process should read what its own events alone produce.
-/

namespace Spacer.Dksm

open Lib

namespace Memory

variable (mem : Memory Page) (slot : Slot)

def map (frame : Nat) (page : Page) (prot : Prot) (anon : Bool) : Memory Page :=
  { mem with
    ptes := Function.update mem.ptes slot (some ⟨frame, prot⟩)
    content := Function.update mem.content frame page
    pageAnon := Function.update mem.pageAnon frame anon
    refcount := Function.update mem.refcount frame (mem.refcount frame + 1)
    mapcount := Function.update mem.mapcount frame (mem.mapcount frame + 1) }

def unmap (frame : Nat) : Memory Page :=
  ((mem.setPte slot none).pageRemoveRmap frame).putPage frame

def writeFrame (frame : Nat) (page : Page) : Memory Page :=
  { mem with content := Function.update mem.content frame page }

def copyOnWrite (frame copy : Nat) (page : Page) : Memory Page :=
  (mem.unmap slot frame).map slot copy page ⟨true, true⟩ true

def frame : Option Nat := (mem.ptes slot).map Pte.pfn

end Memory

inductive SysEvent (Page : Type)
  | map (slot : Slot) (frame : Nat) (page : Page) (prot : Prot) (anon : Bool)
  | write (slot : Slot) (change : Page → Page) (copy : Nat)
  | unmap (slot : Slot)
  | advise (call : Madvise)
  | runStore (buf : String)

section

variable [DecidableEq Page] (kernel : Kernel Page) (state : State Page)

def sysStep : SysEvent Page → Option (State Page)
  | .map slot frame page prot anon =>
    if state.mem.ptes slot = none ∧ state.mem.refcount frame = 0 then
      some { state with mem := state.mem.map slot frame page prot anon }
    else none
  | .write slot change copy =>
    match state.mem.ptes slot with
    | none => none
    | some pte =>
      if pte.prot.write then
        some { state with
          mem := state.mem.writeFrame pte.pfn (change (state.mem.content pte.pfn)) }
      else if state.mem.refcount copy = 0 then
        some { state with
          mem := state.mem.copyOnWrite slot pte.pfn copy (change (state.mem.content pte.pfn)) }
      else none
  | .unmap slot =>
    match state.mem.ptes slot with
    | none => none
    | some pte => some { state with mem := state.mem.unmap slot pte.pfn }
  | .advise call => some (dksmMadvise kernel call state).2
  | .runStore buf => some (runStore kernel buf state).2

def sysRun (events : List (SysEvent Page)) : Option (State Page) :=
  events.foldlM (sysStep kernel) state

end

def privateStep (memory : Slot → Option Page) : SysEvent Page → Slot → Option Page
  | .map slot _ page _ _ => Function.update memory slot (some page)
  | .write slot change _ => Function.update memory slot ((memory slot).map change)
  | .unmap slot => Function.update memory slot none
  | .advise _ => memory
  | .runStore _ => memory

def privateRun (events : List (SysEvent Page)) : Slot → Option Page :=
  events.foldl privateStep fun _ => none

def SysEvent.owner : SysEvent Page → Option Nat
  | .map slot _ _ _ _ => some slot.1
  | .write slot _ _ => some slot.1
  | .unmap slot => some slot.1
  | .advise call => some call.vma.vmMm
  | .runStore _ => none

def ownEvents (process : Nat) (events : List (SysEvent Page)) : List (SysEvent Page) :=
  events.filter fun event => event.owner = some process

structure Memory.Counted (mem : Memory Page) : Prop where
  finite : ∀ frame, (fiber mem.frame frame).Finite
  exact : ∀ frame, mem.refcount frame = (fiber mem.frame frame).ncard

variable {mem : Memory Page} {slot : Slot}

theorem Memory.frame_update {after : Memory Page} (entries : after.ptes = Function.update mem.ptes slot new) :
  after.frame = Function.update mem.frame slot (new.map Pte.pfn) := by
  funext other
  by_cases same : other = slot
  · subst same
    simp [Memory.frame, entries]
  · simp [Memory.frame, entries, same]

theorem Memory.Counted.update {after : Memory Page} (counted : mem.Counted)
  (entries : after.ptes = Function.update mem.ptes slot new)
  (counts : ∀ frame, after.refcount frame = mem.refcount frame +
    (if new.map Pte.pfn = some frame then 1 else 0) -
    (if mem.frame slot = some frame then 1 else 0)) : after.Counted := by
  have frames := Memory.frame_update entries
  refine ⟨fun frame => ?_, fun frame => ?_⟩
  · rw [frames]
    exact finite_fiber_update (counted.finite frame) slot
  · rw [counts, frames, ncard_fiber_update (counted.finite frame), counted.exact]

theorem Memory.Counted.unmapped (counted : mem.Counted) {frame : Nat}
  (free : mem.refcount frame = 0) (slot : Slot) : mem.frame slot ≠ some frame := by
  intro mapped
  have positive : 0 < (fiber mem.frame frame).ncard :=
    (Set.ncard_pos (counted.finite frame)).mpr ⟨slot, mapped⟩
  have exact := counted.exact frame
  omega

/-- The machine state a run keeps: what is read is each process's private memory,
and a writable entry is the only mapping of its frame. -/
structure Isolated (memory : Slot → Option Page) (mem : Memory Page) : Prop where
  reads : ∀ slot, mem.read slot = memory slot
  counted : mem.Counted
  exclusive : ∀ slot pte, mem.ptes slot = some pte → pte.prot.write = true →
    ∀ other, mem.frame other = some pte.pfn → other = slot

section

theorem Memory.read_eq (mem : Memory Page) (slot : Slot) :
  mem.read slot = (mem.frame slot).map mem.content := by
  simp only [Memory.read, Memory.frame, Option.map_map]
  rfl

theorem Memory.refcount_unmap (mem : Memory Page) (slot : Slot) (frame : Nat) :
  (mem.unmap slot page).refcount frame = mem.refcount frame - if frame = page then 1 else 0 :=
  Memory.refcount_putPage _ page frame

variable (isolated : Isolated memory mem)
include isolated

theorem Isolated.unmap (mapped : mem.ptes slot = some pte) :
  Isolated (Function.update memory slot none) (mem.unmap slot pte.pfn) := by
  have entries : (mem.unmap slot pte.pfn).ptes = Function.update mem.ptes slot none := rfl
  have frames := Memory.frame_update entries
  have own : mem.frame slot = some pte.pfn := by simp [Memory.frame, mapped]
  refine ⟨?_, ?_, ?_⟩
  · intro other
    rw [Memory.read_eq, frames]
    by_cases same : other = slot
    · subst same
      simp
    simp only [Function.update_of_ne same]
    rw [← isolated.reads, Memory.read_eq]
    rfl
  · refine isolated.counted.update entries fun frame => ?_
    rw [Memory.refcount_unmap, own]
    by_cases same : frame = pte.pfn
    · subst same
      simp
    have reverse : ¬pte.pfn = frame := fun equal => same equal.symm
    simp [same, reverse]
  intro writer writable writerMapped write other otherMapped
  rw [entries] at writerMapped
  rw [frames] at otherMapped
  by_cases same : writer = slot
  · subst same
    simp at writerMapped
  rw [Function.update_of_ne same] at writerMapped
  by_cases otherSame : other = slot
  · subst otherSame
    simp at otherMapped
  rw [Function.update_of_ne otherSame] at otherMapped
  exact isolated.exclusive writer writable writerMapped write other otherMapped

theorem Isolated.map (vacant : mem.ptes slot = none) (free : mem.refcount frame = 0) (page : Page)
  (prot : Prot) (anon : Bool) :
  Isolated (Function.update memory slot (some page)) (mem.map slot frame page prot anon) := by
  have entries : (mem.map slot frame page prot anon).ptes =
      Function.update mem.ptes slot (some ⟨frame, prot⟩) := rfl
  have frames := Memory.frame_update entries
  have unmapped := isolated.counted.unmapped free
  refine ⟨?_, ?_, ?_⟩
  · intro other
    rw [Memory.read_eq, frames]
    by_cases same : other = slot
    · subst same
      simp [Memory.map]
    rw [Function.update_of_ne same, Function.update_of_ne same, ← isolated.reads, Memory.read_eq]
    refine Option.map_congr fun pfn mapped => ?_
    have different : pfn ≠ frame := by
      intro equal
      exact unmapped other (equal ▸ mapped)
    simp [Memory.map, different]
  · refine isolated.counted.update entries fun other => ?_
    simp only [Memory.map, Function.update_apply, Memory.frame, vacant, Option.map_none,
      Option.map_some, reduceCtorEq, if_false, Option.some.injEq]
    by_cases same : other = frame
    · subst same
      simp
    have reverse : ¬frame = other := fun equal => same equal.symm
    simp [same, reverse]
  intro writer writable writerMapped write other otherMapped
  rw [entries] at writerMapped
  rw [frames] at otherMapped
  by_cases same : writer = slot
  · subst same
    rw [Function.update_self, Option.some.injEq] at writerMapped
    subst writerMapped
    by_contra different
    rw [Function.update_of_ne different] at otherMapped
    exact unmapped other otherMapped
  rw [Function.update_of_ne same] at writerMapped
  by_cases otherSame : other = slot
  · subst otherSame
    rw [Function.update_self, Option.map_some, Option.some.injEq] at otherMapped
    have taken : mem.frame writer = some frame := by
      simp [Memory.frame, writerMapped, ← otherMapped]
    exact absurd taken (unmapped writer)
  rw [Function.update_of_ne otherSame] at otherMapped
  exact isolated.exclusive writer writable writerMapped write other otherMapped

theorem Isolated.writeFrame (mapped : mem.ptes slot = some pte) (write : pte.prot.write = true)
  (page : Page) : Isolated (Function.update memory slot (some page)) (mem.writeFrame pte.pfn page) := by
  have own : mem.frame slot = some pte.pfn := by simp [Memory.frame, mapped]
  refine ⟨?_, { isolated.counted with }, isolated.exclusive⟩
  intro other
  rw [Memory.read_eq]
  change (mem.frame other).map _ = _
  by_cases same : other = slot
  · subst same
    simp [own, Memory.writeFrame]
  rw [Function.update_of_ne same, ← isolated.reads, Memory.read_eq]
  refine Option.map_congr fun pfn otherMapped => ?_
  have different : pfn ≠ pte.pfn := by
    intro equal
    exact same (isolated.exclusive slot pte mapped write other (equal ▸ otherMapped))
  simp [Memory.writeFrame, different]

theorem Isolated.copyOnWrite (mapped : mem.ptes slot = some pte)
  (free : mem.refcount copy = 0) (page : Page) :
  Isolated (Function.update memory slot (some page)) (mem.copyOnWrite slot pte.pfn copy page) := by
  have own : mem.frame slot = some pte.pfn := by simp [Memory.frame, mapped]
  have different : copy ≠ pte.pfn := by
    intro equal
    exact isolated.counted.unmapped free slot (equal ▸ own)
  have vacant : (mem.unmap slot pte.pfn).ptes slot = none := by
    simp [Memory.unmap, Memory.setPte, Memory.pageRemoveRmap, Memory.putPage]
  have stillFree : (mem.unmap slot pte.pfn).refcount copy = 0 := by
    rw [Memory.refcount_unmap, if_neg different, free]
    rfl
  have moved := (isolated.unmap mapped).map vacant stillFree page ⟨true, true⟩ true
  rwa [Function.update_idem] at moved

theorem Isolated.redirect (mapped : mem.ptes slot = some pte) (same : mem.ptes own = some pte)
  (identical : mem.content pte.pfn = mem.content kpage) (readOnly : prot.write = false)
  (target : ∀ other otherPte, mem.ptes other = some otherPte → otherPte.pfn = kpage →
    otherPte.prot.write = true → other = own) :
  Isolated memory (mem.redirect slot pte.pfn kpage (mkPte kpage prot)) := by
  have entries := Memory.ptes_redirect mem slot pte.pfn kpage (mkPte kpage prot)
  have frames := Memory.frame_update entries
  have slotFrame : mem.frame slot = some pte.pfn := by simp [Memory.frame, mapped]
  refine ⟨?_, ?_, ?_⟩
  · intro other
    have unchanged : mem.content pte.pfn = mem.content (mkPte kpage prot).pfn := identical
    rw [(redirect_sameReads pte.pfn kpage mapped unchanged).read, isolated.reads]
  · refine isolated.counted.update entries fun frame => ?_
    rw [Memory.refcount_redirect, slotFrame]
    simp only [Option.map_some, mkPte, Option.some.injEq, eq_comm]
  intro writer writable writerMapped write other otherMapped
  rw [entries] at writerMapped
  rw [frames] at otherMapped
  by_cases here : writer = slot
  · subst here
    rw [Function.update_self, Option.some.injEq] at writerMapped
    subst writerMapped
    rw [mkPte, readOnly] at write
    cases write
  rw [Function.update_of_ne here] at writerMapped
  by_cases otherHere : other = slot
  · subst otherHere
    rw [Function.update_self, Option.map_some, Option.some.injEq] at otherMapped
    -- the writer maps the target, so it is the advertised page, mapped once
    have atOwn := target writer writable writerMapped otherMapped.symm write
    subst atOwn
    rw [writerMapped, Option.some.injEq] at same
    subst same
    exact isolated.exclusive writer writable writerMapped write other slotFrame
  rw [Function.update_of_ne otherHere] at otherMapped
  exact isolated.exclusive writer writable writerMapped write other otherMapped

omit isolated

end

section

/-- The condition on an advertised page: its mapping protection is read-only, and a
recorded frame with the page's contents is not mapped writable by any other entry. -/
def SafeTarget (vma : Vma) (_ : Env) (addr : Nat) (mem : Memory Page) (pwd : PageWalkData) :
  Prop :=
  vma.vmPageProt.write = false ∧ ∀ pte pfn, mem.ptes (vma.vmMm, addr) = some pte → Recorded pwd pfn →
      mem.content pte.pfn = mem.content pfn →
      ∀ other otherPte, mem.ptes other = some otherPte → otherPte.pfn = pfn →
        otherPte.prot.write = true → other = (vma.vmMm, addr)

theorem runStore_mem (kernel : Kernel Page) (state : State Page) :
  (runStore kernel buf state).2.mem = state.mem := by
  unfold runStore
  repeat' split
  all_goals rfl

variable (content : Nat → Page)

def bootMemory : Memory Page :=
  ⟨fun _ => none, content, fun _ => false, fun _ => false, fun _ => 0, fun _ => 0⟩

theorem isolated_boot : Isolated (fun _ => none) (bootMemory content) := by
  have nothing : ∀ frame, fiber (bootMemory content).frame frame = ∅ := by
    intro frame
    ext slot
    simp [fiber, bootMemory, Memory.frame]
  refine ⟨fun _ => rfl, ⟨fun frame => ?_, fun frame => ?_⟩, ?_⟩
  · rw [nothing]
    exact Set.finite_empty
  · rw [nothing]
    simp [bootMemory]
  intro slot pte mapped
  cases mapped

variable [DecidableEq Page] (kernel : Kernel Page)

theorem Isolated.pageCmpAndMerge (isolated : Isolated memory mem) (safe : SafeTarget vma env addr mem pwd) :
  Isolated memory (pageCmpAndMerge kernel env vma addr mem pwd).1 := by
  rcases pageCmpAndMerge_memory kernel env vma addr mem pwd with
    same | ⟨pte, iter, mapped, member, merge⟩
  · rw [same]
    exact isolated
  obtain ⟨found, _, foundMapped, redirected⟩ := replacePage_eq_some merge.replaced
  rw [redirected]
  refine isolated.redirect foundMapped mapped merge.identical safe.1 ?_
  exact safe.2 pte iter.pfn mapped ⟨_, iter, member, rfl⟩ merge.identical

def EventSafe (state : State Page) : SysEvent Page → Prop
  | .advise call =>
    call.advice = true → state.dksmRun = dksmRunMerge →
      WalkAll kernel (SafeTarget call.vma) call.vma call.pages state.mem state.table
  | _ => True

def RunSafe : List (SysEvent Page) → State Page → Prop
  | [], _ => True
  | event :: rest, state =>
    EventSafe kernel state event ∧ ∀ next, sysStep kernel state event = some next → RunSafe rest next

theorem Isolated.advise (isolated : Isolated memory state.mem)
  (safe : EventSafe kernel state (.advise call)) :
  Isolated memory (dksmMadvise kernel call state).2.mem := by
  refine dksmMadvise_memory kernel isolated fun advice running => ?_
  refine walkPageRange_induction kernel (fun mem _ => Isolated memory mem) ?_ call.pages
    state.mem state.table (safe advice running) isolated
  intro env addr mem pwd here kept
  exact kept.pageCmpAndMerge kernel here

theorem Isolated.sysStep (isolated : Isolated memory state.mem) (safe : EventSafe kernel state event)
  (stepped : sysStep kernel state event = some next) : Isolated (privateStep memory event) next.mem := by
  cases event with
  | map slot frame page prot anon =>
    simp only [Dksm.sysStep] at stepped
    split at stepped
    · rename_i possible
      cases stepped
      exact isolated.map possible.1 possible.2 page prot anon
    · cases stepped
  | write slot change copy =>
    cases mapped : state.mem.ptes slot with
    | none => simp [Dksm.sysStep, mapped] at stepped
    | some pte =>
      have current : memory slot = some (state.mem.content pte.pfn) := by
        rw [← isolated.reads, Memory.read, mapped]
        rfl
      simp only [privateStep, current, Option.map_some]
      simp only [Dksm.sysStep, mapped] at stepped
      split at stepped
      · rename_i write
        cases stepped
        exact isolated.writeFrame mapped write _
      split at stepped
      · rename_i free
        cases stepped
        exact isolated.copyOnWrite mapped free _
      · cases stepped
  | unmap slot =>
    cases mapped : state.mem.ptes slot with
    | none => simp [Dksm.sysStep, mapped] at stepped
    | some pte =>
      simp only [Dksm.sysStep, mapped, Option.some.injEq] at stepped
      subst stepped
      exact isolated.unmap mapped
  | advise call =>
    cases stepped
    exact isolated.advise kernel safe
  | runStore buf =>
    cases stepped
    rw [runStore_mem]
    exact isolated

theorem Isolated.sysRun (events : List (SysEvent Page)) :
  ∀ {memory : Slot → Option Page} {state final : State Page}, Isolated memory state.mem →
    RunSafe kernel events state → sysRun kernel state events = some final →
    Isolated (events.foldl privateStep memory) final.mem := by
  induction events with
  | nil =>
    intro memory state final isolated _ ran
    cases ran
    exact isolated
  | cons event rest ih =>
    intro memory state final isolated safe ran
    rw [Dksm.sysRun, List.foldlM_cons] at ran
    cases stepped : Dksm.sysStep kernel state event with
    | none =>
      rw [stepped] at ran
      cases ran
    | some next =>
      rw [stepped] at ran
      exact ih (isolated.sysStep kernel safe.1 stepped) (safe.2 next stepped) ran

end

theorem privateStep_congr (same : ∀ va, left (process, va) = right (process, va)) (event : SysEvent Page)
  (va : Nat) : privateStep left event (process, va) = privateStep right event (process, va) := by
  cases event with
  | map | unmap =>
    simp only [privateStep, Function.update_apply]
    split
    · rfl
    · exact same va
  | write slot change copy =>
    simp only [privateStep, Function.update_apply]
    split
    · rename_i here
      rw [← here, same va]
    · exact same va
  | advise | runStore => exact same va

theorem privateStep_other (memory : Slot → Option Page) (other : event.owner ≠ some process)
  : privateStep memory event (process, va) = memory (process, va) := by
  have apart : ∀ slot : Slot, some slot.1 ≠ some process → (process, va) ≠ slot := by
    rintro slot different rfl
    exact different rfl
  cases event with
  | map slot | write slot | unmap slot => exact Function.update_of_ne (apart slot other) _ _
  | advise | runStore => rfl

theorem privateRun_ownEvents (process : Nat) (events : List (SysEvent Page)) :
  ∀ (left right : Slot → Option Page), (∀ va, left (process, va) = right (process, va)) →
    ∀ va, events.foldl privateStep left (process, va) =
      (ownEvents process events).foldl privateStep right (process, va) := by
  induction events with
  | nil => exact fun _ _ same => same
  | cons event rest ih =>
    intro left right same va
    by_cases mine : event.owner = some process
    · rw [ownEvents, List.filter_cons_of_pos (by simpa using mine)]
      exact ih _ _ (privateStep_congr same event) va
    rw [ownEvents, List.filter_cons_of_neg (by simpa using mine)]
    refine ih _ _ (fun address => ?_) va
    rw [privateStep_other left mine, same]

/-- In every run whose advising calls meet `SafeTarget`, a process reads what its own
events alone produce. -/
theorem reads_depend_on_own_events [DecidableEq Page] (kernel : Kernel Page) (content : Nat → Page)
  (kmalloc configSysfs : Bool) (events : List (SysEvent Page)) (final : State Page)
  (safe : RunSafe kernel events (dksmInit (bootMemory content) kmalloc configSysfs))
  (ran : sysRun kernel (dksmInit (bootMemory content) kmalloc configSysfs) events = some final)
  (process va : Nat) :
  final.mem.read (process, va) = privateRun (ownEvents process events) (process, va) := by
  have booted : (dksmInit (bootMemory content) kmalloc configSysfs).mem = bootMemory content := by
    cases kmalloc <;> rfl
  have start : Isolated (fun _ => none) (dksmInit (bootMemory content) kmalloc configSysfs).mem := by
    rw [booted]
    exact isolated_boot content
  rw [(start.sysRun kernel events safe ran).reads]
  exact privateRun_ownEvents process events _ _ (fun _ => rfl) va

def mergedRun : List (SysEvent Bool) :=
  [.runStore "1", .map (0, 0x1000) 0 false readOnly true, .advise (advertise 0 0x1000),
    .map (1, 0x1000) 1 false readOnly true, .advise (advertise 1 0x1000),
    .write (0, 0x1000) (fun _ => true) 2]

def recycledRun : List (SysEvent Bool) :=
  [.runStore "1", .map (0, 0x1000) 0 false readOnly true, .advise (advertise 0 0x1000),
    .unmap (0, 0x1000), .map (2, 0x1000) 0 false ⟨true, true⟩ true,
    .map (1, 0x1000) 1 false readOnly true, .advise (advertise 1 0x1000),
    .write (2, 0x1000) (fun _ => true) 2]

def bootState : State Bool := dksmInit (bootMemory fun _ => false) true true

theorem runSafe_cons (safe : EventSafe sampleKernel state event)
  (stepped : sysStep sampleKernel state event = some next) (others : RunSafe sampleKernel rest next) :
  RunSafe sampleKernel (event :: rest) state := by
  refine ⟨safe, fun other same => ?_⟩
  rw [stepped, Option.some.injEq] at same
  exact same ▸ others

theorem eventSafe_readOnly (locked : ∀ slot pte, state.mem.ptes slot = some pte → pte.prot = readOnly) :
  EventSafe sampleKernel state (.advise (advertise mm addr)) := by
  intro _ _
  refine ⟨⟨rfl, ?_⟩, fun _ => trivial⟩
  intro pte pfn _ _ _ other otherPte otherMapped _ write
  rw [locked other otherPte otherMapped] at write
  cases write

theorem mergedRun_isolated : ∃ final, sysRun sampleKernel bootState mergedRun = some final ∧
    final.mem.read (1, 0x1000) = privateRun (ownEvents 1 mergedRun) (1, 0x1000) := by
  have safe : RunSafe sampleKernel mergedRun bootState := by
    refine runSafe_cons trivial rfl (runSafe_cons trivial rfl (runSafe_cons ?_ rfl
      (runSafe_cons trivial rfl (runSafe_cons ?_ rfl (runSafe_cons trivial rfl trivial)))))
    · refine eventSafe_readOnly fun slot pte mapped => ?_
      change Function.update (fun _ => none) (0, 0x1000) (some ⟨0, readOnly⟩) slot = some pte at mapped
      rw [Function.update_apply] at mapped
      split at mapped
      · cases mapped
        rfl
      · cases mapped
    refine eventSafe_readOnly fun slot pte mapped => ?_
    change Function.update (Function.update (fun _ => none) (0, 0x1000) (some ⟨0, readOnly⟩))
      (1, 0x1000) (some ⟨1, readOnly⟩) slot = some pte at mapped
    rw [Function.update_apply, Function.update_apply] at mapped
    split at mapped
    · cases mapped
      rfl
    split at mapped
    · cases mapped
      rfl
    · cases mapped
  exact ⟨_, rfl, reads_depend_on_own_events sampleKernel (fun _ => false) true true mergedRun _
    safe rfl 1 0x1000⟩

theorem recycledRun_leaks : ∃ final, sysRun sampleKernel bootState recycledRun = some final ∧
    final.mem.read (1, 0x1000) ≠ privateRun (ownEvents 1 recycledRun) (1, 0x1000) :=
  ⟨_, rfl, by decide⟩

end Spacer.Dksm
